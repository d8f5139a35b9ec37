import PandocHtml.Document.Tree

/-!
# Pre-order

The nodes of a tree, parents before children and siblings in document order, by recursion over
every field that holds nodes: captions before what they describe with their short form first,
head rows before body rows before foot rows, the inlines around each citation before the text of
the group.
-/

namespace PandocHtml

mutual

def Inline.preorder : Inline → List Node
  | .str text => [.inline (.str text)]
  | .styled style content => .inline (.styled style content) :: inlinesPreorder content
  | .quoted kind content => .inline (.quoted kind content) :: inlinesPreorder content
  | .cite citations content =>
    .inline (.cite citations content) :: (citationsPreorder citations ++ inlinesPreorder content)
  | .code attr text => [.inline (.code attr text)]
  | .space => [.inline .space]
  | .softBreak => [.inline .softBreak]
  | .lineBreak => [.inline .lineBreak]
  | .math kind text => [.inline (.math kind text)]
  | .raw format text => [.inline (.raw format text)]
  | .link attr content target => .inline (.link attr content target) :: inlinesPreorder content
  | .image attr content target => .inline (.image attr content target) :: inlinesPreorder content
  | .note blocks => .inline (.note blocks) :: blocksPreorder blocks
  | .span attr content => .inline (.span attr content) :: inlinesPreorder content

def Block.preorder : Block → List Node
  | .plain content => .block (.plain content) :: inlinesPreorder content
  | .para content => .block (.para content) :: inlinesPreorder content
  | .lineBlock lines => .block (.lineBlock lines) :: linesPreorder lines
  | .codeBlock attr text => [.block (.codeBlock attr text)]
  | .raw format text => [.block (.raw format text)]
  | .blockQuote blocks => .block (.blockQuote blocks) :: blocksPreorder blocks
  | .orderedList attributes items => .block (.orderedList attributes items) :: itemsPreorder items
  | .bulletList items => .block (.bulletList items) :: itemsPreorder items
  | .definitionList items => .block (.definitionList items) :: definitionsPreorder items
  | .header level attr content => .block (.header level attr content) :: inlinesPreorder content
  | .horizontalRule => [.block .horizontalRule]
  | .table attr caption colSpecs head bodies foot =>
    .block (.table attr caption colSpecs head bodies foot)
      :: (caption.preorder ++ head.preorder ++ bodiesPreorder bodies ++ foot.preorder)
  | .figure attr caption blocks =>
    .block (.figure attr caption blocks) :: (caption.preorder ++ blocksPreorder blocks)
  | .div attr blocks => .block (.div attr blocks) :: blocksPreorder blocks

/-- The nodes of a caption, short form first. -/
def Caption.preorder : Caption → List Node
  | ⟨none, blocks⟩ => blocksPreorder blocks
  | ⟨some short, blocks⟩ => inlinesPreorder short ++ blocksPreorder blocks

def RowGroup.preorder : RowGroup → List Node
  | ⟨_, rows⟩ => rowsPreorder rows

def inlinesPreorder : List Inline → List Node
  | [] => []
  | i :: rest => i.preorder ++ inlinesPreorder rest

def blocksPreorder : List Block → List Node
  | [] => []
  | b :: rest => b.preorder ++ blocksPreorder rest

def linesPreorder : List (List Inline) → List Node
  | [] => []
  | line :: rest => inlinesPreorder line ++ linesPreorder rest

def itemsPreorder : List (List Block) → List Node
  | [] => []
  | item :: rest => blocksPreorder item ++ itemsPreorder rest

/-- The nodes of definitions, each term before its meanings. -/
def definitionsPreorder : List Definition → List Node
  | [] => []
  | ⟨term, meanings⟩ :: rest =>
    inlinesPreorder term ++ itemsPreorder meanings ++ definitionsPreorder rest

def citationsPreorder : List Citation → List Node
  | [] => []
  | ⟨_, before, after, _, _, _⟩ :: rest =>
    inlinesPreorder before ++ inlinesPreorder after ++ citationsPreorder rest

def bodiesPreorder : List TableBody → List Node
  | [] => []
  | ⟨_, _, headRows, rows⟩ :: rest =>
    rowsPreorder headRows ++ rowsPreorder rows ++ bodiesPreorder rest

def rowsPreorder : List Row → List Node
  | [] => []
  | ⟨_, cells⟩ :: rest => cellsPreorder cells ++ rowsPreorder rest

def cellsPreorder : List Cell → List Node
  | [] => []
  | ⟨_, _, _, _, blocks⟩ :: rest => blocksPreorder blocks ++ cellsPreorder rest

end

def Node.preorder : Node → List Node
  | .block b => b.preorder
  | .inline i => i.preorder

def nodesPreorder (nodes : List Node) : List Node := nodes.flatMap Node.preorder

/-! ### Sequences as lists of nodes -/

theorem inlinesPreorder_eq (content : List Inline) :
    inlinesPreorder content = nodesPreorder (content.map Node.inline) := by
  induction content with
  | nil => rfl
  | cons i rest ih => simp only [inlinesPreorder, ih, nodesPreorder, List.map_cons,
      List.flatMap_cons, Node.preorder]

theorem blocksPreorder_eq (blocks : List Block) :
    blocksPreorder blocks = nodesPreorder (blocks.map Node.block) := by
  induction blocks with
  | nil => rfl
  | cons b rest ih => simp only [blocksPreorder, ih, nodesPreorder, List.map_cons,
      List.flatMap_cons, Node.preorder]

theorem nodesPreorder_append (xs ys : List Node) :
    nodesPreorder (xs ++ ys) = nodesPreorder xs ++ nodesPreorder ys :=
  List.flatMap_append

end PandocHtml
