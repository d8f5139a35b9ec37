import PandocHtml.Document.Preorder

/-!
# Walking a tree

The direct children of a node, and the walk: a loop over a stack of pending nodes that takes one
node at a time and puts its children in its place.  The loop uses no recursion into the tree; its
stack holds ever fewer nodes, counted with all that lies under them, because a node outweighs its
children together.
-/

namespace PandocHtml

/-! ### Children -/

def rowNodes (rows : List Row) : List Node :=
  rows.flatMap fun r => r.cells.flatMap fun c => c.blocks.map Node.block

/-- The inlines of a short form, if there is one, and the blocks of a caption, as nodes. -/
def Caption.nodes (c : Caption) : List Node :=
  (c.short.getD []).map Node.inline ++ c.blocks.map Node.block

def Block.children : Block → List Node
  | .plain content | .para content | .header _ _ content => content.map Node.inline
  | .lineBlock lines => lines.flatMap fun line => line.map Node.inline
  | .codeBlock .. | .raw .. | .horizontalRule => []
  | .blockQuote blocks | .div _ blocks => blocks.map Node.block
  | .orderedList _ items | .bulletList items => items.flatMap fun item => item.map Node.block
  | .definitionList items =>
    items.flatMap fun d =>
      d.term.map Node.inline ++ d.meanings.flatMap fun m => m.map Node.block
  | .table _ caption _ head bodies foot =>
    caption.nodes ++ rowNodes head.rows
      ++ bodies.flatMap (fun b => rowNodes b.headRows ++ rowNodes b.rows) ++ rowNodes foot.rows
  | .figure _ caption blocks => caption.nodes ++ blocks.map Node.block

def Inline.children : Inline → List Node
  | .str _ | .code .. | .space | .softBreak | .lineBreak | .math .. | .raw .. => []
  | .styled _ content | .quoted _ content | .link _ content _ | .image _ content _
  | .span _ content => content.map Node.inline
  | .cite citations content =>
    citations.flatMap (fun c => c.before.map Node.inline ++ c.after.map Node.inline)
      ++ content.map Node.inline
  | .note blocks => blocks.map Node.block

def Node.children : Node → List Node
  | .block b => b.children
  | .inline i => i.children

/-! ### A node and its children -/

theorem linesPreorder_eq (lines : List (List Inline)) :
    linesPreorder lines = nodesPreorder (lines.flatMap fun line => line.map Node.inline) := by
  induction lines with
  | nil => rfl
  | cons line rest ih =>
    simp only [linesPreorder, ih, List.flatMap_cons, nodesPreorder_append, inlinesPreorder_eq]

theorem itemsPreorder_eq (items : List (List Block)) :
    itemsPreorder items = nodesPreorder (items.flatMap fun item => item.map Node.block) := by
  induction items with
  | nil => rfl
  | cons item rest ih =>
    simp only [itemsPreorder, ih, List.flatMap_cons, nodesPreorder_append, blocksPreorder_eq]

theorem definitionsPreorder_eq (items : List Definition) :
    definitionsPreorder items = nodesPreorder (items.flatMap fun d =>
      d.term.map Node.inline ++ d.meanings.flatMap fun m => m.map Node.block) := by
  induction items with
  | nil => rfl
  | cons d rest ih =>
    obtain ⟨term, meanings⟩ := d
    simp only [definitionsPreorder, ih, List.flatMap_cons, nodesPreorder_append,
      inlinesPreorder_eq, itemsPreorder_eq]

theorem citationsPreorder_eq (citations : List Citation) :
    citationsPreorder citations = nodesPreorder (citations.flatMap fun c =>
      c.before.map Node.inline ++ c.after.map Node.inline) := by
  induction citations with
  | nil => rfl
  | cons c rest ih =>
    obtain ⟨_, before, after, _, _, _⟩ := c
    simp only [citationsPreorder, ih, List.flatMap_cons, nodesPreorder_append, inlinesPreorder_eq]

theorem cellsPreorder_eq (cells : List Cell) :
    cellsPreorder cells = nodesPreorder (cells.flatMap fun c => c.blocks.map Node.block) := by
  induction cells with
  | nil => rfl
  | cons c rest ih =>
    obtain ⟨_, _, _, _, blocks⟩ := c
    simp only [cellsPreorder, ih, List.flatMap_cons, nodesPreorder_append, blocksPreorder_eq]

theorem rowsPreorder_eq (rows : List Row) :
    rowsPreorder rows = nodesPreorder (rowNodes rows) := by
  induction rows with
  | nil => rfl
  | cons r rest ih =>
    obtain ⟨_, cells⟩ := r
    simp only [rowsPreorder, ih, rowNodes, List.flatMap_cons, nodesPreorder_append,
      cellsPreorder_eq]

theorem bodiesPreorder_eq (bodies : List TableBody) :
    bodiesPreorder bodies = nodesPreorder (bodies.flatMap fun b =>
      rowNodes b.headRows ++ rowNodes b.rows) := by
  induction bodies with
  | nil => rfl
  | cons b rest ih =>
    obtain ⟨_, _, headRows, rows⟩ := b
    simp only [bodiesPreorder, ih, List.flatMap_cons, nodesPreorder_append, rowsPreorder_eq]

theorem captionPreorder_eq (c : Caption) : c.preorder = nodesPreorder c.nodes := by
  obtain ⟨short, blocks⟩ := c
  cases short <;>
    simp only [Caption.preorder, Caption.nodes, Option.getD_none, Option.getD_some, List.map_nil,
      List.nil_append, nodesPreorder_append, inlinesPreorder_eq, blocksPreorder_eq]

theorem rowGroupPreorder_eq (g : RowGroup) : g.preorder = nodesPreorder (rowNodes g.rows) := by
  obtain ⟨_, rows⟩ := g
  simp only [RowGroup.preorder, rowsPreorder_eq]

theorem blockPreorder_eq (b : Block) : b.preorder = .block b :: nodesPreorder b.children := by
  cases b <;>
    simp only [Block.preorder, Block.children, inlinesPreorder_eq, blocksPreorder_eq,
      linesPreorder_eq, itemsPreorder_eq, definitionsPreorder_eq, bodiesPreorder_eq,
      captionPreorder_eq, rowGroupPreorder_eq, nodesPreorder_append] <;> rfl

theorem inlinePreorder_eq (i : Inline) : i.preorder = .inline i :: nodesPreorder i.children := by
  cases i <;>
    simp only [Inline.preorder, Inline.children, inlinesPreorder_eq, blocksPreorder_eq,
      citationsPreorder_eq, nodesPreorder_append] <;> rfl

theorem Node.preorder_eq (n : Node) : n.preorder = n :: nodesPreorder n.children := by
  cases n with
  | block b => exact blockPreorder_eq b
  | inline i => exact inlinePreorder_eq i

/-! ### The walk -/

/-- Take the pending nodes one at a time, each replaced by those of its children that are to be
visited. -/
def walkWith (enters : Node → Bool) (pending : List Node) : List Node :=
  match pending with
  | [] => []
  | n :: rest => n :: walkWith enters ((if enters n then n.children else []) ++ rest)
termination_by (nodesPreorder pending).length
decreasing_by
  have h : (nodesPreorder (n :: rest)).length
      = 1 + (nodesPreorder n.children).length + (nodesPreorder rest).length := by
    simp only [nodesPreorder, List.flatMap_cons, List.length_append, Node.preorder_eq n,
      List.length_cons]
    omega
  rw [h, nodesPreorder_append, List.length_append]
  split
  · omega
  · simp only [nodesPreorder, List.flatMap_nil, List.length_nil]; omega

/-- Every node under the given ones, parents before children. -/
def walk (roots : List Node) : List Node := walkWith (fun _ => true) roots

def Document.walk (d : Document) : List Node := PandocHtml.walk (d.blocks.map Node.block)

end PandocHtml
