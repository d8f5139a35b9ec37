import PandocHtml.Pandoc.Shape

/-!
# Reading elements

Blocks and inlines from their encoded form, an object with a tag under `t` and contents under
`c`.  What an element may hold inside is read by readers handed to it, so that each rule is a
plain function; the readers themselves are tied together by the number of levels they may still
enter, for which the size of the value read is always enough.
-/

namespace PandocHtml.Pandoc

structure Readers where
  inline : Json → Except Fault Inline
  block : Json → Except Fault Block

def inside {α : Type} (r : Except Fault α) : Reading α := r.mapError Problem.inside

variable [Host]

namespace Readers

variable (r : Readers)

/-! ### Sequences of elements -/

def inlines (v : Json) : Reading (List Inline) := do
  (← items v).mapM fun w => inside (r.inline w)

def blocks (v : Json) : Reading (List Block) := do
  (← items v).mapM fun w => inside (r.block w)

def blockLists (v : Json) : Reading (List (List Block)) := do
  (← items v).mapM r.blocks

/-! ### Records inside elements -/

def target (v : Json) : Reading Target := do
  let (url, title) ← two v
  return ⟨url, title⟩

/-- A caption; the short form may be `null`. -/
def caption (v : Json) : Reading Caption := do
  let (short, blocks) ← two v
  let short ← match short with
    | .null => pure none
    | _ => some <$> r.inlines short
  return ⟨short, ← r.blocks blocks⟩

def colSpec (v : Json) : Reading ColSpec := do
  let (alignment, width) ← two v
  let alignment ← taggedChoice "Alignment" Alignment.names alignment
  let tag ← tagOf width
  let width ← match tag with
    | .str "ColWidth" => optional width "c" .null
    | _ => pure .null
  return ⟨alignment, width⟩

def cell (v : Json) : Reading Cell := do
  let (attribs, alignment, rowSpan, colSpan, blocks) ← five v
  let blocks ← r.blocks blocks
  let attribs ← attr attribs
  let alignment ← taggedChoice "Alignment" Alignment.names alignment
  return ⟨attribs, alignment, rowSpan, colSpan, blocks⟩

def row (v : Json) : Reading Row := do
  let (attribs, cells) ← two v
  let cells ← (← items cells).mapM r.cell
  return ⟨← attr attribs, cells⟩

def rows (v : Json) : Reading (List Row) := do
  (← items v).mapM r.row

def tableBody (v : Json) : Reading TableBody := do
  let (attribs, headColumns, headRows, bodyRows) ← four v
  let bodyRows ← r.rows bodyRows
  let headRows ← r.rows headRows
  return ⟨← attr attribs, headColumns, headRows, bodyRows⟩

def table (v : Json) : Reading Block := do
  let (attribs, caption, colSpecs, head, bodies, foot) ← six v
  let (headAttr, headRows) ← two head
  let (footAttr, footRows) ← two foot
  let headRows ← r.rows headRows
  let headAttr ← attr headAttr
  let bodies ← (← items bodies).mapM r.tableBody
  let attribs ← attr attribs
  let caption ← r.caption caption
  let colSpecs ← (← items colSpecs).mapM colSpec
  let footRows ← r.rows footRows
  let footAttr ← attr footAttr
  return .table attribs caption colSpecs ⟨headAttr, headRows⟩ bodies ⟨footAttr, footRows⟩

def orderedList (v : Json) : Reading Block := do
  let (attributes, items) ← two v
  let (start, style, delimiter) ← three attributes
  let style ← taggedChoice "ListNumberStyle" NumberStyle.names style
  let delimiter ← taggedChoice "ListNumberDelim" NumberDelimiter.names delimiter
  return .orderedList ⟨start, style, delimiter⟩ (← r.blockLists items)

def definition (v : Json) : Reading Definition := do
  let (term, meanings) ← two v
  let term ← r.inlines term
  return ⟨term, ← r.blockLists meanings⟩

/-- A citation; all but the key and the mode have defaults. -/
def citation (v : Json) : Reading Citation := do
  let id ← need v "citationId"
  let before ← r.inlines (← optional v "citationPrefix" (.arr []))
  let after ← r.inlines (← optional v "citationSuffix" (.arr []))
  let mode ← taggedChoice "CitationMode" CitationMode.names (← need v "citationMode")
  let noteNumber ← optional v "citationNoteNum" (.int 0)
  let hash ← optional v "citationHash" (.int 0)
  return ⟨id, before, after, mode, noteNumber, hash⟩

/-! ### Elements by tag -/

def blockRule (tag : String) : Option (Json → Reading Block) :=
  match tag with
  | "Plain" => some fun c => return .plain (← r.inlines c)
  | "Para" => some fun c => return .para (← r.inlines c)
  | "LineBlock" => some fun c => return .lineBlock (← (← items c).mapM r.inlines)
  | "CodeBlock" => some fun c => do
    let text ← part c 1
    return .codeBlock (← attr (← part c 0)) text
  | "RawBlock" => some fun c => return .raw (← part c 0) (← part c 1)
  | "BlockQuote" => some fun c => return .blockQuote (← r.blocks c)
  | "OrderedList" => some r.orderedList
  | "BulletList" => some fun c => return .bulletList (← r.blockLists c)
  | "DefinitionList" => some fun c => return .definitionList (← (← items c).mapM r.definition)
  | "Header" => some fun c => do
    let level ← part c 0
    let content ← r.inlines (← part c 2)
    return .header level (← attr (← part c 1)) content
  | "HorizontalRule" => some fun _ => return .horizontalRule
  | "Table" => some r.table
  | "Figure" => some fun c => do
    let blocks ← r.blocks (← part c 2)
    let caption ← r.caption (← part c 1)
    return .figure (← attr (← part c 0)) caption blocks
  | "Div" => some fun c => do
    let blocks ← r.blocks (← part c 1)
    return .div (← attr (← part c 0)) blocks
  | _ => none

def inlineRule (tag : String) : Option (Json → Reading Inline) :=
  match tag with
  | "Str" => some fun c => return .str c
  | "Quoted" => some fun c => do
    let kind ← taggedChoice "QuoteType" QuoteKind.names (← part c 0)
    return .quoted kind (← r.inlines (← part c 1))
  | "Cite" => some fun c => do
    let citations ← (← items (← part c 0)).mapM r.citation
    return .cite citations (← r.inlines (← part c 1))
  | "Code" => some fun c => do
    let text ← part c 1
    return .code (← attr (← part c 0)) text
  | "Space" => some fun _ => return .space
  | "SoftBreak" => some fun _ => return .softBreak
  | "LineBreak" => some fun _ => return .lineBreak
  | "RawInline" => some fun c => return .raw (← part c 0) (← part c 1)
  | "Math" => some fun c => do
    let kind ← taggedChoice "MathType" MathKind.names (← part c 0)
    return .math kind (← part c 1)
  | "Link" => some fun c => do
    let content ← r.inlines (← part c 1)
    let target ← target (← part c 2)
    return .link (← attr (← part c 0)) content target
  | "Image" => some fun c => do
    let content ← r.inlines (← part c 1)
    let target ← target (← part c 2)
    return .image (← attr (← part c 0)) content target
  | "Note" => some fun c => return .note (← r.blocks c)
  | "Span" => some fun c => do
    let content ← r.inlines (← part c 1)
    return .span (← attr (← part c 0)) content
  | _ => (choiceOf Style.names tag).map fun style c => return .styled style (← r.inlines c)

end Readers

/-! ### Elements -/

/-- The fault of an unknown tag, which its message shows. -/
def unknownTag (stage : String) (tag : Json) : Fault := Fault.showing tag (.unknownTag stage tag)

/-- An element of a stage by the rule for its tag; a problem with the contents is a fault of this
element. -/
def element {α : Type} (stage : String) (rule : String → Option (Json → Reading α)) (v : Json) :
    Except Fault α :=
  match (v.field? "t").getD .null with
  | .str tag =>
    match rule tag with
    | some read => (read ((v.field? "c").getD .null)).mapError (Problem.fault tag stage)
    | none => .error (unknownTag stage (.str tag))
  | tag => .error (unknownTag stage tag)

mutual

def blockWithin (levels : Nat) (v : Json) : Except Fault Block :=
  match levels with
  | 0 => .error (.unknownTag "block" v)
  | n + 1 => element "block" (Readers.blockRule ⟨inlineWithin n, blockWithin n⟩) v

def inlineWithin (levels : Nat) (v : Json) : Except Fault Inline :=
  match levels with
  | 0 => .error (.unknownTag "inline" v)
  | n + 1 => element "inline" (Readers.inlineRule ⟨inlineWithin n, blockWithin n⟩) v

end

def readers (size : Nat) : Readers := ⟨inlineWithin size, blockWithin size⟩

end Pandoc

variable [Host]

def Block.ofJson (v : Json) : Except Fault Block := Pandoc.blockWithin v.size v

def Inline.ofJson (v : Json) : Except Fault Inline := Pandoc.inlineWithin v.size v

end PandocHtml
