import PandocHtml.Document.Tree

/-!
# Nodes as records

Every node, and every record inside a node, is a name with named fields.  In this form nodes are
compared, shown in messages and listed as JSON; each of these is one recursion over records
instead of one over all kinds of nodes.
-/

namespace PandocHtml

/-! ### Records -/

/-- A record, or what a field of one can hold. -/
inductive Datum where
  | value (v : Json)
  | choice (family constant name : String)
  | attr (a : Attr)
  | target (t : Target)
  | seq (items : List Datum)
  | record (name : String) (fields : List (String × Datum))

def choiceDatum {α : Type} [DecidableEq α] (family : String) (constants : List String)
    (names : List (String × α)) (choice : α) : Datum :=
  let found := (names.zip constants).find? fun p => p.1.2 = choice
  .choice family ((found.map (·.2)).getD "") ((found.map (·.1.1)).getD "")

def NumberStyle.datum : NumberStyle → Datum :=
  choiceDatum "ListNumberStyle"
    ["DEFAULT", "EXAMPLE", "DECIMAL", "LOWER_ROMAN", "UPPER_ROMAN", "LOWER_ALPHA", "UPPER_ALPHA"]
    NumberStyle.names

def NumberDelimiter.datum : NumberDelimiter → Datum :=
  choiceDatum "ListNumberDelim" ["DEFAULT", "PERIOD", "ONE_PAREN", "TWO_PARENS"]
    NumberDelimiter.names

def Alignment.datum : Alignment → Datum :=
  choiceDatum "Alignment" ["LEFT", "RIGHT", "CENTER", "DEFAULT"] Alignment.names

def QuoteKind.datum : QuoteKind → Datum :=
  choiceDatum "QuoteType" ["SINGLE", "DOUBLE"] QuoteKind.names

def MathKind.datum : MathKind → Datum :=
  choiceDatum "MathType" ["INLINE", "DISPLAY"] MathKind.names

def CitationMode.datum : CitationMode → Datum :=
  choiceDatum "CitationMode" ["AUTHOR_IN_TEXT", "SUPPRESS_AUTHOR", "NORMAL"] CitationMode.names

def ListAttributes.datum (a : ListAttributes) : Datum :=
  .record "ListAttributes"
    [("start", .value a.start), ("style", a.style.datum), ("delimiter", a.delimiter.datum)]

def ColSpec.datum (c : ColSpec) : Datum :=
  .record "ColSpec" [("alignment", c.alignment.datum), ("width", .value c.width)]

/-! ### The record of a node -/

mutual

def Inline.datum : Inline → Datum
  | .str text => .record "Str" [("text", .value text)]
  | .styled style content => .record style.name [("content", .seq (inlineData content))]
  | .quoted kind content =>
    .record "Quoted" [("quote_type", kind.datum), ("content", .seq (inlineData content))]
  | .cite citations content =>
    .record "Cite"
      [("citations", .seq (citationData citations)), ("content", .seq (inlineData content))]
  | .code attr text => .record "Code" [("text", .value text), ("attr", .attr attr)]
  | .space => .record "Space" []
  | .softBreak => .record "SoftBreak" []
  | .lineBreak => .record "LineBreak" []
  | .math kind text => .record "Math" [("math_type", kind.datum), ("text", .value text)]
  | .raw format text => .record "RawInline" [("format", .value format), ("text", .value text)]
  | .link attr content target =>
    .record "Link"
      [("content", .seq (inlineData content)), ("target", .target target), ("attr", .attr attr)]
  | .image attr content target =>
    .record "Image"
      [("content", .seq (inlineData content)), ("target", .target target), ("attr", .attr attr)]
  | .note blocks => .record "Note" [("blocks", .seq (blockData blocks))]
  | .span attr content =>
    .record "Span" [("content", .seq (inlineData content)), ("attr", .attr attr)]

def Block.datum : Block → Datum
  | .plain content => .record "Plain" [("content", .seq (inlineData content))]
  | .para content => .record "Para" [("content", .seq (inlineData content))]
  | .lineBlock lines => .record "LineBlock" [("lines", .seq (lineData lines))]
  | .codeBlock attr text => .record "CodeBlock" [("text", .value text), ("attr", .attr attr)]
  | .raw format text => .record "RawBlock" [("format", .value format), ("text", .value text)]
  | .blockQuote blocks => .record "BlockQuote" [("blocks", .seq (blockData blocks))]
  | .orderedList attributes items =>
    .record "OrderedList"
      [("items", .seq (itemData items)), ("list_attributes", attributes.datum)]
  | .bulletList items => .record "BulletList" [("items", .seq (itemData items))]
  | .definitionList items =>
    .record "DefinitionList" [("items", .seq (definitionData items))]
  | .header level attr content =>
    .record "Header"
      [("level", .value level), ("content", .seq (inlineData content)), ("attr", .attr attr)]
  | .horizontalRule => .record "HorizontalRule" []
  | .table attr caption colSpecs head bodies foot =>
    .record "Table"
      [("head", RowGroup.datum "TableHead" head), ("bodies", .seq (bodyData bodies)),
       ("attr", .attr attr), ("caption", caption.datum),
       ("col_specs", .seq (colSpecs.map ColSpec.datum)), ("foot", RowGroup.datum "TableFoot" foot)]
  | .figure attr caption blocks =>
    .record "Figure"
      [("blocks", .seq (blockData blocks)), ("caption", caption.datum), ("attr", .attr attr)]
  | .div attr blocks =>
    .record "Div" [("blocks", .seq (blockData blocks)), ("attr", .attr attr)]

def Citation.datum : Citation → Datum
  | ⟨id, before, after, mode, noteNumber, hash⟩ =>
    .record "Citation"
      [("citation_id", .value id), ("prefix", .seq (inlineData before)),
       ("suffix", .seq (inlineData after)), ("mode", mode.datum),
       ("note_num", .value noteNumber), ("hash", .value hash)]

/-- A caption as a record; an absent short form is `null`. -/
def Caption.datum : Caption → Datum
  | ⟨none, blocks⟩ =>
    .record "Caption" [("short", .value .null), ("blocks", .seq (blockData blocks))]
  | ⟨some short, blocks⟩ =>
    .record "Caption" [("short", .seq (inlineData short)), ("blocks", .seq (blockData blocks))]

def RowGroup.datum (name : String) : RowGroup → Datum
  | ⟨attr, rows⟩ => .record name [("rows", .seq (rowData rows)), ("attr", .attr attr)]

def TableBody.datum : TableBody → Datum
  | ⟨attr, headColumns, headRows, rows⟩ =>
    .record "TableBody"
      [("body_rows", .seq (rowData rows)), ("head_rows", .seq (rowData headRows)),
       ("row_head_columns", .value headColumns), ("attr", .attr attr)]

def Row.datum : Row → Datum
  | ⟨attr, cells⟩ => .record "Row" [("cells", .seq (cellData cells)), ("attr", .attr attr)]

def Cell.datum : Cell → Datum
  | ⟨attr, alignment, rowSpan, colSpan, blocks⟩ =>
    .record "Cell"
      [("blocks", .seq (blockData blocks)), ("attr", .attr attr),
       ("alignment", alignment.datum), ("row_span", .value rowSpan), ("col_span", .value colSpan)]

def inlineData : List Inline → List Datum
  | [] => []
  | i :: rest => i.datum :: inlineData rest

def blockData : List Block → List Datum
  | [] => []
  | b :: rest => b.datum :: blockData rest

def lineData : List (List Inline) → List Datum
  | [] => []
  | line :: rest => .seq (inlineData line) :: lineData rest

def itemData : List (List Block) → List Datum
  | [] => []
  | item :: rest => .seq (blockData item) :: itemData rest

def definitionData : List Definition → List Datum
  | [] => []
  | ⟨term, meanings⟩ :: rest =>
    .seq [.seq (inlineData term), .seq (itemData meanings)] :: definitionData rest

def citationData : List Citation → List Datum
  | [] => []
  | c :: rest => c.datum :: citationData rest

def bodyData : List TableBody → List Datum
  | [] => []
  | b :: rest => b.datum :: bodyData rest

def rowData : List Row → List Datum
  | [] => []
  | r :: rest => r.datum :: rowData rest

def cellData : List Cell → List Datum
  | [] => []
  | c :: rest => c.datum :: cellData rest

end

theorem inlineData_eq_map (content : List Inline) :
    inlineData content = content.map Inline.datum := by
  induction content with
  | nil => rfl
  | cons i rest ih => simp only [inlineData, ih, List.map_cons]

theorem blockData_eq_map (blocks : List Block) : blockData blocks = blocks.map Block.datum := by
  induction blocks with
  | nil => rfl
  | cons b rest ih => simp only [blockData, ih, List.map_cons]

def Node.datum : Node → Datum
  | .block b => b.datum
  | .inline i => i.datum

def Item.datum : Item → Datum
  | .node n => n.datum
  | .value v => .value v

def Document.datum (d : Document) : Datum :=
  .record "Document"
    [("blocks", .seq (blockData d.blocks)), ("meta", .value (.obj d.metadata))]

/-- The name of a record; nothing for other data. -/
def Datum.name? : Datum → Option String
  | .record name _ => some name
  | _ => none

/-- The value of a field of a record that holds a plain value. -/
def Datum.value? (name : String) : Datum → Option Json
  | .record _ fields =>
    match fields.find? fun p => p.1 == name with
    | some (_, .value v) => some v
    | _ => none
  | _ => none

/-! ### Comparing -/

namespace Datum

mutual

/-- Equal data: records of one name field by field, sequences item by item, attributes as sets of
pairs, values by value. -/
def same : Datum → Datum → Bool
  | .value v, .value w => v.same w
  | .choice f _ n, .choice g _ m => f == g && n == m
  | .attr a, .attr b => a.same b
  | .target s, .target t => s.url.same t.url && s.title.same t.title
  | .seq xs, .seq ys => sameAll xs ys
  | .record n fs, .record m gs => n == m && sameFields fs gs
  | _, _ => false

def sameAll : List Datum → List Datum → Bool
  | [], [] => true
  | x :: xs, y :: ys => same x y && sameAll xs ys
  | _, _ => false

def sameFields : List (String × Datum) → List (String × Datum) → Bool
  | [], [] => true
  | (k, x) :: xs, (l, y) :: ys => k == l && same x y && sameFields xs ys
  | _, _ => false

end

mutual

/-- A datum can serve as a key when every value in it can. -/
def isKey : Datum → Bool
  | .value v => v.isScalar
  | .choice .. => true
  | .attr a => a.isKey
  | .target t => t.url.isScalar && t.title.isScalar
  | .seq items => isKeyAll items
  | .record _ fields => isKeyFields fields

def isKeyAll : List Datum → Bool
  | [] => true
  | x :: rest => isKey x && isKeyAll rest

def isKeyFields : List (String × Datum) → Bool
  | [] => true
  | (_, x) :: rest => isKey x && isKeyFields rest

end

theorem isKey_target (t : Target) : (target t).isKey = (t.url.isScalar && t.title.isScalar) := by
  rw [isKey]

theorem isKeyAll_cons (x : Datum) (rest : List Datum) :
    isKeyAll (x :: rest) = (x.isKey && isKeyAll rest) := by
  rw [isKeyAll]

theorem isKeyFields_cons (name : String) (x : Datum) (rest : List (String × Datum)) :
    isKeyFields ((name, x) :: rest) = (x.isKey && isKeyFields rest) := by
  rw [isKeyFields]

/-! ### Showing -/

def bracketed (items : List String) : String :=
  match items with
  | [x] => "(" ++ x ++ ",)"
  | _ => "(" ++ ", ".intercalate items ++ ")"

mutual

def literal : Datum → String
  | .value v => v.literal
  | .choice family constant name =>
    "<" ++ family ++ "." ++ constant ++ ": " ++ Text.quoted name ++ ">"
  | .attr a =>
    "Attr(identifier=" ++ a.identifier.literal ++ ", classes="
      ++ bracketed (a.classes.map Json.literal) ++ ", attributes="
      ++ bracketed (a.pairs.map fun p => bracketed [Text.quoted p.1, Text.quoted p.2]) ++ ")"
  | .target t => "Target(url=" ++ t.url.literal ++ ", title=" ++ t.title.literal ++ ")"
  | .seq items => bracketed (literalAll items)
  | .record name fields => name ++ "(" ++ ", ".intercalate (literalFields fields) ++ ")"

def literalAll : List Datum → List String
  | [] => []
  | x :: rest => x.literal :: literalAll rest

def literalFields : List (String × Datum) → List String
  | [] => []
  | (k, x) :: rest => (k ++ "=" ++ x.literal) :: literalFields rest

end

mutual

/-- The JSON listing of a datum: records as objects with their name under `type`, attributes and
targets as arrays, choices by name. -/
def listing : Datum → Json
  | .value v => v
  | .choice _ _ name => .str name
  | .attr a =>
    .arr [a.identifier, .arr a.classes, .arr (a.pairs.map fun p => .arr [.str p.1, .str p.2])]
  | .target t => .arr [t.url, t.title]
  | .seq items => .arr (listingAll items)
  | .record name fields => .obj (("type", .str name) :: listingFields fields)

def listingAll : List Datum → List Json
  | [] => []
  | x :: rest => x.listing :: listingAll rest

def listingFields : List (String × Datum) → List (String × Json)
  | [] => []
  | (k, x) :: rest => (k, x.listing) :: listingFields rest

end

end Datum

/-! ### Equality of nodes -/

def Block.same (a b : Block) : Bool := a.datum.same b.datum

def Inline.same (a b : Inline) : Bool := a.datum.same b.datum

def Item.same (a b : Item) : Bool := a.datum.same b.datum

/-- Equality of documents: the blocks alone decide. -/
def Document.same (a b : Document) : Bool :=
  Datum.sameAll (blockData a.blocks) (blockData b.blocks)

/-- The name of an entry: that of a node, or the kind of a value. -/
def Item.name (i : Item) : String :=
  match i with
  | .node n => (n.datum.name?).getD ""
  | .value v => v.kindName

/-- The label of a node: its name, and its text if it has one. -/
def Node.label (n : Node) : String :=
  let name := (n.datum.name?).getD ""
  match n.datum.value? "text" with
  | some text => name ++ ":" ++ text.plain
  | none => name

end PandocHtml
