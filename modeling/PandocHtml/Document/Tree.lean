import PandocHtml.Document.Attr

/-!
# The document tree

Blocks and inlines of a Pandoc document with their tables, captions, definitions and citations.
The fields that hold text or numbers in every well-formed document are kept as the values they
were given as, so that a document with other values in them is still a document; nothing is lost
between reading and rendering.
-/

namespace PandocHtml

/-! ### Choices -/

inductive NumberStyle where
  | default | example | decimal | lowerRoman | upperRoman | lowerAlpha | upperAlpha
deriving DecidableEq, Repr

inductive NumberDelimiter where
  | default | period | oneParen | twoParens
deriving DecidableEq, Repr

inductive Alignment where
  | left | right | center | default
deriving DecidableEq, Repr

inductive QuoteKind where
  | single | double
deriving DecidableEq, Repr

inductive MathKind where
  | inline | display
deriving DecidableEq, Repr

inductive CitationMode where
  | authorInText | suppressAuthor | normal
deriving DecidableEq, Repr

inductive Style where
  | emph | underline | strong | strikeout | superscript | subscript | smallCaps
deriving DecidableEq, Repr

/-! ### Records without nodes -/

structure Target where
  url : Json
  title : Json

structure ListAttributes where
  start : Json
  style : NumberStyle
  delimiter : NumberDelimiter

/-- Alignment and relative width of a column; no width is `null`. -/
structure ColSpec where
  alignment : Alignment
  width : Json

/-! ### Nodes -/

mutual

inductive Inline where
  | str (text : Json)
  | styled (style : Style) (content : List Inline)
  | quoted (kind : QuoteKind) (content : List Inline)
  | cite (citations : List Citation) (content : List Inline)
  | code (attr : Attr) (text : Json)
  | space
  | softBreak
  | lineBreak
  | math (kind : MathKind) (text : Json)
  | raw (format text : Json)
  | link (attr : Attr) (content : List Inline) (target : Target)
  | image (attr : Attr) (content : List Inline) (target : Target)
  | note (blocks : List Block)
  | span (attr : Attr) (content : List Inline)

inductive Block where
  | plain (content : List Inline)
  | para (content : List Inline)
  | lineBlock (lines : List (List Inline))
  | codeBlock (attr : Attr) (text : Json)
  | raw (format text : Json)
  | blockQuote (blocks : List Block)
  | orderedList (attributes : ListAttributes) (items : List (List Block))
  | bulletList (items : List (List Block))
  | definitionList (items : List Definition)
  | header (level : Json) (attr : Attr) (content : List Inline)
  | horizontalRule
  | table (attr : Attr) (caption : Caption) (colSpecs : List ColSpec) (head : RowGroup)
      (bodies : List TableBody) (foot : RowGroup)
  | figure (attr : Attr) (caption : Caption) (blocks : List Block)
  | div (attr : Attr) (blocks : List Block)

/-- One citation of a group: its key, the inlines before and after, and its numbers. -/
structure Citation where
  id : Json
  before : List Inline
  after : List Inline
  mode : CitationMode
  noteNumber : Json
  hash : Json

structure Definition where
  term : List Inline
  meanings : List (List Block)

structure Caption where
  short : Option (List Inline)
  blocks : List Block

structure RowGroup where
  attr : Attr
  rows : List Row

structure TableBody where
  attr : Attr
  headColumns : Json
  headRows : List Row
  rows : List Row

structure Row where
  attr : Attr
  cells : List Cell

structure Cell where
  attr : Attr
  alignment : Alignment
  rowSpan : Json
  colSpan : Json
  blocks : List Block

end

inductive Node where
  | block (b : Block)
  | inline (i : Inline)

/-- An entry of a sequence that ought to hold nodes: a node, or a value put in its place. -/
inductive Item where
  | node (n : Node)
  | value (v : Json)

/-- A document: metadata, already reduced to plain values, and the top-level blocks. -/
structure Document where
  metadata : List (String × Json)
  blocks : List Block

def Block.item (b : Block) : Item := .node (.block b)

def Inline.item (i : Inline) : Item := .node (.inline i)

/-! ### Names of choices -/

def NumberStyle.names : List (String × NumberStyle) :=
  [("DefaultStyle", .default), ("Example", .example), ("Decimal", .decimal),
   ("LowerRoman", .lowerRoman), ("UpperRoman", .upperRoman), ("LowerAlpha", .lowerAlpha),
   ("UpperAlpha", .upperAlpha)]

def NumberDelimiter.names : List (String × NumberDelimiter) :=
  [("DefaultDelim", .default), ("Period", .period), ("OneParen", .oneParen),
   ("TwoParens", .twoParens)]

def Alignment.names : List (String × Alignment) :=
  [("AlignLeft", .left), ("AlignRight", .right), ("AlignCenter", .center),
   ("AlignDefault", .default)]

def QuoteKind.names : List (String × QuoteKind) :=
  [("SingleQuote", .single), ("DoubleQuote", .double)]

def MathKind.names : List (String × MathKind) :=
  [("InlineMath", .inline), ("DisplayMath", .display)]

def CitationMode.names : List (String × CitationMode) :=
  [("AuthorInText", .authorInText), ("SuppressAuthor", .suppressAuthor),
   ("NormalCitation", .normal)]

def Style.names : List (String × Style) :=
  [("Emph", .emph), ("Underline", .underline), ("Strong", .strong), ("Strikeout", .strikeout),
   ("Superscript", .superscript), ("Subscript", .subscript), ("SmallCaps", .smallCaps)]

def nameIn {α : Type} [DecidableEq α] (names : List (String × α)) (choice : α) : String :=
  ((names.find? fun p => p.2 = choice).map (·.1)).getD ""

def choiceOf {α : Type} (names : List (String × α)) (name : String) : Option α :=
  (names.find? fun p => p.1 == name).map (·.2)

def NumberStyle.name (s : NumberStyle) : String := nameIn names s

def NumberDelimiter.name (d : NumberDelimiter) : String := nameIn names d

def Alignment.name (a : Alignment) : String := nameIn names a

def QuoteKind.name (q : QuoteKind) : String := nameIn names q

def MathKind.name (m : MathKind) : String := nameIn names m

def CitationMode.name (m : CitationMode) : String := nameIn names m

def Style.name (s : Style) : String := nameIn names s

end PandocHtml
