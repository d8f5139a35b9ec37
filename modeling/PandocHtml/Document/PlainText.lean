import PandocHtml.Document.Walk

/-!
# Plain text

The text of inlines without their markup.  Texts, code and mathematics give their text, breaks a
space; quoted inlines keep their quotes; a group of citations gives the text it falls back to;
footnotes and raw content give nothing.
-/

namespace PandocHtml

/-! ### Quotes -/

def QuoteKind.opening : QuoteKind → String
  | .single => "‘"
  | .double => "“"

def QuoteKind.closing : QuoteKind → String
  | .single => "’"
  | .double => "”"

/-! ### Inlines -/

/-- Texts joined without a separator; anything but a text is refused. -/
def joinTexts (values : List Json) : Except Fault String :=
  match Attr.texts? values with
  | some texts => .ok (String.join texts)
  | none => .error (.misuse .joined)

mutual

/-- The plain text of an inline; the text of a leaf is passed on as it is. -/
def Inline.plainValue : Inline → Except Fault Json
  | .str text | .code _ text | .math _ text => .ok text
  | .space | .softBreak | .lineBreak => .ok (.str " ")
  | .note _ | .raw .. => .ok (.str "")
  | .quoted kind content =>
    match inlineValues content with
    | .ok values =>
      (joinTexts values).map fun text => .str (kind.opening ++ text ++ kind.closing)
    | .error f => .error f
  | .styled _ content | .cite _ content | .link _ content _ | .image _ content _
  | .span _ content =>
    match inlineValues content with
    | .ok values => (joinTexts values).map .str
    | .error f => .error f

def inlineValues : List Inline → Except Fault (List Json)
  | [] => .ok []
  | i :: rest =>
    match i.plainValue with
    | .ok v => (inlineValues rest).map (v :: ·)
    | .error f => .error f

end

def plainText (content : List Inline) : Except Fault String :=
  match inlineValues content with
  | .ok values => joinTexts values
  | .error f => .error f

/-! ### Nodes and entries -/

def Node.inline? : Node → Option Inline
  | .inline i => some i
  | .block _ => none

/-- The outermost inlines of a node, in order. -/
def Node.outerInlines (n : Node) : List Inline :=
  (walkWith (fun m => m.inline?.isNone) [n]).filterMap Node.inline?

/-- The plain text of an entry of a sequence: a block gives the text of its outermost inlines. -/
def Item.plainValue : Item → Except Fault Json
  | .node (.inline i) => i.plainValue
  | .node (.block b) => (plainText (Node.block b).outerInlines).map .str
  | .value _ => .error (.misuse .children)

def itemsPlainText (items : List Item) : Except Fault String := do
  joinTexts (← items.mapM Item.plainValue)

end PandocHtml
