import PandocHtml.Html.StringOutput
import PandocHtml.Markup.Tree
import PandocHtml.Sanitize.Address
import PandocHtml.Sanitize.Style
import PandocHtml.Text.Line
import PandocHtml.Traced

/-!
# Cleaning HTML

Raw HTML is read into a tree, the dangerous elements are taken out of it, and the rest is written
again with the allowed elements and attributes only.  Writing keeps a stack of the open elements
and follows the nesting rules of the standard: a paragraph ends where a block begins, an item
where the next one begins, and rows of a table stand in a body.
-/

namespace PandocHtml.Sanitize

/-! ### Dangerous elements -/

mutual

def dangerCount : Markup.Node → Nat
  | .element tag _ children =>
    (if dangerousTags.contains tag then 1 else 0) + dangerCountAll children
  | _ => 0

def dangerCountAll : List Markup.Node → Nat
  | [] => 0
  | n :: rest => dangerCount n + dangerCountAll rest

end

mutual

def withoutDanger : Markup.Node → List Markup.Node
  | .element tag attrs children =>
    if dangerousTags.contains tag then [] else [.element tag attrs (withoutDangerAll children)]
  | n => [n]

def withoutDangerAll : List Markup.Node → List Markup.Node
  | [] => []
  | n :: rest => withoutDanger n ++ withoutDangerAll rest

end

/-! ### Attributes -/

/-- A value with line feeds as its only line ends, and without null characters. -/
def plainValue (value : String) : String :=
  String.ofList ((Text.unifyLineEnds value.toList).map fun c => if c = '\x00' then '\uFFFD' else c)

/-- An allowed attribute of an element with its value cleaned; nothing for one that is dropped. -/
def cleanAttr? (tag : String) (attr : String × Option String) : Option String :=
  let name := attr.1
  let value := plainValue (attr.2.getD "")
  if !allowsAttr tag name then none
  else if addressAttrs.contains name && !allowsAddress value then none
  else if name = "style" then
    let style := cleanStyle (Html.escapeMarkup value)
    let quote := if style.contains '"' then "'" else "\""
    some (" style=" ++ quote ++ style ++ quote)
  else some (Markup.Node.printAttr (name, some value))

def cleanAttrs (tag : String) (attrs : List (String × Option String)) : String :=
  String.join ((Markup.Node.sortAttrs attrs).filterMap (cleanAttr? tag))

/-! ### Nesting -/

/-- The elements before which a paragraph ends. -/
def endsParagraph : List String :=
  ["aside", "blockquote", "div", "dl", "figure", "ol", "p", "ul", "h1", "h2", "h3", "h4", "h5",
   "h6", "pre", "hr", "table", "li", "dd", "dt"]

def headings : List String := ["h1", "h2", "h3", "h4", "h5", "h6"]

def inlineTags : List String :=
  ["a", "abbr", "acronym", "b", "code", "em", "i", "small", "span", "strike", "strong", "sub",
   "sup", "u", "div", "p"]

def tableParts : List String := ["caption", "thead", "tbody", "tr", "td", "th"]

/-- The elements that nothing inside them can end from the outside. -/
def scopes : List String := ["table", "caption", "td", "th"]

/-- The elements written so far, in reverse, the open ones, innermost first, whether a tag was
kept before, and whether a line feed that comes next belongs to the tag before it. -/
structure Writer where
  written : List String
  opened : List String
  keptTag : Bool
  skipLine : Bool

namespace Writer

def start : Writer := ⟨[], [], false, false⟩

def put (w : Writer) (s : String) : Writer := { w with written := s :: w.written }

def close (w : Writer) : Writer :=
  match w.opened with
  | tag :: rest => { w with opened := rest }.put ("</" ++ tag ++ ">")
  | [] => w

def closeMany (w : Writer) : Nat → Writer
  | 0 => w
  | n + 1 => w.close.closeMany n

def openTag (w : Writer) (tag attrs : String) : Writer :=
  { w with opened := tag :: w.opened }.put ("<" ++ tag ++ attrs ++ ">")

/-- How many elements to close to close the innermost one of some kind, if none of those that
shield it lies before. -/
def reach? (w : Writer) (wanted shields : String → Bool) : Option Nat :=
  let before := w.opened.takeWhile fun tag => !wanted tag && !shields tag
  match w.opened.drop before.length with
  | tag :: _ => if wanted tag then some (before.length + 1) else none
  | [] => none

def closeReached (w : Writer) (wanted shields : String → Bool) : Writer :=
  match w.reach? wanted shields with
  | some n => w.closeMany n
  | none => w

def closeParagraph (w : Writer) : Writer := w.closeReached (· == "p") scopes.contains

/-- The innermost open element of a table, the table included. -/
def tableScope? (w : Writer) : Option String :=
  w.opened.find? fun tag => tag == "table" || tableParts.contains tag

def closeTablePart (w : Writer) : Writer := w.closeReached tableParts.contains (· == "table")

/-- Bring the open elements into a state where a part of a table may begin; outside a table it
may not. -/
def prepareTablePart (w : Writer) (tag : String) : Nat → Option Writer
  | 0 => none
  | n + 1 =>
    match w.tableScope? with
    | none => none
    | some "table" =>
      if tag = "tr" ∨ tag = "td" ∨ tag = "th" then
        (w.openTag "tbody" "").prepareTablePart tag n
      else some w
    | some "tr" =>
      if tag = "td" ∨ tag = "th" then some w else w.closeTablePart.prepareTablePart tag n
    | some scope =>
      if scope = "thead" ∨ scope = "tbody" then
        if tag = "tr" then some w
        else if tag = "td" ∨ tag = "th" then (w.openTag "tr" "").prepareTablePart tag n
        else w.closeTablePart.prepareTablePart tag n
      else w.closeTablePart.prepareTablePart tag n

/-- Bring the open elements into a state where an element may begin; nothing when it may not. -/
def prepare (w : Writer) (tag : String) : Option Writer :=
  if tableParts.contains tag then w.prepareTablePart tag 8
  else
    let w :=
      if tag = "li" then w.closeReached (· == "li") fun t => !inlineTags.contains t
      else if tag = "dd" ∨ tag = "dt" then
        w.closeReached (fun t => t == "dd" || t == "dt") fun t => !inlineTags.contains t
      else if tag = "a" then w.closeReached (· == "a") scopes.contains
      else w
    let w := if endsParagraph.contains tag then w.closeParagraph else w
    some (if headings.contains tag && w.opened.head?.any headings.contains then w.close else w)

def startTag (w : Writer) (tag attrs : String) : Writer :=
  match w.prepare tag with
  | none => w
  | some w =>
    if Html.voidTags.contains tag then w.put ("<" ++ tag ++ attrs ++ ">")
    else { w.openTag tag attrs with skipLine := tag == "pre" }

/-- An end tag: one of a paragraph that is not open makes an empty one, others of elements that
are not open are dropped. -/
def endTag (w : Writer) (tag : String) : Writer :=
  if tag = "p" ∧ (w.reach? (· == "p") scopes.contains).isNone then w.put "<p></p>"
  else if tag = "br" then w.put "<br>"
  else if headings.contains tag then w.closeReached headings.contains scopes.contains
  else w.closeReached (· == tag) fun _ => false

def isInvisible (c : Char) : Bool :=
  c.toNat < 32 && c != '\t' && c != '\n' && c != '\r'

/-- Text; a null character in it is dropped, and every line ends with a line feed. -/
def text (w : Writer) (s : String) : Writer :=
  let cs := Text.unifyLineEnds (s.toList.filter (· != '\x00'))
  let cs := if w.skipLine && cs.head? == some '\n' then cs.drop 1 else cs
  let shown := cs.map fun c => if isInvisible c then '?' else c
  { w with skipLine := false }.put (Html.escapeMarkup (String.ofList shown))

mutual

def node (w : Writer) : Markup.Node → Writer
  | .text s => w.text s
  | .kept _ => w
  | .element tag attrs children =>
    let isVoid := children.isEmpty && Markup.Node.voidTags.contains tag
    if allowedTags.contains tag then
      let w := { w with skipLine := false, keptTag := true }.startTag tag (cleanAttrs tag attrs)
      let w := nodes w children
      if isVoid then w else { w with skipLine := false }.endTag tag
    else
      let w := if w.keptTag && lineTags.contains tag then w.text "\n" else w
      nodes w children

def nodes (w : Writer) : List Markup.Node → Writer
  | [] => w
  | n :: rest => nodes (node w n) rest

end

def finish (w : Writer) : String := String.join (w.closeMany w.opened.length).written.reverse

end Writer

/-- A tree of markup with the allowed elements and attributes only, as text. -/
def writeClean (nodes : List Markup.Node) : String := (Writer.start.nodes nodes).finish

def clean (s : String) : Traced String := do
  let tree := Markup.parse s
  let count := dangerCountAll tree
  if count ≠ 0 then Traced.note (.removedElements count)
  return writeClean (withoutDangerAll tree)

end PandocHtml.Sanitize
