import PandocHtml.Html.Escape
import PandocHtml.Markup.Token

/-!
# Trees of markup

Elements with attributes and children, texts, and pieces that are kept as they are.  A tree is
printed with its attributes in order of their names, and built from tokens by keeping the open
elements on a stack: elements left open end with the markup, end tags of elements that are not
open are dropped.
-/

namespace PandocHtml.Markup

inductive Node where
  | text (s : String)
  /-- Something that is printed as it is. -/
  | kept (s : String)
  /-- An element; an attribute may have no value. -/
  | element (tag : String) (attrs : List (String × Option String)) (children : List Node)

namespace Node

/-! ### Printing -/

/-- The elements that are printed as one tag when they have no children. -/
def voidTags : List String :=
  ["area", "base", "basefont", "bgsound", "br", "col", "command", "embed", "frame", "hr", "image",
   "img", "input", "isindex", "keygen", "link", "menuitem", "meta", "nextid", "param", "source",
   "spacer", "track", "wbr"]

/-- A character between double quotes, where a value holds both quotes. -/
def escapeQuotedChar (c : Char) : List Char :=
  if c = '"' then "&quot;".toList else Html.escapeMarkupChar c

/-- A value between the quotes that need the least escaping. -/
def quotedValue (value : String) : String :=
  if value.contains '"' then
    if value.contains '\'' then
      "\"" ++ String.ofList (value.toList.flatMap escapeQuotedChar) ++ "\""
    else "'" ++ Html.escapeMarkup value ++ "'"
  else "\"" ++ Html.escapeMarkup value ++ "\""

def printAttr (attr : String × Option String) : String :=
  match attr.2 with
  | some value => " " ++ attr.1 ++ "=" ++ quotedValue value
  | none => " " ++ attr.1

def sortAttrs (attrs : List (String × Option String)) : List (String × Option String) :=
  attrs.mergeSort fun a b => decide (a.1 ≤ b.1)

def printAttrs (attrs : List (String × Option String)) : String :=
  String.join ((sortAttrs attrs).map printAttr)

mutual

/-- A piece as text; directly inside a script or a style sheet nothing is escaped. -/
def print (verbatim : Bool) : Node → String
  | .text s => if verbatim then s else Html.escapeMarkup s
  | .kept s => s
  | .element tag attrs children =>
    if children.isEmpty && voidTags.contains tag then "<" ++ tag ++ printAttrs attrs ++ "/>"
    else
      "<" ++ tag ++ printAttrs attrs ++ ">" ++ printAll (isVerbatimTag tag) children
        ++ "</" ++ tag ++ ">"

def printAll (verbatim : Bool) : List Node → String
  | [] => ""
  | n :: rest => print verbatim n ++ printAll verbatim rest

end

end Node

/-! ### Attributes that hold words -/

def wordAttrs : List (String × List String) :=
  [("a", ["rel", "rev"]), ("area", ["rel"]), ("form", ["accept-charset"]), ("icon", ["sizes"]),
   ("iframe", ["sandbox"]), ("link", ["rel", "rev"]), ("object", ["archive"]), ("output", ["for"]),
   ("td", ["headers"]), ("th", ["headers"])]

def holdsWords (tag name : String) : Bool :=
  ["class", "accesskey", "dropzone"].contains name
    || ((wordAttrs.lookup tag).getD []).contains name

def joinWords (value : String) : String :=
  " ".intercalate ((Text.words value.toList).map String.ofList)

def keepValue (tag name value : String) : String :=
  if holdsWords tag name then joinWords value else value

/-! ### Building -/

/-- An element that is not closed yet, with its children so far in reverse. -/
structure Open where
  tag : String
  attrs : List (String × Option String)
  done : List Node

/-- What has been read: the open elements, innermost first, the finished pieces outside of them
in reverse, the characters of a text not yet finished in reverse, and the void elements whose end
tags may still come. -/
structure Builder where
  opened : List Open
  done : List Node
  text : List Char
  ended : List String

namespace Builder

def start : Builder := ⟨[], [], [], []⟩

def add (b : Builder) (n : Node) : Builder :=
  match b.opened with
  | o :: rest => { b with opened := { o with done := n :: o.done } :: rest }
  | [] => { b with done := n :: b.done }

def isSpace (c : Char) : Bool :=
  c == ' ' || c == '\n' || c == '\t' || c == '\x0c' || c == '\r'

/-- A text as it is kept: outside preformatted elements a text of spaces alone becomes one. -/
def keepText (b : Builder) (s : List Char) : List Char :=
  if s.all isSpace && !(b.opened.any fun o => o.tag == "pre" || o.tag == "textarea") then
    if s.contains '\n' then ['\n'] else [' ']
  else s

def flush (b : Builder) : Builder :=
  match b.text with
  | [] => b
  | cs => { (b.add (.text (String.ofList (b.keepText cs.reverse)))) with text := [] }

def keep (b : Builder) (front : String) (s : List Char) (back : String) : Builder :=
  b.add (.kept (front ++ String.ofList (b.keepText s) ++ back))

def close (b : Builder) : Builder :=
  match b.opened with
  | o :: rest => { b with opened := rest }.add (.element o.tag o.attrs o.done.reverse)
  | [] => b

def closeMany (b : Builder) : Nat → Builder
  | 0 => b
  | n + 1 => b.close.closeMany n

/-- Close elements up to the innermost one with a tag, if one is open. -/
def closeTag (b : Builder) (tag : String) : Builder :=
  match b.opened.findIdx? fun o => o.tag == tag with
  | some n => b.closeMany (n + 1)
  | none => b

/-- The attributes of an element: of two with one name the later value is kept. -/
def keepAttrs (tag : String) (attrs : List (String × String)) : List (String × Option String) :=
  (Json.collectFields attrs).map fun p => (p.1, some (keepValue tag p.1 p.2))

/-- Read an end tag; one that belongs to a void element already closed is checked off. -/
def stop (b : Builder) (tag : String) : Builder :=
  if b.ended.contains tag then { b with ended := b.ended.erase tag } else b.closeTag tag

def step (b : Builder) (t : Token) : Builder :=
  match t with
  | .text s => { b with text := s.reverse ++ b.text }
  | .comment s => b.flush.keep "<!--" s "-->"
  | .doctype s => (b.flush.keep "<!DOCTYPE " s ">").add (.text "\n")
  | .instruction s => b.flush.keep "<?" s ">"
  | .literal s => b.flush.keep "<![CDATA[" s "]]>"
  | .start tag attrs closed =>
    let b := b.flush
    let b := { b with opened := ⟨tag, keepAttrs tag attrs, []⟩ :: b.opened }
    if closed then b.stop tag
    else if Node.voidTags.contains tag then { b.close with ended := tag :: b.ended }
    else b
  | .stop tag => b.flush.stop tag

def finish (b : Builder) : List Node :=
  let b := b.flush
  (b.closeMany b.opened.length).done.reverse

end Builder

def parse (s : String) : List Node := ((scan s.toList).foldl Builder.step Builder.start).finish

def print (nodes : List Node) : String := Node.printAll false nodes

end PandocHtml.Markup
