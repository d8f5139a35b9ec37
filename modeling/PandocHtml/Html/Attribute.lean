import PandocHtml.Html.Escape
import PandocHtml.Text.Blank
import PandocHtml.Traced

/-!
# Attributes in markup

An attribute name is written as it is, so names that would end the tag or the name are left out
and reported.
-/

namespace PandocHtml.Html

def endsName (c : Char) : Bool :=
  Text.isBlank c || c.toNat < 0x20 || c.toNat == 0x7F
    || c == '"' || c == '\'' || c == '>' || c == '/' || c == '='

/-- A name that can be written: not empty, and without characters that would end it. -/
def isName (name : String) : Bool := !name.isEmpty && name.toList.all fun c => !endsName c

/-- The entries whose names can be written; the others are reported. -/
def writable (attrs : AttrMap) : Traced AttrMap :=
  ⟨(attrs.filter fun p => !isName p.1).map fun p => .notice (.droppedAttribute p.1),
    .ok (attrs.filter fun p => isName p.1)⟩

def writeAttrs : AttrMap → Except Fault String
  | [] => .ok ""
  | (name, value) :: rest => do
    let value ← escapeValue value
    return " " ++ name ++ "=\"" ++ value ++ "\"" ++ (← writeAttrs rest)

def renderAttrs (attrs : Option AttrMap) : Traced String := do
  writeAttrs (← writable (attrs.getD []))

end PandocHtml.Html
