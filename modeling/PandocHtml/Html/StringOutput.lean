import PandocHtml.Html.Attribute
import PandocHtml.Render.Output

/-!
# Output as HTML text

Elements as tags around their children, void elements as one tag, texts and attribute values
escaped, attributes in their order.
-/

namespace PandocHtml.Html

def voidTags : List String :=
  ["area", "base", "br", "col", "embed", "hr", "img", "input", "link", "meta", "source", "track",
   "wbr"]

def writeElement (tag : String) (attrs : Option AttrMap) (children : Option String) :
    Traced String := do
  let opening := "<" ++ tag ++ (← renderAttrs attrs) ++ ">"
  if voidTags.contains tag then return opening
  return opening ++ children.getD "" ++ "</" ++ tag ++ ">"

def stringOutput : Output String where
  empty := ""
  combine := (· ++ ·)
  concat := String.join
  text content := escapeValue content
  raw content :=
    match content with
    | .str s => return s
    | _ => Traced.fail (.misuse .joined)
  element := writeElement

end PandocHtml.Html
