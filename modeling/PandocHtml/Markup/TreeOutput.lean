import PandocHtml.Html.Attribute
import PandocHtml.Markup.Tree
import PandocHtml.Render.Output

/-!
# Output as a tree of markup

Elements become elements of a tree, texts its texts, and raw content is read into a tree of its
own.
-/

namespace PandocHtml.Markup

/-- The text of an attribute value in a tree; `null` is no value. -/
def attrText (tag name : String) (value : Json) : Except Fault (Option String) :=
  match value with
  | .null => .ok none
  | .str s => .ok (some (keepValue tag name s))
  | .arr items =>
    match Attr.texts? items with
    | some texts => .ok (some (" ".intercalate texts))
    | none => .error (.misuse .joined)
  | v => .ok (some v.plain)

def attrTexts (tag : String) (attrs : AttrMap) :
    Except Fault (List (String × Option String)) :=
  attrs.mapM fun p => return (p.1, ← attrText tag p.1 p.2)

def treeOutput : Output (List Node) where
  empty := []
  combine := (· ++ ·)
  concat := List.flatten
  text content :=
    match content with
    | .str s => return [.text s]
    | _ => Traced.fail (.misuse .joined)
  raw content :=
    match content with
    | .str s => return parse s
    | _ => Traced.fail (.misuse .joined)
  element tag attrs children := do
    let attrs ← attrTexts tag (← Html.writable (attrs.getD []))
    return [.element tag attrs (children.getD [])]

theorem foldl_append_eq_flatten (parts : List (List Node)) (start : List Node) :
    parts.foldl (· ++ ·) start = start ++ parts.flatten := by
  induction parts generalizing start with
  | nil => simp
  | cons p rest ih => simp only [List.foldl_cons, ih, List.flatten_cons, List.append_assoc]

theorem treeOutput_lawful : treeOutput.Lawful where
  assoc := List.append_assoc
  empty_combine := List.nil_append
  combine_empty := List.append_nil
  concat_eq parts := by
    show parts.flatten = parts.foldl (· ++ ·) []
    rw [foldl_append_eq_flatten, List.nil_append]

end PandocHtml.Markup
