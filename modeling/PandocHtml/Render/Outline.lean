import PandocHtml.Render.Output

/-!
# Outlines

The output that keeps everything: a list of the texts, the raw markup and the elements that were
asked for, with their attributes and children as they were given.
-/

namespace PandocHtml

inductive OutlineNode where
  | text (content : Json)
  | raw (content : Json)
  | leaf (tag : String) (attrs : Option AttrMap)
  | element (tag : String) (attrs : Option AttrMap) (children : List OutlineNode)

abbrev Outline := List OutlineNode

def outline : Output Outline where
  empty := []
  combine := (· ++ ·)
  concat := Output.fold (· ++ ·) []
  text content := return [.text content]
  raw content := return [.raw content]
  element tag attrs children :=
    return [match children with
      | none => .leaf tag attrs
      | some cs => .element tag attrs cs]

theorem outline_lawful : outline.Lawful where
  assoc := List.append_assoc
  empty_combine := List.nil_append
  combine_empty := List.append_nil
  concat_eq _ := rfl

namespace OutlineNode

def attrsListing : Option AttrMap → Json
  | none => .null
  | some m => .arr (m.map fun p => .arr [.str p.1, p.2])

mutual

def listing : OutlineNode → Json
  | .text content => .arr [.str "text", content]
  | .raw content => .arr [.str "raw", content]
  | .leaf tag attrs => .arr [.str "element", .str tag, attrsListing attrs, .null]
  | .element tag attrs children =>
    .arr [.str "element", .str tag, attrsListing attrs, .arr (listingAll children)]

def listingAll : List OutlineNode → List Json
  | [] => []
  | p :: rest => p.listing :: listingAll rest

end

end OutlineNode

end PandocHtml
