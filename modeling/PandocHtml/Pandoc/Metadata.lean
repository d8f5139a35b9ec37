import PandocHtml.Pandoc.Element
import PandocHtml.Document.PlainText

/-!
# Reading metadata

Metadata is reduced to plain values: maps, lists, truth values and texts.  Inlines and blocks are
flattened to their plain text, since metadata is only used as text.
-/

namespace PandocHtml.Pandoc

/-- Items that are wanted outside an element. -/
def itemsOrMisuse (v : Json) : Except Fault (List Json) :=
  match items? v with
  | some vs => .ok vs
  | none => .error (.misuse .iterated)

/-- The inlines of a block that is a plain line or a paragraph. -/
def paragraph? : Block → Option (List Inline)
  | .plain content | .para content => some content
  | _ => none

/-- The plain text of flattened blocks: that of the paragraphs, with an empty line between. -/
def paragraphsText (blocks : List Block) : Except Fault String := do
  return "\n\n".intercalate (← (blocks.filterMap paragraph?).mapM plainText)

variable [Host]

def unknownMeta (tag : Json) : Fault := Fault.showing tag (.unknownMeta tag)

/-- A value of metadata with at most a given number of levels of maps and lists. -/
def metadataWithin (levels : Nat) (v : Json) : Except Fault Json :=
  match levels, v with
  | n + 1, .obj fields =>
    let contents := (Json.lookup fields "c").getD .null
    match (Json.lookup fields "t").getD .null with
    | .str "MetaMap" =>
      match contents with
      | .obj entries => do
        return .obj (← entries.mapM fun e => return (e.1, ← metadataWithin n e.2))
      | _ => .error (.misuse .fields)
    | .str "MetaList" => do
      return .arr (← (← itemsOrMisuse contents).mapM (metadataWithin n))
    | .str "MetaBool" | .str "MetaString" => .ok contents
    | .str "MetaInlines" => do
      let content ← (← itemsOrMisuse contents).mapM Inline.ofJson
      return .str (← plainText content)
    | .str "MetaBlocks" => do
      let blocks ← (← itemsOrMisuse contents).mapM Block.ofJson
      return .str (← paragraphsText blocks)
    | tag => .error (unknownMeta tag)
  | _, _ => .error (.misuse .fields)

end Pandoc

variable [Host]

def metadataOfJson (v : Json) : Except Fault Json := Pandoc.metadataWithin v.size v

def metadataFieldsOfJson (v : Json) : Except Fault (List (String × Json)) :=
  match v with
  | .obj fields => fields.mapM fun f => return (f.1, ← metadataOfJson f.2)
  | _ => if v.isTruthy then .error (.misuse .fields) else .ok []

end PandocHtml
