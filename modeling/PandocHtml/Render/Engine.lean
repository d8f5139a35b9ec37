import PandocHtml.Footnote.Collect
import PandocHtml.Host
import PandocHtml.Render.Hooks
import PandocHtml.Render.Limit
import PandocHtml.Render.Plan

/-!
# Rendering

Plans are carried out against an output.  Footnotes become references to their numbers, or asides
where they have none; citations and subtrees beyond the nesting limit become diagnostics; links,
code blocks and raw content go to the hooks.  A number that has to be written is written under the
bound of the engine: none, unless the engine is put on a host.
-/

namespace PandocHtml

structure Engine (β : Type) where
  output : Output β
  hooks : Hooks β
  limit : Option Limit
  /-- The most digits of a whole number that is written. -/
  digits : Option Nat

/-- The engine under the bound of the host. -/
def Engine.onHost {β : Type} [Host] (e : Engine β) : Engine β := { e with digits := Host.digits }

/-- Where a rendering stands: the footnotes that have numbers, and the levels above. -/
structure Place where
  notes : Footnotes
  depth : Nat

namespace Place

def start : Place := ⟨Footnotes.none, 0⟩

def descend (p : Place) : Place := { p with depth := p.depth + 1 }

end Place

namespace Engine

variable {β : Type} (e : Engine β)

/-! ### Pieces of its own -/

def diagnostic (wording : String) : Traced β := do
  let text ← e.output.text (.str ("error[docrender]: " ++ wording))
  e.output.element "pre" none (some text)

def reference (number : Nat) : Traced β := do
  let text ← e.output.text (.str (toString number))
  let anchor ← e.output.element "a"
    (some (AttrMap.ofTexts
      [("name", referenceAnchor number), ("href", "#" ++ footnoteAnchor number)]))
    (some text)
  e.output.element "sup" (some (AttrMap.ofTexts [("class", "footnote-ref")])) (some anchor)

def citationKeys (keys : List Json) : Except Fault String :=
  match Attr.texts? keys with
  | some texts =>
    let joined := ", ".intercalate texts
    .ok (if joined = "" then "an empty citation" else joined)
  | none => .error (.misuse .joined)

/-- A group of citations, which is not rendered. -/
def citations (keys : List Json) : Traced β := do
  Traced.note (.citations (← citationKeys keys))
  e.diagnostic "Pandoc Cite is not handled"

def tooDeep (limit : Limit) : Traced β := do
  Traced.note (.tooDeep limit.whole)
  if limit.given.isWritable e.digits then
    e.diagnostic ("maximum nesting depth " ++ limit.shown ++ " exceeded")
  else Traced.fail (.overlong e.digits none)

/-! ### Carrying out plans -/

mutual

def run (place : Place) : Plan → Traced β
  | .text content => e.output.text content
  | .parts ps => do return e.output.concat (← runAll place ps)
  | .both p q => do
    let left ← run place p
    let right ← run place q
    return e.output.combine left right
  | .leaf tag attrs => e.output.element tag attrs none
  | .element tag attrs children => do
    let inside ← run place children
    e.output.element tag attrs (some inside)
  | .nested ps =>
    match beyond e.limit (place.depth + 1) with
    | some limit => e.tooDeep limit
    | none => do return e.output.concat (← runAll place.descend ps)
  | .written values p =>
    if Json.areWritable e.digits values then run place p
    else Traced.fail (.overlong e.digits none)
  | .fault f => Traced.fail f
  | .link url attrs inner standard => e.hooks.link url attrs inner (run place standard)
  | .code attr text standard => e.hooks.code attr text (run place standard)
  | .raw kind format text => e.hooks.raw kind format text
  | .note body aside => do
    match ← place.notes.lookup (FootnoteBody.ofBlocks body) with
    | some number => e.reference number
    | none => run place aside
  | .cite keys => e.citations keys

def runAll (place : Place) : List Plan → Traced (List β)
  | [] => return []
  | p :: rest => do
    let first ← run place p
    let others ← runAll place rest
    return first :: others

end

/-! ### Sequences and documents -/

def renderItems (wanted : RawKind) (items : List Item) (place : Place) : Traced β := do
  return e.output.concat (← e.runAll place (items.map (Item.plan wanted)))

def renderBlocks (blocks : List Block) (place : Place) : Traced β :=
  e.renderItems .block (blocks.map Block.item) place

def renderInlines (content : List Inline) (place : Place) : Traced β :=
  e.renderItems .inline (content.map Inline.item) place

/-- The entry of a footnote in the section: its anchor, its body without numbered footnotes, and
the way back. -/
def sectionEntry (number : Nat) (body : FootnoteBody) : Traced β := do
  let anchor ← e.output.element "a"
    (some (AttrMap.ofTexts [("name", footnoteAnchor number)])) none
  let content ← e.renderItems .block body Place.start
  let arrow ← e.output.text (.str "↩︎")
  let back ← e.output.element "a"
    (some (AttrMap.ofTexts [("href", "#" ++ referenceAnchor number)])) (some arrow)
  e.output.element "li" none (some (e.output.concat [anchor, content, back]))

def footnoteSection (notes : Footnotes) : Traced β := do
  if notes.bodies.isEmpty then return e.output.empty
  let entries ← notes.entries.mapM fun entry => e.sectionEntry entry.1 entry.2
  let list ← e.output.element "ol" none (some (e.output.concat entries))
  e.output.element "div" (some (AttrMap.ofTexts [("id", "footnotes")])) (some list)

def renderNumbered (document : Document) (notes : Footnotes) : Traced β := do
  let body ← e.renderBlocks document.blocks ⟨notes, 0⟩
  let listed ← e.footnoteSection notes
  return e.output.combine body listed

def renderDocument (document : Document) : Traced β := do
  e.renderNumbered document (← document.footnotes)

end Engine

end PandocHtml
