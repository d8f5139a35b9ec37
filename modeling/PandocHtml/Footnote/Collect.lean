import PandocHtml.Document.Walk
import PandocHtml.Footnote.Numbering
import PandocHtml.Traced

/-!
# Collecting footnotes

One pass over the whole tree numbers the footnotes by the first place where each body stands,
whether that place is displayed or not.  Every later place is reported, and in the end the number
of footnotes.
-/

namespace PandocHtml

namespace Footnotes

def meet (n : Footnotes) (node : Node) : Traced Footnotes :=
  match node with
  | .inline (.note blocks) => do
    let body := FootnoteBody.ofBlocks blocks
    match ← n.lookup body with
    | some k => do
      Traced.note (.repeatedNote k)
      return n
    | Option.none => return ⟨n.bodies ++ [body]⟩
  | _ => return n

/-- Number the footnotes under an entry; an entry that is no node has no children to look at. -/
def meetUnder (n : Footnotes) (item : Item) : Traced Footnotes :=
  match item with
  | .node node => (PandocHtml.walk [node]).foldlM meet n
  | .value _ => Traced.fail (.misuse .children)

/-- The footnotes of a sequence; the bodies that were met are numbered anew from their list. -/
def collect (items : List Item) : Traced Footnotes := do
  let n ← items.foldlM meetUnder Footnotes.none
  Traced.note (.collected n.size)
  Footnotes.ofBodies n.bodies

end Footnotes

def Document.footnotes (d : Document) : Traced Footnotes :=
  Footnotes.collect (d.blocks.map Block.item)

end PandocHtml
