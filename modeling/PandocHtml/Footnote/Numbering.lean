import PandocHtml.Document.Datum
import PandocHtml.Fault

/-!
# Numbering footnotes

A footnote is known by its body: equal bodies are one footnote.  Footnotes are numbered from one
in the order in which their bodies were first met, so a numbering is the list of its distinct
bodies.
-/

namespace PandocHtml

abbrev FootnoteBody := List Item

namespace FootnoteBody

def data (b : FootnoteBody) : List Datum := b.map Item.datum

/-- Equal bodies: equal entries in the same order. -/
def same (a b : FootnoteBody) : Bool := Datum.sameAll a.data b.data

/-- A body can serve as a key when every value in it can. -/
def isKey (b : FootnoteBody) : Bool := Datum.isKeyAll b.data

def ofBlocks (blocks : List Block) : FootnoteBody := blocks.map Block.item

end FootnoteBody

/-- Distinct footnote bodies, each numbered by its place from one on. -/
structure Footnotes where
  bodies : List FootnoteBody

namespace Footnotes

def none : Footnotes := ⟨[]⟩

def size (n : Footnotes) : Nat := n.bodies.length

def number? (n : Footnotes) (body : FootnoteBody) : Option Nat :=
  (n.bodies.findIdx? (FootnoteBody.same body)).map (· + 1)

/-- Number a body, unless an equal one is numbered. -/
def add (n : Footnotes) (body : FootnoteBody) : Footnotes :=
  if (n.number? body).isSome then n else ⟨n.bodies ++ [body]⟩

/-- The number of a body; a body that cannot serve as a key is refused. -/
def lookup (n : Footnotes) (body : FootnoteBody) : Except Fault (Option Nat) :=
  if body.isKey then .ok (n.number? body) else .error (.misuse .keyed)

def get (n : Footnotes) (body : FootnoteBody) : Except Fault Nat := do
  match ← n.lookup body with
  | some k => return k
  | Option.none => throw .unknownBody

/-- Number bodies in order, equal ones once. -/
def ofBodies (bodies : List FootnoteBody) : Except Fault Footnotes :=
  bodies.foldlM (fun n body => (n.lookup body).map fun _ => n.add body) Footnotes.none

def entries (n : Footnotes) : List (Nat × FootnoteBody) :=
  n.bodies.zipIdx.map fun p => (p.2 + 1, p.1)

end Footnotes

def footnoteAnchor (number : Nat) : String := "fn" ++ toString number

def referenceAnchor (number : Nat) : String := "fnref" ++ toString number

end PandocHtml
