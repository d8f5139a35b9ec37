import PandocHtml.Document.Datum

/-!
# Digests

A table looks for a key by its digest before it compares keys.  The digest of a record is that of
the tuple of its fields, whatever its name; a sequence is the tuple of its entries, and attributes
are the tuple of their identifier, their classes and the set of their pairs.
-/

namespace PandocHtml

/-- How single values, choices, sets of pairs and tuples are digested.  The digest of a choice
depends on the choice alone, and values that are equal, or sets with the same members, have one
digest. -/
structure Hashing where
  value : Json → UInt64
  choice (family name : String) : UInt64
  pairs : List (String × String) → UInt64
  tuple : List UInt64 → UInt64
  value_eq : ∀ v w : Json, v.isScalar = true → w.isScalar = true → v.same w = true →
    value v = value w
  pairs_eq : ∀ ps qs : List (String × String), (∀ p, p ∈ ps ↔ p ∈ qs) → pairs ps = pairs qs

def Attr.digest (H : Hashing) (a : Attr) : UInt64 :=
  H.tuple [H.value a.identifier, H.tuple (a.classes.map H.value), H.pairs a.pairs]

namespace Datum

variable (H : Hashing)

mutual

def digest : Datum → UInt64
  | .value v => H.value v
  | .choice family _ name => H.choice family name
  | .attr a => a.digest H
  | .target t => H.tuple [H.value t.url, H.value t.title]
  | .seq items => H.tuple (digestAll items)
  | .record _ fields => H.tuple (digestFields fields)

def digestAll : List Datum → List UInt64
  | [] => []
  | x :: rest => digest x :: digestAll rest

def digestFields : List (String × Datum) → List UInt64
  | [] => []
  | (_, x) :: rest => digest x :: digestFields rest

end

end Datum

def Node.digest (H : Hashing) (n : Node) : UInt64 := n.datum.digest H

/-- The digest of a footnote's body. -/
def blocksDigest (H : Hashing) (blocks : List Block) : UInt64 :=
  H.tuple (Datum.digestAll H (blockData blocks))

end PandocHtml
