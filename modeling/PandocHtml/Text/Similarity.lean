/-!
# Similarity of texts

Two texts are as similar as the parts they share in order: the longest run of characters that
stands in both, then the longest shared runs before it and behind it, and so on.  Names similar
enough to a misspelt one are offered in its place.
-/

namespace PandocHtml.Text

def commonFront : List Char → List Char → Nat
  | a :: as, b :: bs => if a = b then commonFront as bs + 1 else 0
  | _, _ => 0

/-- A run that stands in two texts: where it begins in each, and its length. -/
structure SharedRun where
  left : Nat
  right : Nat
  size : Nat

/-- The longest run that begins at a place of the first text; the first of several. -/
def longestRunAt (left : Nat) (a b : List Char) : SharedRun :=
  (List.range b.length).foldl
    (fun best right =>
      let n := commonFront a (b.drop right)
      if best.size < n then ⟨left, right, n⟩ else best)
    ⟨left, 0, 0⟩

/-- The longest run that two texts share; of several the one that begins first. -/
def longestRun (a b : List Char) : SharedRun :=
  (List.range a.length).foldl
    (fun best left =>
      let run := longestRunAt left (a.drop left) b
      if best.size < run.size then run else best)
    ⟨0, 0, 0⟩

/-- The number of characters that two texts share in order, looking at most so many runs deep. -/
def sharedWithin (depth : Nat) (a b : List Char) : Nat :=
  match depth with
  | 0 => 0
  | n + 1 =>
    let run := longestRun a b
    if run.size = 0 then 0
    else
      sharedWithin n (a.take run.left) (b.take run.right) + run.size
        + sharedWithin n (a.drop (run.left + run.size)) (b.drop (run.right + run.size))

/-- The number of characters that two texts share in order. -/
def shared (a b : List Char) : Nat := sharedWithin a.length a b

/-- Two texts are similar when the shared characters are three fifths of both. -/
def similar (a b : List Char) : Bool := 3 * (a.length + b.length) ≤ 10 * shared a b

/-- A first text is more similar to a given one than a second; of equally similar texts the later
one in the order of texts comes first. -/
def moreSimilar (word : List Char) (a b : String) : Bool :=
  let x := shared a.toList word * (b.length + word.length)
  let y := shared b.toList word * (a.length + word.length)
  y < x || (x == y && decide (b ≤ a))

/-- The names most similar to a word, three at most, in the order of texts. -/
def closeMatches (word : String) (names : List String) : List String :=
  let w := word.toList
  let close := (names.filter fun name => similar name.toList w).mergeSort (moreSimilar w)
  (close.take 3).mergeSort fun a b => decide (a ≤ b)

end PandocHtml.Text
