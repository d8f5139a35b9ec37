import PandocHtml.Text.Ranges

/-!
# Blank characters

White space in the wide sense: the space separators, line and paragraph separators, and the
control characters that act as white space, U+001C to U+001F among them.
-/

namespace PandocHtml.Text

def blankRanges : List (Nat × Nat) :=
  [(0x9, 0xD), (0x1C, 0x20), (0x85, 0x85), (0xA0, 0xA0), (0x1680, 0x1680), (0x2000, 0x200A),
   (0x2028, 0x2029), (0x202F, 0x202F), (0x205F, 0x205F), (0x3000, 0x3000)]

/-- White space in the wide sense. -/
def isBlank (c : Char) : Bool := inRanges blankRanges c.toNat

/-- Every character that counts as white space in the narrow sense is blank. -/
theorem isBlank_of_isWhitespace (c : Char) (h : c.isWhitespace = true) : isBlank c = true := by
  simp only [Char.isWhitespace, Bool.or_eq_true, decide_eq_true_eq] at h
  rcases h with ((h | h) | h) | h <;> subst h <;> decide

def trimOf (kind : Char → Bool) (s : List Char) : List Char :=
  ((s.dropWhile kind).reverse.dropWhile kind).reverse

def trim (s : List Char) : List Char := trimOf isBlank s

/-- The maximal runs of characters that are not blank. -/
def words (s : List Char) : List (List Char) :=
  go s []
where
  /-- Words of the rest, after a word begun with the given reversed characters. -/
  go : List Char → List Char → List (List Char)
    | [], word => finish word []
    | c :: rest, word => if isBlank c then finish word (go rest []) else go rest (c :: word)
  finish (word : List Char) (later : List (List Char)) : List (List Char) :=
    if word.isEmpty then later else word.reverse :: later

end PandocHtml.Text
