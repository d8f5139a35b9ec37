/-!
# Code points

Bytes and escapes can spell surrogates that belong to no pair.  While a text is read they are code
points like others, each different from the next; a finished text is one of characters, where
U+FFFD stands for each of them.
-/

namespace PandocHtml.Text

/-- A character, or a surrogate on its own. -/
inductive Point where
  | char (c : Char)
  | lone (unit : Nat)
deriving DecidableEq, Repr

namespace Point

def ofUnit (n : Nat) : Point :=
  if h : n.isValidChar then .char (Char.ofNatAux n h) else .lone n

/-- The character of two surrogates that make a pair. -/
def ofPair? (hi lo : Nat) : Option Point :=
  if 0xD800 ≤ hi && hi < 0xDC00 && 0xDC00 ≤ lo && lo < 0xE000 then
    some (ofUnit (0x10000 + (hi - 0xD800) * 0x400 + (lo - 0xDC00)))
  else none

def shown : Point → Char
  | .char c => c
  | .lone _ => '\uFFFD'

end Point

/-- The finished text of code points. -/
def textOf (points : List Point) : String := String.ofList (points.map Point.shown)

end PandocHtml.Text
