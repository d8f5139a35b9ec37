import PandocHtml.Text.Point

/-!
# Encodings of Unicode text

The encoding of a text is told from its first bytes: a byte order mark, or the zero bytes that an
ASCII character has in the wider encodings.  Decoding lets surrogates pass that belong to no pair,
and is strict otherwise.
-/

namespace PandocHtml.Text

inductive ByteOrder where
  | big | little
deriving DecidableEq, Repr

inductive Encoding where
  | utf8
  | utf16 (order : ByteOrder)
  | utf32 (order : ByteOrder)
deriving DecidableEq, Repr

/-- The encoding of some bytes, and how many of them are a byte order mark. -/
def detect (bytes : List UInt8) : Encoding × Nat :=
  match bytes with
  | 0x00 :: 0x00 :: 0xFE :: 0xFF :: _ => (.utf32 .big, 4)
  | 0xFF :: 0xFE :: 0x00 :: 0x00 :: _ => (.utf32 .little, 4)
  | 0xFE :: 0xFF :: _ => (.utf16 .big, 2)
  | 0xFF :: 0xFE :: _ => (.utf16 .little, 2)
  | 0xEF :: 0xBB :: 0xBF :: _ => (.utf8, 3)
  | a :: b :: c :: d :: _ =>
    if a = 0 then (if b = 0 then .utf32 .big else .utf16 .big, 0)
    else if b = 0 then (if c = 0 ∧ d = 0 then .utf32 .little else .utf16 .little, 0)
    else (.utf8, 0)
  | [a, b] => (if a = 0 then .utf16 .big else if b = 0 then .utf16 .little else .utf8, 0)
  | _ => (.utf8, 0)

def unitValue (order : ByteOrder) (bytes : List UInt8) : Nat :=
  match order with
  | .big => bytes.foldl (fun n b => n * 256 + b.toNat) 0
  | .little => bytes.foldr (fun b n => n * 256 + b.toNat) 0

def units16 (order : ByteOrder) : List UInt8 → Option (List Nat)
  | [] => some []
  | a :: b :: rest => (units16 order rest).map (unitValue order [a, b] :: ·)
  | _ => none

def units32 (order : ByteOrder) : List UInt8 → Option (List Nat)
  | [] => some []
  | a :: b :: c :: d :: rest => (units32 order rest).map (unitValue order [a, b, c, d] :: ·)
  | _ => none

/-- The code points of units of sixteen bits, where two surrogates make one character. -/
def pointsOfUnits16 : List Nat → List Point
  | [] => []
  | [u] => [.ofUnit u]
  | u :: v :: rest =>
    match Point.ofPair? u v with
    | some p => p :: pointsOfUnits16 rest
    | none => .ofUnit u :: pointsOfUnits16 (v :: rest)

def pointOfUnit32? (n : Nat) : Option Point :=
  if n < 0x110000 then some (.ofUnit n) else none

def decodeUtf8 (bytes : List UInt8) : Option (List Char) :=
  (String.fromUTF8? ⟨bytes.toArray⟩).map String.toList

/-- The surrogate that three bytes encode like any other code point. -/
def surrogate? (a b c : UInt8) : Option Point :=
  if a = 0xED ∧ 0xA0 ≤ b ∧ b < 0xC0 ∧ 0x80 ≤ c ∧ c < 0xC0 then
    some (.lone (0xD000 + (b.toNat - 0x80) * 0x40 + (c.toNat - 0x80)))
  else none

/-- The code points of bytes after some others, in reverse, that hold no surrogate. -/
def pointsOfUtf8 (before : List UInt8) : List UInt8 → Option (List Point)
  | a :: b :: c :: rest =>
    match surrogate? a b c with
    | some p => do
      let first ← decodeUtf8 before.reverse
      return first.map .char ++ p :: (← pointsOfUtf8 [] rest)
    | none => pointsOfUtf8 (a :: before) (b :: c :: rest)
  | rest => (decodeUtf8 (before.reverse ++ rest)).map fun cs => cs.map .char

/-- The code points of some bytes in an encoding, unless they are no text in it. -/
def Encoding.decode (e : Encoding) (bytes : List UInt8) : Option (List Point) :=
  match e with
  | .utf8 => pointsOfUtf8 [] bytes
  | .utf16 order => (units16 order bytes).map pointsOfUnits16
  | .utf32 order => (units32 order bytes).bind fun us => us.mapM pointOfUnit32?

/-- The code points of some bytes in the encoding they show, without a byte order mark. -/
def decodeBytes (bytes : List UInt8) : Option (List Point) :=
  let (encoding, mark) := detect bytes
  encoding.decode (bytes.drop mark)

def encodeBytes (s : String) : List UInt8 := s.toUTF8.toList

end PandocHtml.Text
