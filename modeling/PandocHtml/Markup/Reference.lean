import PandocHtml.Markup.CharacterNames
import PandocHtml.Text.Blank

/-!
# Character references

What a reference behind an ampersand stands for, by name or by number.  Numbers from 128 to 159
name no printable character and stand for those of the Windows code page.  Text and values of
attributes read references differently: a value takes the longest name that may stand without a
semicolon, text takes a whole name or nothing.
-/

namespace PandocHtml.Markup

/-! ### Numbers -/

def digitsValue (base : Nat) (digits : List Char) : Nat :=
  digits.foldl (fun n c => n * base + hexDigitValue c) 0
where
  hexDigitValue (c : Char) : Nat :=
    if c.isDigit then c.toNat - '0'.toNat
    else if 'a' ≤ c ∧ c ≤ 'f' then c.toNat - 'a'.toNat + 10
    else if 'A' ≤ c ∧ c ≤ 'F' then c.toNat - 'A'.toNat + 10
    else 0

def isHexDigit (c : Char) : Bool :=
  c.isDigit || ('a' ≤ c && c ≤ 'f') || ('A' ≤ c && c ≤ 'F')

/-- The number behind a number sign, and how many characters it takes with the sign. -/
def referenceNumber? (s : List Char) : Option (Nat × Nat) :=
  match s with
  | '#' :: x :: rest =>
    if x = 'x' ∨ x = 'X' then numeral 16 2 (rest.takeWhile isHexDigit)
    else numeral 10 1 ((x :: rest).takeWhile Char.isDigit)
  | _ => none
where
  numeral (base marks : Nat) (digits : List Char) : Option (Nat × Nat) :=
    if digits.isEmpty then none else some (digitsValue base digits, marks + digits.length)

def codePageCharacters : List (Nat × Nat) :=
  [(0x80, 0x20AC), (0x82, 0x201A), (0x83, 0x192), (0x84, 0x201E), (0x85, 0x2026), (0x86, 0x2020),
   (0x87, 0x2021), (0x88, 0x2C6), (0x89, 0x2030), (0x8A, 0x160), (0x8B, 0x2039), (0x8C, 0x152),
   (0x8E, 0x17D), (0x91, 0x2018), (0x92, 0x2019), (0x93, 0x201C), (0x94, 0x201D), (0x95, 0x2022),
   (0x96, 0x2013), (0x97, 0x2014), (0x98, 0x2DC), (0x99, 0x2122), (0x9A, 0x161), (0x9B, 0x203A),
   (0x9C, 0x153), (0x9E, 0x17E), (0x9F, 0x178)]

/-- The character of a number; the replacement character when there is none. -/
def numberedCharacter (n : Nat) : Char :=
  let code := (codePageCharacters.lookup n).getD n
  if code.isValidChar then Char.ofNat code else '\uFFFD'

/-- A number that is no character in a value: a control character, or one that is reserved. -/
def isReserved (n : Nat) : Bool :=
  (1 ≤ n && n ≤ 8) || n == 0xB || (0xE ≤ n && n ≤ 0x1F) || n == 0x7F
    || (0xFDD0 ≤ n && n ≤ 0xFDEF) || (n % 0x10000 ≥ 0xFFFE && n < 0x110000)

def numberedValue (n : Nat) : List Char :=
  if n = 0 then ['\uFFFD'] else if isReserved n then [] else [numberedCharacter n]

/-! ### Names -/

def readNames : List (List Char) → List (String × List Char)
  | name :: codes :: rest =>
    let first := codes.takeWhile (· != '+')
    let second := codes.drop (first.length + 1)
    let characters := [first, second].filter fun digits => !digits.isEmpty
    (String.ofList name, characters.map fun digits => Char.ofNat (digitsValue 16 digits))
      :: readNames rest
  | _ => []

def characterNames : List (String × List Char) :=
  characterNameLines.flatMap fun line => readNames (Text.words line.toList)

def namedCharacters? (name : List Char) : Option (List Char) :=
  characterNames.lookup (String.ofList name)

/-- The longest name at the front of a text that may stand without a semicolon. -/
def bareName? (s : List Char) : Option (List Char) :=
  let fitting := (bareNames.map String.toList).filter fun name => name.isPrefixOf s
  fitting.foldl (fun best name =>
    if best.any fun other => name.length ≤ other.length then best else some name) none

/-! ### References -/

def semicolonLength (s : List Char) : Nat := if s.head? = some ';' then 1 else 0

/-- What a reference in a value of an attribute stands for, and how many characters it takes
behind the ampersand. -/
def valueReference? (s : List Char) : Option (List Char × Nat) :=
  match referenceNumber? s with
  | some (number, n) => some (numberedValue number, n + semicolonLength (s.drop n))
  | none =>
    let name := s.takeWhile Char.isAlphanum
    match (s.drop name.length).head?, namedCharacters? name with
    | some ';', some characters => some (characters, name.length + 1)
    | _, _ =>
      match bareName? s with
      | some bare => (namedCharacters? bare).map fun characters => (characters, bare.length)
      | none => none

def isNamePart (c : Char) : Bool := c.isAlphanum || c == '-' || c == '.'

/-- The name at the front of a text; something that is neither a letter nor a digit has to
follow it. -/
def textName (s : List Char) : List Char :=
  let run := s.takeWhile isNamePart
  if run.length < s.length then run
  else ((run.reverse.dropWhile Char.isAlphanum).drop 1).reverse

/-- The text for what follows an ampersand, and how many characters of it that covers.  A name
that is unknown stays, without its semicolon; an ampersand that only one letter follows before
the end is lost. -/
def textReference (s : List Char) : List Char × Nat :=
  match referenceNumber? s with
  | some (number, n) =>
    if (s.drop n).head?.any fun c => !isHexDigit c then
      ([numberedCharacter number], n + semicolonLength (s.drop n))
    else (['&'], 0)
  | none =>
    if !s.head?.any Char.isAlpha then (['&'], 0)
    else
      let name := textName s
      if name.isEmpty then (if s.length = 1 then [] else ['&'], 0)
      else
        ((namedCharacters? name).getD ('&' :: name),
          name.length + semicolonLength (s.drop name.length))

end PandocHtml.Markup
