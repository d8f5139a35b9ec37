import PandocHtml.Host
import PandocHtml.Json.Basic
import PandocHtml.Text.Point

/-!
# Reading JSON text

Text is cut into lexemes, each with its offset, and the lexemes drive a machine with a stack of
unfinished arrays and objects.  A lexeme that cannot be read keeps its own fault, which is only
reported where the machine wants such a lexeme; elsewhere the machine reports what it expected.
The stack grows with the nesting of the text; a host is taken to have room for it.
-/

namespace PandocHtml.Json

open Text

/-! ### Faults -/

inductive ReadCause where
  | expectedValue
  | expectedName
  | expectedColon
  | expectedComma
  | extraData
  | unterminatedText
  | badEscape
  | badCodeEscape
  | controlCharacter
  | byteOrderMark
deriving DecidableEq

def ReadCause.wording : ReadCause → String
  | .expectedValue => "Expecting value"
  | .expectedName => "Expecting property name enclosed in double quotes"
  | .expectedColon => "Expecting ':' delimiter"
  | .expectedComma => "Expecting ',' delimiter"
  | .extraData => "Extra data"
  | .unterminatedText => "Unterminated string starting at"
  | .badEscape => "Invalid \\escape"
  | .badCodeEscape => "Invalid \\uXXXX escape"
  | .controlCharacter => "Invalid control character at"
  | .byteOrderMark => "Unexpected UTF-8 BOM (decode using utf-8-sig)"

/-- Why a text is not read: from some offset on it is no JSON, or one of its whole numbers has more
digits than the host allows. -/
inductive ReadFault where
  | broken (cause : ReadCause) (offset : Nat)
  | overlong (count : Nat)
deriving DecidableEq

def lineColumn (text : List Point) (offset : Nat) : Nat × Nat :=
  (text.take offset).foldl
    (fun p c => if c = .char '\n' then (p.1 + 1, 1) else (p.1, p.2 + 1)) (1, 1)

def ReadCause.message (text : List Point) (cause : ReadCause) (offset : Nat) : String :=
  let (line, column) := lineColumn text offset
  cause.wording ++ ": line " ++ toString line ++ " column " ++ toString column
    ++ " (char " ++ toString offset ++ ")"

/-! ### Lexemes -/

/-- A lexeme: punctuation, a text, another scalar, a text that breaks off or a number that is too
long, or characters that start none of these. -/
inductive Lexeme where
  | mark (c : Char)
  | text (points : List Point)
  | scalar (v : Json)
  | broken (cause : ReadCause) (offset : Nat)
  | overlong (count : Nat)
  | junk

structure Placed where
  lexeme : Lexeme
  offset : Nat

def isGap : Point → Bool
  | .char c => c == ' ' || c == '\t' || c == '\n' || c == '\r'
  | .lone _ => false

def hexValue? : Point → Option Nat
  | .char c =>
    if '0' ≤ c && c ≤ '9' then some (c.toNat - '0'.toNat)
    else if 'a' ≤ c && c ≤ 'f' then some (c.toNat - 'a'.toNat + 10)
    else if 'A' ≤ c && c ≤ 'F' then some (c.toNat - 'A'.toNat + 10)
    else none
  | .lone _ => none

def hexValue4? (a b c d : Point) : Option Nat := do
  return ((← hexValue? a) * 16 + (← hexValue? b)) * 256 + (← hexValue? c) * 16 + (← hexValue? d)

def escapeLetter? : Point → Option Char
  | .char '"' => some '"'
  | .char '\\' => some '\\'
  | .char '/' => some '/'
  | .char 'b' => some '\x08'
  | .char 'f' => some '\x0c'
  | .char 'n' => some '\n'
  | .char 'r' => some '\r'
  | .char 't' => some '\t'
  | _ => none

def isControl : Point → Bool
  | .char c => c.toNat < 0x20
  | .lone _ => false

/-- The rest of a text after its opening quote at offset `start`, with the code points read so far
in reverse and the present offset.  Gives the lexeme and the offset after it.  Four digits and one
more character must follow a code escape. -/
def lexText (start : Nat) (acc : List Point) (pos : Nat) : List Point → Lexeme × Nat
  | [] => (.broken .unterminatedText start, pos)
  | .char '"' :: _ => (.text acc.reverse, pos + 1)
  | [.char '\\'] => (.broken .unterminatedText start, pos)
  | .char '\\' :: .char 'u' :: a :: b :: c :: d :: .char '\\' :: .char 'u' :: e :: f :: g :: h
      :: rest =>
    match hexValue4? a b c d with
    | none => (.broken .badCodeEscape (pos + 1), pos)
    | some hi =>
      let next := .char '\\' :: .char 'u' :: e :: f :: g :: h :: rest
      if 0xD800 ≤ hi && hi < 0xDC00 && !rest.isEmpty then
        match hexValue4? e f g h with
        | none => (.broken .badCodeEscape (pos + 7), pos)
        | some lo =>
          match Point.ofPair? hi lo with
          | some x => lexText start (x :: acc) (pos + 12) rest
          | none => lexText start (.ofUnit hi :: acc) (pos + 6) next
      else lexText start (.ofUnit hi :: acc) (pos + 6) next
  | .char '\\' :: .char 'u' :: a :: b :: c :: d :: x :: rest =>
    match hexValue4? a b c d with
    | none => (.broken .badCodeEscape (pos + 1), pos)
    | some n => lexText start (.ofUnit n :: acc) (pos + 6) (x :: rest)
  | .char '\\' :: .char 'u' :: _ => (.broken .badCodeEscape (pos + 1), pos)
  | .char '\\' :: c :: rest =>
    match escapeLetter? c with
    | some x => lexText start (.char x :: acc) (pos + 2) rest
    | none => (.broken .badEscape pos, pos)
  | c :: rest =>
    if isControl c then (.broken .controlCharacter pos, pos)
    else lexText start (c :: acc) (pos + 1) rest
termination_by s => s.length

/-- The digits at the front. -/
def digitsOf : List Point → List Char
  | .char c :: rest => if c.isDigit then c :: digitsOf rest else []
  | _ => []

def decimalValue (ds : List Char) : Nat :=
  ds.foldl (fun n c => 10 * n + (c.toNat - '0'.toNat)) 0

/-- The digits of a fraction, if a point and a digit come first. -/
def fractionDigits : List Point → List Char
  | .char '.' :: rest => digitsOf rest
  | _ => []

/-- The sign, digits and length of an exponent, if one comes first. -/
def exponentPart : List Point → Option (Bool × List Char × Nat)
  | .char c :: rest =>
    if c == 'e' || c == 'E' then
      let (negative, signs, digits) := match rest with
        | .char '-' :: r => (true, 1, digitsOf r)
        | .char '+' :: r => (false, 1, digitsOf r)
        | r => (false, 0, digitsOf r)
      if digits.isEmpty then none else some (negative, digits, 1 + signs + digits.length)
    else none
  | _ => none

/-- The longest number at the front, without its sign, and its length.  A whole number is bounded
by the host. -/
def lexNumber [Host] (negative : Bool) (s : List Point) : Option (Lexeme × Nat) :=
  let whole := match s with
    | .char '0' :: _ => ['0']
    | _ => digitsOf s
  if whole.isEmpty then none
  else
    let s := s.drop whole.length
    let fraction := fractionDigits s
    let fractionLength := if fraction.isEmpty then 0 else fraction.length + 1
    let s := s.drop fractionLength
    match fraction, exponentPart s with
    | [], none =>
      if Host.refuses whole.length then some (.overlong whole.length, whole.length)
      else
        let n := decimalValue whole
        some (.scalar (.int (if negative then -(n : Int) else n)), whole.length)
    | _, exponent =>
      let (expNegative, expDigits, expLength) := exponent.getD (false, [], 0)
      let e : Int := decimalValue expDigits
      let e := (if expNegative then -e else e) - fraction.length
      some (.scalar (.float (Binary64.ofDecimal negative (decimalValue (whole ++ fraction)) e)),
        whole.length + fractionLength + expLength)

def words : List (List Char × Json) :=
  [("null".toList, .null), ("true".toList, .bool true), ("false".toList, .bool false),
   ("NaN".toList, .float .nan), ("Infinity".toList, .float .infinity),
   ("-Infinity".toList, .float .negativeInfinity)]

/-- The lexeme at the front of a text that starts with no blank, and its length. -/
def lexeme [Host] (pos : Nat) (s : List Point) : Lexeme × Nat :=
  match s with
  | .char '"' :: rest =>
    let (l, stop) := lexText pos [] (pos + 1) rest
    (l, stop - pos)
  | .char c :: rest =>
    if "[]\x7b\x7d,:".toList.contains c then (.mark c, 1)
    else
      match words.find? fun w => (w.1.map Point.char).isPrefixOf s with
      | some w => (.scalar w.2, w.1.length)
      | none =>
        if c == '-' then
          match lexNumber true rest with
          | some (l, n) => (l, n + 1)
          | none => (.junk, 1)
        else (lexNumber false s).getD (.junk, 1)
  | _ => (.junk, 1)

/-! ### The machine -/

/-- A field of an unfinished object; its name is finished with the object. -/
abbrev Field := List Point × Json

/-- An array or object whose next value is being read, items and fields in reverse. -/
inductive Frame where
  | items (done : List Json)
  | fields (done : List Field) (name : List Point)

inductive Want where
  | value
  | valueOrEnd
  | nameOrEnd
  | name (done : List Field)
  | colon (done : List Field) (name : List Point)
  | commaAfterItem (done : List Json)
  | commaAfterField (done : List Field)
  | nothing (v : Json)

/-- The machine: what it wants and the unfinished values around, innermost first. -/
structure Machine where
  want : Want
  frames : List Frame

def Machine.complete (v : Json) : List Frame → Machine
  | [] => ⟨.nothing v, []⟩
  | .items done :: rest => ⟨.commaAfterItem (v :: done), rest⟩
  | .fields done name :: rest => ⟨.commaAfterField ((name, v) :: done), rest⟩

/-- The object of some fields; names are the same only as code points. -/
def objectOf (done : List Field) : Json :=
  .obj ((collectFields done.reverse).map fun f => (textOf f.1, f.2))

def Want.unmet : Want → ReadCause
  | .value | .valueOrEnd => .expectedValue
  | .nameOrEnd | .name _ => .expectedName
  | .colon .. => .expectedColon
  | .commaAfterItem _ | .commaAfterField _ => .expectedComma
  | .nothing _ => .extraData

def Machine.startValue (frames : List Frame) (p : Placed) : Except ReadFault Machine :=
  match p.lexeme with
  | .scalar v => .ok (complete v frames)
  | .text points => .ok (complete (.str (textOf points)) frames)
  | .mark '[' => .ok ⟨.valueOrEnd, frames⟩
  | .mark '\x7b' => .ok ⟨.nameOrEnd, frames⟩
  | .broken cause offset => .error (.broken cause offset)
  | .overlong count => .error (.overlong count)
  | _ => .error (.broken .expectedValue p.offset)

def Machine.startName (done : List Field) (frames : List Frame) (p : Placed) :
    Except ReadFault Machine :=
  match p.lexeme with
  | .text points => .ok ⟨.colon done points, frames⟩
  | .broken cause offset => .error (.broken cause offset)
  | _ => .error (.broken .expectedName p.offset)

def Machine.step (m : Machine) (p : Placed) : Except ReadFault Machine :=
  match m.want, p.lexeme with
  | .value, _ => startValue m.frames p
  | .valueOrEnd, .mark ']' => .ok (complete (.arr []) m.frames)
  | .valueOrEnd, _ => startValue (.items [] :: m.frames) p
  | .nameOrEnd, .mark '\x7d' => .ok (complete (.obj []) m.frames)
  | .nameOrEnd, _ => startName [] m.frames p
  | .name done, _ => startName done m.frames p
  | .colon done name, .mark ':' => .ok ⟨.value, .fields done name :: m.frames⟩
  | .commaAfterItem done, .mark ',' => .ok ⟨.value, .items done :: m.frames⟩
  | .commaAfterItem done, .mark ']' => .ok (complete (.arr done.reverse) m.frames)
  | .commaAfterField done, .mark ',' => .ok ⟨.name done, m.frames⟩
  | .commaAfterField done, .mark '\x7d' => .ok (complete (objectOf done) m.frames)
  | want, _ => .error (.broken want.unmet p.offset)

/-- Run the machine over the lexemes of a text from an offset on. -/
def Machine.run [Host] (m : Machine) (pos : Nat) : List Point → Except ReadFault Machine
  | [] => .ok m
  | c :: rest =>
    if isGap c then run m (pos + 1) rest
    else
      let (l, n) := lexeme pos (c :: rest)
      match m.step ⟨l, pos⟩ with
      | .error f => .error f
      | .ok m => run m (pos + 1 + (n - 1)) (rest.drop (n - 1))
termination_by s => s.length
decreasing_by
  all_goals simp only [List.length_cons, List.length_drop]; omega

/-- Read code points: every lexeme in turn, and at the end nothing may be wanted. -/
def readPoints [Host] (points : List Point) : Except ReadFault Json :=
  match Machine.run ⟨.value, []⟩ 0 points with
  | .error f => .error f
  | .ok m =>
    match m.want with
    | .nothing v => .ok v
    | want => .error (.broken want.unmet points.length)

/-- Read a text, which begins with no byte order mark. -/
def read [Host] (text : List Char) : Except ReadFault Json :=
  if text.head? == some '\uFEFF' then .error (.broken .byteOrderMark 0)
  else readPoints (text.map Point.char)

end PandocHtml.Json
