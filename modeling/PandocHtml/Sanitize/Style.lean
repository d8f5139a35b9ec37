import PandocHtml.Markup.Token
import PandocHtml.Sanitize.Policy

/-!
# Inline styles

A style is a list of declarations separated by semicolons.  Declarations of allowed properties
are kept as they are written; blanks and comments between them are kept too, but never two of
blanks or two of comments in a row.
-/

namespace PandocHtml.Sanitize

inductive StylePart where
  | declaration (s : List Char)
  | blank (s : List Char)
  | comment (s : List Char)
deriving Repr

namespace StylePart

def sameGap : StylePart → StylePart → Bool
  | .blank _, .blank _ | .comment _, .comment _ => true
  | _, _ => false

def text : StylePart → List Char
  | .declaration s => s ++ [';']
  | .blank s | .comment s => s

end StylePart

/-! ### Splitting -/

/-- Split at the semicolons that stand outside quotes and brackets; `quote` is the quote that is
open and `depth` the number of open brackets. -/
def splitStyle (quote : Option Char) (depth : Nat) (current : List Char) :
    List Char → List (List Char)
  | [] => [current.reverse]
  | c :: rest =>
    match quote with
    | some q => splitStyle (if c = q then none else quote) depth (c :: current) rest
    | none =>
      if c = ';' ∧ depth = 0 then current.reverse :: splitStyle none 0 [] rest
      else if c = '"' ∨ c = '\'' then splitStyle (some c) depth (c :: current) rest
      else if c = '(' ∨ c = '[' ∨ c = '\x7b' then splitStyle none (depth + 1) (c :: current) rest
      else if c = ')' ∨ c = ']' ∨ c = '\x7d' then splitStyle none (depth - 1) (c :: current) rest
      else splitStyle none depth (c :: current) rest

def isStyleBlank (c : Char) : Bool :=
  c == ' ' || c == '\t' || c == '\n' || c == '\r' || c == '\x0c'

def isPropertyChar (c : Char) : Bool :=
  c.isAlphanum || c == '-' || c == '_' || c.toNat ≥ 0x80

def commentLength : List Char → Nat
  | '*' :: '/' :: _ => 2
  | _ :: rest => commentLength rest + 1
  | [] => 0

/-- The blanks and comments at the front of a text, and what is left. -/
def gaps (s : List Char) : List StylePart × List Char :=
  match s with
  | '/' :: '*' :: rest =>
    let n := commentLength rest
    let (parts, left) := gaps (rest.drop n)
    (.comment ('/' :: '*' :: rest.take n) :: parts, left)
  | c :: rest =>
    if isStyleBlank c then
      let run := rest.takeWhile isStyleBlank
      let (parts, left) := gaps (rest.drop run.length)
      (.blank (c :: run) :: parts, left)
    else ([], c :: rest)
  | [] => ([], [])
termination_by s.length
decreasing_by all_goals simp only [List.length_cons, List.length_drop]; omega

def normalValue (value : List Char) : List Char :=
  let tail := value.reverse.dropWhile isStyleBlank
  let word := "important".toList.reverse
  if Markup.lower (tail.take word.length) = String.ofList word then
    match (tail.drop word.length).dropWhile isStyleBlank with
    | '!' :: before => before.reverse ++ "!important".toList
    | _ => value
  else value

def allowedDeclaration? (s : List Char) : Option (List Char) :=
  let name := s.takeWhile isPropertyChar
  match (gaps (s.drop name.length)).2 with
  | ':' :: value =>
    if allowedProperties.contains (Markup.lower name) then some (name ++ ':' :: normalValue value)
    else none
  | _ => none

def pieceParts (piece : List Char) : List StylePart :=
  let (parts, left) := gaps piece
  parts ++ ((allowedDeclaration? left).map StylePart.declaration).toList

/-- Keep a part behind the parts kept so far, given in reverse: gaps only behind something else
than a gap of their kind. -/
def keepPart (kept : List StylePart) (part : StylePart) : List StylePart :=
  match part, kept with
  | .declaration _, _ => part :: kept
  | _, [] => []
  | _, last :: _ => if last.sameGap part then kept else part :: kept

def cleanStyle (style : String) : String :=
  let parts := (splitStyle none 0 [] style.toList).flatMap pieceParts
  let kept := (parts.foldl keepPart []).reverse
  String.ofList (Text.trim (kept.flatMap StylePart.text))

end PandocHtml.Sanitize
