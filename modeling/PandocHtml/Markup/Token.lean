import PandocHtml.Markup.Reference
import PandocHtml.Text.Blank

/-!
# Tokens of markup

Markup as a list of tags, texts and comments.  Names of tags and attributes are lower-cased,
references become characters, and the contents of scripts and style sheets are one text.  What
looks like a tag and has no end is text.
-/

namespace PandocHtml.Markup

inductive Token where
  /-- A start tag with its attributes; `closed` if it ends with a slash. -/
  | start (tag : String) (attrs : List (String × String)) (closed : Bool)
  | stop (tag : String)
  | text (s : List Char)
  | comment (s : List Char)
  | doctype (s : List Char)
  | instruction (s : List Char)
  | literal (s : List Char)
deriving Repr

/-! ### Names and attributes -/

/-- A character in lower case, for the letters of ASCII. -/
def lower (s : List Char) : String := String.ofList (s.map Char.toLower)

def endsTag (c : Char) : Bool := Text.isBlank c || c == '/' || c == '>' || c == '\x00'

def endsAttribute (c : Char) : Bool := Text.isBlank c || c == '/' || c == '>' || c == '='

def before? (c : Char) (s : List Char) : Option (List Char) :=
  if s.contains c then some (s.takeWhile (· != c)) else none

/-- The value behind the equals sign of an attribute, and how many characters it takes. -/
def attrValue (s : List Char) : List Char × Nat :=
  let bare := s.takeWhile fun c => !Text.isBlank c && c != '>'
  match s with
  | q :: rest =>
    if q = '"' ∨ q = '\'' then
      match before? q rest with
      | some value => (value, value.length + 2)
      | none => ([], 0)
    else (bare, bare.length)
  | [] => ([], 0)

def resolveValue (s : List Char) : List Char :=
  match s with
  | [] => []
  | '&' :: rest =>
    match valueReference? rest with
    | some (characters, n) => characters ++ resolveValue (rest.drop n)
    | none => '&' :: resolveValue rest
  | c :: rest => c :: resolveValue rest
termination_by s.length
decreasing_by all_goals simp only [List.length_cons, List.length_drop]; omega

/-- The attributes of a tag from behind its name to its end: whether a slash closes it, and how
many characters that takes; nothing when the tag has no end. -/
def lexAttrs (s : List Char) : Option (List (String × String) × Bool × Nat) :=
  match s with
  | [] => none
  | '>' :: _ => some ([], false, 1)
  | c :: rest =>
    if c = '/' ∧ rest.head? = some '>' then some ([], true, 2)
    else if Text.isBlank c || c == '/' then
      (lexAttrs rest).map fun (attrs, closed, n) => (attrs, closed, n + 1)
    else
      let tail := rest.takeWhile fun d => !endsAttribute d
      let behind := rest.drop tail.length
      let gap := (behind.takeWhile Text.isBlank).length
      let equals := ((behind.drop gap).takeWhile (· == '=')).length
      let skip := gap + equals + (((behind.drop (gap + equals)).takeWhile Text.isBlank).length)
      let (value, taken) :=
        if equals = 0 then ([], 0)
        else let (v, n) := attrValue (behind.drop skip); (resolveValue v, skip + n)
      let used := tail.length + taken
      (lexAttrs (rest.drop used)).map fun (attrs, closed, n) =>
        ((lower (c :: tail), String.ofList value) :: attrs, closed, n + used + 1)
termination_by s.length
decreasing_by all_goals simp only [List.length_cons, List.length_drop]; omega

/-! ### Tokens -/

/-- A tag, comment or declaration that follows an opening angle bracket, and how many characters
it takes behind the bracket; nothing when there is none or it has no end. -/
def tagToken? (s : List Char) : Option (Token × Nat) :=
  match s with
  | '/' :: rest =>
    match rest with
    | c :: _ =>
      if c.isAlpha then
        let name := rest.takeWhile fun d => !endsTag d
        (before? '>' rest).map fun inner => (.stop (lower name), inner.length + 2)
      else if c = '>' then some (.text [], 2)
      else (before? '>' rest).map fun inner => (.comment inner, inner.length + 2)
    | [] => none
  | '!' :: '-' :: '-' :: rest => (endOfComment rest).map fun n => (.comment (rest.take n), n + 6)
  | '!' :: '[' :: rest => literalSection? rest
  | '!' :: rest =>
    (before? '>' rest).map fun inner =>
      if lower (inner.take 7) = "doctype" then (.doctype (inner.drop 8), inner.length + 2)
      else (.comment inner, inner.length + 2)
  | '?' :: rest => (before? '>' rest).map fun inner => (.instruction inner, inner.length + 2)
  | c :: rest =>
    if c.isAlpha then
      let name := rest.takeWhile fun d => !endsTag d
      (lexAttrs (rest.drop name.length)).map fun (attrs, closed, n) =>
        (.start (lower (c :: name)) attrs closed, name.length + n + 1)
    else none
  | [] => none
where
  /-- The length of the text of a comment that ends with two dashes and a bracket. -/
  endOfComment : List Char → Option Nat
    | '-' :: '-' :: '>' :: _ => some 0
    | _ :: rest => (endOfComment rest).map (· + 1)
    | [] => none
  /-- The length of the text of a literal section that ends with two brackets and an angle. -/
  endOfLiteral : List Char → Option Nat
    | ']' :: ']' :: '>' :: _ => some 0
    | _ :: rest => (endOfLiteral rest).map (· + 1)
    | [] => none
  /-- A literal section behind its first bracket; any other bracket begins a comment. -/
  literalSection? (s : List Char) : Option (Token × Nat) :=
    if lower (s.take 6) = "cdata[" then
      (endOfLiteral (s.drop 6)).map fun n => (.literal ((s.drop 6).take n), n + 11)
    else (before? '>' s).map fun inner => (.comment ('[' :: inner), inner.length + 3)

/-- One token at the front of markup, and how many characters it takes behind the first. -/
def lexeme (c : Char) (rest : List Char) : Token × Nat :=
  if c = '<' then (tagToken? rest).getD (.text ['<'], 0)
  else if c = '&' then
    let (text, n) := textReference rest
    (.text text, n)
  else
    let run := rest.takeWhile fun d => d != '<' && d != '&'
    (.text (c :: run), run.length)

def startsEndTag (tag : String) (s : List Char) : Bool :=
  match s with
  | '<' :: '/' :: rest =>
    let n := tag.length
    lower (rest.take n) == tag && (rest.drop n).head?.any endsTag
  | _ => false

def verbatim (tag : String) : List Char → List Char
  | [] => []
  | c :: rest => if startsEndTag tag (c :: rest) then [] else c :: verbatim tag rest

def isVerbatimTag (tag : String) : Bool := tag == "script" || tag == "style"

def scan (s : List Char) : List Token :=
  match s with
  | [] => []
  | c :: rest =>
    let (t, n) := lexeme c rest
    let after := rest.drop n
    match t with
    | .start tag _ false =>
      if isVerbatimTag tag then
        let inner := verbatim tag after
        t :: .text inner :: scan (after.drop inner.length)
      else t :: scan after
    | _ => t :: scan after
termination_by s.length
decreasing_by all_goals simp only [List.length_cons, List.length_drop]; omega

end PandocHtml.Markup
