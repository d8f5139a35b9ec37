import PandocHtml.Host
import PandocHtml.Json.Literal
import PandocHtml.Text.Blank
import PandocHtml.Text.Line

/-!
# Templates

A template is text with places to fill.  A place names a value, or a part of one by its keys; a
name that has no value leaves its place empty, but a part of such a value is an error.  Comments
are left out.  Statements are not part of the language.
-/

namespace PandocHtml.Page

/-! ### Pieces -/

/-- What fills a place: a value by its name, or a part of it by keys from the outside in. -/
structure Reference where
  name : String
  keys : List String
deriving DecidableEq, Repr

inductive Piece where
  | text (s : String)
  | place (r : Reference)
deriving DecidableEq, Repr

abbrev Template := List Piece

/-! ### Segments -/

/-- A part of a template between marks: text, what a place holds, or what a statement holds. -/
inductive Segment where
  | text (s : List Char)
  | place (body : List Char)
  | statement (body : List Char)
deriving DecidableEq, Repr

inductive Stand where
  | inText
  | inComment
  | inPlace (quote : Option Char)
  | inStatement (quote : Option Char)
deriving DecidableEq, Repr

def quoteAfter (quote : Option Char) (c : Char) : Option Char :=
  match quote with
  | some q => if c = q then none else some q
  | none => if c = '"' ∨ c = '\'' then some c else none

/-- A text segment in front, unless it is empty. -/
def textBefore (reversed : List Char) (later : List Segment) : List Segment :=
  if reversed.isEmpty then later else .text reversed.reverse :: later

/-- The segments of a text, after the given reversed characters of the segment it begins in. -/
def segmentsFrom (stand : Stand) (reversed : List Char) :
    List Char → Except String (List Segment)
  | [] =>
    match stand with
    | .inText => .ok (textBefore reversed [])
    | .inComment => .error "Missing end of comment tag"
    | .inPlace _ => .error "unexpected end of template, expected 'end of print statement'."
    | .inStatement _ => .error "unexpected end of template, expected 'end of statement block'."
  | c :: d :: rest =>
    match stand, c, d with
    | .inText, '\x7b', '#' => do
      return textBefore reversed (← segmentsFrom .inComment [] rest)
    | .inText, '\x7b', '\x7b' => do
      return textBefore reversed (← segmentsFrom (.inPlace none) [] rest)
    | .inText, '\x7b', '%' => do
      return textBefore reversed (← segmentsFrom (.inStatement none) [] rest)
    | .inText, _, _ => segmentsFrom .inText (c :: reversed) (d :: rest)
    | .inComment, '#', '\x7d' => segmentsFrom .inText [] rest
    | .inComment, _, _ => segmentsFrom .inComment [] (d :: rest)
    | .inPlace none, '\x7d', '\x7d' => do
      return .place reversed.reverse :: (← segmentsFrom .inText [] rest)
    | .inPlace q, _, _ => segmentsFrom (.inPlace (quoteAfter q c)) (c :: reversed) (d :: rest)
    | .inStatement none, '%', '\x7d' => do
      return .statement reversed.reverse :: (← segmentsFrom .inText [] rest)
    | .inStatement q, _, _ =>
      segmentsFrom (.inStatement (quoteAfter q c)) (c :: reversed) (d :: rest)
  | [c] => segmentsFrom stand (c :: reversed) []

def segments (s : List Char) : Except String (List Segment) := segmentsFrom .inText [] s

/-! ### Words -/

inductive Word where
  | name (s : String)
  | quoted (s : String)
  | mark (c : Char)
deriving DecidableEq, Repr

def Word.shown : Word → String
  | .name s | .quoted s => s
  | .mark c => String.singleton c

inductive OpenWord where
  | none
  | name (reversed : List Char)
  | quoted (quote : Char) (reversed : List Char)

def isNameChar (c : Char) : Bool :=
  c.isAlphanum || c == '_' || (0x80 ≤ c.toNat && !Text.isBlank c)

def OpenWord.before (w : OpenWord) (later : List Word) : List Word :=
  match w with
  | .name reversed => .name (String.ofList reversed.reverse) :: later
  | _ => later

/-- The words of a text behind an open word; a quotation without an end is dropped. -/
def wordsFrom (w : OpenWord) : List Char → List Word
  | [] => w.before []
  | c :: rest =>
    match w with
    | .quoted q reversed =>
      if c = q then .quoted (String.ofList reversed.reverse) :: wordsFrom .none rest
      else wordsFrom (.quoted q (c :: reversed)) rest
    | _ =>
      if isNameChar c then
        match w with
        | .name reversed => wordsFrom (.name (c :: reversed)) rest
        | _ => wordsFrom (.name [c]) rest
      else if Text.isBlank c then w.before (wordsFrom .none rest)
      else if c = '"' ∨ c = '\'' then w.before (wordsFrom (.quoted c []) rest)
      else w.before (.mark c :: wordsFrom .none rest)

def wordsOf (s : List Char) : List Word := wordsFrom .none s

/-- The keys behind a name: after a point, or quoted in brackets. -/
def keysOf : List Word → Except String (List String)
  | [] => .ok []
  | .mark '.' :: .name key :: rest => do return key :: (← keysOf rest)
  | .mark '[' :: .quoted key :: .mark ']' :: rest => do return key :: (← keysOf rest)
  | w :: _ =>
    .error ("expected token 'end of print statement', got " ++ Text.quoted w.shown)

def referenceOf : List Word → Except String Reference
  | [] => .error "Expected an expression, got 'end of print statement'"
  | .name name :: rest => do return ⟨name, ← keysOf rest⟩
  | w :: _ => .error ("unexpected " ++ Text.quoted w.shown)

def refusal : List Word → String
  | [.name "if"] => "Expected an expression, got 'end of statement block'"
  | .name tag :: _ => "Encountered unknown tag " ++ Text.quoted tag ++ "."
  | _ => "tag name expected"

def Segment.piece : Segment → Except String Piece
  | .text s => .ok (.text (String.ofList s))
  | .place body => do return .place (← referenceOf (wordsOf body))
  | .statement body => .error (refusal (wordsOf body))

/-- A template from its text; line ends of all kinds become line feeds, and one at the end is left
out. -/
def Template.parse (s : List Char) : Except String Template := do
  (← segments (Text.dropLastLineFeed (Text.unifyLineEnds s))).mapM Segment.piece

/-! ### Filling -/

/-- A value to fill a place with; markup is never escaped. -/
inductive Filling where
  | markup (s : String)
  | value (v : Json)

/-- The values of the names in a template. -/
abbrev Scope := List (String × Filling)

/-- What a reference leads to: a filling, or nothing for a stated reason. -/
inductive Found where
  | filling (f : Filling)
  | nothing (reason : String)

def Filling.kind : Filling → String
  | .markup _ => "str object"
  | .value .null => "None"
  | .value v => v.kindName ++ " object"

def Filling.part (f : Filling) (key : String) : Found :=
  match f with
  | .value (.obj fields) =>
    match Json.lookup fields key with
    | some v => .filling (.value v)
    | none => .nothing (Text.quoted f.kind ++ " has no attribute " ++ Text.quoted key)
  | _ => .nothing (Text.quoted f.kind ++ " has no attribute " ++ Text.quoted key)

def constant? (name : String) : Option Json :=
  if name = "true" ∨ name = "True" then some (.bool true)
  else if name = "false" ∨ name = "False" then some (.bool false)
  else if name = "none" ∨ name = "None" then some .null
  else none

def Scope.find (scope : Scope) (name : String) : Found :=
  match constant? name, scope.find? (fun entry => entry.1 == name) with
  | some v, _ => .filling (.value v)
  | none, some entry => .filling entry.2
  | none, none => .nothing (Text.quoted name ++ " is undefined")

/-- Follow keys; a part of nothing is an error. -/
def Found.follow (found : Found) : List String → Except String Found
  | [] => .ok found
  | key :: rest =>
    match found with
    | .filling f => (f.part key).follow rest
    | .nothing reason => .error reason

def escapeFilledChar (c : Char) : List Char :=
  match c with
  | '&' => "&amp;".toList
  | '<' => "&lt;".toList
  | '>' => "&gt;".toList
  | '"' => "&#34;".toList
  | '\'' => "&#39;".toList
  | c => [c]

/-- Why a template is not filled: it is at fault itself, or a value for it has no text. -/
inductive Unfilled where
  | refused (reason : String)
  | unwritable

def refusing {α : Type} (x : Except String α) : Except Unfilled α := x.mapError .refused

section Texts

variable [Host]

def Found.text (escaping : Bool) : Found → Except Unfilled String
  | .nothing _ => .ok ""
  | .filling (.markup s) => .ok s
  | .filling (.value v) =>
    if v.isWritable Host.digits then
      .ok (if escaping then String.ofList (v.plain.toList.flatMap escapeFilledChar) else v.plain)
    else .error .unwritable

def Piece.fill (escaping : Bool) (scope : Scope) : Piece → Except Unfilled String
  | .text s => .ok s
  | .place r => do (← refusing ((scope.find r.name).follow r.keys)).text escaping

def Template.fill (escaping : Bool) (scope : Scope) (t : Template) : Except Unfilled String := do
  return String.join (← t.mapM (Piece.fill escaping scope))

end Texts

end PandocHtml.Page
