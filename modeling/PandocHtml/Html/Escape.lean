import PandocHtml.Fault

/-!
# Escaping

The characters that mean something in markup, written as references.
-/

namespace PandocHtml.Html

def escapeChar (c : Char) : List Char :=
  match c with
  | '&' => "&amp;".toList
  | '<' => "&lt;".toList
  | '>' => "&gt;".toList
  | '"' => "&quot;".toList
  | '\'' => "&#x27;".toList
  | c => [c]

def escape (s : String) : String := String.ofList (s.toList.flatMap escapeChar)

/-- A value as it stands in markup; only texts have such a form. -/
def escapeValue (v : Json) : Except Fault String :=
  match v with
  | .str s => .ok (escape s)
  | _ => .error (.misuse .escaped)

/-- A value as it stands in markup, or as it is where escaping is off. -/
def escapeWhen (enabled : Bool) (v : Json) : Except Fault Json :=
  if enabled then (escapeValue v).map .str else .ok v

def escapeMarkupChar (c : Char) : List Char :=
  match c with
  | '&' => "&amp;".toList
  | '<' => "&lt;".toList
  | '>' => "&gt;".toList
  | c => [c]

/-- A text with only the three markup characters escaped. -/
def escapeMarkup (s : String) : String := String.ofList (s.toList.flatMap escapeMarkupChar)

end PandocHtml.Html
