import PandocHtml.Document.Attr
import PandocHtml.Highlight.Style
import PandocHtml.Html.Escape
import PandocHtml.Text.Line

/-!
# Highlighted code

The language of a code block is the first of its classes that names one.  Plain text is the only
language that is known; it has a single kind of token, so its highlighting is the text itself in
the frame that all highlighted code stands in.
-/

namespace PandocHtml.Highlight

structure Settings where
  style : Style
  cssClass : String
  inlineStyles : Bool

inductive Language where
  | plainText
deriving DecidableEq, Repr

def Language.name : Language → String
  | .plainText => "Text only"

def languageNamed? (name : String) : Option Language :=
  if name.toLower = "text" then some .plainText else none

def languagePart (cssClass : String) : String :=
  let lead := "language-".toList
  let cs := cssClass.toList
  if lead.isPrefixOf cs then String.ofList (cs.drop lead.length) else cssClass

/-- The language of a code block: that of the first class that names one. -/
def language? : List Json → Except Fault (Option Language)
  | [] => .ok none
  | .str cssClass :: rest =>
    match languageNamed? (languagePart cssClass) with
    | some l => .ok (some l)
    | none => language? rest
  | _ :: _ => .error (.misuse .escaped)

/-- A text as it is highlighted: without a byte order mark and without empty lines at its ends,
each line with its line feed. -/
def preparedText (s : String) : String :=
  let cs := s.toList
  let cs := if cs.head? == some '\uFEFF' then cs.drop 1 else cs
  let cs := (Text.unifyLineEnds cs).dropWhile (· == '\n')
  String.ofList ((cs.reverse.dropWhile (· == '\n')).reverse ++ ['\n'])

def highlighted (settings : Settings) (s : String) : String :=
  let cssClass := if settings.cssClass = "" then "" else " class=\"" ++ settings.cssClass ++ "\""
  let background :=
    if settings.inlineStyles then " style=\"background: " ++ settings.style.background ++ "\""
    else ""
  let spacing := if settings.inlineStyles then " style=\"line-height: 125%;\"" else ""
  "<div" ++ cssClass ++ background ++ "><pre" ++ spacing ++ "><span></span>"
    ++ Html.escapeMarkup (preparedText s) ++ "</pre></div>\n"

end PandocHtml.Highlight
