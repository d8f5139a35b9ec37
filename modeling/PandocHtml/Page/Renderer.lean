import PandocHtml.FileEntry
import PandocHtml.Html.StringOutput
import PandocHtml.Page.Options
import PandocHtml.Page.Template
import PandocHtml.Text.Path

/-!
# Pages

A document as HTML text: a fragment, a complete page, or a filled template.  A title or a language
that the document states is used where the options leave them open.
-/

namespace PandocHtml

namespace Page

def codeClass : String := "highlight"

def frame (language title sheet content : String) : String :=
  "\n".intercalate
    (["<!DOCTYPE html>", "<html lang=\"" ++ language ++ "\">", "<head>",
      "<meta charset=\"UTF-8\">",
      "<meta name=\"viewport\" content=\"width=device-width, initial-scale=1.0\">",
      "<title>" ++ title ++ "</title>"]
    ++ (if sheet = "" then [] else ["<style>", sheet, "</style>"])
    ++ ["</head>", "<body>", content, "</body>", "</html>"])

/-- Templates with these names are filled with escaped values. -/
def escapesIn (name : String) : Bool :=
  let lower := name.toLower
  lower.endsWith ".html" || lower.endsWith ".xml"

end Page

/-- A renderer of pages: its options, the rules it renders under, and the style sheet of its
highlighting. -/
structure PageRenderer where
  options : PageOptions
  rules : Config
  sheet : String

namespace PageRenderer

def styleOf (o : PageOptions) : Except Fault Highlight.Style :=
  match o.style with
  | .str name =>
    match Highlight.style? name with
    | some s => .ok s
    | none => .error .unknownStyle
  | _ => .error (.misuse .iterated)

/-- The renderer for options: rules that are set are used as they are, otherwise they follow from
the raw mode, the limit and the highlighting. -/
def ofOptions (o : PageOptions) : Except Fault PageRenderer :=
  match o.rules with
  | some rules => .ok ⟨o, rules, ""⟩
  | none =>
    let plain : Config := { Config.standard with raw := o.rawMode, limit := o.limit }
    if o.highlight.isTruthy then do
      let style ← styleOf o
      return ⟨o, { plain with code := .highlighted ⟨style, Page.codeClass, false⟩ },
        style.sheet Page.codeClass⟩
    else .ok ⟨o, plain, ""⟩

def ofGiven (given : GivenOptions) : Except Fault PageRenderer := do
  ofOptions (← given.forPage)

variable (r : PageRenderer)

/-- A metadata field that is there and not empty. -/
def stated (document : Document) (name : String) : Option Json :=
  (Json.lookup document.metadata name).filter Json.isTruthy

section Texts

variable [Host]

def title (document : Document) : Except Fault Json :=
  if r.options.title.isTruthy then .ok r.options.title
  else Json.str <$> ((stated document "title").getD (.str "Document")).text

def language (document : Document) : Except Fault String :=
  ((stated document "lang").getD r.options.language).text

def standalone (document : Document) (content : String) : Except Fault String := do
  let language ← r.language document
  return Page.frame (Html.escape language)
    (← Html.escapeValue (← r.title document)) r.sheet content

def scope (document : Document) (content : String) (notes : Footnotes) :
    Except Fault Page.Scope := do
  let title ← r.title document
  let language ← r.language document
  return [("content", .markup content), ("title", .value title),
    ("language", .value (.str language)), ("metadata", .value (.obj document.metadata)),
    ("footnote_count", .value (.int notes.size)), ("stylesheet", .markup r.sheet)]

end Texts

def templateText (path : String) (entry : FileEntry) : Except Fault (List Char) :=
  match entry with
  | .absent => .error (.noTemplate path)
  | .folder =>
    .error (.template (Text.shownPath path)
      (Text.quoted (Text.pathName path) ++ " not found in search path: "
        ++ Text.quoted (Text.parentPath path)))
  | .file bytes =>
    match Text.decodeUtf8 bytes with
    | some text => .ok text
    | none => .error (.template (Text.shownPath path) "the template is no text")

def filled [Host] (files : Files) (path : String) (document : Document) (content : String)
    (notes : Footnotes) : Except Fault String := do
  let text ← templateText path (files (Text.shownPath path))
  let scope ← r.scope document content notes
  let filling := do
    (← Page.refusing (Page.Template.parse text)).fill (Page.escapesIn (Text.pathName path)) scope
  match filling with
  | .ok page => return page
  | .error (.refused reason) => throw (.template (Text.shownPath path) reason)
  | .error .unwritable => throw (.overlong Host.digits none)

def render [Host] (files : Files) (document : Document) : Traced String := do
  let notes ← document.footnotes
  let content ← (r.rules.engine Html.stringOutput).onHost.renderNumbered document notes
  match r.options.template with
  | .null =>
    if r.options.standalone.isTruthy then r.standalone document content else return content
  | .str path => r.filled files path document content notes
  | _ => Traced.fail (.misuse .joined)

end PageRenderer

end PandocHtml
