import PandocHtml.Highlight.Code
import PandocHtml.Render.Engine
import PandocHtml.Sanitize.Mode

/-!
# Configurations

The rules for links, code blocks and raw content that a rendering can be asked for, with its
nesting limit.
-/

namespace PandocHtml

inductive LinkRule where
  | standard
  /-- The standard rendering, with a record of the call. -/
  | traced
  /-- The address alone, or the standard rendering, inside a marked span. -/
  | wrapped
deriving DecidableEq, Repr

inductive CodeRule where
  | standard
  /-- The standard rendering, with a record of the call. -/
  | traced
  /-- The text inside an element for samples. -/
  | replaced
  /-- Highlighted code where the language is known. -/
  | highlighted (settings : Highlight.Settings)

/-- What a rendering is asked for. -/
structure Config where
  link : LinkRule
  code : CodeRule
  raw : RawMode
  limit : Option Limit

namespace Config

/-- The standard rules without a limit; raw content is left out. -/
def standard : Config := ⟨.standard, .standard, .drop, none⟩

/-! ### Rules as hooks -/

variable {β : Type}

def linkHook (rule : LinkRule) (o : Output β) (url : Json) (attrs : AttrMap)
    (inner : Option (List Inline)) (rendering : Traced β) : Traced β :=
  match rule with
  | .standard => rendering
  | .traced => do
    Traced.report (.linkCall url attrs inner)
    rendering
  | .wrapped =>
    match inner with
    | none => do
      let text ← o.text url
      o.element "span" (some (AttrMap.ofTexts [("class", "bare")])) (some text)
    | some _ => do
      let content ← rendering
      o.element "span" (some (AttrMap.ofTexts [("class", "wrapped")])) (some content)

def highlightHook (settings : Highlight.Settings) (o : Output β) (attr : Attr) (text : Json)
    (rendering : Traced β) : Traced β := do
  match ← Highlight.language? attr.classes with
  | none => do
    Traced.note (.noLexer attr.classes)
    rendering
  | some .plainText =>
    match text with
    | .str s => o.raw (.str (Highlight.highlighted settings s))
    | _ => Traced.fail (.misuse .escaped)

def codeHook (rule : CodeRule) (o : Output β) (attr : Attr) (text : Json)
    (rendering : Traced β) : Traced β :=
  match rule with
  | .standard => rendering
  | .traced => do
    Traced.report (.codeCall attr text)
    rendering
  | .replaced => do
    let attrs ← attr.toMap
    let content ← o.text text
    o.element "samp" (some attrs) (some content)
  | .highlighted settings => highlightHook settings o attr text rendering

/-- The formats of raw content that count as HTML. -/
def htmlFormats : List String := ["html", "html4", "html5"]

def escapeRaw (o : Output β) (kind : RawKind) (format text : Json) : Traced β := do
  let content ← o.text text
  let tag := match kind with
    | .block => "pre"
    | .inline => "code"
  o.element tag (some [("class", .str "raw"), ("data-format", format)]) (some content)

/-- Raw HTML under a mode; other formats are left out. -/
def htmlRaw (mode : RawMode) (o : Output β) (kind : RawKind) (format text : Json) : Traced β :=
  match format with
  | .str name =>
    if htmlFormats.contains name.toLower then
      match mode, text with
      | .passThrough, _ => o.raw text
      | _, .str s => do o.raw (.str (← mode.applyTo s))
      | _, _ => Traced.fail (.misuse .joined)
    else Hooks.dropRaw o kind format
  | _ => Traced.fail (.misuse .escaped)

def rawHook (mode : RawMode) (o : Output β) (kind : RawKind) (format text : Json) : Traced β :=
  match mode with
  | .drop => Hooks.dropRaw o kind format
  | .escape => escapeRaw o kind format text
  | _ => htmlRaw mode o kind format text

def hooks (c : Config) (o : Output β) : Hooks β where
  link := linkHook c.link o
  code := codeHook c.code o
  raw := rawHook c.raw o

def engine (c : Config) (o : Output β) : Engine β := ⟨o, c.hooks o, c.limit, none⟩

theorem standard_hooks (o : Output β) : standard.hooks o = Hooks.standard o := rfl

end Config

end PandocHtml
