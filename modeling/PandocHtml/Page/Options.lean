import PandocHtml.Render.Config

/-!
# Options

What a caller may ask for by name.  Options are read from a table of named values: a name that is
no option is refused, then the values that have to be valid are checked, the nesting limit before
the raw mode.  The other values are kept as they were given.
-/

namespace PandocHtml

/-! ### Tables -/

abbrev OptionTable := List (String × Json)

/-- A table with new values; a name that is not in it is refused. -/
def OptionTable.assign (table changes : OptionTable) : Except Fault OptionTable :=
  changes.foldlM
    (fun t change =>
      if (Json.lookup t change.1).isSome then .ok (Json.insertField t change.1 change.2)
      else .error (.misuse .unknownOption))
    table

/-- The value of a name; absent names are `null`. -/
def OptionTable.get (table : OptionTable) (name : String) : Json :=
  (Json.lookup table name).getD .null

def limitValue (limit : Option Limit) : Json :=
  match limit with
  | some l => l.given
  | none => .null

/-! ### The limit alone -/

structure LimitOptions where
  limit : Option Limit

namespace LimitOptions

def standard : LimitOptions := ⟨none⟩

def table (o : LimitOptions) : OptionTable := [("max_depth", limitValue o.limit)]

def ofTable [Host] (t : OptionTable) : Except Fault LimitOptions := do
  return ⟨← Limit.ofJson (t.get "max_depth")⟩

def update [Host] (o : LimitOptions) (changes : OptionTable) : Except Fault LimitOptions := do
  ofTable (← o.table.assign changes)

end LimitOptions

/-! ### Pages -/

/-- The options of a page.  Rules that are set take the place of the limit, the raw mode and the
highlighting. -/
structure PageOptions where
  limit : Option Limit
  standalone : Json
  language : Json
  title : Json
  template : Json
  rawMode : RawMode
  highlight : Json
  style : Json
  rules : Option Config

namespace PageOptions

/-- A fragment of HTML without raw content and without highlighting. -/
def standard : PageOptions where
  limit := none
  standalone := .bool false
  language := .str "en"
  title := .null
  template := .null
  rawMode := .drop
  highlight := .bool false
  style := .str "default"
  rules := none

def table (o : PageOptions) : OptionTable :=
  [("max_depth", limitValue o.limit), ("standalone", o.standalone), ("language", o.language),
   ("title", o.title), ("template_file", o.template), ("raw_mode", .str o.rawMode.name),
   ("highlight", o.highlight), ("pygments_style", o.style), ("config", .null)]

def ofTable [Host] (t : OptionTable) : Except Fault PageOptions := do
  let limit ← Limit.ofJson (t.get "max_depth")
  let rawMode ← RawMode.ofJson "raw_mode" (t.get "raw_mode")
  return {
    limit, rawMode
    standalone := t.get "standalone"
    language := t.get "language"
    title := t.get "title"
    template := t.get "template_file"
    highlight := t.get "highlight"
    style := t.get "pygments_style"
    rules := none }

def update [Host] (o : PageOptions) (changes : OptionTable) : Except Fault PageOptions := do
  return { (← ofTable (← o.table.assign changes)) with rules := o.rules }

end PageOptions

/-! ### What a renderer is given -/

inductive GivenOptions where
  | none
  | page (o : PageOptions)
  /-- Those that all kinds of rendering share, which say too little about a page. -/
  | limit (o : LimitOptions)

/-- The options of a page among those given. -/
def GivenOptions.forPage : GivenOptions → Except Fault PageOptions
  | .none => .ok .standard
  | .page o => .ok o
  | .limit _ => .error (.wrongOptions "html" "HtmlRendererOptions" "BaseRendererOptions")

end PandocHtml
