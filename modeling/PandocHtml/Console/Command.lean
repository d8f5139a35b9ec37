import PandocHtml.Console.Arguments
import PandocHtml.Console.Log
import PandocHtml.Delivery
import PandocHtml.Page.Renderer
import PandocHtml.Pandoc.Load
import PandocHtml.Text.Columns

/-!
# The command

A run of the command: the command line is read, the document is loaded and rendered, and the page
goes to the console or into a file.  A run depends on nothing but its words and its surroundings,
and ends in a report of what it wrote.  Faults of the kinds that users meet are reported with an
exit code of their own; any other fault ends the run.
-/

namespace PandocHtml.Console

/-! ### Surroundings and reports -/

/-- What a run finds: the files, where a file can be written, the standard input, and the time
that a traced log shows. -/
structure Surroundings where
  files : Files
  writable : String → Bool
  input : List UInt8
  time : String

structure Written where
  path : String
  content : List UInt8

structure Report where
  exitCode : Nat
  output : String
  messages : List String
  /-- The page, when it went into a file. -/
  page : Option Written
  log : Option (String × List String)

/-! ### Texts of its own -/

def versionText : String := "docrender 1.0.0"

def usageOf (o : Opt) : String :=
  let spelling := o.spellings.headD ""
  match o.valueName with
  | some name => "[" ++ spelling ++ " " ++ name ++ "]"
  | none => "[" ++ spelling ++ "]"

def usageLine : String := "usage: docrender " ++ " ".intercalate (Opt.all.map usageOf ++ ["input"])

def helpText : String :=
  usageLine ++ "\n\nRender a Pandoc JSON document to HTML.\n\n"
    ++ "Produce input with: pandoc -t json INPUT\n"

def Report.only (exitCode : Nat) (output : String) (messages : List String) : Report :=
  ⟨exitCode, output, messages, none, none⟩

def Stop.report : Stop → Report
  | .help => .only 0 helpText []
  | .version => .only 0 (versionText ++ "\n") []
  | .usage message => .only 2 "" [usageLine, "docrender: error: " ++ message]

/-! ### A run -/

/-- The level of the log: a traced log holds everything, and so does a talkative one, unless
another level than the usual one is asked for. -/
def Settings.level (s : Settings) : Level :=
  if s.trace || (s.verbose && s.logLevel == .warning) then .debug else s.logLevel

def Settings.log (s : Settings) (around : Surroundings) : LogSetup where
  level := s.level.severity
  trace := s.trace
  file := (s.logFile.filter (· != "")).map fun path =>
    ⟨path, around.writable (Text.shownPath path)⟩

def Settings.pageOptions [Host] (s : Settings) : Except Fault PageOptions :=
  PageOptions.standard.update
    [("standalone", .bool s.standalone), ("language", .str s.language),
     ("title", (s.title.map Json.str).getD .null),
     ("template_file", (s.template.map Json.str).getD .null),
     ("raw_mode", .str s.rawMode.name), ("highlight", .bool s.highlight),
     ("pygments_style", .str s.style), ("max_depth", (s.maxDepth.map Json.int).getD .null)]

/-- The bytes of the input: those of a file, or of the standard input for a dash. -/
def inputBytes (around : Surroundings) (input : String) : Except Fault (List UInt8) :=
  if input = "-" then .ok around.input
  else
    match around.files (Text.shownPath input) with
    | .file bytes => .ok bytes
    | .folder => .error (.isFolder (Text.shownPath input))
    | .absent => .error (.noFile (Text.shownPath input))

def writePage (around : Surroundings) (path page : String) : Traced Written := do
  match ← deliver page (.file path (around.writable (Text.shownPath path))) with
  | .bytes content => do
    Traced.note (.wrote path)
    return ⟨Text.shownPath path, content⟩
  | .text s => return ⟨Text.shownPath path, Text.encodeBytes s⟩

/-- What a run makes: the page, and the file it was written to if it was. -/
def make [Host] (around : Surroundings) (r : Request) : Traced (String × Option Written) := do
  let renderer ← PageRenderer.ofOptions (← r.settings.pageOptions)
  let document ← Document.ofBytes (← inputBytes around r.input)
  let page ← renderer.render around.files document
  match r.settings.out.filter (· != "") with
  | some path => return (page, some (← writePage around path page))
  | none => return (page, none)

/-- The width of the terminal for pages in colour. -/
def terminalWidth : Nat := 80

/-- A page for a terminal: its lines, filled up to the width. -/
def terminalText (page : String) : String :=
  String.ofList ((Text.lines (Text.expandTabs (Text.unifyLineEnds page.toList))).flatMap
    fun line => Text.padTo terminalWidth line ++ ['\n'])

def shownPage (rich : Bool) (page : String) : String :=
  if rich then terminalText page else page ++ "\n"

def Request.run [Host] (around : Surroundings) (r : Request) : Except Fault Report :=
  let setup := r.settings.log around
  let made := make around r
  let report (notices : List Notice) (exitCode : Nat) (output : String) (last : List String)
      (page : Option Written) : Report :=
    let records := notices.map LogRecord.ofNotice
    ⟨exitCode, output, setup.console around.time records ++ last, page,
      (setup.fileLines around.time records).map fun lines =>
        ((setup.openFile.map LogFile.path).getD "", lines)⟩
  match made.outcome with
  | .ok (page, none) => .ok (report made.notices 0 (shownPage r.settings.rich page) [] none)
  | .ok (_, some written) => .ok (report made.notices 0 "" [] (some written))
  | .error f =>
    if f.kind.isReported then
      .ok (report (made.notices ++ [.renderFailed]) f.kind.exitCode "" ["Error: " ++ f.message]
        none)
    else .error f

def run [Host] (around : Surroundings) (words : List String) : Except Fault Report :=
  match Request.ofWords words with
  | .ok request => request.run around
  | .error stop => .ok stop.report

end PandocHtml.Console
