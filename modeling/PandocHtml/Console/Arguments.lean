import PandocHtml.Highlight.Style
import PandocHtml.Notice
import PandocHtml.Sanitize.Mode
import PandocHtml.Text.Numeral
import PandocHtml.Text.Similarity

/-!
# The command line

What the words of a command line ask for.  Options stand anywhere among the words, long ones may
be shortened as long as they stay unambiguous, a value follows its option or is attached to it,
and two dashes end the options.  The first word that is left is the input.
-/

namespace PandocHtml.Console

/-! ### Options -/

inductive Opt where
  | help | out | version | standalone | title | language | template | rawMode | highlight
  | style | maxDepth | rich | logLevel | logFile | verbose | trace
deriving DecidableEq, Repr

namespace Opt

/-- The options, in the order in which messages list them. -/
def all : List Opt :=
  [.help, .out, .version, .standalone, .title, .language, .template, .rawMode, .highlight,
   .style, .maxDepth, .rich, .logLevel, .logFile, .verbose, .trace]

def spellings : Opt → List String
  | .help => ["-h", "--help"]
  | .out => ["-o", "--out"]
  | .version => ["--version"]
  | .standalone => ["--standalone"]
  | .title => ["--title"]
  | .language => ["--language"]
  | .template => ["--template"]
  | .rawMode => ["--raw-mode"]
  | .highlight => ["--highlight"]
  | .style => ["--pygments-style"]
  | .maxDepth => ["--max-depth"]
  | .rich => ["--rich"]
  | .logLevel => ["--log-level"]
  | .logFile => ["--log-file"]
  | .verbose => ["--verbose"]
  | .trace => ["--trace"]

/-- What an option's value is called; flags have no value. -/
def valueName : Opt → Option String
  | .out => some "OUT"
  | .title => some "TITLE"
  | .language => some "LANGUAGE"
  | .template | .logFile => some "FILE"
  | .rawMode => some "MODE"
  | .style => some "STYLE"
  | .maxDepth => some "N"
  | .logLevel => some "LEVEL"
  | _ => none

def takesValue (o : Opt) : Bool := o.valueName.isSome

def label (o : Opt) : String := "/".intercalate o.spellings

end Opt

def spellings : List (String × Opt) :=
  Opt.all.flatMap fun o => o.spellings.map fun s => (s, o)

def optionOf? (spelling : String) : Option Opt :=
  (spellings.find? fun p => p.1 == spelling).map (·.2)

/-! ### Words -/

inductive Argument where
  | value (s : String)
  | dashes
  | option (o : Opt) (attached : Option String)
  | unknown (s : String)

def splitAtEquals (word : String) : String × Option String :=
  let cs := word.toList
  match cs.dropWhile (· != '=') with
  | _ :: value => (String.ofList (cs.takeWhile (· != '=')), some (String.ofList value))
  | [] => (word, none)

/-- The options that a word may mean, each with its spelling and the attached value. -/
def candidates (word : String) : List (String × Opt × Option String) :=
  match word.toList with
  | '-' :: '-' :: _ =>
    let (start, value) := splitAtEquals word
    (spellings.filter fun p => p.1.startsWith start).map fun p => (p.1, p.2, value)
  | '-' :: c :: rest =>
    spellings.filterMap fun p =>
      if p.1.toList = ['-', c] then some (p.1, p.2, some (String.ofList rest))
      else if p.1.startsWith word then some (p.1, p.2, none)
      else none
  | _ => []

def isUnsignedNumber (cs : List Char) : Bool :=
  let isDigit := fun c => (Text.digitValue? c).isSome
  let whole := cs.takeWhile isDigit
  match cs.dropWhile isDigit with
  | [] => !whole.isEmpty
  | '.' :: fraction => !fraction.isEmpty && fraction.all isDigit
  | _ => false

/-- A word that looks like a negative number, which is a value. -/
def isNegativeNumber (word : String) : Bool :=
  match word.toList with
  | '-' :: rest => isUnsignedNumber rest
  | _ => false

/-- What a word with a dash in front is, when it is no spelling of an option: a shortened option, a
number, a text with blanks, or nothing that is known.  A word that may mean several options is an
error. -/
def readShortened (word : String) : Except String Argument :=
  match candidates word with
  | [(_, o, value)] => .ok (.option o value)
  | [] =>
    if isNegativeNumber word || word.toList.contains ' ' then .ok (.value word)
    else .ok (.unknown word)
  | several =>
    .error ("ambiguous option: " ++ word ++ " could match "
      ++ ", ".intercalate (several.map (·.1)))

def readWord (word : String) : Except String Argument :=
  if word.startsWith "-" && word != "-" then
    match optionOf? word with
    | some o => .ok (.option o none)
    | none =>
      match splitAtEquals word with
      | (spelling, some value) =>
        match optionOf? spelling with
        | some o => .ok (.option o (some value))
        | none => readShortened word
      | _ => readShortened word
  else .ok (.value word)

def readWords : List String → Except String (List Argument)
  | [] => .ok []
  | word :: rest =>
    if word = "--" then .ok (.dashes :: rest.map .value)
    else do
      let first ← readWord word
      return first :: (← readWords rest)

/-! ### Values -/

def positiveInteger [Host] (s : String) : Except Fault Int :=
  match Text.integer? s with
  | none => .error (.badArgument ("Expected an integer, got " ++ Text.quoted s))
  | some n =>
    if n < 1 then .error (.badArgument ("Expected a positive integer, got " ++ toString n))
    else .ok n

/-- The name of a highlighting style; for another name similar ones are offered. -/
def styleName (s : String) : Except Fault String :=
  if Highlight.styleNames.contains s then .ok s
  else
    let similar := Text.closeMatches s Highlight.styleNames
    let hint :=
      if similar.isEmpty then "" else " Did you mean: " ++ ", ".intercalate similar ++ "?"
    .error (.badArgument ("Invalid Pygments style '" ++ s ++ "'." ++ hint
      ++ " See https://pygments.org/styles/ for full list."))

def choice {α : Type} (choices : List (String × α)) (s : String) : Except Fault α :=
  match choiceOf choices s with
  | some a => .ok a
  | none =>
    .error (.badArgument ("invalid choice: " ++ Text.quoted s ++ " (choose from "
      ++ ", ".intercalate (choices.map fun c => Text.quoted c.1) ++ ")"))

def levelChoices : List (String × Level) := Level.all.map fun l => (l.name, l)

/-! ### Requests -/

/-- What a command line asks for, apart from its input. -/
structure Settings where
  out : Option String
  standalone : Bool
  title : Option String
  language : String
  template : Option String
  rawMode : RawMode
  highlight : Bool
  style : String
  maxDepth : Option Int
  rich : Bool
  logLevel : Level
  logFile : Option String
  verbose : Bool
  trace : Bool

def Settings.standard : Settings where
  out := none
  standalone := false
  title := none
  language := "en"
  template := none
  rawMode := .drop
  highlight := false
  style := "default"
  maxDepth := none
  rich := false
  logLevel := .warning
  logFile := none
  verbose := false
  trace := false

def Settings.raise (s : Settings) : Opt → Settings
  | .standalone => { s with standalone := true }
  | .highlight => { s with highlight := true }
  | .rich => { s with rich := true }
  | .verbose => { s with verbose := true }
  | .trace => { s with trace := true }
  | _ => s

def Settings.assign [Host] (s : Settings) (o : Opt) (value : String) : Except Fault Settings :=
  match o with
  | .out => .ok { s with out := some value }
  | .title => .ok { s with title := some value }
  | .language => .ok { s with language := value }
  | .template => .ok { s with template := some value }
  | .logFile => .ok { s with logFile := some value }
  | .rawMode => do return { s with rawMode := ← choice RawMode.names value }
  | .style => do return { s with style := ← styleName value }
  | .maxDepth => do return { s with maxDepth := some (← positiveInteger value) }
  | .logLevel => do return { s with logLevel := ← choice levelChoices value }
  | _ => .ok s

inductive Stop where
  | help
  | version
  | usage (message : String)
deriving DecidableEq, Repr

def refused (o : Opt) (message : String) : Stop :=
  .usage ("argument " ++ o.label ++ ": " ++ message)

/-- What was gathered from some of the words: the settings, the input, and the words for which
there is no use. -/
structure Gathered where
  settings : Settings
  input : Option String
  extra : List String

namespace Gathered

def start : Gathered := ⟨.standard, none, []⟩

/-- With a word that is no option: the input, or a word too many. -/
def addValue (g : Gathered) (s : String) : Gathered :=
  if g.input.isNone then { g with input := some s } else { g with extra := g.extra ++ [s] }

def addExtra (g : Gathered) (s : String) : Gathered := { g with extra := g.extra ++ [s] }

def addFlag (g : Gathered) : Opt → Except Stop Gathered
  | .help => .error .help
  | .version => .error .version
  | o => .ok { g with settings := g.settings.raise o }

def addOption [Host] (g : Gathered) (o : Opt) (value : String) : Except Stop Gathered :=
  match g.settings.assign o value with
  | .ok settings => .ok { g with settings }
  | .error f => .error (refused o f.message)

end Gathered

/-- Gather what the words of a command line ask for.  Two dashes beside the input belong to it. -/
def gather [Host] (g : Gathered) : List Argument → Except Stop Gathered
  | [] => .ok g
  | .value s :: .dashes :: rest =>
    if g.input.isNone then gather (g.addValue s) rest
    else gather ((g.addValue s).addExtra "--") rest
  | .value s :: rest => gather (g.addValue s) rest
  | .dashes :: rest =>
    if g.input.isNone && !rest.isEmpty then gather g rest else gather (g.addExtra "--") rest
  | .unknown s :: rest => gather (g.addExtra s) rest
  | .option o (some value) :: rest =>
    if o.takesValue then do gather (← g.addOption o value) rest
    else .error (refused o ("ignored explicit argument " ++ Text.quoted value))
  | .option o none :: rest =>
    if o.takesValue then
      match rest with
      | .value s :: later => do gather (← g.addOption o s) later
      | _ => .error (refused o "expected one argument")
    else do gather (← g.addFlag o) rest

structure Request where
  input : String
  settings : Settings

def Request.ofWords [Host] (words : List String) : Except Stop Request :=
  match readWords words with
  | .error message => .error (.usage message)
  | .ok arguments => do
    let g ← gather .start arguments
    match g.input, g.extra with
    | none, _ => throw (.usage "the following arguments are required: input")
    | some input, [] => return ⟨input, g.settings⟩
    | some _, extra => throw (.usage ("unrecognized arguments: " ++ " ".intercalate extra))

end PandocHtml.Console
