import PandocHtml.Host
import PandocHtml.Json.Literal

/-!
# Faults

Everything that can stop a reading, a rendering or a delivery, one constructor for each cause.
The kind of a fault decides which callers handle it and with which exit code; its message is the
wording shown to the user.
-/

namespace PandocHtml

/-! ### Kinds -/

/-- The families of faults.  The first six are the program's own and form a tree; the others
come from the values and files it is given. -/
inductive FaultKind where
  | general
  | validation
  | wrongOptions
  | parsing
  | rendering
  | delivery
  | badValue
  | system
  | argument
  | misuse
deriving DecidableEq, Repr

namespace FaultKind

/-- The next wider family of the program's own faults. -/
def wider : FaultKind → Option FaultKind
  | .validation | .parsing | .rendering => some .general
  | .wrongOptions => some .validation
  | .delivery => some .rendering
  | _ => none

/-- A family with the wider families around it, narrowest first; empty outside the program's own. -/
def lineage : FaultKind → List FaultKind
  | .general => [.general]
  | .validation => [.validation, .general]
  | .wrongOptions => [.wrongOptions, .validation, .general]
  | .parsing => [.parsing, .general]
  | .rendering => [.rendering, .general]
  | .delivery => [.delivery, .rendering, .general]
  | _ => []

/-- The exit code of the command line for a fault of this kind. -/
def exitCode : FaultKind → Nat
  | .validation | .wrongOptions | .badValue => 3
  | .delivery | .system => 4
  | .parsing => 6
  | .rendering => 7
  | _ => 1

/-- The command line reports these faults; the others escape it. -/
def isReported (k : FaultKind) : Bool :=
  !k.lineage.isEmpty || k == .badValue || k == .system

theorem lineage_of_wider {k w : FaultKind} (h : k.wider = some w) : k.lineage = k :: w.lineage := by
  cases k <;> simp only [wider, reduceCtorEq, Option.some.injEq] at h <;> subst h <;> rfl

end FaultKind

/-! ### Causes -/

/-- How a value can fail to be what an operation needs. -/
inductive Misuse where
  /-- It was joined with text and is no text. -/
  | joined
  /-- It was iterated and has no items. -/
  | iterated
  /-- It was compared with a number and has no order. -/
  | compared
  /-- It was looked up in a table and cannot be a key. -/
  | keyed
  /-- A part of it was taken and it has no parts. -/
  | sliced
  /-- It names no field of the options. -/
  | unknownOption
  | unwritable
  /-- It was escaped and is no text. -/
  | escaped
  /-- Its fields were asked for and it is no object. -/
  | fields
  /-- Its children were asked for and it is no node. -/
  | children
deriving DecidableEq, Repr

structure NotAMember where
  value : Json
  family : String

inductive Fault where
  /-- The contents of an element do not have the shape its tag asks for. -/
  | malformed (tag stage : String) (detail : Option NotAMember)
  | unknownTag (stage : String) (tag : Json)
  | unknownMeta (tag : Json)
  | noBlocks
  /-- The text is no JSON, or the bytes are no text. -/
  | badJson (reason : Option String)
  | notANode (wanted kind literal : String)
  | template (name reason : String)
  | undelivered (path : String)
  /-- A renderer was given the options of another. -/
  | wrongOptions (renderer expected received : String)
  | badRawMode (label : String) (mode : Json)
  | badCleaning (mode : Json)
  | badDepth (limit : Json)
  | badArgument (wording : String)
  /-- A whole number has more digits than the bound where it meets text; when it was read from text
  they were counted. -/
  | overlong (digits : Option Nat) (count : Option Nat)
  | noTemplate (name : String)
  | noFile (path : String)
  | isFolder (path : String)
  | unknownBody
  | unknownStyle
  | misuse (how : Misuse)

namespace Fault

def rawModeNames : List String := ["pass-through", "escape", "drop", "sanitize"]

def kind : Fault → FaultKind
  | .malformed .. | .unknownTag .. | .unknownMeta _ | .noBlocks | .badJson _ => .parsing
  | .notANode .. | .template .. => .rendering
  | .undelivered _ => .delivery
  | .wrongOptions .. => .wrongOptions
  | .badRawMode .. | .badCleaning _ | .badDepth _ | .overlong .. => .badValue
  | .badArgument _ => .argument
  | .noTemplate _ | .noFile _ | .isFolder _ => .system
  | .unknownBody | .unknownStyle | .misuse _ => .misuse

def stage : Fault → Option String
  | .malformed _ stage _ | .unknownTag stage _ => some stage
  | .unknownMeta _ => some "meta"
  | .noBlocks => some "document"
  | .badJson _ => some "json"
  | .notANode wanted .. => some wanted
  | .template .. => some "template"
  | .undelivered _ => some "file_write"
  | _ => none

def wrongOptionsWording (renderer expected received : String) : String :=
  renderer ++ " expected options of type '" ++ expected ++ "' but received '" ++ received
    ++ "'. Please provide the correct options type for the renderer."

def undeliveredWording (path : String) : String := "Failed to write output file: " ++ path

def noFileWording (path : String) : String :=
  "[Errno 2] No such file or directory: " ++ Text.quoted path

def message : Fault → String
  | .malformed tag stage detail =>
    "Malformed " ++ tag ++ " " ++ stage ++
      match detail with
      | some d => ": " ++ d.value.literal ++ " is not a valid " ++ d.family
      | none => ""
  | .unknownTag stage tag => "Unknown " ++ stage ++ " type: " ++ tag.literal
  | .unknownMeta tag => "Unknown meta value type: " ++ tag.literal
  | .noBlocks => "Not a Pandoc JSON document: missing 'blocks'"
  | .badJson (some reason) => "Invalid JSON: " ++ reason
  | .badJson none => "Invalid JSON"
  | .notANode wanted kind literal =>
    "Expected a " ++ wanted ++ " node, got " ++ kind ++ ": " ++ literal
  | .template name reason => "Failed to render template " ++ name ++ ": " ++ reason
  | .undelivered path => undeliveredWording path
  | .wrongOptions renderer expected received => wrongOptionsWording renderer expected received
  | .badRawMode label mode =>
    "Invalid " ++ label ++ ": " ++ mode.literal ++ ". Must be one of "
      ++ Text.quotedList rawModeNames
  | .badCleaning mode => "Unknown sanitization mode: " ++ mode.literal
  | .badDepth limit => "max_depth must be positive, got " ++ limit.plain
  | .badArgument wording => wording
  | .overlong digits count =>
    "Exceeds the limit (" ++ toString (digits.getD 0) ++ " digits) for integer string conversion"
      ++ (match count with
        | some n => ": value has " ++ toString n ++ " digits"
        | none => "")
      ++ "; use sys.set_int_max_str_digits() to increase the limit"
  | .noTemplate name => "Template file not found: " ++ name
  | .noFile path => noFileWording path
  | .isFolder path => "[Errno 21] Is a directory: " ++ Text.quoted path
  | .unknownBody => ""
  | .unknownStyle => ""
  | .misuse _ => ""

/-- A fault whose message shows a value, unless the value has no text. -/
def showing [Host] (v : Json) (f : Fault) : Fault :=
  if v.isWritable Host.digits then f else .overlong Host.digits none

end Fault

/-- The plain form of a value. -/
def Json.text [Host] (v : Json) : Except Fault String :=
  if v.isWritable Host.digits then .ok v.plain else .error (.overlong Host.digits none)

end PandocHtml
