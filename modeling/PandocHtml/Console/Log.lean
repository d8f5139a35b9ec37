import PandocHtml.Notice
import PandocHtml.Text.Line

/-!
# The log

Records come from loggers with dotted names.  The program's own loggers pass what its level
admits; all others pass what the common level admits, which is never more than warnings unless
the log is traced.  What passes is written to the console and, if there is one, to the log file,
each of which has the level of the log once more.
-/

namespace PandocHtml.Console

/-! ### Records and levels -/

structure LogRecord where
  logger : String
  severity : Int
  text : String

def LogRecord.ofNotice (n : Notice) : LogRecord := ⟨n.source, n.level.severity, n.text⟩

/-- The name of a severity: that of its level, or its number. -/
def severityName (severity : Int) : String :=
  match Level.all.find? fun l => l.severity == severity with
  | some l => l.name
  | none => if severity = 0 then "NOTSET" else "Level " ++ toString severity

def levelNames : List (String × Int) :=
  Level.all.map (fun l => (l.name, l.severity))
    ++ [("WARN", Level.warning.severity), ("FATAL", Level.critical.severity), ("NOTSET", 0)]

/-- The severity of a level asked for by name, whatever its case; unknown names mean the level of
ordinary messages. -/
def severityNamed (name : String) : Int :=
  ((levelNames.find? fun l => l.1 == name.toUpper).map (·.2)).getD Level.info.severity

/-- The severity of a level asked for by a value: its number, or a name. -/
def severityOf (v : Json) : Int :=
  match v with
  | .int n => n
  | .bool b => if b then 1 else 0
  | v => severityNamed v.plain

/-! ### The set-up -/

/-- The name of the program's own loggers; other loggers of its own have it in front. -/
def packageName : String := "docrender"

structure LogFile where
  path : String
  writable : Bool

structure LogSetup where
  level : Int
  trace : Bool
  file : Option LogFile

namespace LogSetup

def commonLevel (s : LogSetup) : Int :=
  if s.trace then s.level else max s.level Level.warning.severity

def isOwn (logger : String) : Bool :=
  logger == packageName || logger.startsWith (packageName ++ ".")

/-- The level that a logger goes by; the program's own level counts unless it is zero. -/
def levelOf (s : LogSetup) (logger : String) : Int :=
  if isOwn logger && s.level != 0 then s.level else s.commonLevel

def admits (s : LogSetup) (r : LogRecord) : Bool :=
  0 < r.severity && s.levelOf r.logger ≤ r.severity

def writes (s : LogSetup) (r : LogRecord) : Bool := s.admits r && s.level ≤ r.severity

def openFile (s : LogSetup) : Option LogFile := s.file.filter LogFile.writable

def line (s : LogSetup) (time : String) (r : LogRecord) : String :=
  if s.trace then
    "[" ++ time ++ "] [" ++ severityName r.severity ++ "] [" ++ r.logger ++ "] " ++ r.text
  else severityName r.severity ++ ": " ++ r.text

def lines (s : LogSetup) (time : String) (records : List LogRecord) : List String :=
  (records.filter s.writes).map (s.line time)

/-- The records with which a log begins: the file it goes to. -/
def opening (s : LogSetup) : List LogRecord :=
  match s.openFile with
  | some f => [.ofNotice (.loggingTo f.path)]
  | none => []

/-- What is said about a log file that cannot be created, before there is a log to write it to. -/
def complaint (s : LogSetup) : List String :=
  match s.file with
  | some f =>
    let record := LogRecord.ofNotice (.noLogFile f.path)
    if !f.writable && s.admits record then [record.text] else []
  | none => []

def console (s : LogSetup) (time : String) (records : List LogRecord) : List String :=
  s.complaint ++ s.lines time (s.opening ++ records)

/-- The lines that go to the file of a log with these records. -/
def fileLines (s : LogSetup) (time : String) (records : List LogRecord) : Option (List String) :=
  s.openFile.map fun _ => s.lines time (s.opening ++ records)

def handlerNames (s : LogSetup) : List String :=
  "StreamHandler" :: if s.openFile.isSome then ["FileHandler"] else []

/-- A traced log holds every record of every logger from its level on. -/
theorem writes_of_trace (s : LogSetup) (r : LogRecord) (ht : s.trace = true) :
    s.writes r = (decide (0 < r.severity) && decide (s.level ≤ r.severity)) := by
  have h : s.levelOf r.logger = s.level := by
    simp [levelOf, commonLevel, ht]
  simp only [writes, admits, h, Bool.and_assoc, Bool.and_self]

end LogSetup

end PandocHtml.Console
