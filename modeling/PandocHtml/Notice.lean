import PandocHtml.Document.Tree

/-!
# Notices

What the program reports while it works.  A notice has a level, a wording and the part of the
program it comes from, under which a log can place it.
-/

namespace PandocHtml

/-- The levels of a log, least severe first. -/
inductive Level where
  | debug | info | warning | error | critical
deriving DecidableEq, Repr

namespace Level

def all : List Level := [.debug, .info, .warning, .error, .critical]

def name : Level → String
  | .debug => "DEBUG"
  | .info => "INFO"
  | .warning => "WARNING"
  | .error => "ERROR"
  | .critical => "CRITICAL"

def severity : Level → Int
  | .debug => 10
  | .info => 20
  | .warning => 30
  | .error => 40
  | .critical => 50

end Level

inductive RawKind where
  | block | inline
deriving DecidableEq, Repr

def RawKind.name : RawKind → String
  | .block => "block"
  | .inline => "inline"

inductive Notice where
  | decoded (blocks : Nat)
  | otherVersion (version : String)
  | repeatedNote (number : Nat)
  | collected (count : Nat)
  | droppedRaw (kind : RawKind) (format : Json)
  /-- An attribute was left out because its name cannot be written. -/
  | droppedAttribute (name : String)
  | citations (keys : String)
  | tooDeep (limit : String)
  | noLexer (classes : List Json)
  | removedElements (count : Nat)
  | wrote (path : String)
  | renderFailed
  /-- Log records also go to a file. -/
  | loggingTo (path : String)
  | noLogFile (path : String)
deriving Inhabited

namespace Notice

def level : Notice → Level
  | .decoded _ | .repeatedNote _ | .collected _ | .droppedRaw .. | .noLexer _
  | .removedElements _ | .renderFailed => .debug
  | .wrote _ | .loggingTo _ => .info
  | .otherVersion _ | .droppedAttribute _ | .citations _ | .tooDeep _ | .noLogFile _ => .warning

def source : Notice → String
  | .decoded _ | .otherVersion _ => "docrender.ast.serialization"
  | .repeatedNote _ | .collected _ => "docrender.footnotes"
  | .droppedRaw .. => "docrender.hooks"
  | .droppedAttribute _ => "docrender.utils.html_utils"
  | .citations _ | .tooDeep _ => "docrender.renderers.engine"
  | .noLexer _ => "docrender.highlighting"
  | .removedElements _ => "docrender.utils.html_sanitizer"
  | .wrote _ | .renderFailed => "docrender.cli"
  | .loggingTo _ | .noLogFile _ => "docrender"

def text : Notice → String
  | .decoded blocks => "Decoded document with " ++ toString blocks ++ " top-level blocks"
  | .otherVersion version =>
    "Pandoc API version " ++ version ++ " differs from supported 1.23; decoding may be incomplete"
  | .repeatedNote number => "Footnote " ++ toString number ++ " is referenced more than once"
  | .collected count => "Collected " ++ toString count ++ " distinct footnotes"
  | .droppedRaw kind format =>
    "Dropped raw " ++ kind.name ++ " content in format " ++ format.literal
  | .droppedAttribute name => "Dropped attribute with invalid name " ++ Text.quoted name
  | .citations keys => "Citations are not supported; rendering a diagnostic for " ++ keys
  | .tooDeep limit =>
    "Maximum nesting depth " ++ limit ++ " exceeded; subtree replaced by a diagnostic"
  | .noLexer classes =>
    "No lexer for code block classes " ++ (Json.arr classes).literal ++ "; rendering plain"
  | .removedElements count =>
    "Removed " ++ toString count ++ " dangerous element(s) from raw HTML"
  | .wrote path => "Wrote " ++ path
  | .renderFailed => "Render failed"
  | .loggingTo path => "Logging to file: " ++ path
  | .noLogFile path =>
    "Could not create log file " ++ path ++ ": " ++ Fault.noFileWording path

end Notice

end PandocHtml
