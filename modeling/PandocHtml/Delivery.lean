import PandocHtml.Fault
import PandocHtml.Text.Encoding

/-!
# Delivery

Where finished text goes: into a file, as bytes, or into a stream, as bytes or as text, whichever
the stream takes.  Line ends are not changed.
-/

namespace PandocHtml

/-- What a stream tells about the form it takes. -/
inductive StreamKind where
  | bytes
  | text
  /-- Nothing but a mode, if it has one. -/
  | stated (mode : Option Json)

/-- A stream takes bytes when it is known to, or when its mode names them. -/
def StreamKind.takesBytes : StreamKind → Bool
  | .bytes => true
  | .text => false
  | .stated (some (.str mode)) => mode.toList.contains 'b'
  | .stated _ => false

inductive Destination where
  | file (path : String) (writable : Bool)
  /-- An open stream, which may have a name and may be broken. -/
  | stream (kind : StreamKind) (name : Option String) (broken : Bool)
  | other

inductive Delivered where
  | bytes (content : List UInt8)
  | text (content : String)

def deliver (content : String) : Destination → Except Fault Delivered
  | .file path writable =>
    if writable then .ok (.bytes (Text.encodeBytes content)) else .error (.undelivered path)
  | .stream kind name broken =>
    if broken then .error (.undelivered (name.getD "<stream>"))
    else if kind.takesBytes then .ok (.bytes (Text.encodeBytes content))
    else .ok (.text content)
  | .other => .error (.misuse .unwritable)

end PandocHtml
