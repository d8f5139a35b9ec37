import PandocHtml.Console.Command
import Std.Time.Format

/-!
# The program

Looks up what a run of the command needs, carries it out, and writes what its report says.
-/

namespace PandocHtml.Main

open PandocHtml.Console

/-- What stands at a path: a folder can be opened like a file but not be read. -/
def entryAt (path : String) : IO FileEntry := do
  try
    return .file (← IO.FS.readBinFile path).data.toList
  catch
    | .inappropriateType none .. => return .folder
    | _ => return .absent

/-- A file can be written at a path: its folder is there, and no folder stands in its place. -/
def isWritable (path : String) : IO Bool := do
  match ← entryAt path, ← entryAt (Text.parentPath path) with
  | .folder, _ => return false
  | _, .folder => return true
  | _, _ => return false

partial def readAll (stream : IO.FS.Stream) (before : ByteArray) : IO ByteArray := do
  let chunk ← stream.read 65536
  if chunk.isEmpty then return before
  readAll stream (before ++ chunk)

def pathsRead (r : Request) : List String :=
  (r.input :: r.settings.template.toList).map Text.shownPath

def pathsWritten (r : Request) : List String :=
  (r.settings.out.toList ++ r.settings.logFile.toList).map Text.shownPath

def lookAround (r : Request) : IO Surroundings := do
  let entries ← (pathsRead r).mapM fun path => return (path, ← entryAt path)
  let writable ← (pathsWritten r).filterM isWritable
  let input ← if r.input = "-" then readAll (← IO.getStdin) .empty else pure .empty
  let time := (← Std.Time.PlainDateTime.now).format "uuuu-MM-dd HH:mm:ss"
  return {
    files := fun path => ((entries.find? fun e => e.1 == path).map (·.2)).getD .absent
    writable := writable.contains
    input := input.data.toList
    time }

def carryOut (report : Report) : IO UInt32 := do
  if let some page := report.page then
    IO.FS.writeBinFile page.path ⟨page.content.toArray⟩
  if let some (path, lines) := report.log then
    let file ← IO.FS.Handle.mk path .append
    for line in lines do
      file.putStrLn line
  IO.print report.output
  for line in report.messages do
    IO.eprintln line
  return report.exitCode.toUInt32

end PandocHtml.Main

open PandocHtml PandocHtml.Console in
def main (words : List String) : IO UInt32 := do
  match Request.ofWords words with
  | .error stop => Main.carryOut stop.report
  | .ok request =>
    match request.run (← Main.lookAround request) with
    | .ok report => Main.carryOut report
    | .error _ => do
      IO.eprintln "Error: the document holds values that cannot be rendered"
      return 1
