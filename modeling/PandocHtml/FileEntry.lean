import PandocHtml.Text.Encoding

/-!
# Files at hand

What a path leads to.  Whoever reads files supplies a function from paths to entries; everything
else only asks it.
-/

namespace PandocHtml

inductive FileEntry where
  | absent
  | folder
  | file (bytes : List UInt8)

/-- What stands at each path, in its shown form. -/
abbrev Files := String → FileEntry

/-- The files of a list; there is no folder but the one they stand in. -/
def Files.ofList (files : List (String × List UInt8)) : Files := fun path =>
  match files.find? (fun f => f.1 == path) with
  | some f => .file f.2
  | none => if path = "." then .folder else .absent

end PandocHtml
