/-!
# Paths

A path is read part by part: empty parts and parts that stay in place say nothing and are left
out.  What remains is the path's shown form, whose last part is its name.
-/

namespace PandocHtml.Text

def slashParts : List Char → List (List Char)
  | [] => [[]]
  | c :: rest =>
    if c = '/' then [] :: slashParts rest
    else
      match slashParts rest with
      | part :: later => (c :: part) :: later
      | [] => [[c]]

def pathParts (path : String) : List (List Char) :=
  (slashParts path.toList).filter fun part => part != [] && part != ['.']

/-- The slashes a path begins with: none, one, or two where there are exactly two. -/
def rootSlashes (path : String) : List Char :=
  let slashes := path.toList.takeWhile (· == '/')
  if slashes.length = 2 then slashes else slashes.take 1

def shownPath (path : String) : String :=
  let shown := rootSlashes path ++ ['/'].intercalate (pathParts path)
  if shown.isEmpty then "." else String.ofList shown

def pathName (path : String) : String := String.ofList ((pathParts path).getLast?.getD [])

def parentPath (path : String) : String :=
  let shown := rootSlashes path ++ ['/'].intercalate (pathParts path).dropLast
  if shown.isEmpty then "." else String.ofList shown

end PandocHtml.Text
