/-!
# Paths as texts

Joining paths and going up is done on their text alone. The name a path ends in is its last part
that is neither empty nor a single dot; a dot in front of everything else counts as a name too.
-/
namespace Backplane.Text

/-- A path taken from a directory: an absolute one stays as it is. -/
def joinPath (base path : String) : String :=
  if path.startsWith "/" then path
  else if base = "" ∨ base.endsWith "/" then base ++ path
  else base ++ "/" ++ path

/-- A path as the part in front that is always kept, and the other parts. -/
def pathParts (path : String) : String × List String :=
  match path.splitOn "/" with
  | "" :: rest => if rest.isEmpty then ("", []) else ("/", rest)
  | "." :: rest => (".", if rest.isEmpty then [] else "" :: rest)
  | parts => ("", parts)

/-- The paths that end in one of some parts which is a name, the longest first, and then the part
in front. The parts come last first. -/
def namedPaths (front : String) : List String → List String
  | [] => if front = "." then [front, ""] else [front]
  | part :: parts =>
    if part = "" || part = "." then namedPaths front parts
    else (front ++ "/".intercalate (part :: parts).reverse) :: namedPaths front parts

/-- A path and the directories it lies in, the nearest first. -/
def ancestors (path : String) : List String :=
  let (front, parts) := pathParts path
  path :: (namedPaths front parts.reverse).tail

/-- The directory that holds what a path names, if the path names anything in a directory. -/
def parentPath? (path : String) : Option String := (ancestors path).tail.head?

end Backplane.Text
