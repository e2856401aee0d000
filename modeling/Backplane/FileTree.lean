import Backplane.Action
import Backplane.Text.Path

/-!
# File trees

Files and directories, found by path the way a system finds them: names are taken one by one, a dot
stays, two dots go up, and whatever another name follows must be a directory. Paths start in one
directory; those from the root lead to another tree, which holds the null device, and nothing is
known of the directory above the starting one. A directory is found together with those it lies
in, so going up and changing an entry need no second search.
-/
namespace Backplane

/-- What a name in a directory stands for. -/
inductive FileNode where
  | file (bytes : List UInt8)
  | directory (entries : List (String × FileNode))

/-- What a directory holds, by name. -/
abbrev Entries := List (String × FileNode)

/-- The entries with another node under a name. -/
def Entries.put (entries : Entries) (name : String) (node : FileNode) : Entries :=
  (name, node) :: entries.filter fun e => e.1 != name

/-- The directories that lie in no known directory. -/
inductive Top where
  /-- Where paths start. -/
  | start
  /-- Where paths start that begin with a slash. -/
  | root
  /-- The directory above the starting one. -/
  | outside
  deriving DecidableEq, Repr

/-- A directory: its entries and, the nearest first, the directories it lies in, each with the name
that leads down from it. -/
structure Place where
  top : Top
  above : List (String × Entries)
  entries : Entries

namespace Place

/-- The directory under a name. -/
def down (here : Place) (name : String) (entries : Entries) : Place :=
  ⟨here.top, (name, here.entries) :: here.above, entries⟩

/-- The entries at the top once those of a directory below it are known. -/
def topEntries : List (String × Entries) → Entries → Entries
  | [], entries => entries
  | (name, outer) :: above, entries => topEntries above (outer.put name (.directory entries))

end Place

/-- What a path leads to. -/
inductive Found where
  | file (bytes : List UInt8)
  | directory (place : Place)

structure FileTree where
  start : Entries
  root : Entries
  outside : Entries

namespace FileTree

/-- No file but the null device: it can be opened, and reading it gives nothing. -/
def empty : FileTree := ⟨[], [("dev", .directory [("null", .file [])])], []⟩

/-- The longest name, in bytes. -/
def nameMax : Nat := 255

/-- The shortest path, in bytes, that is too long. -/
def pathMax : Nat := 4096

/-- A directory that lies in no known one. -/
def place (t : FileTree) : Top → Place
  | .start => ⟨.start, [], t.start⟩
  | .root => ⟨.root, [], t.root⟩
  | .outside => ⟨.outside, [], t.outside⟩

/-- The directory above a directory. Above the root is the root. -/
def up (t : FileTree) (here : Place) : Place :=
  match here.above, here.top with
  | (_, entries) :: above, top => ⟨top, above, entries⟩
  | [], .start => t.place .outside
  | [], .root => here
  | [], .outside => here

/-- Whether a name stands for the directory itself. -/
def isSelf (name : String) : Bool := name = "" || name = "."

/-- Follows names from what is found already. -/
def follow (t : FileTree) : Found → List String → Except IoError Found
  | found, [] => .ok found
  | .file _, _ :: _ => .error (.os Errno.notDirectory)
  | .directory here, name :: rest =>
    if isSelf name then t.follow (.directory here) rest
    else if name = ".." then t.follow (.directory (t.up here)) rest
    else if name.utf8ByteSize > nameMax then .error (.os Errno.nameTooLong)
    else
      match here.entries.lookup name with
      | none => .error (.os Errno.noEntry)
      | some (.file bytes) => t.follow (.file bytes) rest
      | some (.directory entries) => t.follow (.directory (here.down name entries)) rest

/-- The names in a path, if it is one that can be followed. -/
def names (path : String) : Except IoError (List String) :=
  if path.any (· == '\x00') then
    .error (.other "file name contained an unexpected NUL byte")
  else if path = "" then .error (.os Errno.noEntry)
  else if path.utf8ByteSize ≥ pathMax then .error (.os Errno.nameTooLong)
  else .ok (path.splitOn "/")

/-- Where a path starts. -/
def origin (t : FileTree) (path : String) : Found :=
  .directory (t.place (if path.startsWith "/" then .root else .start))

/-- What a path leads to. -/
def find (t : FileTree) (path : String) : Except IoError Found := do
  t.follow (t.origin path) (← names path)

/-- What is found under a path. -/
def read (t : FileTree) (path : String) : Except IoError FileContent := do
  match ← t.find path with
  | .file bytes => pure (.file bytes)
  | .directory _ => pure .directory

/-- Opens the file under a path for reading and writing. -/
def openReadWrite (t : FileTree) (path : String) : Except IoError Unit := do
  match ← t.find path with
  | .file _ => pure ()
  | .directory _ => .error (.os Errno.isDirectory)

/-- Whether a path leads to a directory. -/
def isDirectory (t : FileTree) (path : String) : Bool :=
  match t.find path with
  | .ok (.directory _) => true
  | .ok (.file _) => false
  | .error _ => false

/-- The names in the directory under a path, in order. -/
def list (t : FileTree) (path : String) : List String :=
  match t.find path with
  | .ok (.directory here) => (here.entries.map (·.1)).mergeSort fun a b => a ≤ b
  | .ok (.file _) => []
  | .error _ => []

/-! ## Changes -/

/-- Puts a node into a directory, under a name. -/
def put (t : FileTree) (here : Place) (name : String) (node : FileNode) : FileTree :=
  let entries := Place.topEntries here.above (here.entries.put name node)
  match here.top with
  | .start => { t with start := entries }
  | .root => { t with root := entries }
  | .outside => { t with outside := entries }

/-- The directory that holds the last of some names. -/
def holder (t : FileTree) (path : String) (names : List String) : Except IoError Place := do
  match ← t.follow (t.origin path) names.dropLast with
  | .directory here => pure here
  | .file _ => .error (.os Errno.notDirectory)

/-- Writes a file; one that is there already is replaced. -/
def write (t : FileTree) (path : String) (bytes : List UInt8) : Except IoError FileTree := do
  let names ← names path
  let here ← t.holder path names
  let name := names.getLastD ""
  if isSelf name || name = ".." then .error (.os Errno.isDirectory)
  else if name.utf8ByteSize > nameMax then .error (.os Errno.nameTooLong)
  else
    match here.entries.lookup name with
    | some (.directory _) => .error (.os Errno.isDirectory)
    | some (.file _) => pure (t.put here name (.file bytes))
    | none => pure (t.put here name (.file bytes))

/-- Makes one directory. Slashes at the end of the path say nothing more; a dot at its end names a
directory that is there already. -/
def makeDirectory (t : FileTree) (path : String) : Except IoError FileTree := do
  let names := ((← names path).reverse.dropWhile (· = "")).reverse
  let here ← t.holder path names
  let name := names.getLastD ""
  if isSelf name || name = ".." then .error (.os Errno.alreadyExists)
  else if name.utf8ByteSize > nameMax then .error (.os Errno.nameTooLong)
  else
    match here.entries.lookup name with
    | some _ => .error (.os Errno.alreadyExists)
    | none => pure (t.put here name (.directory []))

/-- Makes the first of some paths, each of which lies in the next one, after those it lies in if
they are missing. What was made before a failure stays. -/
def makeFirst : List String → FileTree → Except IoError Unit × FileTree
  | [], t => (.error (.other "failed to create whole tree"), t)
  | path :: above, t =>
    let settled (e : IoError) (t : FileTree) : Except IoError Unit × FileTree :=
      if t.isDirectory path then (.ok (), t) else (.error e, t)
    if path = "" then (.ok (), t)
    else
      match t.makeDirectory path with
      | .ok t => (.ok (), t)
      | .error e =>
        if e = .os Errno.noEntry then
          match makeFirst above t with
          | (.error e, t) => (.error e, t)
          | (.ok (), t) =>
            match t.makeDirectory path with
            | .ok t => (.ok (), t)
            | .error e => settled e t
        else settled e t

/-- Makes a directory and those it lies in, where they are missing. -/
def makeDirectories (t : FileTree) (path : String) : Except IoError Unit × FileTree :=
  makeFirst (Text.ancestors path) t

/-- Writes a file into a directory that is made if it is missing. A file that cannot be written is
left out. -/
def add (t : FileTree) (path : String) (bytes : List UInt8) : FileTree :=
  let t := (t.makeDirectories ((Text.parentPath? path).getD "")).2
  match t.write path bytes with
  | .ok t => t
  | .error _ => t

/-- The tree of some files, each named by a path. -/
def ofList (files : List (String × List UInt8)) : FileTree :=
  files.foldl (fun t f => t.add f.1 f.2) empty

end FileTree
end Backplane
