import Backplane.CommandLine.Help
import Backplane.FileTree
import Backplane.Text.Path

/-!
# Manual pages

One page for every command and one for the tool, written into a directory that is made if it is
missing.
-/
namespace Backplane.Manual
open CommandLine (Scope)

/-- The directory the pages go to if none is given. Follows `bin/gen-manpage:24`. -/
def defaultDirectory : String := "man"

/-- The directory the pages go to. -/
def directoryOf (args : List String) : String := args.headD defaultDirectory

/-- The page of the tool. -/
def mainPage : String := s!"{Scope.tool}.1"

/-- The pages: their file names and what they are about. -/
def pages : List (String × Scope) :=
  Scope.top.children.map (fun (word, scope) => (s!"{Scope.tool}-{word}.1", scope))
    ++ [(mainPage, .top)]

/-- Writes pages into a directory, one after the other. Those before a failure stay. -/
def writePages (directory : String) :
    List (String × Scope) → FileTree → Except IoError Unit × FileTree
  | [], t => (.ok (), t)
  | (name, scope) :: rest, t =>
    match t.write (Text.joinPath directory name) scope.manualPage.toUTF8.toList with
    | .ok t => writePages directory rest t
    | .error e => (.error e, t)

/-- Writes the pages into a directory, which is made if it is missing. Follows
`bin/gen-manpage:25-35`. -/
def write (t : FileTree) (directory : String) : Except IoError Unit × FileTree :=
  match t.makeDirectories directory with
  | (.ok (), t) => writePages directory pages t
  | (.error e, t) => (.error e, t)

/-- What is shown once the pages are written. Follows `bin/gen-manpage:37-45`. -/
def notice (directory : String) : String :=
  s!"Man pages generated in: {directory}\n" ++
  "\nTo view the man page:\n" ++
  s!"  man -l {Text.joinPath directory mainPage}\n" ++
  "\nTo install system-wide (requires sudo):\n" ++
  s!"  sudo cp {directory}/*.1 /usr/local/share/man/man1/\n" ++
  "  sudo mandb\n"

/-- Writes the pages: the exit code, what is shown, and the files afterwards. Follows
`bin/gen-manpage:20-48`. -/
def run (t : FileTree) (args : List String) : UInt8 × String × FileTree :=
  let directory := directoryOf args
  match write t directory with
  | (.ok (), t) => (0, notice directory, t)
  | (.error _, t) => (1, "", t)

end Backplane.Manual
