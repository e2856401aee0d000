import Backplane.Command.Run
import Backplane.CommandLine.Help
import Backplane.CommandLine.Parse
import Backplane.Site
import Backplane.Text.Plain

/-!
# The program

A command line is read, its command is run, and what happened is shown: what commands print on
standard output, log lines down to level info and the failure on the error output. Log lines are
shown as plain text, one by one; a control sequence that is not ended can hide the end of its line.
-/
namespace Backplane

/-- What a run of the program leaves. -/
structure ProgramResult where
  exit : UInt8
  stdout : String
  stderr : String
  deriving DecidableEq, Repr

/-- The lines of the error output. What ends a line is a line feed, and a carriage return right
before it belongs to it; the end of the last line need not be written. -/
def ProgramResult.errorLines (r : ProgramResult) : List String :=
  let lines := r.stderr.splitOn "\n"
  let ended := lines.dropLast.map fun line => (line.dropSuffix "\r").toString
  match lines.getLast? with
  | none => ended
  | some last => if last = "" then ended else ended ++ [last]

namespace Program

/-- The most verbose log lines that are shown. -/
def shownLevel : Level := .info

/-- A log line as it is shown. What follows a line feed is set in. -/
def logText (l : LogLine) : String := Text.plain (l.render.replace "\n" "\n    " ++ "\n")

/-- The text about a failure. Where the arguments make no sense, the buses are listed. Follows
`main:37-42`. -/
def failureText (e : CommandError) : String :=
  let help := match e with
    | .usage _ => "\n" ++ Target.help
    | _ => ""
  s!"Error: {e.message}\n" ++ help

/-- The error output of a run. -/
def errorOutput (events : List Event) (outcome : Except CommandError Unit) : String :=
  let shown := (events.filterMap Event.logLine?).filter fun l => l.level.shownAt shownLevel
  let failure := match outcome with
    | .ok () => ""
    | .error e => failureText e
  String.join (shown.map logText) ++ failure

/-- The exit code of a run. Follows `main:35-45`. -/
def exitCode : Except CommandError Unit → UInt8
  | .ok () => 0
  | .error e => e.exitCode

/-- What is left of a command line that is refused. -/
def refused (r : CommandLine.Refusal) : ProgramResult :=
  match r with
  | .help scope => ⟨0, scope.help, ""⟩
  | .version => ⟨0, CommandLine.Refusal.versionLine, ""⟩
  | .nothingGiven scope => ⟨2, "", scope.help⟩
  | r =>
    let reason := (r.message?.map fun m => s!": {m}").getD ""
    ⟨2, "", s!"error: {r.kind}{reason}\n\nUsage: {CommandLine.Scope.top.usage}\n"⟩

/-- Runs the program at a site. Follows `main:22-46`. -/
def run {σ : Type} (site : Site σ) (state : σ) (args : List String) : ProgramResult :=
  match CommandLine.parse args with
  | .error r => refused r
  | .ok parsed =>
    let (outcome, bench) := site.run parsed.command.run ⟨state, #[]⟩
    let events := bench.events.toList
    ⟨exitCode outcome, Command.shown events, errorOutput events outcome⟩

end Program
end Backplane
