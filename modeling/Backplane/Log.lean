/-!
# Log lines

A line has a level, the part of the program it comes from, and a text.
-/
namespace Backplane

inductive Level where
  | error
  | warn
  | info
  | debug
  deriving DecidableEq, Repr

namespace Level

def name : Level → String
  | .error => "ERROR"
  | .warn => "WARN"
  | .info => "INFO"
  | .debug => "DEBUG"

/-- How much a level lets through: higher is more. -/
def rank : Level → Nat
  | .error => 1
  | .warn => 2
  | .info => 3
  | .debug => 4

/-- Whether a line of level `l` is shown when the most verbose level shown is `limit`. -/
def shownAt (l limit : Level) : Bool := l.rank ≤ limit.rank

end Level

/-- Where a line comes from. -/
inductive Origin where
  /-- The drivers and the buses. -/
  | library
  /-- The commands. -/
  | command
  deriving DecidableEq, Repr

structure LogLine where
  origin : Origin
  level : Level
  text : String
  deriving DecidableEq, Repr

/-- A line as it is shown: its level and its text. -/
def LogLine.render (l : LogLine) : String := s!"{l.level.name} {l.text}"

end Backplane
