/-!
# Throttled error logging

A handle counts its failures since the last success. The first three are logged in full, the
fourth as a summary, and later ones not at all; a success is always logged and ends the streak.
-/
namespace Backplane

/-- How much of a transaction is logged. Follows `bpmcu-core/transport:25-32`. -/
inductive LogDecision where
  | full
  | summary
  | silent
  deriving DecidableEq, Repr

/-- Failures since the last success; the count stops at its largest value. Follows
`bpmcu-core/transport:36-38`. -/
structure ErrorStreak where
  count : UInt32
  deriving DecidableEq, Repr

namespace ErrorStreak

/-- No failure since the last success. -/
def none : ErrorStreak := ⟨0⟩

/-- Failures of one streak that are logged in full. Follows `bpmcu-core/transport:21`. -/
def loggedInFull : UInt32 := 3

/-- How the next failure is logged. -/
def decision (s : ErrorStreak) : LogDecision :=
  if s.count < loggedInFull then .full
  else if s.count = loggedInFull then .summary
  else .silent

/-- The streak one failure longer. -/
def extend (s : ErrorStreak) : ErrorStreak :=
  if s.count = 0xFFFFFFFF then s else ⟨s.count + 1⟩

/-- Takes the outcome of one transaction and says how to log it. Follows `bpmcu-core/transport:42-55`. -/
def record (s : ErrorStreak) (failed : Bool) : LogDecision × ErrorStreak :=
  if failed then (s.decision, s.extend) else (.full, none)

end ErrorStreak
end Backplane
