import Backplane.Linux.Open
import Backplane.Site

/-!
# A system bus over a kernel

Any kernel that answers calls out of a state makes a bus. The calls behind a request are recorded
before the request itself.
-/
namespace Backplane.Linux

/-- A kernel that answers calls out of a state. -/
abbrev Answering (σ : Type) := (c : Call) → σ → c.Answer × σ

/-- Answers a call and records it, latest call first. -/
def recording {σ : Type} (kernel : Answering σ) (c : Call) (s : σ × List Event) :
    c.Answer × (σ × List Event) :=
  match kernel c s.1 with
  | (answer, next) => (answer, next, .called c (c.failure answer) :: s.2)

/-- Runs calls on a kernel. -/
def serveOn {σ α : Type} (kernel : Answering σ) (task : KernelTask α) (s : σ) : Served α σ :=
  match task.run (recording kernel) (s, []) with
  | (value, next, events) => ⟨value, next, events.reverse⟩

/-- Opens the configured target, which gives a bus handle or a failed transaction. -/
def connectOn {σ : Type} (kernel : Answering σ) (c : Config) (s : σ) :
    Served (Except BusError Unit) σ :=
  match serveOn kernel (openTarget c) s with
  | ⟨result, next, events⟩ =>
    ⟨result.mapError OpenError.toBusError, next,
      events ++ (openLines c result).map fun line => .noted (.log line)⟩

/-- The bus to a configured target. -/
def bus {σ : Type} (kernel : Answering σ) (c : Config) : Bus σ where
  connect := connectOn kernel c
  attempt r := serveOn kernel (serve c.address r)
  delay _ s := ⟨(), s, []⟩

end Backplane.Linux
