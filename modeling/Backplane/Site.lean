import Backplane.Action

/-!
# Sites

A site answers tasks: a bus that serves requests out of a state, and around it the selection of a
target and the files. A task is run on a `Bench`, which holds the state of the site and records
everything that happens, oldest first.
-/
namespace Backplane

/-- What serving one request leaves: the answer, the next state, and what else happened. -/
structure Served (α σ : Type) where
  value : α
  next : σ
  events : List Event := []

/-- A bus that serves requests out of a state. -/
structure Bus (σ : Type) where
  connect : σ → Served (Except BusError Unit) σ
  attempt : (r : Request) → σ → Served (Reply r) σ
  delay : UInt32 → σ → Served Unit σ

/-- A bus, the selection of its target, and files. -/
structure Site (σ : Type) extends Bus σ where
  attach : Target → σ → σ
  readFile : String → σ → Except IoError FileContent

/-- A bus as a site whose target is fixed and which has no files. -/
def Bus.site {σ : Type} (bus : Bus σ) : Site σ where
  toBus := bus
  attach _ s := s
  readFile _ _ := .error (.os Errno.noEntry)

/-- The state of a site and what happened so far. -/
structure Bench (σ : Type) where
  state : σ
  events : Array Event

namespace Site

variable {σ : Type}

/-- Records what was served. -/
def record {α : Type} (served : Served α σ) (events : Array Event) (event : α → Event) :
    α × Bench σ :=
  (served.value, ⟨served.next, (events ++ served.events).push (event served.value)⟩)

/-- Answers one action. -/
def answer (site : Site σ) : (a : Action) → Bench σ → a.Answer × Bench σ
  | .attach target, ⟨s, events⟩ => ((), ⟨site.attach target s, events⟩)
  | .connect, ⟨s, events⟩ => record (site.connect s) events .connected
  | .attempt r, ⟨s, events⟩ => record (site.attempt r s) events (.attempted r)
  | .delay us, ⟨s, events⟩ => record (site.delay us s) events fun _ => .delayed us
  | .sleep _, bench => ((), bench)
  | .readFile path, ⟨s, events⟩ => (site.readFile path s, ⟨s, events⟩)
  | .note note, ⟨s, events⟩ => ((), ⟨s, events.push (.noted note)⟩)

/-- Runs a task on a bench. -/
def run {α : Type} (site : Site σ) (task : Task α) (bench : Bench σ) : α × Bench σ :=
  Dialogue.run site.answer task bench

end Site
end Backplane
