import Backplane.Proofs.Driver.Detect
import Backplane.Proofs.Driver.Methods

/-!
# What reaches the device behind a handle

Every handle is identified before anything else is sent to its device, and from then on only requests
of the generation it was identified as are sent; to a device that was not identified nothing more is
sent at all. `Respects` reads the turns of a task as a run of a small machine that remembers what is
known of the open handle. The handles of a task are the pieces of such a run.

* `Respects.guarded`: the run taken apart, handle by handle.
* `Leg`: a run on one target, with what became of each handle; `Leg.respects`: it is such a run.
* `guards_bind`, `guards_create_bind`: tasks that respect what is known, put together.
* `guards_useDriver`: a driver and whatever it is asked for.
-/
namespace Backplane

open Driver (Creates)

variable {known : Option Protocol} {label : String} {turns first rest : List Turn} {α β ε : Type}

/-- A turn that opens nothing, and attempts nothing but a request of the generation that is known. -/
def Allowed (known : Option Protocol) : Turn → Prop
  | ⟨.connect, _⟩ => False
  | ⟨.attempt r, _⟩ => ∃ p, known = some p ∧ p.wire r = true
  | _ => True

/-- What is known of a handle once it was to be given a driver. -/
def generation? : Except Error Driver → Option Protocol
  | .ok d => some d.protocol
  | .error _ => none

/-- Turns that respect what is known of the open handle, and of every handle opened behind it. -/
inductive Respects : (known : Option Protocol) → List Turn → Prop
  | nil {known : Option Protocol} : Respects known []
  | turn {known : Option Protocol} {turn : Turn} {rest : List Turn} (hturn : Allowed known turn)
      (hrest : Respects known rest) : Respects known (turn :: rest)
  | opened {known : Option Protocol} {label : String} {first rest : List Turn} {r : Except Error Driver}
      (hcreate : Creates label first r) (hrest : Respects (generation? r) rest) :
      Respects known (first ++ rest)

/-- One handle from its opening on: it is opened and identified, and then only what it was identified
as is spoken, or nothing where it was not. -/
def Handled (turns : List Turn) : Prop :=
  ∃ label first r rest, turns = first ++ rest ∧ Creates label first r ∧
    ∀ turn ∈ rest, Allowed (generation? r) turn

/-- Handles one behind the other, and nothing that reaches the bus in front of them. -/
def Guarded (turns : List Turn) : Prop :=
  ∃ (front : List Turn) (handles : List (List Turn)), turns = front ++ handles.flatten ∧
    (∀ turn ∈ front, Allowed none turn) ∧
    ∀ handle ∈ handles, Handled handle

/-- An allowed turn that selects no other target. -/
def Attends (known : Option Protocol) : Turn → Prop
  | ⟨.attach _, _⟩ => False
  | turn => Allowed known turn

/-- Turns that respect what is known of the open handle and stay with the target, and what became of
each handle that is opened along them, in order. -/
inductive Leg : (known : Option Protocol) → List Turn → (made : List (Except Error Driver)) → Prop
  | nil {known : Option Protocol} : Leg known [] []
  | turn {known : Option Protocol} {turn : Turn} {rest : List Turn} {made : List (Except Error Driver)}
      (hturn : Attends known turn) (hrest : Leg known rest made) : Leg known (turn :: rest) made
  | opened {known : Option Protocol} {label : String} {first rest : List Turn} {r : Except Error Driver}
      {made : List (Except Error Driver)} (hcreate : Creates label first r)
      (hrest : Leg (generation? r) rest made) : Leg known (first ++ rest) (r :: made)

/-! ## Runs -/

theorem Protocol.Speaks.attends {p : Protocol} {turn : Turn} (h : p.Speaks turn) :
    Attends (some p) turn := by
  obtain ⟨a, answer⟩ := turn
  cases a with
  | attempt r => exact ⟨p, rfl, (p.wire_eq r).trans h⟩
  | delay us => trivial
  | _ => cases h

theorem Allowed.of_none {turn : Turn} (h : Allowed none turn) : Allowed known turn := by
  obtain ⟨a, answer⟩ := turn
  cases a with
  | connect => cases h
  | attempt r =>
    obtain ⟨p, hp, -⟩ := h
    cases hp
  | _ => trivial

theorem Attends.allowed {turn : Turn} (h : Attends known turn) : Allowed known turn := by
  obtain ⟨a, answer⟩ := turn
  cases a with
  | attach target => cases h
  | _ => exact h

theorem Attends.of_none {turn : Turn} (h : Attends none turn) : Attends known turn := by
  have hallowed : Allowed known turn := h.allowed.of_none
  obtain ⟨a, answer⟩ := turn
  cases a with
  | attach target => cases h
  | _ => exact hallowed

namespace Respects

theorem of_allowed (h : ∀ turn ∈ turns, Allowed known turn) : Respects known turns := by
  induction turns with
  | nil => exact .nil
  | cons turn rest ih =>
    rw [List.forall_mem_cons] at h
    exact .turn h.1 (ih h.2)

/-- What is respected without knowing anything is respected. -/
theorem of_none (h : Respects none turns) : Respects known turns := by
  generalize hnone : (none : Option Protocol) = nothing at h
  induction h with
  | nil => exact .nil
  | turn hturn _ ih =>
    subst hnone
    exact .turn hturn.of_none (ih rfl)
  | opened hcreate hrest _ => exact .opened hcreate hrest

theorem append (hfirst : Respects known first) (hrest : Respects none rest) :
    Respects known (first ++ rest) := by
  induction hfirst with
  | nil => exact hrest.of_none
  | turn hturn _ ih => exact .turn hturn ih
  | opened hcreate _ ih =>
    rw [List.append_assoc]
    exact .opened hcreate ih

/-- Turns in front that open nothing leave what is known as it is. -/
theorem behind (hfirst : ∀ turn ∈ first, Allowed known turn) (hrest : Respects known rest) :
    Respects known (first ++ rest) := by
  induction first with
  | nil => exact hrest
  | cons turn first ih =>
    rw [List.forall_mem_cons] at hfirst
    exact .turn hfirst.1 (ih hfirst.2)

/-- A run that respects what is known, handle by handle. -/
theorem handles (h : Respects known turns) :
    ∃ (front : List Turn) (handles : List (List Turn)), turns = front ++ handles.flatten ∧
      (∀ turn ∈ front, Allowed known turn) ∧
      ∀ handle ∈ handles, Handled handle := by
  induction h with
  | nil => exact ⟨[], [], rfl, by simp, by simp⟩
  | @turn known turn rest hturn _ ih =>
    obtain ⟨front, handles, rfl, hfront, hhandles⟩ := ih
    exact ⟨turn :: front, handles, rfl, List.forall_mem_cons.2 ⟨hturn, hfront⟩, hhandles⟩
  | @opened known label first rest r hcreate _ ih =>
    obtain ⟨front, handles, rfl, hfront, hhandles⟩ := ih
    have hhandled : Handled (first ++ front) := ⟨label, first, r, front, rfl, hcreate, hfront⟩
    exact ⟨[], (first ++ front) :: handles, by simp, by simp, List.forall_mem_cons.2 ⟨hhandled, hhandles⟩⟩

theorem guarded (h : Respects none turns) : Guarded turns := h.handles

end Respects

namespace Leg
variable {made made' : List (Except Error Driver)}

theorem respects (h : Leg known turns made) : Respects known turns := by
  induction h with
  | nil => exact .nil
  | turn hturn _ ih => exact .turn hturn.allowed ih
  | opened hcreate _ ih => exact .opened hcreate ih

/-- Turns in front that open nothing leave what is known as it is. -/
theorem behind (hfirst : ∀ turn ∈ first, Attends known turn) (hrest : Leg known rest made) :
    Leg known (first ++ rest) made := by
  induction first with
  | nil => exact hrest
  | cons turn first ih =>
    rw [List.forall_mem_cons] at hfirst
    exact .turn hfirst.1 (ih hfirst.2)

theorem of_attends (h : ∀ turn ∈ turns, Attends known turn) : Leg known turns [] := by
  rw [← List.append_nil turns]
  exact behind h .nil

theorem of_none (h : Leg none turns made) : Leg known turns made := by
  generalize hnone : (none : Option Protocol) = nothing at h
  induction h with
  | nil => exact .nil
  | turn hturn _ ih =>
    subst hnone
    exact .turn hturn.of_none (ih rfl)
  | opened hcreate hrest _ => exact .opened hcreate hrest

theorem append (hfirst : Leg known first made) (hrest : Leg none rest made') :
    Leg known (first ++ rest) (made ++ made') := by
  induction hfirst with
  | nil => exact hrest.of_none
  | turn hturn _ ih => exact .turn hturn ih
  | opened hcreate _ ih =>
    rw [List.append_assoc]
    exact .opened hcreate ih

end Leg

/-- A run on one target that comes to the failure of a handle where one was given no driver. -/
def Heeds (known : Option Protocol) (turns : List Turn) (r : Except Error α) : Prop :=
  ∃ made, Leg known turns made ∧ ∀ e, .error e ∈ made → r = .error e

namespace Heeds
variable {r : Except Error α}

theorem respects (h : Heeds known turns r) : Respects known turns := by
  obtain ⟨made, hleg, -⟩ := h
  exact hleg.respects

theorem of_attends (h : ∀ turn ∈ turns, Attends known turn) : Heeds known turns r :=
  ⟨[], .of_attends h, by simp⟩

theorem turn {turn : Turn} (hturn : Attends known turn) (hrest : Heeds known rest r) :
    Heeds known (turn :: rest) r := by
  obtain ⟨made, hleg, hmade⟩ := hrest
  exact ⟨made, .turn hturn hleg, hmade⟩

theorem behind (hfirst : ∀ turn ∈ first, Attends known turn) (hrest : Heeds known rest r) :
    Heeds known (first ++ rest) r := by
  obtain ⟨made, hleg, hmade⟩ := hrest
  exact ⟨made, .behind hfirst hleg, hmade⟩

theorem append (hfirst : Heeds known first r) (hrest : ∀ turn ∈ rest, Attends none turn) :
    Heeds known (first ++ rest) r := by
  obtain ⟨made, hleg, hmade⟩ := hfirst
  exact ⟨made ++ [], hleg.append (.of_attends hrest), by simpa using hmade⟩

theorem opened {d : Driver} (hcreate : Creates label first (.ok d))
    (hrest : Heeds (some d.protocol) rest r) : Heeds known (first ++ rest) r := by
  obtain ⟨made, hleg, hmade⟩ := hrest
  exact ⟨_, .opened hcreate hleg, by simpa using hmade⟩

theorem failed {e : Error} (hcreate : Creates label first (.error e)) :
    Heeds known first (.error e : Except Error α) := by
  rw [← List.append_nil first]
  exact ⟨_, .opened hcreate .nil, by simp⟩

/-- What only changes a value of success. -/
theorem map (f : α → β) (h : Heeds known turns r) : Heeds known turns (r.map f) := by
  obtain ⟨made, hleg, hmade⟩ := h
  exact ⟨made, hleg, fun e he => by rw [hmade e he, Except.map]⟩

end Heeds

/-! ## Tasks -/

/-- Every course of the task has turns of this kind. -/
def Always (Q : List Turn → Prop) (task : Task α) : Prop :=
  ∀ ⦃turns v⦄, Course task turns v → Q turns

/-- The task opens nothing, stays with its target, and sends nothing but requests of the generation
that is known. -/
abbrev Stays (known : Option Protocol) (task : Task α) : Prop :=
  Always (fun turns => ∀ turn ∈ turns, Attends known turn) task

/-- The task respects what is known of every handle. -/
abbrev Guards (known : Option Protocol) (task : Task α) : Prop := Always (Respects known) task

section Task
variable {x : Task α} {f : α → Task β}

theorem stays_pure (a : α) : Stays known (pure a : Task α) := by
  intro turns v h
  obtain ⟨rfl, -⟩ := course_pure.1 h
  simp

/-- One question that does not reach the bus. -/
theorem stays_ask {a : Action} (h : ∀ answer, Attends known ⟨a, answer⟩) :
    Stays known (.ask a .done : Task a.Answer) := by
  intro turns v hcourse
  obtain ⟨_, ⟨answer, _, rfl, rfl, rfl⟩, rfl⟩ := hcourse
  intro turn hturn
  obtain rfl : turn = ⟨a, v⟩ := by simpa using (List.mem_filter.1 hturn).1
  exact h v

theorem stays_bind (hx : Stays known x) (hf : ∀ v, Stays known (f v)) : Stays known (x >>= f) := by
  intro turns w h
  obtain ⟨first, v, rest, rfl, hfirst, hrest⟩ := course_bind.1 h
  exact List.forall_mem_append.2 ⟨hx hfirst, hf v hrest⟩

theorem Stays.guards (h : Stays known x) : Guards known x :=
  fun _ _ hx => .of_allowed fun turn hturn => (h hx turn hturn).allowed

/-- What opens nothing is done in front of what may open another handle. -/
theorem guards_bind (hx : Stays known x) (hf : ∀ v, Guards known (f v)) : Guards known (x >>= f) := by
  intro turns w h
  obtain ⟨first, v, rest, rfl, hfirst, hrest⟩ := course_bind.1 h
  exact .behind (fun turn hturn => (hx hfirst turn hturn).allowed) (hf v hrest)

/-- What knows nothing of the handles in front of it. -/
theorem guards_andThen (hx : Guards known x) (hf : ∀ v, Guards none (f v)) :
    Guards known (x >>= f) := by
  intro turns w h
  obtain ⟨first, v, rest, rfl, hfirst, hrest⟩ := course_bind.1 h
  exact (hx hfirst).append (hf v hrest)

/-- What is done behind opening a handle knows what it was identified as. -/
theorem guards_create_bind {f : Except Error Driver → Task β}
    (hf : ∀ r, Guards (generation? r) (f r)) : Guards known (Driver.create label >>= f) := by
  intro turns w h
  obtain ⟨first, r, rest, rfl, hcreate, hrest⟩ := course_bind.1 h
  exact .opened (Driver.creates_create hcreate) (hf r hrest)

end Task

/-- An operation of a driver sends requests of its generation. -/
theorem stays_run {p : Protocol} {x : DriverM α} {d : Driver} (h : Driver.Speaks p x)
    (hd : d.protocol = p) : Stays (some p) (x.run d) :=
  fun _ _ hx turn hturn => ((h hd hx).2.each turn hturn).attends

/-- What follows an operation of a driver goes on with a driver of the same generation. -/
theorem stays_run_bind {p : Protocol} {x : DriverM α} {d : Driver} {f : α × Driver → Task β}
    (h : Driver.Speaks p x) (hd : d.protocol = p)
    (hf : ∀ v d', d'.protocol = p → Stays (some p) (f (v, d'))) : Stays (some p) (x.run d >>= f) := by
  intro turns w hcourse
  obtain ⟨first, ⟨v, d'⟩, rest, rfl, hfirst, hrest⟩ := course_bind.1 hcourse
  exact List.forall_mem_append.2 ⟨stays_run h hd hfirst, hf v d' (h hd hfirst).1 hrest⟩

/-- A driver is made, and asked for some things one after the other. -/
def useDriver (label : String) (methods : List Driver.Method) : Task Unit := do
  match ← Driver.create label with
  | .ok d => discard ((Driver.performEach methods).run d)
  | .error _ => pure ()

theorem guards_useDriver {methods : List Driver.Method} : Guards known (useDriver label methods) := by
  refine guards_create_bind ?_
  rintro (e | d)
  · exact (stays_pure _).guards
  · exact (stays_bind (stays_run (Driver.speaks_performEach methods) rfl) fun _ => stays_pure _).guards

end Backplane
