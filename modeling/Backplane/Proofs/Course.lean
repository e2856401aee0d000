import Backplane.Proofs.Dialogue
import Backplane.Site

/-!
# Courses of tasks

A course of a task is a path without its log lines: what the task does to the world outside, turn by
turn, and the value it comes to. The lemmas take a course apart along the task, one for each way a
task is put together: `course_bind` for tasks, `runs_bind` for tasks with a state, `tries_bind` for
those that can also fail.

* `course_moves`: what a task does at a site is a course of it.
* `run_bind`, `moves_bind`: a sequence at a site is its parts, one behind the other.
* `follows_moves`: at a site that is only a bus, the bus serves it turn by turn.
-/
namespace Backplane

/-- One thing a task asks for, and the answer. -/
abbrev Turn := Dialogue.Turn Action.Answer

namespace Turn

/-- One attempt on the bus, and the reply. -/
abbrev attempted (r : Request) (reply : Reply r) : Turn := ⟨.attempt r, reply⟩

/-- The bus was opened, or could not be. -/
abbrev connected (result : Except BusError Unit) : Turn := ⟨.connect, result⟩

/-- A delay was requested of the bus. -/
abbrev delayed (us : UInt32) : Turn := ⟨.delay us, ()⟩

/-- An observer was told something. -/
abbrev told (p : Progress) : Turn := ⟨.note (.progress p), ()⟩

/-- A target was selected. -/
abbrev attached (target : Target) : Turn := ⟨.attach target, ()⟩

/-- A text was printed. -/
abbrev printed (text : String) : Turn := ⟨.note (.print text), ()⟩

/-- Whether a turn is more than a log line. -/
def isMove : Turn → Bool
  | ⟨.note (.log _), _⟩ => false
  | _ => true

/-- What was told to an observer. -/
def progress? : Turn → Option Progress
  | ⟨.note (.progress p), _⟩ => some p
  | _ => none

/-- What was attempted on the bus. -/
def request? : Turn → Option Request
  | ⟨.attempt r, _⟩ => some r
  | _ => none

/-- Whether a turn is an attempt that failed. -/
def Fails : Turn → Prop
  | ⟨.attempt _, reply⟩ => ∃ e, reply.result = .error e
  | _ => False

instance : DecidablePred Turn.Fails
  | ⟨.attempt _, reply⟩ =>
    match h : reply.result with
    | .error e => .isTrue ⟨e, h⟩
    | .ok _ => .isFalse fun hfails => by
      obtain ⟨e, he⟩ := hfails
      rw [h] at he
      cases he
  | ⟨.attach _, _⟩ | ⟨.connect, _⟩ | ⟨.delay _, _⟩ | ⟨.sleep _, _⟩ | ⟨.readFile _, _⟩ | ⟨.note _, _⟩ =>
    .isFalse id

end Turn

variable {α β ε σ : Type}

/-! ## Tasks -/

/-- The task can take these turns besides log lines, and comes to this value. -/
def Course (task : Task α) (turns : List Turn) (v : α) : Prop :=
  ∃ path, task.Path path v ∧ path.filter Turn.isMove = turns

section Task
variable {turns : List Turn}

@[simp] theorem course_pure {a v : α} :
    Course (pure a : Task α) turns v ↔ turns = [] ∧ a = v := by
  constructor
  · intro h
    obtain ⟨_, ⟨rfl, rfl⟩, rfl⟩ := h
    exact ⟨rfl, rfl⟩
  · intro h
    obtain ⟨rfl, rfl⟩ := h
    exact ⟨[], ⟨rfl, rfl⟩, rfl⟩

@[simp] theorem course_bind {task : Task α} {f : α → Task β} {w : β} :
    Course (task >>= f) turns w ↔
      ∃ first v rest, turns = first ++ rest ∧ Course task first v ∧ Course (f v) rest w := by
  constructor
  · intro h
    obtain ⟨path, h, rfl⟩ := h
    obtain ⟨first, v, rest, rfl, h₁, h₂⟩ := (Dialogue.path_bind task f path w).1 h
    exact ⟨_, v, _, List.filter_append .., ⟨first, h₁, rfl⟩, ⟨rest, h₂, rfl⟩⟩
  · intro h
    obtain ⟨_, v, _, rfl, ⟨first, h₁, rfl⟩, ⟨rest, h₂, rfl⟩⟩ := h
    exact ⟨first ++ rest, (Dialogue.path_bind task f _ w).2 ⟨first, v, rest, rfl, h₁, h₂⟩,
      List.filter_append ..⟩

@[simp] theorem course_map {task : Task α} {f : α → β} {w : β} :
    Course (f <$> task) turns w ↔ ∃ v, Course task turns v ∧ f v = w := by
  rw [← bind_pure_comp, course_bind]
  constructor
  · intro h
    obtain ⟨first, v, _, rfl, h, h'⟩ := h
    obtain ⟨rfl, rfl⟩ := course_pure.1 h'
    exact ⟨v, by simpa using h, rfl⟩
  · intro h
    obtain ⟨v, h, rfl⟩ := h
    exact ⟨turns, v, [], by simp, h, by simp⟩

/-- One question that is no log line is one turn. -/
theorem course_ask {a : Action} {v : a.Answer} (h : ∀ answer, Turn.isMove ⟨a, answer⟩ = true) :
    Course (.ask a .done : Task a.Answer) turns v ↔ turns = [⟨a, v⟩] := by
  constructor
  · intro h
    obtain ⟨_, ⟨answer, _, rfl, rfl, rfl⟩, rfl⟩ := h
    simp [h]
  · intro h
    subst h
    exact ⟨[⟨a, v⟩], ⟨v, [], rfl, rfl, rfl⟩, by simp [h]⟩

@[simp] theorem course_connect {v : Except BusError Unit} :
    Course Task.connect turns v ↔ turns = [.connected v] :=
  course_ask fun _ => rfl

@[simp] theorem course_attempt {r : Request} {reply : Reply r} :
    Course (Task.attempt r) turns reply ↔ turns = [.attempted r reply] :=
  course_ask fun _ => rfl

@[simp] theorem course_delay {us : UInt32} {v : Unit} :
    Course (Task.delay us) turns v ↔ turns = [.delayed us] :=
  course_ask fun _ => rfl

@[simp] theorem course_report {p : Progress} {v : Unit} :
    Course (Task.report p) turns v ↔ turns = [.told p] :=
  course_ask fun _ => rfl

@[simp] theorem course_print {text : String} {v : Unit} :
    Course (Task.print text) turns v ↔ turns = [.printed text] :=
  course_ask fun _ => rfl

@[simp] theorem course_attach {target : Target} {v : Unit} :
    Course (Task.attach target) turns v ↔ turns = [.attached target] :=
  course_ask fun _ => rfl

/-- A log line is no turn, whoever wrote it. -/
theorem course_logged {line : LogLine} {v : Unit} :
    Course (.ask (Action.note (.log line)) .done : Task Unit) turns v ↔ turns = [] := by
  constructor
  · intro h
    obtain ⟨_, ⟨answer, _, rfl, rfl, rfl⟩, rfl⟩ := h
    rfl
  · intro h
    subst h
    exact ⟨[⟨.note (.log line), v⟩], ⟨v, [], rfl, rfl, rfl⟩, rfl⟩

@[simp] theorem course_log {level : Level} {text : String} {v : Unit} :
    Course (Task.log level text) turns v ↔ turns = [] :=
  course_logged

@[simp] theorem course_announce {level : Level} {text : String} {v : Unit} :
    Course (Task.announce level text) turns v ↔ turns = [] :=
  course_logged

/-- Behind a task that is a step of one that can fail the sequence goes on. -/
theorem run_lift_bind {task : Task α} {f : α → ExceptT ε Task β} :
    (liftM task >>= f : ExceptT ε Task β).run = task >>= fun v => (f v).run := by
  simp [ExceptT.run_bind]

end Task

/-! ## Tasks with a state -/

/-- From the state `s` the task can take these turns, comes to this value and leaves `s'`. -/
def Runs (x : StateT σ Task α) (s : σ) (turns : List Turn) (v : α) (s' : σ) : Prop :=
  Course (x.run s) turns (v, s')

section State
variable {s s' : σ} {turns : List Turn}

@[simp] theorem runs_pure {a v : α} :
    Runs (pure a : StateT σ Task α) s turns v s' ↔ turns = [] ∧ a = v ∧ s = s' := by
  simp [Runs]

@[simp] theorem runs_bind {x : StateT σ Task α} {f : α → StateT σ Task β} {w : β} :
    Runs (x >>= f) s turns w s' ↔
      ∃ first v mid rest, turns = first ++ rest ∧ Runs x s first v mid ∧
        Runs (f v) mid rest w s' := by
  simp only [Runs, StateT.run_bind, course_bind]
  constructor
  · intro h
    obtain ⟨first, ⟨v, mid⟩, rest, rfl, h₁, h₂⟩ := h
    exact ⟨first, v, mid, rest, rfl, h₁, h₂⟩
  · intro h
    obtain ⟨first, v, mid, rest, rfl, h₁, h₂⟩ := h
    exact ⟨first, (v, mid), rest, rfl, h₁, h₂⟩

/-- A step that only makes something of the value. -/
theorem runs_bind_pure {x : StateT σ Task α} {f : α → β} {w : β} :
    Runs (x >>= fun v => pure (f v)) s turns w s' ↔ ∃ v, Runs x s turns v s' ∧ f v = w := by
  rw [runs_bind]
  constructor
  · intro h
    obtain ⟨first, v, mid, _, rfl, h, hend⟩ := h
    obtain ⟨rfl, rfl, rfl⟩ := runs_pure.1 hend
    exact ⟨v, by simpa using h, rfl⟩
  · intro h
    obtain ⟨v, h, rfl⟩ := h
    exact ⟨turns, v, s', [], by simp, h, runs_pure.2 ⟨rfl, rfl, rfl⟩⟩

@[simp] theorem runs_get {v : σ} :
    Runs (get : StateT σ Task σ) s turns v s' ↔ turns = [] ∧ s = v ∧ s = s' := by
  simp [Runs]

@[simp] theorem runs_set {new : σ} {v : PUnit} :
    Runs (set new : StateT σ Task PUnit) s turns v s' ↔ turns = [] ∧ s' = new := by
  simp [Runs, eq_comm]

@[simp] theorem runs_modify {f : σ → σ} {v : PUnit} :
    Runs (modify f : StateT σ Task PUnit) s turns v s' ↔ turns = [] ∧ s' = f s := by
  simp [Runs, eq_comm]

@[simp] theorem runs_lift {task : Task α} {v : α} :
    Runs (liftM task : StateT σ Task α) s turns v s' ↔ Course task turns v ∧ s = s' := by
  simp only [Runs, liftM, StateT.run_monadLift, course_bind, course_pure, Prod.mk.injEq]
  constructor
  · intro h
    obtain ⟨first, _, _, rfl, h, rfl, rfl, rfl⟩ := h
    exact ⟨by simpa using h, rfl⟩
  · intro h
    obtain ⟨h, rfl⟩ := h
    exact ⟨turns, v, [], by simp, h, rfl, rfl, rfl⟩

/-! A step that neither acts nor fails is no step of the course. -/

theorem runs_get_bind {f : σ → StateT σ Task α} {v : α} :
    Runs (get >>= f) s turns v s' ↔ Runs (f s) s turns v s' := by
  simp only [Runs, StateT.run_bind, StateT.run_get, pure_bind]

/-- A step that leaves the state alone. -/
theorem runs_task_bind {x : StateT σ Task β} {task : Task β} {f : β → StateT σ Task α} {v : α}
    (hx : ∀ {first w mid}, Runs x s first w mid ↔ Course task first w ∧ s = mid) :
    Runs (x >>= f) s turns v s' ↔
      ∃ first w rest, turns = first ++ rest ∧ Course task first w ∧ Runs (f w) s rest v s' := by
  simp only [runs_bind, hx]
  constructor
  · intro h
    obtain ⟨first, w, _, rest, rfl, ⟨h₁, rfl⟩, h₂⟩ := h
    exact ⟨first, w, rest, rfl, h₁, h₂⟩
  · intro h
    obtain ⟨first, w, rest, rfl, h₁, h₂⟩ := h
    exact ⟨first, w, s, rest, rfl, ⟨h₁, rfl⟩, h₂⟩

/-- A log line, however it is written from a task with a state. -/
theorem runs_logging_bind {x : StateT σ Task Unit} {level : Level} {text : String}
    {f : Unit → StateT σ Task α} {v : α}
    (hx : ∀ {first w mid}, Runs x s first w mid ↔ Course (Task.log level text) first w ∧ s = mid) :
    Runs (x >>= f) s turns v s' ↔ Runs (f ()) s turns v s' := by
  simp only [runs_task_bind hx, course_log]
  constructor
  · intro h
    obtain ⟨_, _, _, rfl, rfl, h⟩ := h
    exact h
  · intro h
    exact ⟨[], (), turns, rfl, rfl, h⟩

theorem runs_log_bind {level : Level} {text : String} {f : Unit → StateT σ Task α} {v : α} :
    Runs (liftM (Task.log level text) >>= f) s turns v s' ↔ Runs (f ()) s turns v s' :=
  runs_logging_bind runs_lift

end State

/-! ## Tasks with a state that can fail -/

section Try
variable {s s' : σ} {turns : List Turn} {r : Except ε α}

@[simp] theorem tries_pure {a : α} :
    Runs (pure a : ExceptT ε (StateT σ Task) α).run s turns r s' ↔
      turns = [] ∧ r = .ok a ∧ s = s' := by
  simp [Runs, eq_comm]

@[simp] theorem tries_throw {e : ε} :
    Runs (throw e : ExceptT ε (StateT σ Task) α).run s turns r s' ↔
      turns = [] ∧ r = .error e ∧ s = s' := by
  simp [Runs, eq_comm]

/-- A sequence fails in its first part, or goes on where that part succeeded. -/
@[simp] theorem tries_bind {x : ExceptT ε (StateT σ Task) α} {f : α → ExceptT ε (StateT σ Task) β}
    {r : Except ε β} :
    Runs (x >>= f).run s turns r s' ↔
      (∃ e, Runs x.run s turns (.error e) s' ∧ r = .error e) ∨
      ∃ first v mid rest, turns = first ++ rest ∧ Runs x.run s first (.ok v) mid ∧
        Runs (f v).run mid rest r s' := by
  rw [ExceptT.run_bind, runs_bind]
  constructor
  · intro h
    obtain ⟨first, (e | v), mid, rest, rfl, h₁, h₂⟩ := h
    · obtain ⟨rfl, rfl, rfl⟩ := runs_pure.1 h₂
      exact .inl ⟨e, by simpa using h₁, rfl⟩
    · exact .inr ⟨first, v, mid, rest, rfl, h₁, h₂⟩
  · intro h
    obtain ⟨e, h, rfl⟩ | ⟨first, v, mid, rest, rfl, h₁, h₂⟩ := h
    · exact ⟨turns, .error e, s', [], by simp, h, by simp⟩
    · exact ⟨first, .ok v, mid, rest, rfl, h₁, h₂⟩

/-- A step that can not fail. -/
@[simp] theorem tries_lift {x : StateT σ Task α} :
    Runs (liftM x : ExceptT ε (StateT σ Task) α).run s turns r s' ↔
      ∃ v, r = .ok v ∧ Runs x s turns v s' := by
  have hrun : (liftM x : ExceptT ε (StateT σ Task) α).run = x >>= fun v => pure (.ok v) := by
    rw [bind_pure_comp]
    rfl
  rw [hrun, runs_bind_pure]
  simp only [eq_comm, and_comm]

@[simp] theorem tries_liftTask {task : Task α} :
    Runs (liftM task : ExceptT ε (StateT σ Task) α).run s turns r s' ↔
      ∃ v, r = .ok v ∧ Course task turns v ∧ s = s' := by
  change Runs (liftM (liftM task : StateT σ Task α) : ExceptT ε (StateT σ Task) α).run s turns r s' ↔ _
  simp only [tries_lift, runs_lift]

@[simp] theorem tries_get {r : Except ε σ} :
    Runs (get : ExceptT ε (StateT σ Task) σ).run s turns r s' ↔
      turns = [] ∧ r = .ok s ∧ s = s' := by
  change Runs (liftM (get : StateT σ Task σ) : ExceptT ε (StateT σ Task) σ).run s turns r s' ↔ _
  rw [tries_lift]
  simp [and_left_comm]

@[simp] theorem tries_modify {f : σ → σ} {r : Except ε PUnit} :
    Runs (modify f : ExceptT ε (StateT σ Task) PUnit).run s turns r s' ↔
      turns = [] ∧ r = .ok () ∧ s' = f s := by
  change Runs (liftM (modify f : StateT σ Task PUnit) : ExceptT ε (StateT σ Task) PUnit).run
    s turns r s' ↔ _
  rw [tries_lift]
  constructor
  · intro h
    obtain ⟨_, rfl, h⟩ := h
    obtain ⟨rfl, rfl⟩ := runs_modify.1 h
    exact ⟨rfl, rfl, rfl⟩
  · intro h
    obtain ⟨rfl, rfl, rfl⟩ := h
    exact ⟨(), rfl, runs_modify.2 ⟨rfl, rfl⟩⟩

/-- Behind a step that can not fail the sequence goes on. -/
theorem tries_lift_bind {x : StateT σ Task β} {f : β → ExceptT ε (StateT σ Task) α} :
    Runs (liftM x >>= f).run s turns r s' ↔
      ∃ first v mid rest, turns = first ++ rest ∧ Runs x s first v mid ∧
        Runs (f v).run mid rest r s' := by
  simp only [tries_bind, tries_lift]
  constructor
  · intro h
    obtain ⟨_, ⟨_, hv, _⟩, _⟩ | ⟨first, v, mid, rest, rfl, ⟨_, hv, h₁⟩, h₂⟩ := h
    · cases hv
    · cases hv
      exact ⟨first, v, mid, rest, rfl, h₁, h₂⟩
  · intro h
    obtain ⟨first, v, mid, rest, rfl, h₁, h₂⟩ := h
    exact .inr ⟨first, v, mid, rest, rfl, ⟨v, rfl, h₁⟩, h₂⟩

theorem tries_liftTask_bind {task : Task β} {f : β → ExceptT ε (StateT σ Task) α} :
    Runs (liftM task >>= f).run s turns r s' ↔
      ∃ first v rest, turns = first ++ rest ∧ Course task first v ∧ Runs (f v).run s rest r s' := by
  change Runs ((liftM (liftM task : StateT σ Task β) : ExceptT ε (StateT σ Task) β) >>= f).run
    s turns r s' ↔ _
  rw [tries_lift_bind, ← runs_bind, runs_task_bind runs_lift]

theorem tries_log_bind {level : Level} {text : String} {f : Unit → ExceptT ε (StateT σ Task) α} :
    Runs (liftM (Task.log level text) >>= f).run s turns r s' ↔ Runs (f ()).run s turns r s' := by
  change Runs ((liftM (liftM (Task.log level text) : StateT σ Task Unit) :
    ExceptT ε (StateT σ Task) Unit) >>= f).run s turns r s' ↔ _
  rw [tries_lift_bind, ← runs_bind, runs_log_bind]

theorem tries_get_bind {f : σ → ExceptT ε (StateT σ Task) α} :
    Runs (get >>= f).run s turns r s' ↔ Runs (f s).run s turns r s' := by
  simp only [tries_bind, tries_get]
  constructor
  · intro h
    obtain ⟨_, ⟨_, hv, _⟩, _⟩ | ⟨_, _, _, _, rfl, ⟨rfl, hv, rfl⟩, h⟩ := h
    · cases hv
    · cases hv
      exact h
  · intro h
    exact .inr ⟨[], s, s, turns, rfl, ⟨rfl, rfl, rfl⟩, h⟩

theorem run_get_bind {f : σ → ExceptT ε (StateT σ Task) α} :
    (get >>= f).run.run s = (f s).run.run s := rfl

/-- Behind a step that comes to a value at once the sequence goes on. -/
theorem tries_known_bind {x : ExceptT ε (StateT σ Task) β} {v : β} {mid : σ}
    {f : β → ExceptT ε (StateT σ Task) α} (hx : x.run.run s = pure (.ok v, mid)) :
    Runs (x >>= f).run s turns r s' ↔ Runs (f v).run mid turns r s' := by
  simp only [Runs, ExceptT.run_bind, StateT.run_bind, hx, pure_bind]

theorem tries_modify_bind {g : σ → σ} {f : PUnit → ExceptT ε (StateT σ Task) α} :
    Runs (modify g >>= f).run s turns r s' ↔ Runs (f ()).run (g s) turns r s' :=
  tries_known_bind rfl

/-- A sequence that ends by making something of the value. -/
theorem tries_bind_pure {x : ExceptT ε (StateT σ Task) β} {f : β → α} :
    Runs (x >>= fun v => pure (f v)).run s turns r s' ↔
      ∃ outcome, Runs x.run s turns outcome s' ∧ r = outcome.map f := by
  rw [tries_bind]
  constructor
  · intro h
    obtain ⟨e, h, rfl⟩ | ⟨first, v, mid, rest, rfl, h, hend⟩ := h
    · exact ⟨.error e, h, rfl⟩
    · obtain ⟨rfl, rfl, rfl⟩ := tries_pure.1 hend
      exact ⟨.ok v, by simpa using h, rfl⟩
  · intro h
    obtain ⟨e | v, h, rfl⟩ := h
    · exact .inl ⟨e, h, rfl⟩
    · exact .inr ⟨turns, v, s', [], by simp, h, tries_pure.2 ⟨rfl, rfl, rfl⟩⟩

/-- What follows a check is done where the check holds. -/
theorem tries_guard_bind {c : Prop} [Decidable c] {e : ε} {f : Unit → ExceptT ε (StateT σ Task) α} :
    Runs ((if c then pure () else throw e) >>= f).run s turns r s' ↔
      if c then Runs (f ()).run s turns r s' else turns = [] ∧ r = .error e ∧ s = s' := by
  split
  · rw [pure_bind]
  · rw [show (throw e >>= f : ExceptT ε (StateT σ Task) α) = throw e from rfl, tries_throw]

/-- Steps that all succeeded: the first of them, and then the others. -/
theorem tries_mapM_cons {f : β → ExceptT ε (StateT σ Task) α} {b : β} {l : List β} {values : List α}
    (h : Runs ((b :: l).mapM f).run s turns (.ok values) s') :
    ∃ first v mid rest vs, turns = first ++ rest ∧ values = v :: vs ∧
      Runs (f b).run s first (.ok v) mid ∧ Runs (l.mapM f).run mid rest (.ok vs) s' := by
  rw [List.mapM_cons] at h
  obtain ⟨_, -, ⟨⟩⟩ | ⟨first, v, mid, _, rfl, hfirst, h⟩ := tries_bind.1 h
  obtain ⟨_, -, ⟨⟩⟩ | ⟨rest, vs, _, _, rfl, hrest, h⟩ := tries_bind.1 h
  obtain ⟨rfl, ⟨⟩, rfl⟩ := tries_pure.1 h
  exact ⟨first, v, mid, rest, vs, by simp, rfl, hfirst, hrest⟩

/-- What is true of every step is true of the values of all steps, if none failed. -/
theorem tries_mapM {γ : Type} {I : σ → Prop} {f : β → ExceptT ε (StateT σ Task) α} {g : α → γ} {k : β → γ}
    {l : List β} {r : Except ε (List α)}
    (hstep : ∀ b ∈ l, ∀ {s turns r s'}, I s → Runs (f b).run s turns r s' →
      I s' ∧ ∀ v, r = .ok v → g v = k b)
    (h : Runs (l.mapM f).run s turns r s') (hs : I s) :
    I s' ∧ ∀ vs, r = .ok vs → vs.map g = l.map k := by
  induction l generalizing s turns r s' with
  | nil =>
    obtain ⟨rfl, rfl, rfl⟩ := tries_pure.1 h
    refine ⟨hs, ?_⟩
    rintro vs ⟨⟩
    rfl
  | cons b l ih =>
    rw [List.forall_mem_cons] at hstep
    rw [List.mapM_cons] at h
    obtain ⟨e, hfirst, rfl⟩ | ⟨_, v, mid, _, rfl, hfirst, hrest⟩ := tries_bind.1 h
    · exact ⟨(hstep.1 hs hfirst).1, by simp⟩
    obtain ⟨hmid, hv⟩ := hstep.1 hs hfirst
    obtain ⟨e, hfail, rfl⟩ | ⟨_, vs, _, _, rfl, hvs, hend⟩ := tries_bind.1 hrest
    · exact ⟨(ih hstep.2 hfail hmid).1, by simp⟩
    obtain ⟨hlast, hall⟩ := ih hstep.2 hvs hmid
    obtain ⟨rfl, rfl, rfl⟩ := tries_pure.1 hend
    refine ⟨hlast, ?_⟩
    rintro _ ⟨⟩
    rw [List.map_cons, List.map_cons, hv v rfl, hall vs rfl]

end Try

/-! ## Sites -/

/-- What a task does at a site, log lines left out. -/
def Site.moves (site : Site σ) (task : Task α) (bench : Bench σ) : List Turn :=
  (task.transcript site.answer bench).filter Turn.isMove

theorem Site.course_moves (site : Site σ) (task : Task α) (bench : Bench σ) :
    Course task (site.moves task bench) (site.run task bench).1 :=
  ⟨_, Dialogue.path_transcript site.answer task bench, rfl⟩

theorem Site.run_bind (site : Site σ) (task : Task α) (f : α → Task β) (bench : Bench σ) :
    site.run (task >>= f) bench = site.run (f (site.run task bench).1) (site.run task bench).2 :=
  Dialogue.run_bind site.answer task f bench

theorem Site.moves_bind (site : Site σ) (task : Task α) (f : α → Task β) (bench : Bench σ) :
    site.moves (task >>= f) bench =
      site.moves task bench ++ site.moves (f (site.run task bench).1) (site.run task bench).2 := by
  rw [Site.moves, Dialogue.transcript_bind, List.filter_append]
  rfl

namespace Bus

/-- The bus in state `s` takes part in a turn as it was recorded, and is in state `s'` behind it.
What is not asked of the bus leaves it alone. -/
def Serves (bus : Bus σ) (s : σ) : Turn → σ → Prop
  | ⟨.connect, result⟩, s' => (bus.connect s).value = result ∧ s' = (bus.connect s).next
  | ⟨.attempt r, reply⟩, s' => (bus.attempt r s).value = reply ∧ s' = (bus.attempt r s).next
  | ⟨.delay us, _⟩, s' => s' = (bus.delay us s).next
  | ⟨.attach _, _⟩, s' => s' = s
  | ⟨.sleep _, _⟩, s' => s' = s
  | ⟨.readFile _, _⟩, s' => s' = s
  | ⟨.note _, _⟩, s' => s' = s

/-- The bus takes part in the turns, one after the other. -/
def Follows (bus : Bus σ) : σ → List Turn → σ → Prop
  | s, [], s' => s' = s
  | s, turn :: rest, s' => ∃ mid, bus.Serves s turn mid ∧ bus.Follows mid rest s'

variable {bus : Bus σ} {s s' : σ}

@[simp] theorem follows_nil : bus.Follows s [] s' ↔ s' = s := Iff.rfl

@[simp] theorem follows_cons {turn : Turn} {rest : List Turn} :
    bus.Follows s (turn :: rest) s' ↔ ∃ mid, bus.Serves s turn mid ∧ bus.Follows mid rest s' :=
  Iff.rfl

@[simp] theorem follows_append {first rest : List Turn} :
    bus.Follows s (first ++ rest) s' ↔ ∃ mid, bus.Follows s first mid ∧ bus.Follows mid rest s' := by
  induction first generalizing s with
  | nil => simp
  | cons turn first ih => simp only [List.cons_append, follows_cons, ih]; grind

/-- What every turn of a kind preserves, turns of that kind preserve. -/
theorem Follows.preserves {turns : List Turn} {I : σ → Prop} {P : Turn → Prop}
    (hstep : ∀ {s turn s'}, I s → P turn → bus.Serves s turn s' → I s')
    (h : bus.Follows s turns s') (hturns : ∀ turn ∈ turns, P turn) (hs : I s) : I s' := by
  induction turns generalizing s with
  | nil => exact h ▸ hs
  | cons turn rest ih =>
    obtain ⟨mid, hserves, hrest⟩ := h
    rw [List.forall_mem_cons] at hturns
    exact ih hrest hturns.2 (hstep hs hturns.1 hserves)

/-- The answers of a site that is only a bus are those of the bus. -/
theorem serves_answer (bus : Bus σ) (a : Action) (bench : Bench σ) :
    bus.Serves bench.state ⟨a, (bus.site.answer a bench).1⟩ (bus.site.answer a bench).2.state := by
  cases a with
  | attach target => rfl
  | connect => exact ⟨rfl, rfl⟩
  | attempt r => exact ⟨rfl, rfl⟩
  | delay us => rfl
  | sleep ms => rfl
  | readFile path => rfl
  | note note => rfl

theorem follows_moves (bus : Bus σ) (task : Task α) (bench : Bench σ) :
    bus.Follows bench.state (bus.site.moves task bench) (bus.site.run task bench).2.state := by
  induction task generalizing bench with
  | done value => rfl
  | ask a next ih =>
    have hserves := serves_answer bus a bench
    have hrest := ih (bus.site.answer a bench).1 (bus.site.answer a bench).2
    simp only [Site.moves, Dialogue.transcript, List.filter_cons]
    cases hmove : Turn.isMove ⟨a, (bus.site.answer a bench).1⟩ with
    | true => exact ⟨_, hserves, hrest⟩
    | false =>
      -- A log line leaves the state of the bus as it was.
      match a, hmove with
      | .note (.log _), _ => exact hrest

end Bus
end Backplane
