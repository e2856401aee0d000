import Backplane.Proofs.Course

/-!
# Steps that are taken over and over

A step takes a state to an answer and to the next state. Taken over and over it gives a stream of
answers: `nth` is the answer at an index, the first one at index zero, and `stateAfter` is the state behind
some number of steps. At a site, one attempt at a request is such a step, and so is a whole task with
a state.

* `stateAfter_succ_front`, `nth_succ_front`: the stream behind its first step.
* `Site.play_bind`, `Site.play_try_bind`, `Site.trail_bind`: a sequence at a site is its parts, one
  behind the other.
* `Site.Alike`: two tasks that make no difference at a site.
-/
namespace Backplane

variable {σ τ ε α β : Type}

/-- The state behind `n` steps. -/
def stateAfter (step : σ → α × σ) (s : σ) : Nat → σ
  | 0 => s
  | n + 1 => (step (stateAfter step s n)).2

/-- The answer of the step at index `n`. -/
def nth (step : σ → α × σ) (s : σ) (n : Nat) : α := (step (stateAfter step s n)).1

@[simp] theorem stateAfter_zero (step : σ → α × σ) (s : σ) : stateAfter step s 0 = s := rfl

theorem stateAfter_succ (step : σ → α × σ) (s : σ) (n : Nat) :
    stateAfter step s (n + 1) = (step (stateAfter step s n)).2 := rfl

/-- The stream behind its first step is the stream from the next state. -/
theorem stateAfter_succ_front (step : σ → α × σ) (s : σ) (n : Nat) :
    stateAfter step s (n + 1) = stateAfter step (step s).2 n := by
  induction n with
  | zero => rfl
  | succ n ih => rw [stateAfter_succ, ih, stateAfter_succ]

theorem nth_succ_front (step : σ → α × σ) (s : σ) (n : Nat) :
    nth step s (n + 1) = nth step (step s).2 n := by
  rw [nth, stateAfter_succ_front, nth]

/-- A step is its answer and the state behind it. -/
theorem step_stateAfter (step : σ → α × σ) (s : σ) (n : Nat) :
    step (stateAfter step s n) = (nth step s n, stateAfter step s (n + 1)) := rfl

/-- Runs a task with a state at a site. -/
def Site.play (site : Site σ) (x : StateT τ Task α) (s : τ × Bench σ) : α × τ × Bench σ :=
  let ran := site.run (x.run s.1) s.2
  (ran.1.1, ran.1.2, ran.2)

theorem Site.play_bind (site : Site σ) (x : StateT τ Task α) (f : α → StateT τ Task β)
    (s : τ × Bench σ) :
    site.play (x >>= f) s = site.play (f (site.play x s).1) (site.play x s).2 := by
  simp only [Site.play, StateT.run_bind, Site.run_bind]

theorem Site.play_get_bind (site : Site σ) (f : τ → StateT τ Task α) (s : τ × Bench σ) :
    site.play (get >>= f) s = site.play (f s.1) s := rfl

theorem Site.play_set_bind (site : Site σ) (new : τ) (f : PUnit → StateT τ Task α)
    (s : τ × Bench σ) : site.play (set new >>= f) s = site.play (f ()) (new, s.2) := rfl

theorem Site.play_lift (site : Site σ) (task : Task α) (s : τ × Bench σ) :
    site.play (liftM task) s = ((site.run task s.2).1, s.1, (site.run task s.2).2) := by
  simp only [Site.play, liftM, StateT.run_monadLift, Site.run_bind]
  rfl

/-- A sequence that can fail ends where its first part fails, and goes on where that part succeeds. -/
theorem Site.play_try_bind (site : Site σ) (x : ExceptT ε (StateT τ Task) α)
    (f : α → ExceptT ε (StateT τ Task) β) (s : τ × Bench σ) :
    site.play (x >>= f).run s =
      match site.play x.run s with
      | (.error e, s') => (.error e, s')
      | (.ok v, s') => site.play (f v).run s' := by
  rw [ExceptT.run_bind, Site.play_bind]
  obtain ⟨result, s'⟩ := site.play x.run s
  cases result <;> rfl

/-- What a task with a state does at a site, log lines left out. -/
def Site.trail (site : Site σ) (x : StateT τ Task α) (s : τ × Bench σ) : List Turn :=
  site.moves (x.run s.1) s.2

theorem Site.runs_trail (site : Site σ) (x : StateT τ Task α) (s : τ × Bench σ) :
    Runs x s.1 (site.trail x s) (site.play x s).1 (site.play x s).2.1 :=
  site.course_moves (x.run s.1) s.2

theorem Site.trail_bind (site : Site σ) (x : StateT τ Task α) (f : α → StateT τ Task β)
    (s : τ × Bench σ) :
    site.trail (x >>= f) s =
      site.trail x s ++ site.trail (f (site.play x s).1) (site.play x s).2 := by
  simp only [Site.trail, StateT.run_bind, Site.moves_bind, Site.play]

theorem Site.trail_get_bind (site : Site σ) (f : τ → StateT τ Task α) (s : τ × Bench σ) :
    site.trail (get >>= f) s = site.trail (f s.1) s := rfl

theorem Site.trail_pure (site : Site σ) (v : α) (s : τ × Bench σ) : site.trail (pure v) s = [] := rfl

theorem Site.trail_lift (site : Site σ) (task : Task α) (s : τ × Bench σ) :
    site.trail (liftM task) s = site.moves task s.2 := by
  simp only [Site.trail, liftM, StateT.run_monadLift, Site.moves_bind]
  exact List.append_nil _

/-- Two tasks with a state are alike at a site: they come to the same, and everything that is asked on the way
is the same. -/
structure Site.Alike (site : Site σ) (x y : StateT τ Task α) (s : τ × Bench σ) : Prop where
  play : site.play x s = site.play y s
  transcript : (x.run s.1).transcript site.answer s.2 = (y.run s.1).transcript site.answer s.2

namespace Site.Alike
variable {site : Site σ} {x y : StateT τ Task α} {s : τ × Bench σ}

theorem refl (x : StateT τ Task α) (s : τ × Bench σ) : site.Alike x x s := ⟨rfl, rfl⟩

theorem trail (h : site.Alike x y s) : site.trail x s = site.trail y s :=
  congrArg (List.filter Turn.isMove) h.transcript

end Site.Alike
end Backplane
