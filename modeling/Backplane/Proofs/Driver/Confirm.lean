import Backplane.Proofs.Driver

/-!
# Values that must be seen twice

A read that is repeated until the same value comes twice in a row leaves a list of results: no two
neighbours but the last are equal, a failure ends it, and there are five of them at most.

* `Repeats.all`, `Repeats.follows`: what is true of each step is true of all of them.
* `Repeats.concat_inv`: the last step, behind the others.
* `runs_confirm`: the results of a confirmed read.
* `Confirmed.last`, `Confirmed.length_le`: the outcome is the last of them, and they are few.
-/
namespace Backplane

variable {σ ε α : Type} {s s' : σ} {turns : List Turn}

/-- A step can be taken over and over with these turns and these values. -/
inductive Repeats (x : StateT σ Task α) : σ → List Turn → List α → σ → Prop
  | nil {s : σ} : Repeats x s [] [] s
  | cons {s mid s' : σ} {first rest : List Turn} {v : α} {vs : List α} (h : Runs x s first v mid)
      (hrest : Repeats x mid rest vs s') : Repeats x s (first ++ rest) (v :: vs) s'

theorem Repeats.single {x : StateT σ Task α} {v : α} (h : Runs x s turns v s') :
    Repeats x s turns [v] s' := by
  simpa using Repeats.cons h .nil

/-- The last step, behind the others. -/
theorem Repeats.concat_inv {x : StateT σ Task α} {vs : List α} {v : α}
    (h : Repeats x s turns (vs ++ [v]) s') :
    ∃ first mid rest, turns = first ++ rest ∧ Repeats x s first vs mid ∧ Runs x mid rest v s' := by
  induction vs generalizing s turns with
  | nil =>
    cases h with
    | cons hrun hnil =>
      cases hnil
      exact ⟨[], s, _, by simp, .nil, hrun⟩
  | cons w vs ih =>
    cases h with
    | @cons _ _ _ front _ _ _ hrun hrest =>
      obtain ⟨first, mid, rest, rfl, hfirst, hlast⟩ := ih hrest
      exact ⟨front ++ first, mid, rest, by simp, .cons hrun hfirst, hlast⟩

/-- What each step does to its turns and its state is true of all of them. -/
theorem Repeats.all {x : StateT σ Task α} {vs : List α} {I : σ → Prop} {P : Turn → Prop}
    (hstep : ∀ {s s' : σ} {turns v}, I s → Runs x s turns v s' → I s' ∧ ∀ turn ∈ turns, P turn)
    (h : Repeats x s turns vs s') (hs : I s) : I s' ∧ ∀ turn ∈ turns, P turn := by
  induction h with
  | nil => exact ⟨hs, by simp⟩
  | cons hrun hrest ih =>
    obtain ⟨hmid, hfirst⟩ := hstep hs hrun
    obtain ⟨hend, hlast⟩ := ih hmid
    exact ⟨hend, List.forall_mem_append.2 ⟨hfirst, hlast⟩⟩

/-- What each step does to its state and to what is behind a bus, and what is true of its value. -/
theorem Repeats.follows {τ : Type} {bus : Bus τ} {t t' : τ} {x : StateT σ Task α} {vs : List α}
    {I : σ → τ → Prop} {P : α → Prop}
    (hstep : ∀ {s s' : σ} {turns v} {t t' : τ}, I s t → Runs x s turns v s' → bus.Follows t turns t' →
      P v ∧ I s' t')
    (h : Repeats x s turns vs s') (hs : I s t) (hfollows : bus.Follows t turns t') :
    (∀ v ∈ vs, P v) ∧ I s' t' := by
  induction h generalizing t with
  | nil =>
    obtain rfl := hfollows
    exact ⟨by simp, hs⟩
  | cons hrun _ ih =>
    obtain ⟨mid, hfirst, hrest⟩ := Bus.follows_append.1 hfollows
    obtain ⟨hv, hmid⟩ := hstep hs hrun hfirst
    obtain ⟨hall, hend⟩ := ih hmid hrest
    exact ⟨List.forall_mem_cons.2 ⟨hv, hall⟩, hend⟩

namespace Driver

variable [BEq α]

/-- The results of reads behind the value `last`, `left` of them at most, and the outcome. -/
inductive Confirms : (left : Nat) → (last : α) → List (Except ε α) → Except ε α → Prop
  | spent {last : α} : Confirms 0 last [] (.ok last)
  | failed {left : Nat} {last : α} {e : ε} : Confirms (left + 1) last [.error e] (.error e)
  | agreed {left : Nat} {last next : α} (h : (next == last) = true) :
      Confirms (left + 1) last [.ok next] (.ok next)
  | differed {left : Nat} {last next : α} {results : List (Except ε α)} {r : Except ε α}
      (h : (next == last) = false) (hrest : Confirms left next results r) :
      Confirms (left + 1) last (.ok next :: results) r

/-- The results of reads that end when a value comes twice in a row, and the outcome. -/
inductive Confirmed : List (Except ε α) → Except ε α → Prop
  | failed {e : ε} : Confirmed [.error e] (.error e)
  | read {first : α} {results : List (Except ε α)} {r : Except ε α}
      (h : Confirms (confirmAttempts - 1) first results r) : Confirmed (.ok first :: results) r

theorem Confirms.last {left : Nat} {last : α} {results : List (Except ε α)} {r : Except ε α}
    (h : Confirms left last results r) :
    ∃ values : List α, Except.ok last :: results = values.map .ok ++ [r] := by
  induction h with
  | spent => exact ⟨[], rfl⟩
  | @failed left last e => exact ⟨[last], rfl⟩
  | @agreed left last next => exact ⟨[last], rfl⟩
  | @differed left last next results r _ _ ih =>
    obtain ⟨values, hvalues⟩ := ih
    exact ⟨last :: values, congrArg (List.cons _) hvalues⟩

theorem Confirms.length_le {left : Nat} {last : α} {results : List (Except ε α)} {r : Except ε α}
    (h : Confirms left last results r) : results.length ≤ left := by
  induction h with
  | spent => simp
  | failed => simp
  | agreed => simp
  | differed _ _ ih => simpa using ih

/-- The outcome is what the last of the reads gave, and the others succeeded. -/
theorem Confirmed.last {results : List (Except ε α)} {r : Except ε α} (h : Confirmed results r) :
    ∃ values : List α, results = values.map .ok ++ [r] := by
  cases h with
  | failed => exact ⟨[], rfl⟩
  | read h => exact h.last

/-- The first of the reads succeeded if their outcome is a value. -/
theorem Confirmed.head_ok {results : List (Except ε α)} {v : α} (h : Confirmed results (.ok v)) :
    ∃ first rest, results = .ok first :: rest := by
  cases h with
  | read => exact ⟨_, _, rfl⟩

theorem Confirmed.mem {results : List (Except ε α)} {r : Except ε α} (h : Confirmed results r) :
    r ∈ results := by
  obtain ⟨values, rfl⟩ := h.last
  simp

/-- Every read succeeded if the outcome is a value. -/
theorem Confirmed.all_ok {results : List (Except ε α)} {v : α} (h : Confirmed results (.ok v)) :
    ∀ r ∈ results, ∃ w, r = .ok w := by
  obtain ⟨values, rfl⟩ := h.last
  intro r hr
  obtain hr | hr := List.mem_append.1 hr
  · obtain ⟨w, -, rfl⟩ := List.mem_map.1 hr
    exact ⟨w, rfl⟩
  · exact ⟨v, List.mem_singleton.1 hr⟩

theorem Confirmed.length_le {results : List (Except ε α)} {r : Except ε α}
    (h : Confirmed results r) : results.length ≤ confirmAttempts := by
  cases h with
  | failed => simp [confirmAttempts]
  | read h => exact Nat.succ_le_of_lt (Nat.lt_succ_of_le h.length_le)

variable {read : ExceptT ε (StateT σ Task) α} {settle : ExceptT ε (StateT σ Task) Unit}
  {r : Except ε α}

theorem runs_confirmFrom {left : Nat} {last : α}
    (hsettle : ∀ {s s' : σ} {turns r}, Runs settle.run s turns r s' →
      turns = [] ∧ r = .ok () ∧ s = s')
    (h : Runs (confirmFrom read settle left last).run s turns r s') :
    ∃ results, Repeats read.run s turns results s' ∧ Confirms left last results r := by
  induction left generalizing last s turns with
  | zero =>
    rw [confirmFrom, tries_bind] at h
    obtain ⟨e, hset, -⟩ | ⟨_, _, _, _, rfl, hset, h⟩ := h
    · obtain ⟨-, hr, -⟩ := hsettle hset
      cases hr
    · obtain ⟨rfl, -, rfl⟩ := hsettle hset
      obtain ⟨rfl, rfl, rfl⟩ := tries_pure.1 h
      exact ⟨[], .nil, .spent⟩
  | succ left ih =>
    rw [confirmFrom, tries_bind] at h
    obtain ⟨e, hread, rfl⟩ | ⟨first, next, mid, rest, rfl, hread, h⟩ := h
    · exact ⟨[.error e], .single hread, .failed⟩
    · cases hnext : next == last with
      | true =>
        rw [if_pos hnext] at h
        obtain ⟨rfl, rfl, rfl⟩ := tries_pure.1 h
        exact ⟨[.ok next], .cons hread .nil, .agreed hnext⟩
      | false =>
        rw [if_neg (by simp [hnext])] at h
        obtain ⟨results, hrest, hconfirms⟩ := ih h
        exact ⟨.ok next :: results, .cons hread hrest, .differed hnext hconfirms⟩

theorem runs_confirm
    (hsettle : ∀ {s s' : σ} {turns r}, Runs settle.run s turns r s' →
      turns = [] ∧ r = .ok () ∧ s = s')
    (h : Runs (confirm read settle).run s turns r s') :
    ∃ results, Repeats read.run s turns results s' ∧ Confirmed results r := by
  rw [confirm, tries_bind] at h
  obtain ⟨e, hread, rfl⟩ | ⟨first, v, mid, rest, rfl, hread, h⟩ := h
  · exact ⟨[.error e], .single hread, .failed⟩
  · obtain ⟨results, hrest, hconfirms⟩ := runs_confirmFrom hsettle h
    exact ⟨.ok v :: results, .cons hread hrest, .read hconfirms⟩

/-- A register value that is read until it comes twice in a row. -/
theorem runs_confirmed {what : String} {read : DeviceM.Try α} {r : Except BusError α}
    {d d' : Device} (h : Runs (confirmed what read).run d turns r d') :
    ∃ results, Repeats read.run d turns results d' ∧ Confirmed results r := by
  refine runs_confirm ?_ h
  intro s s' turns r hset
  rw [tries_get_bind] at hset
  obtain ⟨_, rfl, hlog, rfl⟩ := Backplane.tries_liftTask.1 hset
  exact ⟨course_log.1 hlog, rfl, rfl⟩

end Driver
end Backplane
