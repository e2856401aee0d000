import Backplane.Bus.Playback
import Backplane.Driver.Basic
import Backplane.Proofs.Stream

/-!
# What a confirmed read decides

A value that is not trusted at the first sight is read until it comes twice in a row. Whatever the
reads come to, the first result that settles the matter ends them: a failure, or a value that agrees
with the one before it. Five reads that settle nothing leave the last value and one warning.

* `undecided_or`: every stream of results settles the matter first in one of these ways, or not at all.
* `play_confirm_behind`: what is left of a confirmed read behind reads that settled nothing.
* `last_eq_of_few`: five values with at most two glitches end in the true one.
* `play_confirmed`: the outcome and the number of reads for every stream of results.
-/
namespace Backplane.Driver

variable {ε α : Type} [BEq α] {x : Nat → Except ε α} {k : Nat}

/-- The results at the index `i` and behind it are values that agree. -/
def Agree (x : Nat → Except ε α) (i : Nat) : Prop :=
  ∃ v w, x i = .ok v ∧ x (i + 1) = .ok w ∧ (w == v) = true

/-- The first `k` results settle nothing: they are values, and no two neighbours agree. -/
structure Undecided (x : Nat → Except ε α) (k : Nat) : Prop where
  values : ∀ i < k, ∃ v, x i = .ok v
  differ : ∀ i, i + 1 < k → ¬ Agree x i

theorem Undecided.mono {n : Nat} (h : Undecided x n) (hk : k ≤ n) : Undecided x k :=
  ⟨fun i hi => h.values i (by omega), fun i hi => h.differ i (by omega)⟩

/-- A value that does not agree with the one before it. -/
theorem Undecided.ne {v w : α} (h : Undecided x (k + 2)) (hv : x k = .ok v)
    (hw : x (k + 1) = .ok w) : (w == v) = false := by
  cases heq : w == v with
  | false => rfl
  | true => exact absurd ⟨v, w, hv, hw, heq⟩ (h.differ k (by omega))

/-- Reads settle nothing, or the first of them that settles the matter is a failure or a value that
agrees with the one before it. -/
theorem undecided_or (x : Nat → Except ε α) (k : Nat) :
    Undecided x k ∨ (∃ i < k, Undecided x i ∧ ∃ e, x i = .error e) ∨
      ∃ i, i + 1 < k ∧ Undecided x (i + 1) ∧ Agree x i := by
  induction k with
  | zero => exact .inl ⟨fun i hi => by omega, fun i hi => by omega⟩
  | succ k ih =>
    rcases ih with h | ⟨i, hi, h, hfailed⟩ | ⟨i, hi, h, hagree⟩
    · cases hk : x k with
      | error e => exact .inr (.inl ⟨k, by omega, h, e, hk⟩)
      | ok v =>
        by_cases hagree : ∃ i, i + 1 = k ∧ Agree x i
        · obtain ⟨i, rfl, hagree⟩ := hagree
          exact .inr (.inr ⟨i, by omega, h, hagree⟩)
        · refine .inl ⟨fun i hi => ?_, fun i hi => ?_⟩
          · rcases Nat.lt_succ_iff_lt_or_eq.1 hi with hi | rfl
            · exact h.values i hi
            · exact ⟨v, hk⟩
          · rcases Nat.lt_succ_iff_lt_or_eq.1 hi with hi | hi
            · exact h.differ i hi
            · exact fun hi' => hagree ⟨i, hi, hi'⟩
    · exact .inr (.inl ⟨i, by omega, h, hfailed⟩)
    · exact .inr (.inr ⟨i, by omega, h, hagree⟩)

/-! ## Reads at a site -/

section Site
variable {σ τ : Type} {site : Site σ} {read : ExceptT ε (StateT τ Task) α}
  {settle : ExceptT ε (StateT τ Task) Unit} {s : τ × Bench σ}

theorem play_confirmFrom_zero {last : α} :
    site.play (confirmFrom read settle 0 last).run s =
      match site.play settle.run s with
      | (.error e, s') => (.error e, s')
      | (.ok (), s') => (.ok last, s') := by
  rw [confirmFrom, Site.play_try_bind]
  obtain ⟨result, s'⟩ := site.play settle.run s
  cases result <;> rfl

/-- One more read: it ends the matter where it fails or agrees. -/
theorem play_confirmFrom_succ {left : Nat} {last : α} :
    site.play (confirmFrom read settle (left + 1) last).run s =
      match site.play read.run s with
      | (.error e, s') => (.error e, s')
      | (.ok next, s') =>
        if next == last then (.ok next, s')
        else site.play (confirmFrom read settle left next).run s' := by
  rw [confirmFrom, Site.play_try_bind]
  obtain ⟨result, s'⟩ := site.play read.run s
  cases result with
  | error e => rfl
  | ok next =>
    show site.play (ExceptT.run (if next == last then pure next else _)) s' =
      if next == last then (.ok next, s') else _
    split <;> rfl

/-- Behind reads that settled nothing the rest of the reads is left. -/
theorem play_confirm_behind {last : α} (hk : k + 1 ≤ confirmAttempts)
    (h : Undecided (nth (site.play read.run) s) (k + 1))
    (hlast : nth (site.play read.run) s k = .ok last) :
    site.play (confirm read settle).run s =
      site.play (confirmFrom read settle (confirmAttempts - 1 - k) last).run
        (stateAfter (site.play read.run) s (k + 1)) := by
  induction k generalizing last with
  | zero =>
    have hstep := step_stateAfter (site.play read.run) s 0
    rw [stateAfter_zero, hlast] at hstep
    rw [confirm, Site.play_try_bind, hstep]
    rfl
  | succ k ih =>
    obtain ⟨prev, hprev⟩ := h.values k (by omega)
    have hleft : confirmAttempts - 1 - k = (confirmAttempts - 1 - (k + 1)) + 1 := by omega
    have hstep := step_stateAfter (site.play read.run) s (k + 1)
    rw [hlast] at hstep
    rw [ih (by omega) (h.mono (by omega)) hprev, hleft, play_confirmFrom_succ, hstep]
    show (if last == prev then _ else _) = _
    rw [if_neg (by simp [h.ne hprev hlast])]

/-- A read that fails ends the matter. -/
theorem play_confirm_failed {e : ε} (hk : k < confirmAttempts)
    (h : Undecided (nth (site.play read.run) s) k)
    (hfailed : nth (site.play read.run) s k = .error e) :
    site.play (confirm read settle).run s = (.error e, stateAfter (site.play read.run) s (k + 1)) := by
  have hstep := step_stateAfter (site.play read.run) s k
  rw [hfailed] at hstep
  cases k with
  | zero =>
    rw [stateAfter_zero] at hstep
    rw [confirm, Site.play_try_bind, hstep]
  | succ k =>
    obtain ⟨prev, hprev⟩ := h.values k (by omega)
    have hleft : confirmAttempts - 1 - k = (confirmAttempts - 1 - (k + 1)) + 1 := by omega
    rw [play_confirm_behind (by omega) h hprev, hleft, play_confirmFrom_succ, hstep]

/-- A value that agrees with the one before it ends the matter. -/
theorem play_confirm_agreed (hk : k + 1 < confirmAttempts)
    (h : Undecided (nth (site.play read.run) s) (k + 1))
    (hagree : Agree (nth (site.play read.run) s) k) :
    site.play (confirm read settle).run s =
      (nth (site.play read.run) s (k + 1), stateAfter (site.play read.run) s (k + 2)) := by
  obtain ⟨v, w, hv, hw, heq⟩ := hagree
  have hleft : confirmAttempts - 1 - k = (confirmAttempts - 1 - (k + 1)) + 1 := by omega
  have hstep := step_stateAfter (site.play read.run) s (k + 1)
  rw [hw] at hstep
  rw [play_confirm_behind (by omega) h hv, hleft, play_confirmFrom_succ, hstep, hw]
  exact if_pos heq

/-- As many reads as there are at most, and nothing settled. -/
theorem play_confirm_spent {s' : τ × Bench σ}
    (h : Undecided (nth (site.play read.run) s) confirmAttempts)
    (hsettle : site.play settle.run (stateAfter (site.play read.run) s confirmAttempts) = (.ok (), s')) :
    site.play (confirm read settle).run s =
      (nth (site.play read.run) s (confirmAttempts - 1), s') := by
  obtain ⟨last, hlast⟩ := h.values (confirmAttempts - 1) (by decide)
  calc site.play (confirm read settle).run s
      = site.play (confirmFrom read settle 0 last).run
          (stateAfter (site.play read.run) s confirmAttempts) :=
        play_confirm_behind (Nat.le_refl _) h hlast
    _ = (.ok last, s') := by rw [play_confirmFrom_zero, hsettle]
    _ = (nth (site.play read.run) s (confirmAttempts - 1), s') := by rw [hlast]

end Site

/-! ## Glitches -/

section Glitches
variable [LawfulBEq α] {y : Nat → α} {v : α}

/-- A value that agrees with the one before it is the true one, if no glitch is followed by its
like. -/
theorem Agree.eq {i : Nat} (hagree : Agree x i) (hi : x i = .ok (y i))
    (hnext : x (i + 1) = .ok (y (i + 1))) (hglitch : y i ≠ v → y (i + 1) ≠ y i) : y (i + 1) = v := by
  obtain ⟨a, b, ha, hb, heq⟩ := hagree
  obtain rfl : y i = a := Except.ok.inj (hi.symm.trans ha)
  obtain rfl : y (i + 1) = b := Except.ok.inj (hnext.symm.trans hb)
  have hsame : y (i + 1) = y i := eq_of_beq heq
  by_cases hv : y i = v
  · exact hsame.trans hv
  · exact absurd hsame (hglitch hv)

/-- Of two neighbours that differ one is a glitch. -/
theorem glitch_of_ne {i : Nat} (h : y (i + 1) ≠ y i) : (y i != v) = true ∨ (y (i + 1) != v) = true := by
  by_cases hfirst : y i = v
  · exact .inr (bne_iff_ne.2 fun hnext => h (hnext.trans hfirst.symm))
  · exact .inl (bne_iff_ne.2 hfirst)

/-- Five values of which no two neighbours are equal end in the true one, unless three of them are
glitches: there is one among the first two, and one among the next two. -/
theorem last_eq_of_few (hdiffer : ∀ i < 4, y (i + 1) ≠ y i)
    (hfew : (List.range 5).countP (fun i => y i != v) ≤ 2) : y 4 = v := by
  by_cases hlast : y 4 = v
  · exact hlast
  · have hfront := glitch_of_ne (v := v) (hdiffer 0 (by omega))
    have hnext := glitch_of_ne (v := v) (hdiffer 2 (by omega))
    have hend : (y 4 != v) = true := bne_iff_ne.2 hlast
    simp only [List.range_succ, List.range_zero, List.nil_append, List.countP_append,
      List.countP_singleton, if_pos hend] at hfew
    rcases hfront with h | h <;> rcases hnext with h' | h' <;>
      simp only [if_pos h, if_pos h'] at hfew <;> omega

variable {σ τ : Type} {site : Site σ} {read : ExceptT ε (StateT τ Task) α}
  {settle : ExceptT ε (StateT τ Task) Unit} {s s' : τ × Bench σ}

/-- Glitches that are few, and not alike side by side, do not survive. -/
theorem play_confirm_few
    (hy : ∀ i < 5, Undecided (nth (site.play read.run) s) i → nth (site.play read.run) s i = .ok (y i))
    (hfew : (List.range 5).countP (fun i => y i != v) ≤ 2)
    (hglitch : ∀ i < 4, y i ≠ v → y (i + 1) ≠ y i)
    (hsettle : site.play settle.run (stateAfter (site.play read.run) s confirmAttempts) = (.ok (), s')) :
    (site.play (confirm read settle).run s).1 = .ok v := by
  rcases undecided_or (nth (site.play read.run) s) 5 with h | ⟨i, hi, h, e, he⟩ | ⟨i, hi, h, hagree⟩
  · have hvalue : ∀ i < 5, nth (site.play read.run) s i = .ok (y i) := fun i hi =>
      hy i hi (h.mono (by omega))
    have hdiffer : ∀ i < 4, y (i + 1) ≠ y i := fun i hi heq =>
      h.differ i (by omega) ⟨y i, y (i + 1), hvalue i (by omega), hvalue (i + 1) (by omega), by simp [heq]⟩
    calc (site.play (confirm read settle).run s).1
        = nth (site.play read.run) s (confirmAttempts - 1) := by
          rw [play_confirm_spent h hsettle]
      _ = .ok (y 4) := hvalue 4 (by omega)
      _ = .ok v := congrArg Except.ok (last_eq_of_few hdiffer hfew)
  · cases he.symm.trans (hy i hi h)
  · have hvalue := hy (i + 1) (by omega) h
    have hagreed := hagree.eq (hy i (by omega) (h.mono (by omega))) hvalue (hglitch i (by omega))
    calc (site.play (confirm read settle).run s).1
        = nth (site.play read.run) s (i + 1) := by
          rw [play_confirm_agreed hi h hagree]
      _ = .ok (y (i + 1)) := hvalue
      _ = .ok v := congrArg Except.ok hagreed

end Glitches

/-! ## Registers -/

/-- A handle at a site, with the warning recorded that a value was never read twice in a row. -/
def doubting {σ : Type} (what : String) (s : Device × Bench σ) : Device × Bench σ :=
  let text := s!"{s.1.label}: {what} not confirmed after {confirmAttempts} reads, using last value"
  (s.1, { s.2 with events := s.2.events.push (.noted (.log ⟨.library, .warn, text⟩)) })

/-- A register value that is read until it comes twice in a row, at any site and for every stream of
results: the first failure and the first agreement end the reads, five reads that settle nothing leave
the last value and one warning, and up to two glitches do not survive if they are not alike side by
side. -/
theorem play_confirmed {σ : Type} (site : Site σ) (what : String) (read : DeviceM.Try α)
    (s : Device × Bench σ) :
    let result := nth (site.play read.run) s
    let behind := stateAfter (site.play read.run) s
    let ran := site.play (confirmed what read).run s
    (∀ k < 5, ∀ e, Undecided result k → result k = .error e → ran = (.error e, behind (k + 1))) ∧
      (∀ i < 4, Undecided result (i + 1) → Agree result i →
        ran = (result (i + 1), behind (i + 2))) ∧
      (Undecided result 5 → ran = (result 4, doubting what (behind 5))) ∧
      ∀ [LawfulBEq α] (v : α) (y : Nat → α),
        (∀ i < 5, Undecided result i → result i = .ok (y i)) →
        (List.range 5).countP (fun i => y i != v) ≤ 2 → (∀ i < 4, y i ≠ v → y (i + 1) ≠ y i) →
          ran.1 = .ok v := by
  intro result behind ran
  refine ⟨?failed, ?agreed, ?spent, ?few⟩
  case failed =>
    intro k hk e h hfailed
    exact play_confirm_failed hk h hfailed
  case agreed =>
    intro i hi h hagree
    exact play_confirm_agreed (Nat.succ_lt_succ hi) h hagree
  case spent =>
    intro h
    exact play_confirm_spent h rfl
  case few =>
    intro _ v y hy hfew hglitch
    exact play_confirm_few hy hfew hglitch rfl

/-- A handle on a bus that answers reads with 1, 2, 1, 3 and 1. -/
def glitching : Device × Bench Playback :=
  let tape := ⟨[.ofValue 1, .ofValue 2, .ofValue 1, .ofValue 3], .ofValue 1⟩
  (⟨"bp", true, .none⟩, ⟨⟨[], .ok .required, tape⟩, #[]⟩)

theorem nth_glitching : ∀ i < 5,
    nth (Playback.bus.site.play (Device.readByteData 0x10).run) glitching i =
      .ok ([1, 2, 1, 3, 1].getD i 0) := by
  intro i hi
  match i, hi with
  | 0, _ | 1, _ | 2, _ | 3, _ | 4, _ => rfl

/-- Two glitches among five reads, none beside its like: the true value comes out, though it was
never read twice in a row. -/
theorem play_confirmed_glitching :
    let read := Device.readByteData 0x10
    let result := nth (Playback.bus.site.play read.run) glitching
    let ran := Playback.bus.site.play (confirmed "presence" read).run glitching
    Undecided result 5 ∧
      ran = (result 4, doubting "presence" (stateAfter (Playback.bus.site.play read.run) glitching 5)) ∧
      ran.1 = .ok 1 := by
  intro read result ran
  have hdiffer : ∀ i < 4, ([1, 2, 1, 3, 1].getD (i + 1) 0 == ([1, 2, 1, 3, 1].getD i 0 : UInt8)) =
      false := by decide
  have hopen : Undecided result 5 := by
    refine ⟨fun i hi => ⟨_, nth_glitching i hi⟩, ?_⟩
    rintro i hi ⟨v, w, hv, hw, heq⟩
    obtain rfl := Except.ok.inj ((nth_glitching i (by omega)).symm.trans hv)
    obtain rfl := Except.ok.inj ((nth_glitching (i + 1) hi).symm.trans hw)
    rw [hdiffer i (by omega)] at heq
    cases heq
  obtain ⟨-, -, hspent, hfew⟩ := play_confirmed Playback.bus.site "presence" read glitching
  exact ⟨hopen, hspent hopen, hfew 1 _ (fun i hi _ => nth_glitching i hi) (by decide) (by decide)⟩

end Backplane.Driver
