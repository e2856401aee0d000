import Mathlib.Data.List.DropRight
import Backplane.Proofs.Device.Retry

/-!
# Throttled lines

What a handle writes about its operations. A success is written in full and starts anew, of a streak of
failures the first three are written in full, the fourth in short, and the others not at all. The handle
counts no further than a word reaches, so a longer streak stays silent.

* `journal_transact`: the line about one operation, if there is one.
* `play_performEach_concat`: one more operation behind others.
* `count_performEach`: the count of a handle behind any operations.
* `run_throttles`: what is written about each operation of a run.
-/
namespace Backplane

variable {σ τ ε α β : Type}

/-! ## Lines of tasks -/

/-- The line that a task writes in a turn. -/
def Turn.line? : Turn → Option LogLine
  | ⟨.note (.log line), _⟩ => some line
  | _ => none

namespace Site
variable (site : Site σ)

/-- The lines that a task writes at a site. What the bus writes on its own is not among them. -/
def lines (task : Task α) (bench : Bench σ) : List LogLine :=
  (task.transcript site.answer bench).filterMap Turn.line?

/-- The lines that a task with a state writes at a site. -/
def journal (x : StateT τ Task α) (s : τ × Bench σ) : List LogLine := site.lines (x.run s.1) s.2

theorem lines_bind (task : Task α) (f : α → Task β) (bench : Bench σ) :
    site.lines (task >>= f) bench =
      site.lines task bench ++ site.lines (f (site.run task bench).1) (site.run task bench).2 := by
  rw [lines, Dialogue.transcript_bind, List.filterMap_append]
  rfl

theorem journal_pure (v : α) (s : τ × Bench σ) : site.journal (pure v) s = [] := rfl

theorem journal_bind (x : StateT τ Task α) (f : α → StateT τ Task β) (s : τ × Bench σ) :
    site.journal (x >>= f) s =
      site.journal x s ++ site.journal (f (site.play x s).1) (site.play x s).2 := by
  simp only [journal, StateT.run_bind, lines_bind, play]

theorem journal_get_bind (f : τ → StateT τ Task α) (s : τ × Bench σ) :
    site.journal (get >>= f) s = site.journal (f s.1) s := rfl

theorem journal_set_bind (new : τ) (f : PUnit → StateT τ Task α) (s : τ × Bench σ) :
    site.journal (set new >>= f) s = site.journal (f ()) (new, s.2) := rfl

theorem journal_lift (task : Task α) (s : τ × Bench σ) :
    site.journal (liftM task) s = site.lines task s.2 := by
  simp only [journal, liftM, StateT.run_monadLift, lines_bind]
  exact List.append_nil _

/-- Tasks that make no difference at a site write the same lines. -/
theorem Alike.journal {site : Site σ} {x y : StateT τ Task α} {s : τ × Bench σ} (h : site.Alike x y s) :
    site.journal x s = site.journal y s :=
  congrArg (List.filterMap Turn.line?) h.transcript

end Site

/-! ## Texts -/

namespace Text

/-- What a payload adds to a line: its name, its length, and each byte behind a blank. -/
def payload (name : String) (bytes : List UInt8) : String :=
  s!" {name} ({bytes.length}):" ++ String.join (bytes.map fun b => " " ++ hexByte b)

theorem foldl_pushHex (line : String) (bytes : List UInt8) :
    bytes.foldl (fun line b => pushHex (line.push ' ') b) line =
      line ++ String.join (bytes.map fun b => " " ++ hexByte b) := by
  induction bytes generalizing line with
  | nil => simp
  | cons b bytes ih =>
    rw [List.foldl_cons, ih, List.map_cons, String.join_cons]
    simp [pushHex, hexByte, ← String.toList_inj]

theorem pushPayload_eq (line name : String) (bytes : List UInt8) :
    pushPayload line name bytes = line ++ payload name bytes := by
  rw [pushPayload, foldl_pushHex]
  simp [payload, toString, ← String.toList_inj]

end Text

/-! ## Streaks -/

/-- How the failure behind `k` others is logged, as long as the count is that of the streak. -/
theorem ErrorStreak.decision_eq {s : ErrorStreak} {k : Nat} (h : s.count.toNat = min k (UInt32.size - 1)) :
    s.decision = if k < 3 then .full else if k = 3 then .summary else .silent := by
  have hthree : loggedInFull.toNat = 3 := rfl
  have hsize : UInt32.size = 4294967296 := rfl
  have hfull : s.count < loggedInFull ↔ k < 3 := by
    rw [UInt32.lt_iff_toNat_lt, h]
    omega
  have hsummary : s.count = loggedInFull ↔ k = 3 := by
    rw [← UInt32.toNat_inj, h]
    omega
  simp only [decision, hfull, hsummary]

namespace Device

/-! ## What is written -/

variable {site : Site σ} {d : Device} {bench : Bench σ} {r : Request} {lent : List UInt8}
  {command : Option UInt8} {sent : Option (List UInt8)} {k : Nat}

/-- The line of a handle that failed its check. -/
def refusedLine (label : String) : LogLine :=
  ⟨.library, .debug, s!"{label}: refusing I/O on non-operational handle"⟩

/-- The full line about an operation: the outcome, the command, what was sent, and what was received if
there is something. -/
def fullLine (label : String) (command : Option UInt8) (sent received : Option (List UInt8))
    (failure : Option BusError) : LogLine :=
  let shown := command.elim "" (fun byte => s!" CMD: {Text.hexByte byte}") ++
    sent.elim "" (Text.payload "TX") ++ received.elim "" (Text.payload "RX")
  match failure with
  | none => ⟨.library, .debug, s!"{label} <ok>" ++ shown⟩
  | some e => ⟨.library, .error, s!"{label} <FAILED ({e.code})!>" ++ shown⟩

/-- The line that ends the lines about a streak of failures. -/
def summaryLine (label : String) (e : BusError) : LogLine :=
  ⟨.library, .error,
    s!"{label} <FAILED ({e.code})!> ... (detected multiple errors, suppressing further log output)"⟩

/-- What is written about an outcome behind `k` failures in a row: a success and the first three failures
of a streak in full, the fourth in short, and nothing about the others. -/
def report (label : String) (k : Nat) (command : Option UInt8) (sent : Option (List UInt8))
    (received : r.Value → List UInt8 → Option (List UInt8)) (result : Except BusError r.Value)
    (buffer : List UInt8) : List LogLine :=
  match result with
  | .ok value => [fullLine label command sent (received value buffer) none]
  | .error e =>
    if k < 3 then [fullLine label command sent none (some e)]
    else if k = 3 then [summaryLine label e]
    else []

/-! ## The line about one operation -/

theorem lines_retry (site : Site σ) (r : Request) (again : Nat) (lent : List UInt8) (bench : Bench σ) :
    site.lines (retry r again lent) bench = [] := by
  induction again generalizing lent bench with
  | zero => rfl
  | succ again ih =>
    rw [retry, Site.lines_bind, Site.run_attempt]
    cases (site.replies r bench 0).result with
    | ok v => rfl
    | error e => exact ih _ _

theorem journal_log (level : Level) (text : String) (s : Device × Bench σ) :
    site.journal (liftM (Task.log level text) : DeviceM Unit) s = [⟨.library, level, text⟩] := rfl

theorem journal_logTransaction_ok {received : Option (List UInt8)} :
    site.journal (logTransaction command sent received none) (d, bench) =
      [fullLine d.label command sent received none] := by
  rw [logTransaction, Site.journal_get_bind, Site.journal_set_bind]
  simp only [ErrorStreak.record, Option.isSome_none, Bool.false_eq_true, if_false, journal_log]
  cases command <;> cases sent <;> cases received <;>
    simp [fullLine, Text.pushPayload_eq, toString, ← String.toList_inj]

theorem journal_logTransaction_failed {e : BusError}
    (hcount : d.streak.count.toNat = min k (UInt32.size - 1)) :
    site.journal (logTransaction command sent none (some e)) (d, bench) =
      if k < 3 then [fullLine d.label command sent none (some e)]
      else if k = 3 then [summaryLine d.label e]
      else [] := by
  rw [logTransaction, Site.journal_get_bind, Site.journal_set_bind]
  simp only [ErrorStreak.record, Option.isSome_some, if_true, ErrorStreak.decision_eq hcount]
  by_cases hfull : k < 3
  · simp only [if_pos hfull, journal_log]
    cases command <;> cases sent <;>
      simp [fullLine, Text.pushPayload_eq, toString, ← String.toList_inj]
  · simp only [if_neg hfull]
    by_cases hsummary : k = 3
    · simp only [if_pos hsummary, journal_log]
      simp [summaryLine, toString, ← String.toList_inj]
    · simp only [if_neg hsummary]
      rfl

variable {received : r.Value → List UInt8 → Option (List UInt8)}

/-- Behind the repeated request there is the line about it, if there is one. -/
theorem journal_reported (hcount : d.streak.count.toNat = min k (UInt32.size - 1))
    (result : Except BusError r.Value) (buffer : List UInt8) :
    site.journal (do
      match result with
      | .ok value => logTransaction command sent (received value buffer) none
      | .error e => logTransaction command sent none (some e)
      pure (result, buffer) : DeviceM (Except BusError r.Value × List UInt8)) (d, bench) =
        report d.label k command sent received result buffer := by
  cases result with
  | ok value =>
    dsimp only
    rw [Site.journal_bind, journal_logTransaction_ok, Site.journal_pure, List.append_nil]
    rfl
  | error e =>
    dsimp only
    rw [Site.journal_bind, journal_logTransaction_failed hcount, Site.journal_pure, List.append_nil]
    rfl

theorem play_transact_refused {s : Device × Bench σ} (hd : s.1.operational = false) :
    (site.play (transact r lent command sent received) s).1 = (.error .notOperational, lent) := by
  have hruns := site.runs_trail (transact r lent command sent received) s
  generalize site.play (transact r lent command sent received) s = ran at hruns ⊢
  obtain ⟨⟨result, buffer⟩, d', bench'⟩ := ran
  obtain ⟨-, rfl, rfl, -⟩ := runs_transact_refused hd hruns
  rfl

/-- A handle that failed its check says so, and then there is the line about the outcome, if there is
one. -/
theorem journal_transact {s : Device × Bench σ}
    (hcount : s.1.streak.count.toNat = min k (UInt32.size - 1)) :
    site.journal (transact r lent command sent received) s =
      (if s.1.operational then [] else [refusedLine s.1.label]) ++
        report s.1.label k command sent received (site.play (transact r lent command sent received) s).1.1
          (site.play (transact r lent command sent received) s).1.2 := by
  obtain ⟨d, bench⟩ := s
  cases hd : d.operational with
  | true =>
    rcases hrun : site.run (retry r (attemptsMax - 1) lent) bench with ⟨⟨result, buffer⟩, bench'⟩
    rw [play_transact command sent received hd hrun, transact, Site.journal_get_bind, if_pos hd,
      Site.journal_bind, Site.journal_lift, lines_retry, Site.play_lift, hrun]
    exact congrArg (List.append []) (journal_reported hcount result buffer)
  | false =>
    rw [play_transact_refused hd, transact, Site.journal_get_bind, if_neg (by simp [hd]),
      Site.journal_bind, journal_log, pure_bind]
    exact congrArg (List.cons _) (journal_reported hcount (.error .notOperational) lent)

/-! ## Every operation -/

/-- The lines about an operation. A block that does not fit is refused without a line. -/
theorem journal_perform {s : Device × Bench σ} (t : Transaction)
    (hcount : s.1.streak.count.toNat = min k (UInt32.size - 1)) :
    site.journal (perform t) s =
      if t.Fits then
        (if s.1.operational then [] else [refusedLine s.1.label]) ++
          report s.1.label k t.command t.sent t.received (site.play (perform t) s).1.1
            (site.play (perform t) s).1.2
      else [] := by
  by_cases hfits : t.Fits
  · have halike := alike_perform site hfits s
    rw [if_pos hfits, halike.play, halike.journal]
    exact journal_transact hcount
  · rw [if_neg hfits]
    cases t with
    | readBlock register lent =>
      rw [perform, readBlock, if_pos (Nat.lt_of_not_le hfits)]
      rfl
    | _ => exact absurd trivial hfits

/-- The handle takes note of the outcome of an operation, unless its buffer is longer than a block. -/
theorem noting_perform (t : Transaction) (s : Device × Bench σ) :
    (site.play (perform t) s).2.1 =
      if t.Fits then s.1.noting !(site.play (perform t) s).1.1.isOk else s.1 := by
  by_cases hfits : t.Fits
  · rw [if_pos hfits, (alike_perform site hfits s).play]
    exact (play_transact_leaves site t.buffer t.command t.sent t.received s).1
  · rw [if_neg hfits, (play_perform_oversized hfits s).1]

/-! ## Runs of operations -/

/-- The operation counts: it was not refused for the length of its buffer. -/
def Performed.Counts (p : Performed) : Prop := p.transaction.Fits

instance (p : Performed) : Decidable p.Counts := inferInstanceAs (Decidable p.transaction.Fits)

/-- The operation failed. -/
def Performed.failed (p : Performed) : Bool := !p.result.isOk

/-- How many operations failed since the last success, or in all if none succeeded. -/
def failuresSince (done : List Performed) : Nat :=
  ((done.filter (·.Counts)).rtakeWhile Performed.failed).length

theorem failuresSince_concat (done : List Performed) (p : Performed) :
    failuresSince (done ++ [p]) =
      if p.Counts then (if p.failed then failuresSince done + 1 else 0) else failuresSince done := by
  by_cases hcounts : p.Counts
  · rw [if_pos hcounts, failuresSince, List.filter_append, List.filter_singleton, decide_eq_true hcounts,
      Bool.cond_true, List.rtakeWhile_concat]
    split
    · rw [List.length_append, List.length_singleton, failuresSince]
    · rfl
  · rw [if_neg hcounts, failuresSince, List.filter_append, List.filter_singleton, decide_eq_false hcounts,
      Bool.cond_false, List.append_nil, failuresSince]

/-- A handle that refuses every operation counts all but those with too long a buffer. -/
theorem failuresSince_refused (ts : List Transaction) :
    failuresSince (ts.map Transaction.refused) = (ts.filter (·.Fits)).length := by
  rw [failuresSince, List.rtakeWhile_eq_self_iff.2, List.filter_map, List.length_map]
  · rfl
  · intro p hp
    obtain ⟨t, -, rfl⟩ := List.mem_map.1 (List.mem_of_mem_filter hp)
    rfl

/-- One more operation behind others. -/
theorem play_performEach_concat (site : Site σ) (ts : List Transaction) (t : Transaction)
    (s : Device × Bench σ) :
    site.play (performEach (ts ++ [t])) s =
      let ran := site.play (performEach ts) s
      let op := site.play (perform t) ran.2
      (ran.1 ++ [⟨t, op.1.1, op.1.2⟩], op.2) := by
  induction ts generalizing s with
  | nil =>
    rw [performEach, List.nil_append, performEach, Site.play_bind, performEach, Site.play_bind]
    rfl
  | cons first rest ih =>
    rw [List.cons_append, performEach, Site.play_bind, Site.play_bind, ih, performEach, Site.play_bind,
      Site.play_bind]
    rfl

/-- One more operation keeps the count that of the streak. -/
theorem count_perform {done : List Performed} {s : Device × Bench σ} (t : Transaction)
    (hcount : s.1.streak.count.toNat = min (failuresSince done) (UInt32.size - 1)) :
    let op := site.play (perform t) s
    op.2.1.streak.count.toNat =
      min (failuresSince (done ++ [⟨t, op.1.1, op.1.2⟩])) (UInt32.size - 1) := by
  intro op
  rw [failuresSince_concat, show op.2.1 = _ from noting_perform t s]
  by_cases hfits : t.Fits
  · have hcounts : (⟨t, op.1.1, op.1.2⟩ : Performed).Counts := hfits
    rw [if_pos hfits, if_pos hcounts, noting, ErrorStreak.toNat_record, hcount, Performed.failed]
    split <;> omega
  · have hcounts : ¬ (⟨t, op.1.1, op.1.2⟩ : Performed).Counts := hfits
    rw [if_neg hfits, if_neg hcounts, hcount]

/-- A handle that started without a failure behind it counts the streak, and is otherwise the same. -/
theorem count_performEach (site : Site σ) (ts : List Transaction) {s : Device × Bench σ}
    (hs : s.1.streak = .none) :
    let ran := site.play (performEach ts) s
    ran.2.1.streak.count.toNat = min (failuresSince ran.1) (UInt32.size - 1) ∧
      ran.2.1.label = s.1.label ∧ ran.2.1.operational = s.1.operational := by
  induction ts using List.reverseRecOn with
  | nil => exact ⟨by rw [show (site.play (performEach []) s).2.1 = s.1 from rfl, hs]; rfl, rfl, rfl⟩
  | append_singleton ts t ih =>
    obtain ⟨hcount, hlabel, hoperational⟩ := ih
    rw [play_performEach_concat]
    refine ⟨count_perform t hcount, ?_, ?_⟩
    all_goals
      dsimp only
      rw [noting_perform]
      split
    · exact hlabel
    · exact hlabel
    · exact hoperational
    · exact hoperational

/-- A handle is fresh when it is wrapped. -/
theorem wrapped (site : Site σ) (label : String) (bench : Bench σ) :
    (site.run (wrap label) bench).1.label = label ∧ (site.run (wrap label) bench).1.streak = .none := by
  obtain ⟨_, -, ⟨-, hd⟩ | ⟨-, hd⟩⟩ := Driver.course_wrap (site.course_moves (wrap label) bench)
  all_goals exact hd ▸ ⟨rfl, rfl⟩

/-- What a session leaves is what its operations leave of the fresh handle. -/
theorem run_session (site : Site σ) (label : String) (ts : List Transaction) (bench : Bench σ) :
    site.run (session label ts) bench =
      let ran := site.play (performEach ts) (site.run (wrap label) bench)
      ((ran.1, ran.2.1), ran.2.2) := by
  rw [session, Site.run_bind]
  rfl

/-- The lines about each operation of a session, whatever the bus answers and however long the session is.
The operation writes about its outcome what `report` says of the failures since the last success, and so
does a block that fits; on a handle that failed its check a line that says so comes first. The handle
counts the failures up to the largest word, and operations that it refuses are among them; a block that
does not fit is not counted and has no line. -/
theorem run_throttles (site : Site σ) (bench : Bench σ) (label : String) (ts : List Transaction)
    (t : Transaction) :
    let before := site.run (session label ts) bench
    let op := site.play (perform t) (before.1.2, before.2)
    let after := before.1.1 ++ [⟨t, op.1.1, op.1.2⟩]
    let k := failuresSince before.1.1
    site.run (session label (ts ++ [t])) bench = ((after, op.2.1), op.2.2) ∧
      before.1.2.streak.count.toNat = min k (UInt32.size - 1) ∧
      op.2.1.streak.count.toNat = min (failuresSince after) (UInt32.size - 1) ∧
      site.journal (perform t) (before.1.2, before.2) =
        (if t.Fits then
          (if before.1.2.operational then [] else [refusedLine label]) ++
            report label k t.command t.sent t.received op.1.1 op.1.2
        else []) ∧
      (before.1.2.operational = false →
        (t.Fits → op.1.1 = .error .notOperational) ∧ k = (ts.filter (·.Fits)).length) := by
  obtain ⟨hfresh, hnone⟩ := wrapped site label bench
  obtain ⟨hcount, hlabel, hoperational⟩ := count_performEach site ts hnone
  have hdone := site.runs_trail (performEach ts) (site.run (wrap label) bench)
  simp only [run_session, play_performEach_concat, true_and]
  generalize site.play (performEach ts) (site.run (wrap label) bench) = ran at *
  refine ⟨hcount, count_perform t hcount, ?lines, ?refused⟩
  case lines =>
    rw [← hfresh, ← hlabel]
    exact journal_perform t hcount
  case refused =>
    intro hrefuses
    obtain ⟨-, hall, -⟩ := runs_performEach_refused (hoperational ▸ hrefuses) hdone
    refine ⟨fun hfits => ?_, ?_⟩
    · rw [(alike_perform site hfits ran.2).play, play_transact_refused hrefuses]
    · rw [hall, failuresSince_refused]

/-- Three operations that were refused, and a block that does not fit: the next one has the line that ends
the lines about the streak. -/
theorem run_throttles_incapable :
    let ts := [.readByte, .readBlock 0 (.replicate 33 0), .writeRaw [1, 2], .readWordData 3]
    let before := Playback.bus.site.run (session "bp" ts) incapable
    before.1.2.operational = false ∧ before.1.2.streak.count.toNat = 3 ∧
      Playback.bus.site.journal (perform (.writeByte 4)) (before.1.2, before.2) =
        [refusedLine "bp", summaryLine "bp" .notOperational] ∧
      (Playback.bus.site.play (perform (.writeByte 4)) (before.1.2, before.2)).1.1 =
        .error .notOperational := by
  intro ts before
  obtain ⟨-, hcount, -, hlines, hrefused⟩ :=
    run_throttles Playback.bus.site incapable "bp" ts (.writeByte 4)
  have hd : before.1.2.operational = false := rfl
  obtain ⟨hresult, hk⟩ := hrefused hd
  have hfits : (Transaction.writeByte 4).Fits := trivial
  have hthree : failuresSince before.1.1 = 3 := hk
  rw [hthree] at hcount hlines
  refine ⟨hd, hcount, ?_, hresult hfits⟩
  rw [hlines, if_pos hfits, show before.1.2.operational = false from hd, hresult hfits]
  rfl

end Device
end Backplane
