import Backplane.Proofs.Device.Retry
import Backplane.Proofs.Driver.Detect
import Backplane.Proofs.Simulator.Requests

/-!
# Which driver is made

What a site answers to the opening, to the question what the adapter can do, and to the attempts at the
identification decides which driver is made, or why there is none. A target that can not be used is not
asked to identify itself.

* `Driver.Unusable`: the bus can not be opened, or the adapter lacks something.
* `Driver.Identifies`: what the attempts at the identification come to.
* `Driver.create_decides`: making a driver, at any site and on a simulated controller.
-/
namespace Backplane

variable {σ : Type} {site : Site σ} {bench : Bench σ} {label : String}

/-- The set has every bit that is needed if none of them is missing. -/
theorem Functionality.isSufficient_iff (funcs : Functionality) :
    funcs.isSufficient = true ↔
      ∀ i, required.bits.toNat.testBit i = true → funcs.bits.toNat.testBit i = true := by
  rw [isSufficient, contains, beq_iff_eq, ← UInt32.toNat_inj, UInt32.toNat_and]
  constructor
  · intro h i hi
    rw [← h, Nat.testBit_and] at hi
    exact (Bool.and_eq_true_iff.1 hi).1
  · intro h
    refine Nat.eq_of_testBit_eq fun i => ?_
    rw [Nat.testBit_and]
    cases hi : required.bits.toNat.testBit i with
    | true => rw [h i hi, Bool.and_true]
    | false => rw [Bool.and_false]

theorem Protocol.ofIdent?_eq_some {byte : UInt8} {p : Protocol} : ofIdent? byte = some p ↔ byte = p.ident := by
  constructor
  · intro h
    rw [ofIdent?] at h
    have hfound := List.find?_some h
    exact (beq_iff_eq.1 hfound).symm
  · rintro rfl
    exact ofIdent?_ident p

theorem Protocol.ofIdent?_eq_none {byte : UInt8} :
    ofIdent? byte = none ↔ byte ≠ ident .v0 ∧ byte ≠ ident .v1 := by
  simp only [Option.eq_none_iff_forall_ne_some, ne_eq, ofIdent?_eq_some]
  constructor
  · intro h
    exact ⟨h .v0, h .v1⟩
  · rintro ⟨h0, h1⟩ (_ | _)
    · exact h0
    · exact h1

namespace Driver

/-- A target that can not be used: its bus could not be opened, its adapter did not say what it can do, or a
bit is missing of what is needed. -/
inductive Unusable : Except BusError Unit → Except BusError Functionality → Prop
  | closed {e : BusError} {check : Except BusError Functionality} : Unusable (.error e) check
  | unsaid {opening : Except BusError Unit} {e : BusError} : Unusable opening (.error e)
  | lacking {opening : Except BusError Unit} {funcs : Functionality} {i : Nat}
      (hneeded : Functionality.required.bits.toNat.testBit i = true)
      (hlacks : funcs.bits.toNat.testBit i = false) : Unusable opening (.ok funcs)

theorem not_unusable_iff {opening : Except BusError Unit} {check : Reply .functionality} :
    ¬ Unusable opening check.result ↔ opening = .ok () ∧ Suffices check := by
  constructor
  · intro h
    cases opening with
    | error e => exact absurd .closed h
    | ok _ =>
      cases hcheck : check.result with
      | error e => exact absurd (hcheck ▸ .unsaid) h
      | ok funcs =>
        refine ⟨rfl, funcs, hcheck, (Functionality.isSufficient_iff funcs).2 fun i hi => ?_⟩
        cases hhas : funcs.bits.toNat.testBit i with
        | true => rfl
        | false => exact absurd (hcheck ▸ .lacking hi hhas) h
  · rintro ⟨rfl, funcs, hcheck, hsuffices⟩ h
    rw [hcheck] at h
    cases h with
    | lacking hneeded hlacks =>
      rw [(Functionality.isSufficient_iff funcs).1 hsuffices _ hneeded] at hlacks
      cases hlacks

/-! ## What the bus is asked -/

/-- A bus that can not be opened is asked nothing. -/
theorem moves_create_closed (label : String) {e : BusError}
    (hopen : (site.run Task.connect bench).1 = .error e) :
    ∃ rest, site.moves (create label) bench = .connected (.error e) :: rest := by
  have hconnect : site.moves Task.connect bench = [.connected (site.run Task.connect bench).1] := rfl
  rw [create, Site.moves_bind, hconnect, hopen]
  exact ⟨_, rfl⟩

theorem moves_create (label : String) (hopen : (site.run Task.connect bench).1 = .ok ()) :
    site.moves (create label) bench =
      .connected (.ok ()) :: site.moves (Device.wrap label >>= probe) (site.run Task.connect bench).2 := by
  have hconnect : site.moves Task.connect bench = [.connected (site.run Task.connect bench).1] := rfl
  rw [create, Site.moves_bind, hconnect, hopen]
  rfl

/-- A bus that was opened is asked what its adapter can do. -/
theorem moves_create_opened (label : String) (hopen : (site.run Task.connect bench).1 = .ok ()) :
    ∃ rest, site.moves (create label) bench =
      opened (site.run (Task.attempt .functionality) (site.run Task.connect bench).2).1 ++ rest := by
  rw [moves_create label hopen, Site.moves_bind, Device.wrap, Site.moves_bind, Site.moves_attempt]
  exact ⟨_, rfl⟩

/-- A handle whose adapter can do what is needed has passed its check, and nothing was written about it. -/
theorem run_wrap (label : String) (hcheck : Suffices (site.run (Task.attempt .functionality) bench).1) :
    site.run (Device.wrap label) bench =
        (⟨label, true, .none⟩, (site.run (Task.attempt .functionality) bench).2) ∧
      site.moves (Device.wrap label) bench =
        [.attempted .functionality (site.run (Task.attempt .functionality) bench).1] := by
  obtain ⟨funcs, hfuncs, hsuffices⟩ := hcheck
  rw [Device.wrap, Site.run_bind, Site.moves_bind, hfuncs]
  dsimp only
  rw [if_pos hsuffices]
  exact ⟨rfl, rfl⟩

/-- A target that can be used is asked to identify itself. -/
theorem moves_create_usable (label : String) (hopen : (site.run Task.connect bench).1 = .ok ())
    (hcheck : Suffices (site.run (Task.attempt .functionality) (site.run Task.connect bench).2).1) :
    let check := site.run (Task.attempt .functionality) (site.run Task.connect bench).2
    ∃ last rest, Device.SettlesAt site identRequest check.2 Device.attemptsMax last ∧
      site.moves (create label) bench =
        opened check.1 ++ (tries identRequest (site.upTo identRequest check.2 last) ++ rest) := by
  intro check
  obtain ⟨last, hsettles, -, hmoves⟩ :=
    Device.settles_retry site identRequest (Device.attemptsMax - 1) [] check.2
  obtain ⟨hrun, hwrap⟩ := run_wrap label hcheck
  have hread : site.moves ((Device.readByteData Protocol.identRegister).run ⟨label, true, .none⟩) check.2 =
      tries identRequest (site.upTo identRequest check.2 last) :=
    (Device.trail_exchange (⟨label, true, .none⟩, check.2)).trans ((Device.trail_transact rfl).trans hmoves)
  rw [moves_create label hopen, Site.moves_bind, hrun, hwrap, probe, if_pos rfl, Site.moves_bind]
  exact ⟨last, _, hsettles, congrArg (opened check.1 ++ ·) (congrArg (· ++ _) hread)⟩

/-! ## What is made -/

/-- A target that can not be used: nothing is asked of the device. -/
theorem create_unusable (label : String)
    (h : Unusable (site.run Task.connect bench).1
      (site.run (Task.attempt .functionality) (site.run Task.connect bench).2).1.result) :
    (site.run (create label) bench).1 = .error (.notOperational label) ∧
      ∀ turn ∈ site.moves (create label) bench, ∀ r, turn.request? = some r → r = .functionality := by
  have hways := creates_create (site.course_moves (create label) bench)
  cases hopen : (site.run Task.connect bench).1 with
  | error e =>
    obtain ⟨rest, hmoves⟩ := moves_create_closed label hopen
    obtain ⟨hmade, rfl⟩ := hways.of_closed hmoves
    refine ⟨hmade, ?_⟩
    rw [hmoves]
    simp [Turn.request?]
  | ok _ =>
    obtain ⟨rest, hmoves⟩ := moves_create_opened label hopen
    obtain ⟨-, hmade, rfl⟩ | ⟨hcheck, -⟩ := hways.of_opened hmoves
    · refine ⟨hmade, ?_⟩
      rw [hmoves]
      simp [Turn.request?, opened, eq_comm]
    · exact absurd h (not_unusable_iff.2 ⟨hopen, hcheck⟩)

/-- A target that can be used: what is made is what the attempts at its identification come to. -/
theorem create_usable (label : String) (hopen : (site.run Task.connect bench).1 = .ok ())
    (hcheck : Suffices (site.run (Task.attempt .functionality) (site.run Task.connect bench).2).1) :
    let check := site.run (Task.attempt .functionality) (site.run Task.connect bench).2
    ∃ last, Device.SettlesAt site identRequest check.2 Device.attemptsMax last ∧
      site.moves (create label) bench =
        opened check.1 ++ tries identRequest (site.upTo identRequest check.2 last) ∧
      (site.run (create label) bench).1 = outcome label (site.replies identRequest check.2 last).result := by
  intro check
  obtain ⟨last, rest, hsettles, hmoves⟩ := moves_create_usable label hopen hcheck
  obtain ⟨hlacks, -⟩ | ⟨-, replies, answer, htries, hsettled, hmade⟩ :=
    (creates_create (site.course_moves (create label) bench)).of_opened hmoves
  · exact absurd hcheck hlacks
  · obtain ⟨rfl, rfl⟩ := hsettles.settles.unique hsettled (htries.trans (List.append_nil _).symm)
    exact ⟨last, hsettles, hmoves.trans (congrArg (opened check.1 ++ ·) htries), hmade⟩

/-! ## What the identification comes to -/

variable {answer : Except BusError UInt8} {d : Driver}

theorem outcome_ok (label : String) (byte : UInt8) :
    outcome label (.ok byte) = match Protocol.ofIdent? byte with
      | some p => .ok (.ofDevice ⟨label, true, .none⟩ p)
      | none => .error (.deviceAbsent label (some byte)) := rfl

theorem outcome_error (label : String) (e : BusError) :
    outcome label (.error e) = .error (.deviceAbsent label none) := rfl

/-- A driver is made where the answer is that of its generation. -/
theorem outcome_ok_iff (p : Protocol) :
    (∃ d, outcome label answer = .ok d ∧ d.protocol = p) ↔ answer = .ok p.ident := by
  cases answer with
  | error e => simp [outcome_error]
  | ok byte =>
    rw [outcome_ok, Except.ok.injEq, ← Protocol.ofIdent?_eq_some]
    cases hident : Protocol.ofIdent? byte with
    | none => simp
    | some q => simp [ofDevice]

theorem outcome_unknown_iff (byte : UInt8) :
    outcome label answer = .error (.deviceAbsent label (some byte)) ↔
      answer = .ok byte ∧ Protocol.ofIdent? byte = none := by
  cases answer with
  | error e => simp [outcome_error]
  | ok byte' =>
    rw [outcome_ok, Except.ok.injEq]
    cases hident : Protocol.ofIdent? byte' with
    | none => grind
    | some q => grind

theorem outcome_silent_iff :
    outcome label answer = .error (.deviceAbsent label none) ↔ ∃ e, answer = .error e := by
  cases answer with
  | error e => simp [outcome_error]
  | ok byte =>
    rw [outcome_ok]
    cases Protocol.ofIdent? byte <;> simp

theorem outcome_ne_notOperational : outcome label answer ≠ .error (.notOperational label) := by
  cases answer with
  | error e => simp [outcome_error]
  | ok byte =>
    rw [outcome_ok]
    cases Protocol.ofIdent? byte <;> simp

/-- A driver that was made has read nothing and counted no failure. -/
theorem outcome_fresh (h : outcome label answer = .ok d) : d = .ofDevice ⟨label, true, .none⟩ d.protocol := by
  cases answer with
  | error e => cases h
  | ok byte =>
    rw [outcome_ok] at h
    cases hident : Protocol.ofIdent? byte with
    | none =>
      rw [hident] at h
      cases h
    | some q =>
      rw [hident] at h
      cases h
      rfl

/-- What the attempts at the identification of the target come to: the first success ends them, the third
attempt ends them in any case, and what the last one came to decides. -/
structure Identifies (site : Site σ) (label : String) (asked : Bench σ) (last : Nat)
    (made : Except Error Driver) : Prop where
  settles : Device.SettlesAt site identRequest asked 3 last
  v0 : (∃ d, made = .ok d ∧ d.protocol = .v0) ↔ (site.replies identRequest asked last).result = .ok 0xBC
  v1 : (∃ d, made = .ok d ∧ d.protocol = .v1) ↔ (site.replies identRequest asked last).result = .ok 0xA8
  unknown : ∀ byte, made = .error (.deviceAbsent label (some byte)) ↔
    (site.replies identRequest asked last).result = .ok byte ∧ byte ≠ 0xBC ∧ byte ≠ 0xA8
  silent : made = .error (.deviceAbsent label none) ↔
    ∀ i < 3, ∃ e, (site.replies identRequest asked i).result = .error e

theorem identifies_outcome {last : Nat} (h : Device.SettlesAt site identRequest bench 3 last) :
    Identifies site label bench last (outcome label (site.replies identRequest bench last).result) where
  settles := h
  v0 := outcome_ok_iff .v0
  v1 := outcome_ok_iff .v1
  unknown byte := (outcome_unknown_iff byte).trans (and_congr_right fun _ => Protocol.ofIdent?_eq_none)
  silent := outcome_silent_iff.trans h.error_iff

/-! ## On a simulated controller -/

/-- A simulated controller that can be reached and used withholds its identification for a while, or for too
long. -/
theorem create_simulated {board : Bench Simulator} {name : String} (hboot : board.state.booting = none)
    (hmissing : board.state.faults.missingFunctionality = false)
    (hconnect : board.state.faults.connectFails = false) :
    let ran := (Simulator.bus name).site.run (create label) board
    let n := board.state.faults.nakIdent
    (n ≤ 2 → (∃ d, ran.1 = .ok d ∧ d.protocol = board.state.config.protocol) ∧
        ran.2.state.faults.nakIdent = 0) ∧
      (2 < n → ran.1 = .error (.deviceAbsent label none) ∧ ran.2.state.faults.nakIdent = n - 3) := by
  intro ran n
  have hconnected : Simulator.connect name board.state = _ := if_neg (by simp [hconnect])
  have hopen : ((Simulator.bus name).site.run Task.connect board).1 = .ok () := by
    change (Simulator.connect name board.state).value = _
    rw [hconnected]
  have hcheck : Suffices ((Simulator.bus name).site.run (Task.attempt .functionality)
      ((Simulator.bus name).site.run Task.connect board).2).1 := by
    change Suffices (Simulator.attempt .functionality (Simulator.connect name board.state).next).value
    rw [hconnected]
    exact ⟨_, congrArg Except.ok (if_neg (by simp [hmissing])), by decide⟩
  obtain ⟨last, hsettles, hmoves, hmade⟩ := create_usable label hopen hcheck
  -- Neither the opening nor the check makes a difference to the controller.
  have hfollows := Bus.follows_moves (Simulator.bus name) (create label) board
  rw [hmoves] at hfollows
  obtain ⟨_, ⟨-, rfl⟩, t, ⟨-, ht⟩, hasked⟩ := hfollows
  replace ht : t = (Simulator.connect name board.state).next := ht
  rw [hconnected] at ht
  have hs : t.Running board.state.config.protocol := by
    rw [ht]
    exact ⟨hboot, rfl⟩
  have hn : t.faults.nakIdent = n := by rw [ht]
  have hmost : Device.attemptsMax = 3 := rfl
  refine ⟨fun hfew => ?_, fun hmany => ?_⟩
  · obtain ⟨hanswer, -, hleft⟩ := Simulator.follows_ident hs (by omega) hsettles.settles hasked
    rw [hanswer] at hmade
    exact ⟨hmade ▸ (outcome_ok_iff _).2 rfl, hleft⟩
  · obtain ⟨⟨e, hanswer⟩, hleft⟩ :=
      Simulator.follows_ident_withheld hs (by omega) hsettles.settles hasked
    rw [hanswer] at hmade
    exact ⟨hmade, Nat.eq_sub_of_add_eq (hleft.trans hn)⟩

/-- Making a driver, whatever the site answers. A target that can not be used is refused without a word to the
device; otherwise the attempts at the identification decide, and a driver that is made has read nothing and
counted no failure. On a simulated controller that runs, can be reached and can be used, a driver of its
generation is made unless it withholds its identification three times. -/
theorem create_decides (site : Site σ) (bench : Bench σ) (label name : String) (board : Bench Simulator) :
    (let opening := site.run Task.connect bench
      let check := site.run (Task.attempt .functionality) opening.2
      let made := (site.run (create label) bench).1
      let turns := site.moves (create label) bench
      (made = .error (.notOperational label) ↔ Unusable opening.1 check.1.result) ∧
        (Unusable opening.1 check.1.result →
          ∀ turn ∈ turns, ∀ r, turn.request? = some r → r = .functionality) ∧
        (¬ Unusable opening.1 check.1.result → ∃ last, Identifies site label check.2 last made ∧
          turns = opened check.1 ++ tries identRequest (site.upTo identRequest check.2 last)) ∧
        ∀ d, made = .ok d → d = ⟨⟨label, true, ⟨0⟩⟩, d.protocol, none, none, none, 0⟩) ∧
      (board.state.booting = none → board.state.faults.missingFunctionality = false →
        board.state.faults.connectFails = false →
        let ran := (Simulator.bus name).site.run (create label) board
        let n := board.state.faults.nakIdent
        (n ≤ 2 → (∃ d, ran.1 = .ok d ∧ d.protocol = board.state.config.protocol) ∧
            ran.2.state.faults.nakIdent = 0) ∧
          (2 < n → ran.1 = .error (.deviceAbsent label none) ∧
            ran.2.state.faults.nakIdent = n - 3)) := by
  refine ⟨?_, create_simulated⟩
  intro opening check made turns
  by_cases h : Unusable opening.1 check.1.result
  · obtain ⟨hmade, hquiet⟩ := create_unusable label h
    replace hmade : made = _ := hmade
    refine ⟨⟨fun _ => h, fun _ => hmade⟩, fun _ => hquiet, fun husable => absurd h husable, ?_⟩
    intro d hd
    cases hmade.symm.trans hd
  · obtain ⟨hopen, hcheck⟩ := not_unusable_iff.1 h
    obtain ⟨last, hsettles, hturns, hmade⟩ := create_usable label hopen hcheck
    replace hmade : made = _ := hmade
    rw [hmade]
    refine ⟨⟨fun hrefused => absurd hrefused outcome_ne_notOperational, fun hno => absurd hno h⟩,
      fun hno => absurd hno h, fun _ => ⟨last, identifies_outcome hsettles, hturns⟩, fun d => outcome_fresh⟩

/-- An adapter that can do nothing, a device that fails twice and then answers with an unknown byte, and a
controller that withholds its identification twice or four times. -/
theorem create_decides_withheld :
    let withholding (n : Nat) : Bench Simulator := ⟨.start (.blank .v1) { nakIdent := n }, #[]⟩
    let created (n : Nat) := (Simulator.bus "sim").site.run (create "bp") (withholding n)
    (Playback.bus.site.run (create "bp") Device.incapable).1 = .error (.notOperational "bp") ∧
      (∃ last, Identifies Playback.bus.site "bp"
        (Playback.bus.site.run (Task.attempt .functionality)
          (Playback.bus.site.run Task.connect Device.flaky).2).2 last
        (Playback.bus.site.run (create "bp") Device.flaky).1) ∧
      ((∃ d, (created 2).1 = .ok d ∧ d.protocol = .v1) ∧ (created 2).2.state.faults.nakIdent = 0) ∧
      (created 4).1 = .error (.deviceAbsent "bp" none) ∧ (created 4).2.state.faults.nakIdent = 1 := by
  intro withholding created
  obtain ⟨⟨hrefused, -⟩, hfew⟩ :=
    create_decides Playback.bus.site Device.incapable "bp" "sim" (withholding 2)
  obtain ⟨⟨-, -, hused, -⟩, hmany⟩ :=
    create_decides Playback.bus.site Device.flaky "bp" "sim" (withholding 4)
  have hneeded : Functionality.required.bits.toNat.testBit 3 = true := by decide
  have husable : ¬ Unusable (.ok ()) (Reply.ok (r := .functionality) .required).result :=
    not_unusable_iff.2 ⟨rfl, _, rfl, by decide⟩
  obtain ⟨last, hidentifies, -⟩ := hused husable
  exact ⟨hrefused.2 (.lacking hneeded rfl), ⟨last, hidentifies⟩, (hfew rfl rfl rfl).1 (by decide),
    (hmany rfl rfl rfl).2 (by decide)⟩

end Driver
end Backplane
