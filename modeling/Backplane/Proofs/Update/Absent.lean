import Backplane.Bus.Playback
import Backplane.Proofs.Update.Reboot

/-!
# Updates that find no controller

A failure of the class `mcuAbsent` says that nobody answered at the address. An update identifies
its controller twice, before writing and behind the reboot, and both identifications fail with that
class. So the class alone does not tell whether the controller was left alone: it was exactly where
the second identification was not begun.

* `ne_absent_refuses` to `ne_absent_verdict`: no stage but an identification fails with the class.
* `Shows.misses`: an update that fails with it is one of two.
* `run_absent_untouched`: when such an update has left the controller alone.
* `run_absent_altered`: an update that has not.
-/
namespace Backplane.Update

variable {label : String} {image : List UInt8} {options : UpdateOptions} {turns : List Turn}
  {d : Driver} {e : Error}

/-! ## Failures that are not of the class -/

theorem ne_absent_refuses (h : Refuses image options e) : e.failureClass ≠ .mcuAbsent := by
  cases h <;> simp [Error.failureClass]

theorem ne_absent_erases (h : Erases options d turns (.error e)) : e.failureClass ≠ .mcuAbsent := by
  cases h
  simp [Error.failureClass]

theorem ne_absent_ends {c : Flash.Cursor} (hd : d.device.operational = true)
    (h : Ends c d turns (.error e)) : e.failureClass ≠ .mcuAbsent := by
  obtain ⟨chunk, -, ⟨op, source, rfl⟩ | rfl | ⟨-, rfl⟩⟩ := h.error_inv hd <;> simp [Error.failureClass]

theorem ne_absent_awaits {left : Nat} {r : Except Error UInt32} (h : Awaits options left turns r)
    (hr : r = .error e) : e.failureClass ≠ .mcuAbsent := by
  induction h with
  | exhausted =>
    cases hr
    simp [Error.failureClass]
  | answered => cases hr
  | silent _ _ ih => exact ih hr

theorem ne_absent_verdict {info : DeviceInfo} (h : verdict options info = .error e) :
    e.failureClass ≠ .mcuAbsent := by
  obtain rfl | ⟨expected, actual, rfl⟩ := verdict_error h <;> simp [Error.failureClass]

/-! ## The two identifications -/

/-- The ways an update fails because it finds no controller. -/
inductive Misses (label : String) (options : UpdateOptions) (e : Error) : List Turn → Prop
  /-- Before anything was written. -/
  | first {opening : List Turn} (hcreate : Driver.Creates label opening (.error e)) :
      Misses label options e (opening ++ closing (.error e))
  /-- Behind the reboot, from which the controller had come back. -/
  | again {p : Protocol} {front pings opening : List Turn}
      {replies : List (Reply (.writeByte p.rebootCommand))} {n : UInt32}
      (hreboot : Settles Device.attemptsMax replies (.ok ()))
      (hpings : Awaits options options.pingAttempts.toNat pings (.ok n))
      (hcreate : Driver.Creates label opening (.error e)) :
      Misses label options e
        (front ++ tries _ replies ++ .told (.entered .awaitingPing) :: pings ++
          .told (.entered .reidentifying) :: opening ++ closing (.error e))

theorem Reidentifies.absent_inv (h : Reidentifies label options turns (.error e))
    (habsent : e.failureClass = .mcuAbsent) : Driver.Creates label turns (.error e) := by
  generalize hr : (Except.error e : Except Error DeviceInfo) = r at h
  cases h with
  | absent hcreate =>
    cases hr
    exact hcreate
  | identified => exact absurd habsent (ne_absent_verdict hr.symm)

theorem Restarts.absent_inv {r : Except Error (UInt32 × DeviceInfo)}
    (h : Restarts label options d turns r) (hr : r = .error e) (habsent : e.failureClass = .mcuAbsent) :
    ∃ (replies : List (Reply (.writeByte d.protocol.rebootCommand))) (pings opening : List Turn)
      (n : UInt32),
      turns = tries _ replies ++ .told (.entered .awaitingPing) :: pings ++
        .told (.entered .reidentifying) :: opening ∧
      Settles Device.attemptsMax replies (.ok ()) ∧
      Awaits options options.pingAttempts.toNat pings (.ok n) ∧
      Driver.Creates label opening (.error e) := by
  cases h with
  | unrebooted =>
    cases hr
    cases habsent
  | lost _ hpings =>
    cases hr
    exact absurd habsent (ne_absent_awaits hpings rfl)
  | @returned replies pings identity n r hreboot hpings hidentity =>
    cases r with
    | ok info => cases hr
    | error e' =>
      cases hr
      exact ⟨replies, pings, identity, n, rfl, hreboot, hpings, hidentity.absent_inv habsent⟩

theorem Flashes.misses {r : Except Error UpdateReport} (h : Flashes label image options turns r)
    (hr : r = .error e) (habsent : e.failureClass = .mcuAbsent) :
    Misses label options e (turns ++ closing r) := by
  cases h with
  | @flashed ready written ending before d d' c r hready hwritten hconcludes =>
    have hd := (hwritten.driver hready.driver.1).1
    cases hconcludes with
    | abandoned hends =>
      cases hr
      exact absurd habsent (ne_absent_ends hd hends)
    | @restarted restart r hpending hrestart =>
      cases r with
      | ok p => cases hr
      | error e' =>
        cases hr
        obtain ⟨replies, pings, opening, n, rfl, hreboot, hpings, hcreate⟩ :=
          hrestart.absent_inv rfl habsent
        have hagain : Misses label options e ((ready ++ .told (.entered .writing) ::
            .told (.writing image.length) :: written ++ [.told (.entered .rebooting)]) ++ tries _ replies ++
              .told (.entered .awaitingPing) :: pings ++ .told (.entered .reidentifying) :: opening ++
                closing (.error e)) := .again hreboot hpings hcreate
        simpa [Except.map] using hagain

/-- An update that fails because there is no controller missed it in one of two places. -/
theorem Shows.misses (h : Shows label image options turns (.error e))
    (habsent : e.failureClass = .mcuAbsent) : Misses label options e turns := by
  cases h with
  | refused hrefuse => exact absurd habsent (ne_absent_refuses hrefuse)
  | accepted _ hpass =>
    cases hpass with
    | absent hcreate => exact .first hcreate
    | unerased _ _ herase => exact absurd habsent (ne_absent_erases herase)
    | flashed hflashes => exact hflashes.misses rfl habsent

/-! ## What was done to the controller -/

/-- A turn that alters the controller or its flash. -/
def Alters (turn : Turn) : Prop := turn.activity ∈ [Activity.erase, .flashWrite, .reboot]

instance (turn : Turn) : Decidable (Alters turn) := by
  unfold Alters; infer_instance

theorem not_alters_creates {r : Except Error Driver} (h : Driver.Creates label turns r) :
    ∀ turn ∈ turns, ¬ Alters turn := by
  intro turn hturn
  rcases h.each_activity turn hturn with h | h | h <;> simp [Alters, h]

theorem not_alters_closing (r : Except Error UpdateReport) : ∀ turn ∈ closing r, ¬ Alters turn := by
  cases r <;> simp [closing, Alters, Turn.activity]

theorem alters_reboot {p : Protocol} {most : Nat} {outcome : Except BusError Unit}
    {replies : List (Reply (.writeByte p.rebootCommand))} (h : Settles most replies outcome) :
    ∃ turn ∈ tries _ replies, Alters turn := by
  obtain ⟨reply, hreply⟩ := List.exists_mem_of_ne_nil _ h.ne_nil
  exact ⟨_, mem_tries.2 ⟨reply, hreply, rfl⟩, by simp [Alters, Turn.activity]⟩

/-- Before writing nothing is altered, and the second identification is not begun. -/
theorem first_untouched {opening : List Turn} (h : Driver.Creates label opening (.error e)) :
    (∀ turn ∈ opening ++ closing (.error e), ¬ Alters turn) ∧
      .told (.entered .reidentifying) ∉ opening ++ closing (.error e) := by
  refine ⟨List.forall_mem_append.2 ⟨not_alters_creates h, not_alters_closing _⟩, ?_⟩
  rw [← mem_notices, notices_append, notices_creates h]
  simp [closing]

/-- The class of the failure of an update that failed. -/
def failureClass? : Except Error UpdateReport → Option FailureClass
  | .ok _ => none
  | .error e => some e.failureClass

theorem failureClass?_eq_some {r : Except Error UpdateReport} {c : FailureClass}
    (h : failureClass? r = some c) : ∃ e, r = .error e ∧ e.failureClass = c := by
  cases r with
  | ok report => cases h
  | error e => exact ⟨e, rfl, Option.some.inj h⟩

/-- An update that finds no controller, at any site: it has left the controller alone exactly where it
had not begun to identify it a second time. Where it had, a ping was answered directly before. -/
theorem run_absent_untouched {σ : Type} (site : Site σ) (bench : Bench σ) (label : String)
    (image : List UInt8) (options : UpdateOptions)
    (habsent : failureClass? (site.run (run label image options) bench).1 = some .mcuAbsent) :
    let turns := site.moves (run label image options) bench
    ((∀ turn ∈ turns, ¬ Alters turn) ↔ .told (.entered .reidentifying) ∉ turns) ∧
      (.told (.entered .reidentifying) ∈ turns →
        ∃ before replies byte opening e,
          turns = before ++ tries identRequest replies ++ .told (.entered .reidentifying) :: opening ++
            closing (.error e) ∧
          Settles Device.attemptsMax replies (.ok byte) ∧ Driver.Creates label opening (.error e)) := by
  intro turns
  obtain ⟨e, hresult, hclass⟩ := failureClass?_eq_some habsent
  have hshows : Shows label image options turns (.error e) :=
    hresult ▸ shows_run (site.course_moves _ bench)
  generalize turns = turns at hshows
  cases hshows.misses hclass with
  | first hcreate =>
    obtain ⟨huntouched, hentered⟩ := first_untouched hcreate
    exact ⟨iff_of_true huntouched hentered, fun h => absurd h hentered⟩
  | @again p front pings opening replies n hreboot hpings hcreate =>
    obtain ⟨waiting, answers, byte, rfl, -, hping⟩ := hpings.answered_inv
    obtain ⟨turn, hturn, halters⟩ := alters_reboot hreboot
    refine ⟨iff_of_false (fun h => h turn ?_ halters) (by simp), fun _ => ?_⟩
    · simp [hturn]
    · exact ⟨front ++ tries _ replies ++ .told (.entered .awaitingPing) :: waiting, answers, byte,
        opening, e, by simp, hping, hcreate⟩

/-- A bus of a controller of the newer generation that takes an image of 64 zeros in one chunk, comes
back from its reboot and answers a ping; `connects` is what opening the bus does. -/
def returning (connects : List (Except BusError Unit)) : Bench Playback where
  state := {
    connects := connects
    functionality := .ok .required
    tape := {
      cues := [.ofValue 0xA8, ⟨none, []⟩, ⟨none, []⟩, ⟨none, []⟩, ⟨none, []⟩,
        ⟨none, .replicate 64 0⟩, ⟨none, []⟩, .ofValue 0xA8]
      last := ⟨some (.os Errno.noAnswer), []⟩ } }
  events := #[]

/-- Where the bus can not be opened at all, the controller was left alone. -/
theorem run_absent_untouched_unopened :
    let task := run "bp" (.replicate 64 0) {}
    let bench := returning [.error (.os Errno.noEntry)]
    failureClass? (Playback.bus.site.run task bench).1 = some .mcuAbsent ∧
      ((∀ turn ∈ Playback.bus.site.moves task bench, ¬ Alters turn) ↔
        .told (.entered .reidentifying) ∉ Playback.bus.site.moves task bench) :=
  ⟨rfl, (run_absent_untouched Playback.bus.site (returning [.error (.os Errno.noEntry)]) "bp"
    (.replicate 64 0) {} rfl).1⟩

/-- Where the bus can not be opened a second time, the controller was written to and rebooted. -/
theorem run_absent_altered :
    let task := run "bp" (.replicate 64 0) {}
    let bench := returning [.ok (), .error (.os Errno.noEntry)]
    failureClass? (Playback.bus.site.run task bench).1 = some .mcuAbsent ∧
      ∃ turn ∈ Playback.bus.site.moves task bench, Alters turn := by
  decide +kernel

end Backplane.Update
