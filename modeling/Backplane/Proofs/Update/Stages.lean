import Backplane.Proofs.Driver.Chunk
import Backplane.Proofs.Driver.Detect
import Backplane.Proofs.Driver.Identity
import Backplane.Update.Sequence

/-!
# The stages of an update, on any bus

Each stage of an update is a relation between its turns and its result, with one case for each way
it ends. `Reaches` is the loop over the chunks: the cursor and the driver before and behind chunks
that were all verified.

* `tries_writeFrom`: the loop reaches a place and ends there.
* `passes_stages`: an update is these stages, one behind the other.
* `shows_run`: what can be seen of an update, whatever the bus answers.
-/
namespace Backplane.Update

variable {label : String} {options : UpdateOptions} {st st' : UpdateState} {turns : List Turn}
  {d d' : Driver} {α : Type}

/-! ## The parts of an update -/

/-- Erases the update area if told to. -/
inductive Erases (options : UpdateOptions) (d : Driver) : List Turn → Except Error Driver → Prop
  | skipped (herase : options.erase = false) : Erases options d [] (.ok d)
  | erased {replies : List (Reply (.writeByte d.protocol.eraseCommand))} {d' : Driver}
      (herase : options.erase = true)
      (hcommand : Settles Device.attemptsMax replies (.ok ()))
      (hlike : Driver.Like { d with flashOffset := 0 } d') :
      Erases options d
        (.told (.entered .erasing) :: tries _ replies ++ [.delayed options.eraseSettle]) (.ok d')
  | failed {replies : List (Reply (.writeByte d.protocol.eraseCommand))} {e : BusError}
      (herase : options.erase = true)
      (hcommand : Settles Device.attemptsMax replies (.error e)) :
      Erases options d (.told (.entered .erasing) :: tries _ replies)
        (.error (.communication d.label .eraseFlash e))

/-- Chunks written one behind the other, each verified and reported. -/
inductive Reaches : Flash.Cursor → Driver → List Turn → Flash.Cursor → Driver → Prop
  | here {c : Flash.Cursor} {d : Driver} : Reaches c d [] c d
  | step {c c' : Flash.Cursor} {d mid d' : Driver} {chunk : List UInt8} {first rest : List Turn}
      (hpending : c.pending = some chunk)
      (hwrite : Runs (Driver.writeChunk chunk).run d first (.ok ()) mid)
      (hrest : Reaches c.advance mid rest c' d') :
      Reaches c d (first ++ .told (.written c.advance.offset) :: rest) c' d'

/-- Writing ends behind the last chunk, or with a chunk that failed and a reboot. -/
inductive Ends (c : Flash.Cursor) (d : Driver) : List Turn → Except Error (Nat × Driver) → Prop
  | finished (hpending : c.pending = none) : Ends c d [] (.ok (c.offset, d))
  | abandoned {chunk : List UInt8} {e : Error} {failed : List Turn} {mid : Driver}
      {replies : List (Reply (.writeByte d.protocol.rebootCommand))} {outcome : Except BusError Unit}
      (hpending : c.pending = some chunk)
      (hwrite : Runs (Driver.writeChunk chunk).run d failed (.error e) mid)
      (hreboot : Settles Device.attemptsMax replies outcome) :
      Ends c d (failed ++ tries _ replies) (.error e)

/-- Writing is broken off at a chunk that was still to be written, and for the reason it failed. -/
theorem Ends.error_inv {c : Flash.Cursor} {d : Driver} {turns : List Turn} {e : Error}
    (hd : d.device.operational = true) (h : Ends c d turns (.error e)) :
    ∃ chunk, c.pending = some chunk ∧
      ((∃ op source, e = .communication d.label op source) ∨ e = .verifyFailed d.label d.flashOffset ∨
        ¬ IsChunk d.flashOffset chunk ∧ e = .invalidChunk chunk.length) := by
  cases h with
  | abandoned hpending hwrite =>
    obtain ⟨hwrites, -⟩ := Driver.writes_writeChunk hd hwrite
    exact ⟨_, hpending, Driver.writes_error hwrites⟩

/-- Pings, `left` of them at most. -/
inductive Awaits (options : UpdateOptions) : (left : Nat) → List Turn → Except Error UInt32 → Prop
  | exhausted : Awaits options 0 [] (.error (.deviceDidNotReturn options.pingAttempts))
  | answered {left : Nat} {replies : List (Reply identRequest)} {byte : UInt8}
      (hping : Settles Device.attemptsMax replies (.ok byte)) :
      Awaits options (left + 1) (.delayed options.pingInterval :: tries _ replies)
        (.ok (.ofNat (options.pingAttempts.toNat - left)))
  | silent {left : Nat} {replies : List (Reply identRequest)} {e : BusError} {rest : List Turn}
      {r : Except Error UInt32} (hping : Settles Device.attemptsMax replies (.error e))
      (hrest : Awaits options left rest r) :
      Awaits options (left + 1)
        (.delayed options.pingInterval :: tries _ replies ++
          .told (.pingFailed (.ofNat (options.pingAttempts.toNat - left)) options.pingAttempts) ::
            rest) r

/-- What the identity behind the reboot means for the update. -/
def verdict (options : UpdateOptions) (info : DeviceInfo) : Except Error DeviceInfo :=
  if info.isComplete then
    match options.expectedVersion with
    | none => .ok info
    | some expected =>
      if expected = info.firmwareVersion then .ok info
      else .error (.versionMismatch expected info.firmwareVersion)
  else .error .deviceInfoUnavailable

theorem verdict_error {info : DeviceInfo} {e : Error} (h : verdict options info = .error e) :
    e = .deviceInfoUnavailable ∨ ∃ expected actual, e = .versionMismatch expected actual := by
  unfold verdict at h
  split at h
  · split at h
    · cases h
    · split at h <;> cases h
      exact .inr ⟨_, _, rfl⟩
  · cases h
    exact .inl rfl

/-- The controller is identified once more, on a handle of its own. -/
inductive Reidentifies (label : String) (options : UpdateOptions) :
    List Turn → Except Error DeviceInfo → Prop
  | absent {opening : List Turn} {e : Error} (hcreate : Driver.Creates label opening (.error e)) :
      Reidentifies label options opening (.error e)
  | identified {opening identity : List Turn} {d d' : Driver} {info : DeviceInfo}
      (hcreate : Driver.Creates label opening (.ok d))
      (hinfo : Runs Driver.deviceInfo d identity info d') :
      Reidentifies label options (opening ++ identity) (verdict options info)

/-- The reboot behind a written image, the pings, and the identity behind them. -/
inductive Restarts (label : String) (options : UpdateOptions) (d : Driver) :
    List Turn → Except Error (UInt32 × DeviceInfo) → Prop
  | unrebooted {replies : List (Reply (.writeByte d.protocol.rebootCommand))} {e : BusError}
      (hreboot : Settles Device.attemptsMax replies (.error e)) :
      Restarts label options d (tries _ replies) (.error (.communication d.label .reboot e))
  | lost {replies : List (Reply (.writeByte d.protocol.rebootCommand))} {pings : List Turn}
      {e : Error} (hreboot : Settles Device.attemptsMax replies (.ok ()))
      (hpings : Awaits options options.pingAttempts.toNat pings (.error e)) :
      Restarts label options d (tries _ replies ++ .told (.entered .awaitingPing) :: pings) (.error e)
  | returned {replies : List (Reply (.writeByte d.protocol.rebootCommand))}
      {pings identity : List Turn} {n : UInt32} {r : Except Error DeviceInfo}
      (hreboot : Settles Device.attemptsMax replies (.ok ()))
      (hpings : Awaits options options.pingAttempts.toNat pings (.ok n))
      (hidentity : Reidentifies label options identity r) :
      Restarts label options d
        (tries _ replies ++ .told (.entered .awaitingPing) :: pings ++
          .told (.entered .reidentifying) :: identity) (r.map (n, ·))

/-- What comes before writing: a driver, the identity of the controller, an erased update area. -/
inductive Prepares (label : String) (options : UpdateOptions) :
    List Turn → DeviceInfo → Driver → Prop
  | ready {opening identity erasing : List Turn} {d mid d' : Driver} {before : DeviceInfo}
      (hcreate : Driver.Creates label opening (.ok d))
      (hinfo : Runs Driver.deviceInfo d identity before mid)
      (herase : Erases options mid erasing (.ok d')) :
      Prepares label options (opening ++ identity ++ .told (.currentDevice before) :: erasing) before d'

/-- What comes behind the chunks: the reboot that ends a failed write, or the one into the new
firmware. -/
inductive Concludes (label : String) (options : UpdateOptions) (before : DeviceInfo)
    (c : Flash.Cursor) (d : Driver) : List Turn → Except Error UpdateReport → Prop
  | abandoned {ending : List Turn} {e : Error} (hends : Ends c d ending (.error e)) :
      Concludes label options before c d ending (.error e)
  | restarted {restart : List Turn} {r : Except Error (UInt32 × DeviceInfo)}
      (hpending : c.pending = none) (hrestart : Restarts label options d restart r) :
      Concludes label options before c d (.told (.entered .rebooting) :: restart)
        (r.map fun (pings, after) => ⟨before, after, c.offset, pings⟩)

/-- An update that comes to writing, up to its result. -/
inductive Flashes (label : String) (image : List UInt8) (options : UpdateOptions) :
    List Turn → Except Error UpdateReport → Prop
  | flashed {ready written ending : List Turn} {before : DeviceInfo} {d d' : Driver}
      {c : Flash.Cursor} {r : Except Error UpdateReport} (hready : Prepares label options ready before d)
      (hwritten : Reaches (.start image options.chunkSize) d written c d')
      (hconcludes : Concludes label options before c d' ending r) :
      Flashes label image options
        (ready ++ .told (.entered .writing) :: .told (.writing image.length) :: written ++ ending) r

/-- The stages of an update of accepted size, up to its result. -/
inductive Passes (label : String) (image : List UInt8) (options : UpdateOptions) :
    List Turn → Except Error UpdateReport → Prop
  | absent {opening : List Turn} {e : Error} (hcreate : Driver.Creates label opening (.error e)) :
      Passes label image options opening (.error e)
  | unerased {opening identity erasing : List Turn} {d mid : Driver} {before : DeviceInfo} {e : Error}
      (hcreate : Driver.Creates label opening (.ok d))
      (hinfo : Runs Driver.deviceInfo d identity before mid)
      (herase : Erases options mid erasing (.error e)) :
      Passes label image options
        (opening ++ identity ++ .told (.currentDevice before) :: erasing) (.error e)
  | flashed {turns : List Turn} {r : Except Error UpdateReport}
      (hflashes : Flashes label image options turns r) : Passes label image options turns r

/-- The sizes that an update accepts. -/
def Accepts (image : List UInt8) (options : UpdateOptions) : Prop :=
  imageMin ≤ image.length ∧ image.length ≤ imageMax ∧ IsChunkSize options.chunkSize

/-- How an update is refused before anything is asked of the bus. -/
inductive Refuses (image : List UInt8) (options : UpdateOptions) : Error → Prop
  | image (himage : ¬ (imageMin ≤ image.length ∧ image.length ≤ imageMax)) :
      Refuses image options (.invalidImageSize image.length)
  | chunkSize (himage : imageMin ≤ image.length ∧ image.length ≤ imageMax)
      (hsize : ¬ IsChunkSize options.chunkSize) :
      Refuses image options (.invalidChunk options.chunkSize)

/-- What an observer is told at the end. -/
def closing : Except Error UpdateReport → List Turn
  | .ok report => [.told (.entered .done), .told (.complete report)]
  | .error _ => [.told (.entered .failed)]

/-- What can be seen of an update. -/
inductive Shows (label : String) (image : List UInt8) (options : UpdateOptions) :
    List Turn → Except Error UpdateReport → Prop
  | refused {e : Error} (hrefuse : Refuses image options e) :
      Shows label image options (closing (.error e)) (.error e)
  | accepted {turns : List Turn} {r : Except Error UpdateReport} (haccept : Accepts image options)
      (hpass : Passes label image options turns r) : Shows label image options (turns ++ closing r) r

/-! ## The steps of an update -/

theorem runs_enter {next : UpdateState} {v : Unit} :
    Runs (enter label next) st turns v st' ↔ turns = [.told (.entered next)] ∧ st' = next := by
  rw [enter, runs_get_bind, runs_log_bind]
  simp only [runs_bind, runs_set, runs_lift, course_report]
  constructor
  · intro h
    obtain ⟨_, _, _, _, rfl, ⟨rfl, rfl⟩, rfl, rfl⟩ := h
    exact ⟨rfl, rfl⟩
  · intro h
    obtain ⟨rfl, rfl⟩ := h
    exact ⟨[], (), st', _, rfl, ⟨rfl, rfl⟩, rfl, rfl⟩

theorem tries_enter_bind {next : UpdateState} {f : Unit → UpdateM.Try α} {r : Except Error α} :
    Runs (liftM (enter label next) >>= f).run st turns r st' ↔
      ∃ rest, turns = .told (.entered next) :: rest ∧ Runs (f ()).run next rest r st' := by
  simp only [tries_lift_bind, runs_enter]
  constructor
  · intro h
    obtain ⟨_, _, _, rest, rfl, ⟨rfl, rfl⟩, h⟩ := h
    exact ⟨rest, rfl, h⟩
  · intro h
    obtain ⟨rest, rfl, h⟩ := h
    exact ⟨_, (), next, rest, rfl, ⟨rfl, rfl⟩, h⟩

theorem tries_drive {operation : DriverM.Try α} {r : Except Error (α × Driver)} :
    Runs (drive operation d).run st turns r st' ↔
      st = st' ∧ ∃ outcome mid, Runs operation.run d turns outcome mid ∧
        r = outcome.map (·, mid) := by
  rw [drive, tries_liftTask_bind]
  constructor
  · intro h
    obtain ⟨first, ⟨outcome, mid⟩, rest, rfl, hrun, hend⟩ := h
    cases outcome with
    | ok value =>
      obtain ⟨rfl, rfl, rfl⟩ := tries_pure.1 hend
      exact ⟨rfl, .ok value, mid, by rwa [List.append_nil], rfl⟩
    | error e =>
      obtain ⟨rfl, rfl, rfl⟩ := tries_throw.1 hend
      exact ⟨rfl, .error e, mid, by rwa [List.append_nil], rfl⟩
  · intro h
    obtain ⟨rfl, outcome, mid, hrun, rfl⟩ := h
    refine ⟨turns, (outcome, mid), [], by rw [List.append_nil], hrun, ?_⟩
    cases outcome with
    | ok value => exact tries_pure.2 ⟨rfl, rfl, rfl⟩
    | error e => exact tries_throw.2 ⟨rfl, rfl, rfl⟩

theorem creates_openDriver {r : Except Error Driver}
    (h : Runs (openDriver label).run st turns r st') :
    Driver.Creates label turns r ∧ st = st' := by
  obtain ⟨hcreate, rfl⟩ := runs_lift.1 h
  exact ⟨Driver.creates_create hcreate, rfl⟩

/-- Chunks leave the handle and the generation of the driver as they were. -/
theorem Reaches.driver {c c' : Flash.Cursor} (h : Reaches c d turns c' d')
    (hd : d.device.operational = true) :
    d'.device.operational = true ∧ d'.protocol = d.protocol ∧ d'.label = d.label := by
  induction h with
  | here => exact ⟨hd, rfl, rfl⟩
  | step hpending hwrite hrest ih =>
    obtain ⟨-, hlike⟩ := Driver.writes_writeChunk hd hwrite
    obtain ⟨hd', hp, hlabel⟩ := ih (hlike.operational_eq.trans hd)
    exact ⟨hd', hp.trans hlike.protocol_eq, hlabel.trans hlike.label_eq⟩

theorem tries_abandon {offset : Nat} {failure : Error} {r : Except Error α}
    (hd : d.device.operational = true)
    (h : Runs (abandon label offset failure d : UpdateM.Try α).run st turns r st') :
    ∃ (replies : List (Reply (.writeByte d.protocol.rebootCommand)))
      (outcome : Except BusError Unit), turns = tries _ replies ∧
      Settles Device.attemptsMax replies outcome ∧ r = .error failure ∧ st = st' := by
  rw [abandon, tries_log_bind, tries_liftTask_bind] at h
  obtain ⟨_, ⟨result, mid⟩, _, rfl, hreboot, h⟩ := h
  obtain ⟨replies, outcome, rfl, hsettles, rfl, -⟩ := Driver.runs_reboot hd hreboot
  refine ⟨replies, outcome, ?_⟩
  cases outcome with
  | ok _ =>
    obtain ⟨rfl, rfl, rfl⟩ := tries_throw.1 h
    exact ⟨by rw [List.append_nil], hsettles, rfl, rfl⟩
  | error e =>
    dsimp only [Except.mapError] at h
    rw [tries_log_bind] at h
    obtain ⟨rfl, rfl, rfl⟩ := tries_throw.1 h
    exact ⟨by rw [List.append_nil], hsettles, rfl, rfl⟩

theorem tries_writeFrom {c : Flash.Cursor} {hsize : 0 < c.chunkSize}
    {r : Except Error (Nat × Driver)} (hd : d.device.operational = true)
    (h : Runs (writeFrom label c hsize d).run st turns r st') :
    st = st' ∧ ∃ written ending c' mid, turns = written ++ ending ∧ Reaches c d written c' mid ∧
      Ends c' mid ending r := by
  induction hn : c.rest.length using Nat.strongRecOn generalizing c d turns with
  | ind n ih =>
    rw [writeFrom] at h
    split at h
    · next hpending =>
      rw [tries_log_bind] at h
      obtain ⟨rfl, rfl, rfl⟩ := tries_pure.1 h
      exact ⟨rfl, [], [], c, d, rfl, .here, .finished hpending⟩
    · next chunk hpending =>
      obtain ⟨first, ⟨outcome, mid⟩, rest, rfl, hwrite, hrest⟩ := tries_liftTask_bind.1 h
      obtain ⟨-, hlike⟩ := Driver.writes_writeChunk hd hwrite
      have hmid := hlike.operational_eq.trans hd
      cases outcome with
      | error e =>
        have habandon := tries_abandon hmid hrest
        rw [show mid.protocol = d.protocol from hlike.protocol_eq] at habandon
        obtain ⟨replies, outcome, rfl, hreboot, rfl, rfl⟩ := habandon
        exact ⟨rfl, [], _, c, d, rfl, .here, .abandoned hpending hwrite hreboot⟩
      | ok _ =>
        obtain ⟨_, _, rest, rfl, hreport, hwritten⟩ := tries_liftTask_bind.1 hrest
        have hless := Flash.Cursor.length_rest_advance_lt hsize hpending
        obtain ⟨rfl, written, ending, c', last, rfl, hreach, hends⟩ :=
          ih _ (hn ▸ hless) hmid hwritten rfl
        rw [course_report.1 hreport]
        exact ⟨rfl, first ++ _ :: written, ending, c', last, by simp, .step hpending hwrite hreach, hends⟩

theorem Erases.driver (h : Erases options d turns (.ok d')) (hd : d.device.operational = true) :
    d'.device.operational = true ∧ d'.protocol = d.protocol ∧ d'.label = d.label := by
  cases h with
  | skipped => exact ⟨hd, rfl, rfl⟩
  | erased _ _ hlike => exact ⟨hlike.operational_eq.trans hd, hlike.protocol_eq, hlike.label_eq⟩

/-- The whole image, from its start. -/
theorem tries_writing {image : List UInt8} {hsize : 0 < options.chunkSize}
    {r : Except Error (Nat × Driver)} (hd : d.device.operational = true)
    (h : Runs (do
      liftM (enter label .writing)
      liftM (Task.report (.writing image.length))
      writeFrom label (.start image options.chunkSize) hsize d : UpdateM.Try (Nat × Driver)).run
        st turns r st') :
    ∃ written ending c last,
      turns = .told (.entered .writing) :: .told (.writing image.length) :: written ++ ending ∧
      Reaches (.start image options.chunkSize) d written c last ∧ Ends c last ending r := by
  obtain ⟨rest, rfl, hreport⟩ := tries_enter_bind.1 h
  obtain ⟨_, _, rest, rfl, htold, hwrite⟩ := tries_liftTask_bind.1 hreport
  obtain ⟨rfl, written, ending, c, last, rfl, hreach, hends⟩ := tries_writeFrom hd hwrite
  rw [course_report.1 htold]
  exact ⟨written, ending, c, last, by simp, hreach, hends⟩

theorem tries_writeImage {image : List UInt8} {hsize : 0 < options.chunkSize}
    {r : Except Error (Nat × Driver)} (hd : d.device.operational = true)
    (h : Runs (writeImage label image options hsize d).run st turns r st') :
    (∃ e, Erases options d turns (.error e) ∧ r = .error e) ∨
    ∃ erasing written ending mid c last,
      turns = erasing ++
        (.told (.entered .writing) :: .told (.writing image.length) :: written ++ ending) ∧
      Erases options d erasing (.ok mid) ∧
      Reaches (.start image options.chunkSize) mid written c last ∧ Ends c last ending r := by
  rw [writeImage] at h
  split at h
  · next herase =>
    obtain ⟨rest, rfl, hdrive⟩ := tries_enter_bind.1 h
    obtain ⟨e, hfail, rfl⟩ | ⟨first, ⟨_, mid⟩, _, rest, rfl, hok, hwait⟩ := tries_bind.1 hdrive
    · obtain ⟨rfl, outcome, mid, hrun, hr⟩ := tries_drive.1 hfail
      obtain ⟨replies, result, rfl, hcommand, rfl, -⟩ := Driver.runs_eraseFlash hd hrun
      cases result <;> cases hr
      exact .inl ⟨_, .failed herase hcommand, rfl⟩
    · obtain ⟨rfl, outcome, _, hrun, hr⟩ := tries_drive.1 hok
      obtain ⟨replies, result, rfl, hcommand, rfl, hlike⟩ := Driver.runs_eraseFlash hd hrun
      cases result <;> cases hr
      obtain ⟨_, _, rest, rfl, hdelay, hwriting⟩ := tries_liftTask_bind.1 hwait
      rw [pure_bind] at hwriting
      obtain ⟨written, ending, c, last, rfl, hreach, hends⟩ :=
        tries_writing (hlike.operational_eq.trans hd) hwriting
      rw [course_delay.1 hdelay]
      exact .inr ⟨_, written, ending, mid, c, last, by simp, .erased herase hcommand hlike, hreach, hends⟩
  · next herase =>
    rw [pure_bind] at h
    obtain ⟨written, ending, c, last, rfl, hreach, hends⟩ := tries_writing hd h
    exact .inr ⟨[], written, ending, d, c, last, rfl, .skipped (by simpa using herase), hreach, hends⟩

theorem awaits_pingFrom {left : Nat} {r : Except Error UInt32} (hd : d.device.operational = true)
    (h : Runs (pingFrom label options left d).run st turns r st') :
    Awaits options left turns r ∧ st = st' := by
  induction left generalizing d turns with
  | zero =>
    rw [pingFrom, tries_log_bind] at h
    obtain ⟨rfl, rfl, rfl⟩ := tries_throw.1 h
    exact ⟨.exhausted, rfl⟩
  | succ left ih =>
    rw [pingFrom, tries_liftTask_bind] at h
    obtain ⟨_, _, _, rfl, hdelay, h⟩ := h
    obtain ⟨_, ⟨answered, mid⟩, rest, rfl, hping, h⟩ := tries_liftTask_bind.1 h
    obtain ⟨replies, result, rfl, hsettles, rfl, hlike⟩ := Driver.runs_ping hd hping
    rw [course_delay.1 hdelay]
    cases result with
    | ok byte =>
      change Runs (liftM (Task.log .info _) >>= fun _ => pure _ : UpdateM.Try UInt32).run _ _ _ _ at h
      rw [tries_log_bind] at h
      obtain ⟨rfl, rfl, rfl⟩ := tries_pure.1 h
      rw [List.append_nil]
      exact ⟨.answered hsettles, rfl⟩
    | error e =>
      obtain ⟨_, _, rest, rfl, hreport, hpings⟩ := tries_liftTask_bind.1 h
      obtain ⟨hawaits, rfl⟩ := ih (hlike.operational_eq.trans hd) hpings
      rw [course_report.1 hreport]
      exact ⟨.silent hsettles hawaits, rfl⟩

theorem tries_awaitDevice {r : Except Error UInt32} (hd : d.device.operational = true)
    (h : Runs (awaitDevice label options d).run st turns r st') :
    ∃ pings, turns = .told (.entered .awaitingPing) :: pings ∧
      Awaits options options.pingAttempts.toNat pings r := by
  rw [awaitDevice, tries_enter_bind] at h
  obtain ⟨pings, rfl, hpings⟩ := h
  exact ⟨pings, rfl, (awaits_pingFrom hd hpings).1⟩

theorem tries_reidentify {r : Except Error DeviceInfo}
    (h : Runs (reidentify label options).run st turns r st') :
    ∃ identity, turns = .told (.entered .reidentifying) :: identity ∧
      Reidentifies label options identity r := by
  rw [reidentify, tries_enter_bind] at h
  obtain ⟨identity, rfl, h⟩ := h
  refine ⟨identity, rfl, ?_⟩
  obtain ⟨e, hopen, rfl⟩ | ⟨opening, d, _, rest, rfl, hopen, h⟩ := tries_bind.1 h
  · exact .absent (creates_openDriver hopen).1
  · obtain ⟨hcreate, rfl⟩ := creates_openDriver hopen
    obtain ⟨identity, ⟨info, d'⟩, rest, rfl, hinfo, hverdict⟩ := tries_liftTask_bind.1 h
    have hend : rest = [] ∧ r = verdict options info := by
      unfold verdict
      dsimp only at hverdict
      split at hverdict
      · next hcomplete =>
        rw [if_pos hcomplete]
        cases hexpected : options.expectedVersion with
        | none =>
          rw [hexpected] at hverdict
          obtain ⟨rfl, rfl, -⟩ := tries_pure.1 hverdict
          exact ⟨rfl, rfl⟩
        | some expected =>
          rw [hexpected] at hverdict
          dsimp only at hverdict ⊢
          split at hverdict
          · next hsame =>
            obtain ⟨rfl, rfl, -⟩ := tries_pure.1 hverdict
            exact ⟨rfl, (if_pos hsame).symm⟩
          · next hdiffers =>
            obtain ⟨rfl, rfl, -⟩ := tries_throw.1 hverdict
            exact ⟨rfl, (if_neg hdiffers).symm⟩
      · next hcomplete =>
        rw [tries_log_bind] at hverdict
        obtain ⟨rfl, rfl, -⟩ := tries_throw.1 hverdict
        exact ⟨rfl, (if_neg hcomplete).symm⟩
    obtain ⟨rfl, rfl⟩ := hend
    rw [List.append_nil]
    exact .identified hcreate hinfo

/-! ## Whole updates -/

/-- Behind a written image the controller is rebooted and identified before anything else. -/
theorem restarts_bind {f : UInt32 → DeviceInfo → UpdateM.Try α} {r : Except Error α}
    (hd : d.device.operational = true)
    (h : Runs (do
      let ((), driver) ← drive Driver.reboot d
      let pings ← awaitDevice label options driver
      let after ← reidentify label options
      f pings after : UpdateM.Try α).run st turns r st') :
    (∃ e, Restarts label options d turns (.error e) ∧ r = .error e) ∨
    ∃ first rest pings after mid, turns = first ++ rest ∧
      Restarts label options d first (.ok (pings, after)) ∧
      Runs (f pings after).run mid rest r st' := by
  obtain ⟨e, hfail, rfl⟩ | ⟨_, ⟨_, mid⟩, _, rest, rfl, hok, hreturn⟩ := tries_bind.1 h
  · obtain ⟨rfl, outcome, mid, hrun, hr⟩ := tries_drive.1 hfail
    obtain ⟨replies, result, rfl, hreboot, rfl, -⟩ := Driver.runs_reboot hd hrun
    cases result <;> cases hr
    exact .inl ⟨_, .unrebooted hreboot, rfl⟩
  obtain ⟨rfl, outcome, _, hrun, hr⟩ := tries_drive.1 hok
  obtain ⟨replies, result, rfl, hreboot, rfl, hlike⟩ := Driver.runs_reboot hd hrun
  cases result <;> cases hr
  have hmid := hlike.operational_eq.trans hd
  obtain ⟨e, hlost, rfl⟩ | ⟨_, n, _, rest, rfl, hanswered, hidentify⟩ := tries_bind.1 hreturn
  · obtain ⟨pings, rfl, hpings⟩ := tries_awaitDevice hmid hlost
    exact .inl ⟨e, .lost hreboot hpings, rfl⟩
  obtain ⟨pings, rfl, hpings⟩ := tries_awaitDevice hmid hanswered
  obtain ⟨e, hfail, rfl⟩ | ⟨_, after, mid', rest, rfl, hafter, hend⟩ := tries_bind.1 hidentify
  · obtain ⟨identity, rfl, hidentity⟩ := tries_reidentify hfail
    exact .inl ⟨e, by simpa [Except.map] using Restarts.returned hreboot hpings hidentity, rfl⟩
  · obtain ⟨identity, rfl, hidentity⟩ := tries_reidentify hafter
    exact .inr ⟨_, rest, n, after, mid', by simp, .returned hreboot hpings hidentity, hend⟩

theorem passes_stages {image : List UInt8} {hsize : 0 < options.chunkSize}
    {r : Except Error UpdateReport} (h : Runs (stages label image options hsize).run st turns r st') :
    Passes label image options turns r := by
  rw [stages] at h
  obtain ⟨e, hopen, rfl⟩ | ⟨opening, d, _, rest, rfl, hopen, hrest⟩ := tries_bind.1 h
  · exact .absent (creates_openDriver hopen).1
  obtain ⟨hcreate, rfl⟩ := creates_openDriver hopen
  obtain ⟨reply, replies, byte, p, -, -, -, -, hdriver⟩ := hcreate.ok_inv
  have hd : d.device.operational = true := by rw [hdriver]; rfl
  obtain ⟨identity, ⟨before, mid⟩, rest, rfl, hinfo, hrest⟩ := tries_liftTask_bind.1 hrest
  obtain ⟨hlike, -, -⟩ := Driver.deviceInfo_turns hd hinfo
  have hmid := hlike.operational_eq.trans hd
  dsimp only at hrest
  rw [tries_log_bind] at hrest
  obtain ⟨_, _, rest, rfl, hreport, hrest⟩ := tries_liftTask_bind.1 hrest
  rw [course_report.1 hreport]
  obtain ⟨e, hfail, rfl⟩ | ⟨_, ⟨n, driver⟩, _, rest, rfl, hwrite, hrest⟩ := tries_bind.1 hrest
  · obtain ⟨e', herase, hr⟩ | ⟨erasing, written, ending, d', c, last, rfl, herase, hreach, hends⟩ :=
      tries_writeImage hmid hfail
    · cases hr
      simpa using Passes.unerased hcreate hinfo herase
    · refine .flashed ?_
      simpa using Flashes.flashed (.ready hcreate hinfo herase) hreach (.abandoned hends)
  obtain ⟨e', -, hr⟩ | ⟨erasing, written, ending, d', c, last, rfl, herase, hreach, hends⟩ :=
    tries_writeImage hmid hwrite
  · cases hr
  cases hends with
  | finished hpending =>
    obtain ⟨restart, rfl, hboot⟩ := tries_enter_bind.1 hrest
    have hlast := (hreach.driver (herase.driver hmid).1).1
    obtain ⟨e, hfail, rfl⟩ | ⟨first, _, pings, after, _, rfl, hrestart, hend⟩ :=
      restarts_bind hlast hboot
    · refine .flashed ?_
      simpa [Except.map] using
        Flashes.flashed (.ready hcreate hinfo herase) hreach (.restarted hpending hfail)
    · rw [tries_log_bind] at hend
      obtain ⟨rfl, rfl, rfl⟩ := tries_pure.1 hend
      refine .flashed ?_
      simpa [Except.map] using
        Flashes.flashed (.ready hcreate hinfo herase) hreach (.restarted hpending hrestart)

theorem checkImageSize_eq (size : Nat) :
    checkImageSize size = .ok () ∧ (imageMin ≤ size ∧ size ≤ imageMax) ∨
      checkImageSize size = .error (.invalidImageSize size) ∧ ¬ (imageMin ≤ size ∧ size ≤ imageMax) := by
  unfold checkImageSize
  split
  · next h => exact .inl ⟨rfl, h⟩
  · next h => exact .inr ⟨rfl, h⟩

theorem tries_sequence {image : List UInt8} {r : Except Error UpdateReport}
    (h : Runs (sequence label image options).run st turns r st') :
    (∃ e, Refuses image options e ∧ turns = [] ∧ r = .error e) ∨
      Accepts image options ∧ Passes label image options turns r := by
  rw [sequence] at h
  obtain ⟨hcheck, himage⟩ | ⟨hcheck, himage⟩ := checkImageSize_eq image.length
  · rw [hcheck] at h
    dsimp only at h
    split at h
    · next hsize => exact .inr ⟨⟨himage.1, himage.2, hsize⟩, passes_stages h⟩
    · next hsize =>
      obtain ⟨rfl, rfl, rfl⟩ := tries_throw.1 h
      exact .inl ⟨_, .chunkSize himage hsize, rfl, rfl⟩
  · rw [hcheck] at h
    obtain ⟨rfl, rfl, rfl⟩ := tries_throw.1 h
    exact .inl ⟨_, .image himage, rfl, rfl⟩

/-- What can be seen of an update, whatever the bus answers. -/
theorem shows_run {image : List UInt8} {r : Except Error UpdateReport}
    (h : Course (run label image options) turns r) : Shows label image options turns r := by
  obtain ⟨⟨r, st⟩, hrun, rfl⟩ := course_map.1 h
  obtain ⟨first, result, mid, rest, rfl, hsequence, hclose⟩ := runs_bind.1 hrun
  have hclosing : rest = closing result ∧ r = result := by
    cases result with
    | ok report =>
      simp only [runs_bind, runs_enter, runs_lift, course_report, runs_pure] at hclose
      obtain ⟨_, _, _, _, rfl, ⟨rfl, rfl⟩, _, _, _, _, rfl, ⟨rfl, rfl⟩, rfl, rfl, rfl⟩ := hclose
      exact ⟨rfl, rfl⟩
    | error e =>
      simp only [runs_bind, runs_enter, runs_pure] at hclose
      obtain ⟨_, _, _, _, rfl, ⟨rfl, rfl⟩, rfl, rfl, rfl⟩ := hclose
      exact ⟨rfl, rfl⟩
  obtain ⟨rfl, rfl⟩ := hclosing
  obtain ⟨e, hrefuse, rfl, rfl⟩ | ⟨haccept, hpass⟩ := tries_sequence hsequence
  · exact .refused hrefuse
  · exact .accepted haccept hpass

end Backplane.Update
