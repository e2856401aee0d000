import Backplane.Proofs.Driver

/-!
# Writing a chunk, on any bus

A chunk is refused before anything is sent, or written and then read back. The older generation
sends one frame and reads back up to five times, the newer one an address frame, a data frame and
one readback. `Writes` lists the ways this ends, each with its turns; the flash offset moves on by
the length of the chunk exactly where it was seen in flash.

* `writes_writeChunk`: there are no other ways, and what becomes of the driver.
-/
namespace Backplane

variable {turns : List Turn}

/-- A chunk that a driver takes at an offset. -/
def IsChunk (offset : UInt32) (bytes : List UInt8) : Prop :=
  bytes ≠ [] ∧ bytes.length ≤ Driver.chunkMax ∧ offset % 4 = 0

instance (offset : UInt32) (bytes : List UInt8) : Decidable (IsChunk offset bytes) := by
  unfold IsChunk; infer_instance

namespace Driver
variable {d d' : Driver} {offset : UInt32} {bytes : List UInt8}

/-- What a driver checks of a chunk is whether it takes it. -/
theorem checkChunk_eq : checkChunk offset bytes =
    if IsChunk offset bytes then pure () else throw (.invalidChunk bytes.length) := by
  by_cases h : IsChunk offset bytes
  · have hguard : (bytes.isEmpty || bytes.length > chunkMax || offset % 4 != 0) = false := by
      obtain ⟨hne, hlength, hoffset⟩ := h
      simp [hne, hoffset, Nat.not_lt.2 hlength]
    rw [checkChunk, hguard, if_neg Bool.false_ne_true, if_pos h]
  · have hguard : (bytes.isEmpty || bytes.length > chunkMax || offset % 4 != 0) = true := by
      simp only [IsChunk, Decidable.not_and_iff_not_or_not, Nat.not_le] at h
      simpa [or_assoc] using h
    rw [checkChunk, hguard, if_pos rfl, if_neg h]

/-- Behind the check a chunk is one that a driver takes. -/
theorem tries_checkChunk_bind {α : Type} {f : Unit → DriverM.Try α} {r : Except Error α} :
    Runs (checkChunk offset bytes >>= f).run d turns r d' ↔
      if IsChunk offset bytes then Runs (f ()).run d turns r d'
      else turns = [] ∧ r = .error (.invalidChunk bytes.length) ∧ d = d' := by
  rw [checkChunk_eq]
  exact tries_guard_bind

theorem tries_verifyFailure {r : Except Error Unit} :
    Runs (verifyFailure offset).run d turns r d' ↔
      turns = [] ∧ r = .error (.verifyFailed d.label offset) ∧ d = d' := by
  rw [verifyFailure, tries_get_bind, tries_log_bind, tries_throw]

/-- A driver that came past a chunk where the outcome is a success. -/
def past (d : Driver) (bytes : List UInt8) (r : Except Error Unit) : Driver :=
  { d with flashOffset := if r.isOk then d.flashOffset + .ofNat bytes.length else d.flashOffset }

end Driver

/-! ## The older generation -/

namespace V0
open Driver

/-- The request that writes a chunk. -/
abbrev writeRequest (offset : UInt32) (bytes : List UInt8) : Request :=
  .transfer [.write (Flash.header flashWriteCommand offset (.ofNat bytes.length) ++ bytes)]

/-- The request that reads a chunk back. -/
abbrev readRequest (offset : UInt32) (length : Nat) : Request :=
  .transfer [.write (Flash.header flashReadCommand offset (.ofNat length)), .read length]

/-- The ways `left` readbacks of a chunk end. `last` is the failure of the readback before, and the
buffer is what it left. -/
inductive Verifies (label : String) (offset : UInt32) (bytes : List UInt8) :
    (left : Nat) → (last : Option BusError) → (buffer : List UInt8) → List Turn →
      Except Error Unit → Prop
  | unread {e : BusError} {buffer : List UInt8} :
      Verifies label offset bytes 0 (some e) buffer [] (.error (.communication label .readBackFlash e))
  | different {buffer : List UInt8} :
      Verifies label offset bytes 0 none buffer [] (.error (.verifyFailed label offset))
  | failed {left : Nat} {last : Option BusError} {buffer : List UInt8} {e : BusError}
      {replies : List (Reply (readRequest offset bytes.length))} {turns : List Turn}
      {r : Except Error Unit} (hread : Settles Device.attemptsMax replies (.error e))
      (hrest : Verifies label offset bytes left (some e) (delivered buffer replies) turns r) :
      Verifies label offset bytes (left + 1) last buffer
        (.delayed verifyDelay :: tries _ replies ++ turns) r
  | mismatched {left : Nat} {last : Option BusError} {buffer : List UInt8}
      {replies : List (Reply (readRequest offset bytes.length))} {turns : List Turn}
      {r : Except Error Unit} (hread : Settles Device.attemptsMax replies (.ok ()))
      (hne : delivered buffer replies ≠ bytes)
      (hrest : Verifies label offset bytes left none (delivered buffer replies) turns r) :
      Verifies label offset bytes (left + 1) last buffer
        (.delayed verifyDelay :: tries _ replies ++ turns) r
  | verified {left : Nat} {last : Option BusError} {buffer : List UInt8}
      {replies : List (Reply (readRequest offset bytes.length))}
      (hread : Settles Device.attemptsMax replies (.ok ())) (heq : delivered buffer replies = bytes) :
      Verifies label offset bytes (left + 1) last buffer
        (.delayed verifyDelay :: tries _ replies) (.ok ())

/-- The ways a chunk is written. -/
inductive Writes (label : String) (offset : UInt32) (bytes : List UInt8) :
    List Turn → Except Error Unit → Prop
  | refused (hchunk : ¬ IsChunk offset bytes) :
      Writes label offset bytes [] (.error (.invalidChunk bytes.length))
  | unwritten {replies : List (Reply (writeRequest offset bytes))} {e : BusError}
      (hchunk : IsChunk offset bytes) (hwrite : Settles Device.attemptsMax replies (.error e)) :
      Writes label offset bytes (tries _ replies) (.error (.communication label .writeFlash e))
  | written {replies : List (Reply (writeRequest offset bytes))} {turns : List Turn}
      {r : Except Error Unit} (hchunk : IsChunk offset bytes)
      (hwrite : Settles Device.attemptsMax replies (.ok ()))
      (hverify : Verifies label offset bytes verifyAttempts none (.replicate bytes.length 0) turns r) :
      Writes label offset bytes (tries _ replies ++ turns) r

variable {d d' : Driver} {offset : UInt32} {bytes : List UInt8}

theorem runs_verifyFrom {left : Nat} {last : Option BusError} {buffer : List UInt8}
    {r : Except Error Unit} (hd : d.device.operational = true)
    (hbuffer : buffer.length = bytes.length)
    (h : Runs (verifyFrom offset bytes left last buffer).run d turns r d') :
    Verifies d.label offset bytes left last buffer turns r ∧
      Like { d with flashOffset := if r.isOk then offset + .ofNat bytes.length else d.flashOffset }
        d' := by
  induction left generalizing d last buffer turns with
  | zero =>
    cases last with
    | some e =>
      simp only [verifyFrom, tries_lift_bind, runs_communicationFailure, tries_throw] at h
      obtain ⟨_, _, _, _, rfl, ⟨rfl, rfl, rfl⟩, rfl, rfl, rfl⟩ := h
      exact ⟨.unread, .refl _⟩
    | none =>
      rw [verifyFrom, tries_verifyFailure] at h
      obtain ⟨rfl, rfl, rfl⟩ := h
      exact ⟨.different, .refl _⟩
  | succ left ih =>
    rw [verifyFrom, Driver.tries_liftTask_bind] at h
    simp only [tries_lift_bind, runs_onDevice, course_delay] at h
    obtain ⟨_, _, _, rfl, rfl, _, ⟨result, buffer'⟩, _, rest, rfl, ⟨device, hread, rfl⟩, h⟩ := h
    rw [Device.readAfterWrite, hbuffer] at hread
    obtain ⟨replies, rfl, hsettles, rfl, rfl⟩ := Device.runs_transact hd hread
    have hlength : (delivered buffer replies).length = bytes.length := by
      rw [length_delivered, hbuffer]
    cases result with
    | error e =>
      obtain ⟨hverifies, hlike⟩ := ih (by exact hd) hlength h
      exact ⟨.failed hsettles hverifies, hlike⟩
    | ok _ =>
      dsimp only at h
      split at h
      · next heq =>
        obtain ⟨rfl, rfl, rfl⟩ := tries_modify.1 h
        rw [List.append_nil]
        exact ⟨.verified hsettles heq, _, rfl⟩
      · next hne =>
        rw [tries_get_bind, Driver.tries_log_bind] at h
        obtain ⟨hverifies, hlike⟩ := ih (by exact hd) hlength h
        exact ⟨.mismatched hsettles hne hverifies, hlike⟩

theorem writes_writeChunk {r : Except Error Unit} (hd : d.device.operational = true)
    (h : Runs (writeChunk bytes).run d turns r d') :
    Writes d.label d.flashOffset bytes turns r ∧ (d.past bytes r).Like d' := by
  rw [writeChunk, tries_get_bind, tries_checkChunk_bind] at h
  split at h
  · next hchunk =>
    obtain ⟨e, hwrite, rfl⟩ | ⟨first, _, mid, rest, rfl, hwrite, hverify⟩ := tries_bind.1 h
    · obtain ⟨replies, result, rfl, hsettles, hr, hlike⟩ := runs_communicate_exchange hd hwrite
      cases result <;> cases hr
      exact ⟨.unwritten hchunk hsettles, hlike⟩
    · obtain ⟨replies, result, rfl, hsettles, hr, streak, rfl⟩ := runs_communicate_exchange hd hwrite
      cases result <;> cases hr
      obtain ⟨hverifies, hlike⟩ := runs_verifyFrom (by exact hd) List.length_replicate hverify
      exact ⟨.written hchunk hsettles hverifies, hlike⟩
  · next hchunk =>
    obtain ⟨rfl, rfl, rfl⟩ := h
    exact ⟨.refused hchunk, .refl _⟩

end V0

/-! ## The newer generation -/

namespace V1
open Driver

/-- The request that sets the place of a chunk. -/
abbrev addressRequest (offset : UInt32) (length : Nat) : Request :=
  .transfer [.write (flashAddressCommand :: Flash.location offset (.ofNat length))]

/-- The request that writes a chunk. -/
abbrev writeRequest (bytes : List UInt8) : Request :=
  .transfer [.write (flashDataCommand :: bytes)]

/-- The request that reads a chunk back. -/
abbrev readRequest (length : Nat) : Request :=
  .transfer [.write [flashDataCommand], .read length]

/-- The ways a chunk is written. -/
inductive Writes (label : String) (offset : UInt32) (bytes : List UInt8) :
    List Turn → Except Error Unit → Prop
  | refused (hchunk : ¬ IsChunk offset bytes) :
      Writes label offset bytes [] (.error (.invalidChunk bytes.length))
  | unaddressed {addresses : List (Reply (addressRequest offset bytes.length))} {e : BusError}
      (hchunk : IsChunk offset bytes) (haddress : Settles Device.attemptsMax addresses (.error e)) :
      Writes label offset bytes (tries _ addresses) (.error (.communication label .setFlashAddress e))
  | unwritten {addresses : List (Reply (addressRequest offset bytes.length))}
      {replies : List (Reply (writeRequest bytes))} {e : BusError} (hchunk : IsChunk offset bytes)
      (haddress : Settles Device.attemptsMax addresses (.ok ()))
      (hwrite : Settles Device.attemptsMax replies (.error e)) :
      Writes label offset bytes (tries _ addresses ++ tries _ replies)
        (.error (.communication label .writeFlash e))
  | readBack {addresses : List (Reply (addressRequest offset bytes.length))}
      {replies : List (Reply (writeRequest bytes))} {reads : List (Reply (readRequest bytes.length))}
      {result : Except BusError Unit} {r : Except Error Unit} (hchunk : IsChunk offset bytes)
      (haddress : Settles Device.attemptsMax addresses (.ok ()))
      (hwrite : Settles Device.attemptsMax replies (.ok ()))
      (hread : Settles Device.attemptsMax reads result)
      (hr : r = match result with
        | .error e => .error (.communication label .readBackFlash e)
        | .ok () => if delivered (.replicate bytes.length 0) reads = bytes then .ok ()
          else .error (.verifyFailed label offset)) :
      Writes label offset bytes
        (tries _ addresses ++ tries _ replies ++ .delayed settleDelay :: tries _ reads) r

variable {d d' : Driver} {bytes : List UInt8}

theorem runs_readBack {d d' : Device} {length : Nat} {r : Except BusError (List UInt8)}
    (hd : d.operational = true) (h : Runs (readBack length).run d turns r d') :
    ∃ (reads : List (Reply (readRequest length))) (result : Except BusError Unit),
      turns = tries _ reads ∧ Settles Device.attemptsMax reads result ∧
      r = result.map (fun _ => delivered (.replicate length 0) reads) ∧
      d' = d.noting !result.isOk := by
  obtain ⟨⟨result, buffer⟩, hread, rfl⟩ := runs_bind_pure.1 h
  rw [Device.readRawAt, List.length_replicate] at hread
  obtain ⟨reads, rfl, hsettles, rfl, rfl⟩ := Device.runs_transact hd hread
  exact ⟨reads, result, rfl, hsettles, rfl, rfl⟩

theorem runs_communicate_readBack {length : Nat} {r : Except Error (List UInt8)}
    (hd : d.device.operational = true)
    (h : Runs (communicate .readBackFlash (readBack length)).run d turns r d') :
    ∃ (reads : List (Reply (readRequest length))) (result : Except BusError Unit),
      turns = tries _ reads ∧ Settles Device.attemptsMax reads result ∧
      r = (match result with
        | .error e => .error (.communication d.label .readBackFlash e)
        | .ok () => .ok (delivered (.replicate length 0) reads)) ∧
      d.Like d' := by
  obtain ⟨_, device, hread, rfl, rfl⟩ := runs_communicate h
  obtain ⟨reads, result, rfl, hsettles, rfl, rfl⟩ := runs_readBack hd hread
  refine ⟨reads, result, rfl, hsettles, ?_, .noting _⟩
  cases result <;> rfl

theorem writes_writeChunk {r : Except Error Unit} (hd : d.device.operational = true)
    (h : Runs (writeChunk bytes).run d turns r d') :
    Writes d.label d.flashOffset bytes turns r ∧ (d.past bytes r).Like d' := by
  rw [writeChunk, tries_get_bind, tries_checkChunk_bind] at h
  split at h
  · next hchunk =>
    obtain ⟨e, haddress, rfl⟩ | ⟨_, _, mid, _, rfl, haddress, hdata⟩ := tries_bind.1 h
    · obtain ⟨addresses, result, rfl, hsettles, hr, hlike⟩ := runs_communicate_exchange hd haddress
      cases result <;> cases hr
      exact ⟨.unaddressed hchunk hsettles, hlike⟩
    obtain ⟨addresses, result, rfl, haddresses, hr, hmid⟩ := runs_communicate_exchange hd haddress
    cases result <;> cases hr
    have hop := hmid.operational_eq.trans hd
    obtain ⟨e, hwrite, rfl⟩ | ⟨_, _, mid', _, rfl, hwrite, hwait⟩ := tries_bind.1 hdata
    · obtain ⟨replies, result, rfl, hsettles, hr, hlike⟩ := runs_communicate_exchange hop hwrite
      cases result <;> cases hr
      rw [hmid.label_eq]
      exact ⟨.unwritten hchunk haddresses hsettles, hmid.trans hlike⟩
    obtain ⟨replies, result, rfl, hreplies, hr, hmid'⟩ := runs_communicate_exchange hop hwrite
    cases result <;> cases hr
    replace hmid := hmid.trans hmid'
    obtain ⟨_, _, _, rfl, hdelay, hverify⟩ := Driver.tries_liftTask_bind.1 hwait
    rw [course_delay.1 hdelay, ← List.append_assoc]
    have hop := hmid.operational_eq.trans hd
    obtain ⟨e, hread, rfl⟩ | ⟨_, readback, _, _, rfl, hread, hend⟩ :=
      tries_bind.1 hverify
    · obtain ⟨reads, result, rfl, hreads, hr, hlike⟩ := runs_communicate_readBack hop hread
      rw [hmid.label_eq] at hr
      cases result <;> cases hr
      exact ⟨.readBack hchunk haddresses hreplies hreads rfl, hmid.trans hlike⟩
    · obtain ⟨reads, result, rfl, hreads, hr, hlike⟩ := runs_communicate_readBack hop hread
      cases result <;> cases hr
      replace hmid := hmid.trans hlike
      split at hend
      · next heq =>
        obtain ⟨rfl, rfl, rfl⟩ := tries_modify.1 hend
        rw [List.append_nil]
        exact ⟨.readBack hchunk haddresses hreplies hreads (if_pos heq).symm, hmid.at_offset _⟩
      · next hne =>
        obtain ⟨rfl, rfl, rfl⟩ := tries_verifyFailure.1 hend
        rw [List.append_nil, hmid.label_eq]
        exact ⟨.readBack hchunk haddresses hreplies hreads (if_neg hne).symm, hmid⟩
  · next hchunk =>
    obtain ⟨rfl, rfl, rfl⟩ := h
    exact ⟨.refused hchunk, .refl _⟩

end V1

namespace Driver
variable {d d' : Driver} {bytes : List UInt8} {r : Except Error Unit}

/-- The ways a driver writes a chunk. -/
def Writes (d : Driver) (bytes : List UInt8) (turns : List Turn) (r : Except Error Unit) : Prop :=
  match d.protocol with
  | .v0 => V0.Writes d.label d.flashOffset bytes turns r
  | .v1 => V1.Writes d.label d.flashOffset bytes turns r

theorem writes_writeChunk (hd : d.device.operational = true)
    (h : Runs (writeChunk bytes).run d turns r d') :
    d.Writes bytes turns r ∧ (d.past bytes r).Like d' := by
  rw [writeChunk, tryByProtocol, ExceptT.run_mk, runs_byProtocol] at h
  unfold Writes
  cases hp : d.protocol with
  | v0 => exact V0.writes_writeChunk hd (by simpa [hp] using h)
  | v1 => exact V1.writes_writeChunk hd (by simpa [hp] using h)

theorem verifies_error {label : String} {offset : UInt32} {buffer : List UInt8} {left : Nat}
    {last : Option BusError} {e : Error} (h : V0.Verifies label offset bytes left last buffer turns r)
    (hr : r = .error e) :
    (∃ op source, e = .communication label op source) ∨ e = .verifyFailed label offset := by
  induction h with
  | unread =>
    cases hr
    exact .inl ⟨_, _, rfl⟩
  | different =>
    cases hr
    exact .inr rfl
  | failed _ _ ih => exact ih hr
  | mismatched _ _ _ ih => exact ih hr
  | verified => cases hr

/-- A chunk fails in one of three ways: as a transaction, when it is read back, or because a driver
does not take it. -/
theorem writes_error {e : Error} (h : d.Writes bytes turns (.error e)) :
    (∃ op source, e = .communication d.label op source) ∨ e = .verifyFailed d.label d.flashOffset ∨
      ¬ IsChunk d.flashOffset bytes ∧ e = .invalidChunk bytes.length := by
  unfold Writes at h
  cases hp : d.protocol with
  | v0 =>
    rw [hp] at h
    cases h with
    | refused hchunk => exact .inr (.inr ⟨hchunk, rfl⟩)
    | unwritten => exact .inl ⟨_, _, rfl⟩
    | written _ _ hverify => exact (verifies_error hverify rfl).imp_right .inl
  | v1 =>
    rw [hp] at h
    cases h with
    | refused hchunk => exact .inr (.inr ⟨hchunk, rfl⟩)
    | unaddressed => exact .inl ⟨_, _, rfl⟩
    | unwritten => exact .inl ⟨_, _, rfl⟩
    | @readBack _ _ _ result _ _ _ _ _ hr =>
      cases result with
      | error source =>
        cases hr
        exact .inl ⟨_, _, rfl⟩
      | ok _ =>
        dsimp only at hr
        split at hr
        · cases hr
        · cases hr
          exact .inr (.inl rfl)

end Driver
end Backplane
