import Backplane.Proofs.Driver.Acts
import Backplane.Proofs.Driver.Chunk
import Backplane.Proofs.Driver.Identity

/-!
# The requests of each generation

Every operation of a driver keeps to the requests of the generation it was made for, whatever the
bus answers and whether its handle passed the check or not. Only the search for changes reads the
latch of the newer generation, which forgets what it is read.

* `Protocol.knows`: the requests of a generation.
* `sparing_perform`: the operations beside the search for changes.
-/
namespace Backplane

/-- The requests of the older generation. -/
def V0.knows : Request → Bool
  | .readByte => true
  | .readByteData c => c ∈ [Protocol.identRegister, presenceRegister, failuresRegister]
  | .writeByte v => v ∈ [eraseCommand, rebootCommand, powerOnCommand, powerOffCommand]
  | .writeByteData c _ => c ∈ [locateOnCommand, locateOffCommand, driveTypeCommand]
  | .readBlock c _ => c = boardTypeRegister
  | .transfer (.write (c :: _) :: _) => c ∈ [versionRegister, flashWriteCommand, flashReadCommand]
  | _ => false

/-- The requests of the newer generation. -/
def V1.knows : Request → Bool
  | .readByteData c =>
    c ∈ [Protocol.identRegister, presenceRegister, failuresRegister, locateRegister, latchRegister]
  | .readWordData c => c = driveTypesRegister
  | .writeByte v => v ∈ [eraseCommand, rebootCommand]
  | .writeByteData c _ => c ∈ [locateRegister, powerRegister]
  | .readBlock c _ => c ∈ [boardTypeRegister, versionRegister]
  | .transfer (.write (c :: _) :: _) => c ∈ [flashAddressCommand, flashDataCommand]
  | _ => false

/-- The requests of a generation. -/
def Protocol.knows : Protocol → Request → Bool
  | .v0 => V0.knows
  | .v1 => V1.knows

/-- The read of the latch that remembers changes of presence, which clears it. -/
abbrev latchRequest : Request := .readByteData V1.latchRegister

/-- A turn of a driver of the generation: a pause, or an attempt of one of its requests. -/
def Protocol.Speaks (p : Protocol) : Turn → Prop
  | ⟨.attempt r, _⟩ => p.knows r = true
  | ⟨.delay _, _⟩ => True
  | _ => False

/-- A turn of a driver of the generation that does not read the latch. -/
def Protocol.Spares (p : Protocol) (turn : Turn) : Prop :=
  p.Speaks turn ∧ turn.request? ≠ some latchRequest

namespace Protocol
variable {p : Protocol} {r : Request}

theorem spares_attempted (h : p.knows r = true) (hr : r ≠ latchRequest) (reply : Reply r) :
    p.Spares (.attempted r reply) :=
  ⟨h, fun heq => hr (Option.some.inj heq)⟩

theorem spares_delayed (us : UInt32) : p.Spares (.delayed us) := ⟨trivial, by simp [Turn.request?]⟩

end Protocol

namespace Driver
variable {p : Protocol} {index : Nat} {α : Type}

/-- The operation sends requests of the generation, and none that reads the latch. -/
abbrev Sparing (p : Protocol) (x : DriverM α) : Prop := Leads (Speaking p) (Acts p p.Spares) x

theorem sparing_checkChunk {offset : UInt32} {bytes : List UInt8} :
    Sparing p (checkChunk offset bytes).run := by
  rw [checkChunk]
  split
  · exact leadsTry_throw _
  · exact leadsTry_pure _

/-- An operation that is one request. -/
theorem sparing_exchange {op : Operation} {r : Request} {command : Option UInt8}
    {sent : Option (List UInt8)} {received : r.Value → Option (List UInt8)}
    (h : p.knows r = true) (hr : r ≠ latchRequest) :
    Sparing p (communicate op (Device.exchange r command sent received)).run :=
  leads_communicate offDevice_speaking onDevice_acts (Device.keeps_exchange (Protocol.spares_attempted h hr))

theorem sparing_delay {us : UInt32} : Sparing p (liftM (Task.delay us) : DriverM Unit) :=
  leads_liftTask fun h => .talked (by simp [course_delay.1 h, Protocol.spares_delayed])

theorem sparing_verifyFailure {offset : UInt32} :
    Sparing p (verifyFailure offset : DriverM.Try α).run :=
  leadsTry_get_bind fun _ _ => leadsTry_bind leadsTry_log fun _ => leadsTry_throw _

theorem sparing_fieldText {raw : List UInt8} : Sparing p (liftM (fieldText raw) : DriverM String) :=
  leads_liftTask fun h => (course_fieldText.1 h).1 ▸ .nil _

/-- A relation of each generation holds where both versions of an operation have it. -/
theorem leads_generation {α : Type} {R : Protocol → Driver → List Turn → Driver → Prop} {v0 v1 : DriverM α}
    (h0 : Leads (Speaking .v0) (R .v0) v0) (h1 : Leads (Speaking .v1) (R .v1) v1) :
    Leads (Speaking p) (R p) (byProtocol v0 v1) := by
  refine leads_byProtocol ?_ ?_
  · rintro d rfl hp
    exact hp ▸ h0
  · rintro d rfl hp
    exact hp ▸ h1

/-- An operation keeps to its generation where both of its versions do. -/
theorem sparing_byProtocol {α : Type} {v0 v1 : DriverM α} (h0 : Sparing .v0 v0) (h1 : Sparing .v1 v1) :
    Sparing p (byProtocol v0 v1) :=
  leads_generation (R := fun p => Acts p p.Spares) h0 h1

/-- Neither mask is the latch. -/
theorem sparing_fetch (mask : Mask) :
    Sparing p (fetch (p.readMask mask.name (mask.register p)) mask.operation mask.keep).run := by
  refine leads_fetch mask (Protocol.spares_attempted ?_ ?_)
  · cases mask <;> cases p <;> rfl
  · cases mask <;> cases p <;> decide

theorem sparing_heldOrRead (mask : Mask) : Sparing .v1 (heldOrRead mask).run := by
  refine leadsTry_get_bind fun d _ => ?_
  cases mask.held d with
  | some value => exact leadsTry_pure _
  | none => exact sparing_fetch mask

theorem sparing_answer (mask : Mask) : Sparing p (mask.answer index).run := by
  rw [answer_eq]
  refine sparing_byProtocol ?_ ?_
  · refine leadsTry_bind leads_checkChannel fun _ => leadsTry_get_bind fun d _ => ?_
    cases mask.held d with
    | some value => exact leadsTry_pure _
    | none => exact leadsTry_bind (sparing_fetch mask) fun _ => leadsTry_pure _
  · exact leadsTry_bind leads_checkChannel fun _ =>
      leadsTry_bind (sparing_heldOrRead mask) fun _ => leadsTry_pure _

end Driver

/-! ## The older generation -/

namespace V0
open Driver
variable {index : Nat} {bytes : List UInt8}

theorem sparing_firmwareVersion : Sparing .v0 firmwareVersion := by
  refine leads_bind (leads_onDevice offDevice_speaking onDevice_acts (keeps_confirmed ?_)) ?_
  · refine leads_bind (Device.keeps_transact ?_) fun _ => leads_pure _
    exact Protocol.spares_attempted rfl (by simp)
  · rintro (e | raw)
    · exact leads_bind (leads_bind leads_communicationFailure fun _ => leads_pure _) fun _ => leads_pure _
    · exact sparing_fieldText

theorem sparing_boardType : Sparing .v0 boardType := by
  refine leads_bind (leads_onDevice offDevice_speaking onDevice_acts (keeps_confirmed ?_)) ?_
  · refine leads_bind (Device.keeps_readBlock ?_) fun _ => leads_pure _
    exact Protocol.spares_attempted rfl (by simp)
  · rintro (e | ⟨raw, count⟩)
    · exact leads_get_bind fun d _ => leads_bind leads_log fun _ => leads_pure _
    · exact sparing_fieldText

theorem sparing_channelDriveType : Sparing .v0 (channelDriveType index).run := by
  refine leadsTry_bind leads_checkChannel fun _ => leadsTry_bind ?_ fun value => ?_
  · refine leads_communicate offDevice_speaking onDevice_acts (keeps_confirmed (leadsTry_bind ?_ fun _ => ?_))
    · exact Device.keeps_exchange (Protocol.spares_attempted rfl (by simp))
    · exact Device.keeps_exchange (Protocol.spares_attempted rfl (by simp))
  · exact leadsTry_lift leads_driveTypeOf

theorem sparing_setLocate {on : Bool} : Sparing .v0 (setLocate index on).run := by
  refine leadsTry_bind leads_checkChannel fun _ => sparing_exchange ?_ (by simp)
  cases on <;> rfl

theorem sparing_channelLocate : Sparing .v0 (channelLocate index).run :=
  leadsTry_bind leads_checkChannel fun _ => leadsTry_throw _

theorem sparing_resetLocate : Sparing .v0 resetLocate.run :=
  leadsTry_forM _ fun _ _ => sparing_setLocate

theorem sparing_setHostPower {on : Bool} : Sparing .v0 (setHostPower on).run :=
  sparing_exchange (by cases on <;> rfl) (by simp)

theorem sparing_reboot : Sparing .v0 reboot.run :=
  leadsTry_get_bind fun _ _ => leadsTry_bind leadsTry_log fun _ => sparing_exchange rfl (by simp)

theorem sparing_eraseFlash : Sparing .v0 eraseFlash.run :=
  leadsTry_get_bind fun _ _ => leadsTry_bind leadsTry_log fun _ =>
    leadsTry_bind (sparing_exchange rfl (by simp)) fun _ => leadsTry_modify fun _ h => ⟨h, .moved⟩

theorem sparing_verifyFrom {offset : UInt32} {left : Nat} {last : Option BusError}
    {buffer : List UInt8} : Sparing .v0 (verifyFrom offset bytes left last buffer).run := by
  induction left generalizing last buffer with
  | zero =>
    cases last with
    | some e => exact leadsTry_bind (leadsTry_lift leads_communicationFailure) fun _ => leadsTry_throw _
    | none => exact sparing_verifyFailure
  | succ left ih =>
    refine leadsTry_bind (leadsTry_lift sparing_delay) fun _ => leadsTry_bind (leadsTry_lift ?_) ?_
    · refine leads_onDevice offDevice_speaking onDevice_acts (Device.keeps_transact ?_)
      exact Protocol.spares_attempted rfl (by simp)
    · rintro ⟨e | _, buffer⟩
      · exact ih
      · dsimp only
        split
        · exact leadsTry_modify fun _ h => ⟨h, .moved⟩
        · exact leadsTry_get_bind fun _ _ => leadsTry_bind leadsTry_log fun _ => ih

theorem sparing_writeChunk : Sparing .v0 (writeChunk bytes).run :=
  leadsTry_get_bind fun _ _ => leadsTry_bind sparing_checkChunk fun _ =>
    leadsTry_bind (sparing_exchange rfl (by simp)) fun _ => sparing_verifyFrom

end V0

/-! ## The newer generation -/

namespace V1
open Driver
variable {index : Nat} {bytes : List UInt8}

theorem sparing_readField {register : UInt8} {length : Nat} {op : Operation}
    (h : V1.knows (.readBlock register length) = true) : Sparing .v1 (readField register length op) := by
  refine leads_bind (leads_onDevice offDevice_speaking onDevice_acts (Device.keeps_readBlock ?_)) ?_
  · rw [List.length_replicate]
    exact Protocol.spares_attempted h (by simp)
  · rintro ⟨e | count, raw⟩
    · exact leads_bind (leads_bind leads_communicationFailure fun _ => leads_pure _) fun _ => leads_pure _
    · exact sparing_fieldText

/-- A register that is read once. -/
theorem sparing_fetchByte {register : UInt8} {op : Operation}
    (h : V1.knows (.readByteData register) = true) (hr : register ≠ latchRegister) :
    Sparing .v1 (fetchByte register op).run :=
  sparing_exchange h fun heq => hr (Request.readByteData.inj heq)

theorem sparing_types : Sparing .v1 types.run := by
  refine leadsTry_get_bind fun d _ => ?_
  cases d.types with
  | some word => exact leadsTry_pure _
  | none =>
    exact leadsTry_bind (sparing_exchange rfl (by simp)) fun _ =>
      leadsTry_bind (leadsTry_modify fun _ h => ⟨h, .typed⟩) fun _ => leadsTry_pure _

theorem sparing_channelDriveType : Sparing .v1 (channelDriveType index).run :=
  leadsTry_bind leads_checkChannel fun _ => leadsTry_bind sparing_types fun _ =>
    leadsTry_lift leads_driveTypeOf

theorem sparing_locateMask : Sparing .v1 locateMask.run := sparing_fetchByte rfl (by decide)

theorem sparing_setLocate {on : Bool} : Sparing .v1 (setLocate index on).run := by
  refine leadsTry_bind leads_checkChannel fun _ => leadsTry_bind sparing_locateMask fun current => ?_
  have hwrite : ∀ wanted, Sparing .v1 (if wanted = current then pure () else communicate .setLocate
      (Device.writeByteData locateRegister wanted) : DriverM.Try Unit).run := by
    intro wanted
    split
    · exact leadsTry_pure _
    · exact sparing_exchange rfl (by simp)
  exact hwrite _

theorem sparing_channelLocate : Sparing .v1 (channelLocate index).run :=
  leadsTry_bind leads_checkChannel fun _ => leadsTry_bind sparing_locateMask fun _ => leadsTry_pure _

theorem sparing_resetLocate : Sparing .v1 resetLocate.run := sparing_exchange rfl (by simp)

theorem sparing_setHostPower {on : Bool} : Sparing .v1 (setHostPower on).run :=
  sparing_exchange rfl (by simp)

theorem sparing_reboot : Sparing .v1 reboot.run :=
  leadsTry_get_bind fun _ _ => leadsTry_bind leadsTry_log fun _ => sparing_exchange rfl (by simp)

theorem sparing_eraseFlash : Sparing .v1 eraseFlash.run :=
  leadsTry_get_bind fun _ _ => leadsTry_bind leadsTry_log fun _ =>
    leadsTry_bind (sparing_exchange rfl (by simp)) fun _ => leadsTry_modify fun _ h => ⟨h, .moved⟩

theorem sparing_readBack {length : Nat} : Sparing .v1 (communicate .readBackFlash (readBack length)).run := by
  refine leads_communicate offDevice_speaking onDevice_acts
    (leads_bind (Device.keeps_transact ?_) fun _ => leads_pure _)
  exact Protocol.spares_attempted rfl (by simp)

theorem sparing_writeChunk : Sparing .v1 (writeChunk bytes).run := by
  refine leadsTry_get_bind fun _ _ => leadsTry_bind sparing_checkChunk fun _ =>
    leadsTry_bind (sparing_exchange rfl (by simp)) fun _ =>
      leadsTry_bind (sparing_exchange rfl (by simp)) fun _ =>
        leadsTry_bind (leadsTry_lift sparing_delay) fun _ =>
          leadsTry_bind sparing_readBack fun readback => ?_
  split
  · exact leadsTry_modify fun _ h => ⟨h, .moved⟩
  · exact sparing_verifyFailure

end V1

/-! ## Operations of a driver -/

namespace Driver
variable {p : Protocol} {index : Nat} {bytes : List UInt8}

theorem sparing_firmwareVersion : Sparing p firmwareVersion :=
  sparing_byProtocol V0.sparing_firmwareVersion (V1.sparing_readField rfl)

theorem sparing_boardType : Sparing p boardType :=
  sparing_byProtocol V0.sparing_boardType (V1.sparing_readField rfl)

theorem sparing_deviceInfo : Sparing p deviceInfo :=
  leads_get_bind fun _ _ => leads_bind sparing_firmwareVersion fun _ =>
    leads_bind sparing_boardType fun _ => leads_pure _

theorem sparing_refresh : Sparing p refresh :=
  sparing_byProtocol (leads_modify fun _ h => ⟨h, .forgot⟩) (leads_modify fun _ h => ⟨h, .forgot⟩)

theorem sparing_channelDriveType : Sparing p (channelDriveType index).run :=
  sparing_byProtocol V0.sparing_channelDriveType V1.sparing_channelDriveType

theorem sparing_locateMask : Sparing p locateMask.run :=
  sparing_byProtocol (leadsTry_throw _) V1.sparing_locateMask

theorem sparing_buildState {locate : Option Bool} : Sparing p (buildState index locate).run :=
  leadsTry_bind (sparing_answer .presence) fun _ => leadsTry_bind (sparing_answer .failures) fun _ =>
    leadsTry_bind sparing_channelDriveType fun _ =>
      leadsTry_bind (leadsTry_lift leads_reconcile) fun _ => leadsTry_pure _

theorem sparing_collectStates : Sparing p collectStates.run :=
  leadsTry_bind (leads_ifSupported sparing_locateMask) fun _ =>
    leadsTry_mapM _ fun _ _ => sparing_buildState

/-- What a driver can be asked for beside changes. -/
inductive Call where
  | firmwareVersion
  | boardType
  | deviceInfo
  | refresh
  | channelPresent (index : Nat)
  | channelFailed (index : Nat)
  | channelDriveType (index : Nat)
  | setLocate (index : Nat) (on : Bool)
  | channelLocate (index : Nat)
  | locateMask
  | resetLocate
  | setHostPower (on : Bool)
  | ping
  | reboot
  | eraseFlash
  | writeChunk (bytes : List UInt8)
  | channelState (index : Nat)
  | channelStates
  | delay (us : UInt32)
  deriving DecidableEq, Repr

/-- Does what a driver is asked for, whatever comes of it. -/
def perform : Call → DriverM Unit
  | .firmwareVersion => discard Driver.firmwareVersion
  | .boardType => discard Driver.boardType
  | .deviceInfo => discard Driver.deviceInfo
  | .refresh => Driver.refresh
  | .channelPresent index => discard (Driver.channelPresent index).run
  | .channelFailed index => discard (Driver.channelFailed index).run
  | .channelDriveType index => discard (Driver.channelDriveType index).run
  | .setLocate index on => discard (Driver.setLocate index on).run
  | .channelLocate index => discard (Driver.channelLocate index).run
  | .locateMask => discard Driver.locateMask.run
  | .resetLocate => discard Driver.resetLocate.run
  | .setHostPower on => discard (Driver.setHostPower on).run
  | .ping => discard Driver.ping
  | .reboot => discard Driver.reboot.run
  | .eraseFlash => discard Driver.eraseFlash.run
  | .writeChunk bytes => discard (Driver.writeChunk bytes).run
  | .channelState index => discard (Driver.channelState index).run
  | .channelStates => discard Driver.channelStates.run
  | .delay us => Task.delay us

theorem sparing_discard {α : Type} {x : DriverM α} (h : Sparing p x) : Sparing p (discard x) :=
  leads_bind h fun _ => leads_pure _

/-- Beside the search for changes nothing reads the latch. -/
theorem sparing_perform (call : Call) : Sparing p (perform call) := by
  cases call with
  | firmwareVersion => exact sparing_discard sparing_firmwareVersion
  | boardType => exact sparing_discard sparing_boardType
  | deviceInfo => exact sparing_discard sparing_deviceInfo
  | refresh => exact sparing_refresh
  | channelPresent index => exact sparing_discard (sparing_answer .presence)
  | channelFailed index => exact sparing_discard (sparing_answer .failures)
  | channelDriveType index => exact sparing_discard sparing_channelDriveType
  | setLocate index on => exact sparing_discard (sparing_byProtocol V0.sparing_setLocate V1.sparing_setLocate)
  | channelLocate index =>
    exact sparing_discard (sparing_byProtocol V0.sparing_channelLocate V1.sparing_channelLocate)
  | locateMask => exact sparing_discard sparing_locateMask
  | resetLocate => exact sparing_discard (sparing_byProtocol V0.sparing_resetLocate V1.sparing_resetLocate)
  | setHostPower on =>
    exact sparing_discard (sparing_byProtocol V0.sparing_setHostPower V1.sparing_setHostPower)
  | ping =>
    refine sparing_discard (leads_bind
      (leads_onDevice offDevice_speaking onDevice_acts (Device.keeps_exchange ?_)) ?_)
    · exact Protocol.spares_attempted (by cases p <;> rfl) (by decide)
    · rintro (e | byte) <;> exact leads_pure _
  | reboot => exact sparing_discard (sparing_byProtocol V0.sparing_reboot V1.sparing_reboot)
  | eraseFlash => exact sparing_discard (sparing_byProtocol V0.sparing_eraseFlash V1.sparing_eraseFlash)
  | writeChunk bytes =>
    exact sparing_discard (sparing_byProtocol V0.sparing_writeChunk V1.sparing_writeChunk)
  | channelState index =>
    refine sparing_discard (leadsTry_bind (leads_ifSupported ?_) fun _ => sparing_buildState)
    exact sparing_byProtocol V0.sparing_channelLocate V1.sparing_channelLocate
  | channelStates =>
    exact sparing_discard (leadsTry_bind (leadsTry_lift sparing_refresh) fun _ => sparing_collectStates)
  | delay us => exact sparing_delay

end Driver
end Backplane
