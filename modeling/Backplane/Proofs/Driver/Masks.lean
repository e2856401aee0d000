import Backplane.Driver.Channels
import Backplane.Proofs.Driver.Confirm

/-!
# Masks and types, at hand or read

A driver answers for a channel from what it has at hand in this poll cycle. What it has not at hand it
reads, and keeps.

* `Mask`: the masks that a driver keeps; presence and failures differ in nothing but the register.
* `Protocol.ReadsMask`: the turns in which a mask is read, in each generation.
* `Obtains`: the two ways to come by a value that is kept.
* `runs_answer`: every answer of a driver about a channel; `tries_answer`: one from a mask at hand.
* `runs_channelDriveType`, `runs_reconcile`: the same for types, and what is shown of them.
* `runs_locateMask`, `runs_channelLocate`: locate LEDs, which are not kept.
-/
namespace Backplane

variable {turns : List Turn}

/-! ## Reads of a register -/

namespace Device
variable {d d' : Device} {register : UInt8}

theorem asks_readByteData {results : List (Except BusError UInt8)} (hd : d.operational = true)
    (h : Repeats (readByteData register).run d turns results d') :
    Asks (.readByteData register) turns results := by
  induction h with
  | nil => exact .nil
  | cons hrun _ ih =>
    obtain ⟨replies, rfl, hsettles, rfl⟩ := runs_exchange hd hrun
    exact .cons hsettles (ih hd)

end Device

namespace Driver

/-- A register of the older generation was read until its value came twice in a row. -/
def ReadsConfirmed (register : UInt8) (turns : List Turn) (v : UInt8) : Prop :=
  ∃ results, Asks (.readByteData register) turns results ∧ Confirmed results (.ok v)

theorem readsConfirmed_confirmed {what : String} {register v : UInt8} {device device' : Device}
    (h : Runs (confirmed what (Device.readByteData register)).run device turns (.ok v) device') :
    ReadsConfirmed register turns v := by
  obtain ⟨results, hrepeats, hconfirmed⟩ := runs_confirmed h
  obtain ⟨first, rest, rfl⟩ := hconfirmed.head_ok
  cases hrepeats with
  | cons hrun hrest =>
    have hd := (Device.runs_exchange_ok hrun).1
    exact ⟨_, Device.asks_readByteData hd (.cons hrun hrest), hconfirmed⟩

end Driver

namespace Protocol

/-- The register of the presence mask. -/
def presenceRegister : Protocol → UInt8
  | .v0 => V0.presenceRegister
  | .v1 => V1.presenceRegister

/-- The register of the failure mask. -/
def failuresRegister : Protocol → UInt8
  | .v0 => V0.failuresRegister
  | .v1 => V1.failuresRegister

/-- The transactions that read a mask; in the older generation it must come twice in a row. -/
def readMask (p : Protocol) (what : String) (register : UInt8) : DeviceM.Try UInt8 :=
  match p with
  | .v0 => Driver.confirmed what (Device.readByteData register)
  | .v1 => Device.readByteData register

/-- A mask was read in these turns. -/
def ReadsMask (p : Protocol) (register : UInt8) (turns : List Turn) (mask : UInt8) : Prop :=
  match p with
  | .v0 => Driver.ReadsConfirmed register turns mask
  | .v1 => Asks (.readByteData register) turns [.ok mask]

theorem readsMask_readMask {p : Protocol} {what : String} {register mask : UInt8} {device device' : Device}
    (h : Runs (p.readMask what register).run device turns (.ok mask) device') :
    p.ReadsMask register turns mask := by
  cases p with
  | v0 => exact Driver.readsConfirmed_confirmed h
  | v1 => exact (Device.runs_exchange_ok h).2

end Protocol

/-- A mask that a driver reads and keeps. -/
inductive Mask where
  | presence
  | failures
  deriving DecidableEq, Repr

namespace Mask

/-- What it is called in log lines. -/
def name : Mask → String
  | presence => "presence"
  | failures => "failures"

def register (p : Protocol) : Mask → UInt8
  | presence => p.presenceRegister
  | failures => p.failuresRegister

/-- The operation that reads it. -/
def operation : Mask → Operation
  | presence => .readPresence
  | failures => .readFailures

/-- What a driver has at hand of it. -/
def held (d : Driver) : Mask → Option UInt8
  | presence => d.presence
  | failures => d.failures

/-- Has a value of it at hand from now on. -/
def keep : Mask → UInt8 → Driver → Driver
  | presence, value, d => { d with presence := some value }
  | failures, value, d => { d with failures := some value }

/-- What a driver says of a channel from it. -/
def answer (index : Nat) : Mask → DriverM.Try Bool
  | presence => Driver.channelPresent index
  | failures => Driver.channelFailed index

@[simp] theorem held_keep (mask : Mask) (value : UInt8) (d : Driver) :
    mask.held (mask.keep value d) = some value := by
  cases mask <;> rfl

theorem held_keep_of_ne {mask other : Mask} (h : other ≠ mask) (value : UInt8) (d : Driver) :
    mask.held (other.keep value d) = mask.held d := by
  cases mask <;> cases other <;> first | rfl | exact absurd rfl h

@[simp] theorem protocol_keep (mask : Mask) (value : UInt8) (d : Driver) :
    (mask.keep value d).protocol = d.protocol := by
  cases mask <;> rfl

@[simp] theorem types_keep (mask : Mask) (value : UInt8) (d : Driver) :
    (mask.keep value d).types = d.types := by
  cases mask <;> rfl

@[simp] theorem held_device (mask : Mask) (d : Driver) (device : Device) :
    mask.held { d with device := device } = mask.held d := by
  cases mask <;> rfl

end Mask

namespace Driver

variable {d d' : Driver} {index : Nat} {α β : Type}

/-- A value that is read and kept. -/
def fetch (read : DeviceM.Try α) (op : Operation) (keep : α → Driver → Driver) : DriverM.Try α := do
  let v ← communicate op read
  modify (keep v)
  pure v

/-- The driver behind the read of a value that it keeps. -/
def kept (keep : α → Driver → Driver) (d : Driver) : Except BusError α → Driver
  | .ok v => keep v d
  | .error _ => d

theorem tries_fetch {read : DeviceM.Try α} {op : Operation} {keep : α → Driver → Driver}
    {r : Except Error α} (h : Runs (fetch read op keep).run d turns r d') :
    ∃ result device, Runs read.run d.device turns result device ∧
      r = result.mapError (.communication device.label op) ∧
      d' = kept keep { d with device := device } result := by
  obtain ⟨e, hread, rfl⟩ | ⟨_, v, _, _, rfl, hread, h⟩ := tries_bind.1 h
  · obtain ⟨result, device, hrun, rfl, hr⟩ := runs_communicate hread
    cases result <;> cases hr
    exact ⟨_, device, hrun, rfl, rfl⟩
  · obtain ⟨result, device, hrun, rfl, hr⟩ := runs_communicate hread
    rw [tries_modify_bind] at h
    obtain ⟨rfl, rfl, rfl⟩ := tries_pure.1 h
    cases result <;> cases hr
    exact ⟨.ok v, device, by simpa using hrun, rfl, rfl⟩

/-- How a driver comes by a value of this poll cycle: it has it at hand, or it reads it and keeps it. -/
inductive Obtains (held : Option α) (read : DeviceM.Try α) (op : Operation)
    (keep : α → Driver → Driver) (d : Driver) : List Turn → Except Error α → Driver → Prop
  | held {v : α} (h : held = some v) : Obtains held read op keep d [] (.ok v) d
  | read {turns : List Turn} {result : Except BusError α} {device : Device} (h : held = none)
      (hrun : Runs read.run d.device turns result device) :
      Obtains held read op keep d turns (result.mapError (.communication device.label op))
        (kept keep { d with device := device } result)

section Obtains
variable {held : Option α} {read : DeviceM.Try α} {op : Operation} {keep : α → Driver → Driver}

theorem obtains_fetch {r : Except Error α} (hheld : held = none)
    (h : Runs (fetch read op keep).run d turns r d') : Obtains held read op keep d turns r d' := by
  obtain ⟨result, device, hrun, rfl, rfl⟩ := tries_fetch h
  exact .read hheld hrun

theorem obtains_or_fetch {r : Except Error α}
    (h : Runs (match held with
      | some v => pure v
      | none => fetch read op keep).run d turns r d') : Obtains held read op keep d turns r d' := by
  cases held with
  | some v =>
    obtain ⟨rfl, rfl, rfl⟩ := tries_pure.1 h
    exact .held rfl
  | none => exact obtains_fetch rfl h

/-- An answer that is made of the value. -/
theorem obtains_answer {answer : α → β} {r : Except Error β}
    (h : Runs (match held with
      | some v => pure (answer v)
      | none => do pure (answer (← fetch read op keep))).run d turns r d') :
    ∃ outcome, Obtains held read op keep d turns outcome d' ∧ r = outcome.map answer := by
  cases held with
  | some v =>
    obtain ⟨rfl, rfl, rfl⟩ := tries_pure.1 h
    exact ⟨.ok v, .held rfl, rfl⟩
  | none =>
    obtain ⟨outcome, hfetch, rfl⟩ := tries_bind_pure.1 h
    exact ⟨outcome, obtains_fetch rfl hfetch, rfl⟩

namespace Obtains
variable {r : Except Error α}

/-- What is at hand is not read. -/
theorem of_held {v : α} (h : Obtains (some v) read op keep d turns r d') :
    turns = [] ∧ r = .ok v ∧ d' = d := by
  cases h with
  | held hheld =>
    obtain rfl := Option.some.inj hheld
    exact ⟨rfl, rfl, rfl⟩
  | read hheld => cases hheld

/-- What does not depend on the handle nor on what is kept stays. -/
theorem frame (field : Driver → β) (h : Obtains held read op keep d turns r d')
    (hdevice : ∀ d device, field { d with device := device } = field d)
    (hkeep : ∀ v d, field (keep v d) = field d) : field d' = field d := by
  cases h with
  | held => rfl
  | @read _ result device =>
    cases result with
    | ok v => exact (hkeep v _).trans (hdevice d device)
    | error e => exact hdevice d device

/-- What was come by is at hand. -/
theorem at_hand (field : Driver → Option α) {v : α}
    (h : Obtains (field d) read op keep d turns (.ok v) d')
    (hkeep : ∀ v d, field (keep v d) = some v) : field d' = some v := by
  generalize hr : (Except.ok v : Except Error α) = r at h
  cases h with
  | held hheld =>
    cases hr
    exact hheld
  | @read _ result device =>
    cases result with
    | ok w =>
      cases hr
      exact hkeep v _
    | error e => cases hr

/-- What is not at hand is read. -/
theorem of_none {v : α} (h : Obtains none read op keep d turns (.ok v) d') :
    ∃ device, Runs read.run d.device turns (.ok v) device := by
  generalize hr : (Except.ok v : Except Error α) = r at h
  cases h with
  | held hheld => cases hheld
  | @read _ result device _ hrun =>
    cases result <;> cases hr
    exact ⟨device, hrun⟩

end Obtains
end Obtains

def keepTypes (word : UInt16) (d : Driver) : Driver := { d with types := some word }

end Driver

/-! ## What is kept in a poll cycle -/

namespace V1
open Driver
variable {d d' : Driver}

theorem obtains_types {r : Except Error UInt16} (h : Runs types.run d turns r d') :
    Obtains d.types (Device.readWordData driveTypesRegister) .readDriveTypes keepTypes d turns r d' := by
  rw [V1.types, tries_get_bind] at h
  refine obtains_or_fetch ?_
  cases hheld : d.types <;> rwa [hheld] at h

end V1

namespace Driver
variable {d d' : Driver} {index : Nat} {α : Type}

/-- The driver comes by a mask. -/
abbrev ObtainsMask (mask : Mask) (d : Driver) : List Turn → Except Error UInt8 → Driver → Prop :=
  Obtains (mask.held d) (d.protocol.readMask mask.name (mask.register d.protocol)) mask.operation mask.keep d

variable {mask : Mask}

theorem obtainsMask_frame {r : Except Error UInt8} (h : ObtainsMask mask d turns r d') :
    d'.protocol = d.protocol ∧ d'.types = d.types ∧
      ∀ other : Mask, mask ≠ other → other.held d' = other.held d :=
  ⟨h.frame Driver.protocol (fun _ _ => rfl) mask.protocol_keep,
    h.frame Driver.types (fun _ _ => rfl) mask.types_keep,
    fun other hne => h.frame other.held other.held_device (Mask.held_keep_of_ne hne)⟩

/-- How the newer generation comes by a mask. -/
def heldOrRead (mask : Mask) : DriverM.Try UInt8 := do
  match mask.held (← get) with
  | some value => pure value
  | none => fetch (Protocol.v1.readMask mask.name (mask.register .v1)) mask.operation mask.keep

/-- Both masks are answered from in the same way. -/
theorem answer_eq (mask : Mask) (index : Nat) :
    mask.answer index = tryByProtocol
      (do
        checkChannel index
        match mask.held (← get) with
        | some value => pure (hasChannel value index)
        | none => do
          let value ← fetch (Protocol.v0.readMask mask.name (mask.register .v0)) mask.operation mask.keep
          pure (hasChannel value index))
      (do
        checkChannel index
        pure (hasChannel (← heldOrRead mask) index)) := by
  cases mask <;> rfl

theorem run_heldOrRead {value : UInt8} (hd : mask.held d = some value) :
    (heldOrRead mask).run.run d = pure (.ok value, d) := by
  rw [heldOrRead, run_get_bind, hd]
  rfl

/-- What is not at hand is read. -/
theorem tries_heldOrRead_none (mask : Mask) {r : Except Error UInt8} (hd : mask.held d = none)
    (h : Runs (heldOrRead mask).run d turns r d') :
    ∃ result device, Runs (Device.readByteData (mask.register .v1)).run d.device turns result device ∧
      r = result.mapError (.communication device.label mask.operation) ∧
      d' = kept mask.keep { d with device := device } result := by
  rw [heldOrRead, tries_get_bind, hd] at h
  exact tries_fetch h

/-- An answer from a mask at hand. -/
theorem tries_answer (mask : Mask) {value : UInt8} {r : Except Error Bool} (hd : mask.held d = some value)
    (hi : index < channelCount) :
    Runs (mask.answer index).run d turns r d' ↔
      turns = [] ∧ r = .ok (hasChannel value index) ∧ d = d' := by
  rw [answer_eq, tries_byProtocol]
  cases d.protocol with
  | v0 =>
    dsimp only
    rw [tries_checkChannel_bind, if_pos hi, tries_get_bind, hd, tries_pure]
  | v1 =>
    dsimp only
    rw [tries_checkChannel_bind, if_pos hi, tries_known_bind (run_heldOrRead hd), tries_pure]

/-- What a driver says of a channel it says of a mask that it came by. -/
theorem runs_answer (mask : Mask) {r : Except Error Bool} (hi : index < channelCount)
    (h : Runs (mask.answer index).run d turns r d') :
    ∃ outcome, ObtainsMask mask d turns outcome d' ∧ r = outcome.map (hasChannel · index) := by
  rw [answer_eq, tries_byProtocol] at h
  unfold ObtainsMask
  cases hp : d.protocol with
  | v0 =>
    rw [hp] at h
    dsimp only at h
    rw [tries_checkChannel_bind, if_pos hi, tries_get_bind] at h
    refine obtains_answer ?_
    cases hheld : mask.held d <;> rwa [hheld] at h
  | v1 =>
    rw [hp] at h
    dsimp only at h
    rw [tries_checkChannel_bind, if_pos hi] at h
    obtain ⟨outcome, hread, rfl⟩ := tries_bind_pure.1 h
    rw [heldOrRead, tries_get_bind] at hread
    refine ⟨outcome, obtains_or_fetch ?_, rfl⟩
    cases hheld : mask.held d <;> rwa [hheld] at hread

/-- A channel that there is not gets no answer. -/
theorem runs_answer_beyond {r : Except Error Bool} (hi : ¬ index < channelCount)
    (h : Runs (mask.answer index).run d turns r d') :
    turns = [] ∧ r = .error (.invalidChannel index) ∧ d = d' := by
  rw [answer_eq, tries_byProtocol] at h
  split at h <;> rwa [tries_checkChannel_bind, if_neg hi] at h

theorem lt_of_answer {b : Bool} (h : Runs (mask.answer index).run d turns (.ok b) d') :
    index < channelCount := by
  refine Decidable.byContradiction fun hi => ?_
  cases (runs_answer_beyond hi h).2.1

/-- A new poll cycle begins with nothing at hand. -/
theorem runs_refresh {v : Unit} (h : Runs refresh d turns v d') :
    turns = [] ∧ d'.device = d.device ∧ d'.protocol = d.protocol ∧ d'.presence = none ∧
      d'.failures = none ∧ (d.protocol = .v1 → d'.types = none) := by
  rw [refresh, runs_byProtocol] at h
  cases hp : d.protocol <;> rw [hp] at h <;> obtain ⟨rfl, rfl⟩ := runs_modify.1 h <;> simp [hp]

/-! ## Types -/

/-- The type that a raw value stands for. -/
def typeOf (raw : UInt8) : DriveType := (DriveType.ofWire? raw).getD .unknown

theorem runs_warning {level : Level} (text : Driver → String) {v w : α} :
    Runs (do
      let d ← get
      Task.log level (text d)
      pure v : DriverM α) d turns w d' ↔ turns = [] ∧ v = w ∧ d = d' := by
  rw [runs_get_bind, Driver.runs_log_bind, runs_pure]

theorem runs_driveTypeOf {raw : UInt8} {type : DriveType}
    (h : Runs (driveTypeOf index raw) d turns type d') : turns = [] ∧ type = typeOf raw ∧ d = d' := by
  rw [driveTypeOf] at h
  unfold typeOf
  cases htype : DriveType.ofWire? raw with
  | some known =>
    rw [htype] at h
    obtain ⟨rfl, rfl, rfl⟩ := runs_pure.1 h
    exact ⟨rfl, rfl, rfl⟩
  | none =>
    rw [htype] at h
    obtain ⟨rfl, rfl, rfl⟩ := (runs_warning _).1 h
    exact ⟨rfl, rfl, rfl⟩

/-- What follows a raw value that was come by is its type. -/
theorem tries_bind_driveTypeOf {x : DriverM.Try α} {raw : α → UInt8} {r : Except Error DriveType}
    (h : Runs (x >>= fun v => liftM (driveTypeOf index (raw v))).run d turns r d') :
    ∃ outcome, Runs x.run d turns outcome d' ∧ r = (outcome.map raw).map typeOf := by
  obtain ⟨e, hfail, rfl⟩ | ⟨first, v, mid, rest, rfl, hread, h⟩ := tries_bind.1 h
  · exact ⟨.error e, hfail, rfl⟩
  · obtain ⟨type, rfl, hlift⟩ := tries_lift.1 h
    obtain ⟨rfl, rfl, rfl⟩ := runs_driveTypeOf hlift
    exact ⟨.ok v, by simpa using hread, rfl⟩

/-- How a driver comes by the raw type of a channel. -/
inductive ObtainsType (d : Driver) (index : Nat) : List Turn → Except Error UInt8 → Driver → Prop
  | v0 {turns : List Turn} {result : Except BusError UInt8} {device : Device} (hp : d.protocol = .v0)
      (hrun : Runs (confirmed "drive type" (V0.readDriveType index)).run d.device turns result device) :
      ObtainsType d index turns (result.mapError (.communication device.label .readDriveType))
        { d with device := device }
  | v1 {turns : List Turn} {outcome : Except Error UInt16} {d' : Driver} (hp : d.protocol = .v1)
      (h : Obtains d.types (Device.readWordData V1.driveTypesRegister) .readDriveTypes keepTypes d turns
        outcome d') :
      ObtainsType d index turns (outcome.map (unpackType · index)) d'

namespace ObtainsType
variable {raw : UInt8}

theorem ok_v0 (hp : d.protocol = .v0) (h : d.ObtainsType index turns (.ok raw) d') :
    ∃ device, Runs (confirmed "drive type" (V0.readDriveType index)).run d.device turns (.ok raw) device ∧
      d' = { d with device := device } := by
  generalize hr : (Except.ok raw : Except Error UInt8) = r at h
  cases h with
  | @v0 result device _ hrun =>
    cases result <;> cases hr
    exact ⟨device, hrun, rfl⟩
  | v1 hp' => cases hp.symm.trans hp'

theorem ok_v1 (hp : d.protocol = .v1) (h : d.ObtainsType index turns (.ok raw) d') :
    ∃ word, Obtains d.types (Device.readWordData V1.driveTypesRegister) .readDriveTypes keepTypes d turns
      (.ok word) d' ∧ raw = unpackType word index := by
  generalize hr : (Except.ok raw : Except Error UInt8) = r at h
  cases h with
  | v0 hp' => cases hp.symm.trans hp'
  | @v1 outcome _ _ h =>
    cases outcome <;> cases hr
    exact ⟨_, h, rfl⟩

theorem frame {outcome : Except Error UInt8} (h : d.ObtainsType index turns outcome d') :
    d'.protocol = d.protocol ∧ d'.presence = d.presence ∧ d'.failures = d.failures := by
  cases h with
  | v0 => exact ⟨rfl, rfl, rfl⟩
  | v1 _ h =>
    exact ⟨h.frame Driver.protocol (fun _ _ => rfl) fun _ _ => rfl,
      h.frame Driver.presence (fun _ _ => rfl) fun _ _ => rfl,
      h.frame Driver.failures (fun _ _ => rfl) fun _ _ => rfl⟩

end ObtainsType

theorem runs_channelDriveType {r : Except Error DriveType} (hi : index < channelCount)
    (h : Runs (channelDriveType index).run d turns r d') :
    ∃ outcome, d.ObtainsType index turns outcome d' ∧ r = outcome.map typeOf := by
  rw [channelDriveType, tries_byProtocol] at h
  cases hp : d.protocol with
  | v0 =>
    rw [hp] at h
    dsimp only at h
    rw [V0.channelDriveType, tries_checkChannel_bind, if_pos hi] at h
    obtain ⟨outcome, hread, rfl⟩ := tries_bind_driveTypeOf h
    obtain ⟨result, device, hrun, rfl, rfl⟩ := runs_communicate hread
    refine ⟨_, .v0 hp hrun, ?_⟩
    cases result <;> rfl
  | v1 =>
    rw [hp] at h
    dsimp only at h
    rw [V1.channelDriveType, tries_checkChannel_bind, if_pos hi] at h
    obtain ⟨outcome, htypes, rfl⟩ := tries_bind_driveTypeOf h
    exact ⟨_, .v1 hp (V1.obtains_types htypes), rfl⟩

/-- The type shown of a channel: an empty bay has none, and of a drive whose type has no meaning it is
unknown. -/
def shownType (present : Bool) (raw : UInt8) : DriveType :=
  if present then
    if raw = 1 then .sataSas else if raw = 2 then .nvme else .unknown
  else .noDisk

/-- A type after it was compared with presence, which decides where they disagree. -/
def reconciled (present : Bool) (reported : DriveType) : DriveType :=
  if present then if reported = .noDisk then .unknown else reported else .noDisk

theorem shownType_eq (present : Bool) (raw : UInt8) :
    shownType present raw = reconciled present (typeOf raw) := by
  by_cases h0 : raw = 0
  · subst h0
    rfl
  · by_cases h1 : raw = 1
    · subst h1
      rfl
    · by_cases h2 : raw = 2
      · subst h2
        rfl
      · simp [shownType, reconciled, typeOf, DriveType.ofWire?, h0, h1, h2]

theorem reconciled_eq_noDisk {present : Bool} {reported : DriveType} :
    reconciled present reported = .noDisk ↔ present = false := by
  cases present with
  | false => simp [reconciled]
  | true =>
    rw [reconciled, if_pos rfl]
    split <;> simp [*]

theorem runs_reconcile {present : Bool} {reported type : DriveType}
    (h : Runs (reconcile index present reported) d turns type d') :
    turns = [] ∧ type = reconciled present reported ∧ d = d' := by
  rw [reconcile.eq_def] at h
  split at h
  · obtain ⟨rfl, rfl, rfl⟩ := (runs_warning _).1 h
    exact ⟨rfl, rfl, rfl⟩
  · next htyped =>
    obtain ⟨rfl, rfl, rfl⟩ := runs_pure.1 h
    exact ⟨rfl, (if_neg htyped).symm, rfl⟩
  · obtain ⟨rfl, rfl, rfl⟩ := runs_pure.1 h
    exact ⟨rfl, rfl, rfl⟩
  · obtain ⟨rfl, rfl, rfl⟩ := (runs_warning _).1 h
    exact ⟨rfl, rfl, rfl⟩

/-! ## Locate LEDs -/

/-- What cannot be told is missing. -/
def supported : Except Error α → Except Error (Option α)
  | .ok v => .ok (some v)
  | .error (.unsupported _ _) => .ok none
  | .error e => .error e

theorem runs_ifSupported {read : DriverM.Try α} {r : Except Error (Option α)} :
    Runs (ifSupported read).run d turns r d' ↔
      ∃ outcome, Runs read.run d turns outcome d' ∧ r = supported outcome := by
  have hrun : (ifSupported read).run = read.run >>= fun outcome => pure (supported outcome) := by
    rw [ifSupported, ExceptT.run_mk]
    refine bind_congr fun outcome => ?_
    rcases outcome with e | v
    · cases e <;> rfl
    · rfl
  rw [hrun, runs_bind_pure]
  simp only [eq_comm]

/-- Only the newer generation can read the locate LEDs back. -/
theorem runs_locateMask {r : Except Error UInt8} (h : Runs locateMask.run d turns r d') :
    (d.protocol = .v0 ∧ turns = [] ∧ r = .error (.unsupported .readLocateLed .v0) ∧ d' = d) ∨
      d.protocol = .v1 ∧ ∃ result device,
        Runs (Device.readByteData V1.locateRegister).run d.device turns result device ∧
        r = result.mapError (.communication device.label .readLocate) ∧ d' = { d with device := device } := by
  rw [locateMask, tries_byProtocol] at h
  rcases hp : d.protocol with _ | _
  · rw [hp] at h
    obtain ⟨rfl, rfl, rfl⟩ := tries_throw.1 h
    exact .inl ⟨rfl, rfl, rfl, rfl⟩
  · rw [hp] at h
    obtain ⟨result, device, hrun, rfl, rfl⟩ := runs_communicate h
    exact .inr ⟨rfl, result, device, hrun, rfl, by rw [← hp]⟩

theorem runs_channelLocate {r : Except Error Bool} (hi : index < channelCount)
    (h : Runs (channelLocate index).run d turns r d') :
    ∃ outcome, Runs locateMask.run d turns outcome d' ∧ r = outcome.map (hasChannel · index) := by
  rw [channelLocate, tries_byProtocol] at h
  simp only [locateMask, tries_byProtocol]
  cases hp : d.protocol with
  | v0 =>
    rw [hp] at h
    dsimp only at h
    rw [V0.channelLocate, tries_checkChannel_bind, if_pos hi] at h
    obtain ⟨rfl, rfl, rfl⟩ := tries_throw.1 h
    exact ⟨_, tries_throw.2 ⟨rfl, rfl, rfl⟩, rfl⟩
  | v1 =>
    rw [hp] at h
    dsimp only at h
    rw [V1.channelLocate, tries_checkChannel_bind, if_pos hi] at h
    exact tries_bind_pure.1 h

end Driver
end Backplane
