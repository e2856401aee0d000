import Backplane.Proofs.Driver.Confirm

/-!
# Reading the identity, on any bus

The two identity strings are text fields of fixed size. The older generation reads each until it
comes twice in a row, the newer one once; a string that can not be read is empty.

* `IdentityField`: the two strings.
* `V0.runs_firmwareVersion`, `V0.runs_boardType`, `V1.runs_readField`: one string.
* `asks_read`: how often a string is asked for.
* `runs_deviceInfo`, `deviceInfo_turns`: the identity is made of both strings and asks for nothing
  but their fields.
-/
namespace Backplane

variable {turns : List Turn}

/-- The request for the firmware version. -/
def Protocol.versionRequest : Protocol → Request
  | .v0 => .transfer [.write [V0.versionRegister], .read V0.versionLength]
  | .v1 => .readBlock V1.versionRegister V1.versionLength

/-- The request for the board type. -/
def Protocol.boardTypeRequest : Protocol → Request
  | .v0 => .readBlock V0.boardTypeRegister V0.boardTypeLength
  | .v1 => .readBlock V1.boardTypeRegister V1.boardTypeLength

/-- A string of the identity. -/
inductive IdentityField where
  | firmwareVersion
  | boardType
  deriving DecidableEq, Repr

namespace IdentityField

/-- One read of the string. -/
def read : IdentityField → DriverM String
  | firmwareVersion => Driver.firmwareVersion
  | boardType => Driver.boardType

/-- The request for the string. -/
def request (p : Protocol) : IdentityField → Request
  | firmwareVersion => p.versionRequest
  | boardType => p.boardTypeRequest

/-- The string in an identity. -/
def ofInfo (info : DeviceInfo) : IdentityField → String
  | firmwareVersion => info.firmwareVersion
  | boardType => info.boardType

end IdentityField

/-- A turn that asks for an identity field. -/
def Protocol.AsksIdentity (p : Protocol) (turn : Turn) : Prop :=
  turn.request? = some p.versionRequest ∨ turn.request? = some p.boardTypeRequest

/-- The text of a field that was read, empty where it could not be. -/
def textOf : Except BusError (List UInt8) → String
  | .ok raw => Text.fieldText raw
  | .error _ => ""

theorem Device.runs_readBlock {register : UInt8} {buffer buffer' : List UInt8} {length : Nat}
    {result : Except BusError Nat} {d d' : Device} (hd : d.operational = true)
    (hbuffer : buffer.length = length) (hlength : length ≤ blockMax)
    (h : Runs (readBlock register buffer) d turns (result, buffer') d') :
    ∃ replies : List (Reply (.readBlock register length)), turns = tries _ replies ∧
      Settles attemptsMax replies result ∧ buffer' = delivered buffer replies ∧
      d' = d.noting !result.isOk := by
  subst hbuffer
  rw [readBlock, if_neg (by omega)] at h
  exact runs_transact hd h

@[simp] theorem Driver.course_fieldText {raw : List UInt8} {text : String} :
    Course (fieldText raw) turns text ↔ turns = [] ∧ Text.fieldText raw = text := by
  simp only [fieldText]
  split
  · simp only [course_bind, course_log, course_pure]
    constructor
    · intro h
      obtain ⟨_, _, _, rfl, rfl, rfl, rfl⟩ := h
      exact ⟨rfl, rfl⟩
    · intro h
      obtain ⟨rfl, rfl⟩ := h
      exact ⟨[], (), [], rfl, rfl, rfl, rfl⟩
  · rw [course_pure]

theorem Driver.runs_fieldText {raw : List UInt8} {d d' : Driver} {text : String} :
    Runs (liftM (fieldText raw) : DriverM String) d turns text d' ↔
      turns = [] ∧ Text.fieldText raw = text ∧ d = d' := by
  rw [runs_liftTask, course_fieldText, and_assoc]

/-- A string that can not be read is empty. -/
theorem Driver.runs_unreadable {op : Operation} {e : BusError} {d d' : Driver} {text : String} :
    Runs (do
      discard (communicationFailure op e)
      pure "" : DriverM String) d turns text d' ↔ turns = [] ∧ "" = text ∧ d = d' := by
  rw [show discard (communicationFailure op e) =
    communicationFailure op e >>= fun _ => pure () from rfl, bind_assoc]
  simp only [runs_bind, runs_communicationFailure, runs_pure]
  constructor
  · intro h
    obtain ⟨_, _, _, _, rfl, ⟨rfl, rfl, rfl⟩, _, _, _, _, rfl, ⟨rfl, _, rfl⟩, rfl, rfl, rfl⟩ := h
    exact ⟨rfl, rfl, rfl⟩
  · intro h
    obtain ⟨rfl, rfl, rfl⟩ := h
    exact ⟨[], _, d, [], rfl, ⟨rfl, rfl, rfl⟩, [], (), d, [], rfl, ⟨rfl, trivial, rfl⟩, rfl, rfl, rfl⟩

/-- A read on a handle that passed its check makes one request. -/
def Device.AsksOnce {α : Type} (r : Request) (read : DeviceM.Try α) : Prop :=
  ∀ ⦃d d' : Device⦄ ⦃turns : List Turn⦄ ⦃outcome : Except BusError α⦄, d.operational = true →
    Runs read.run d turns outcome d' →
      ∃ replies result failed, turns = tries r replies ∧ Settles attemptsMax replies result ∧
        d' = d.noting failed

/-! ## The older generation -/

namespace V0
open Driver
variable {d d' : Driver} {text : String}

theorem runs_readVersion {d d' : Device} {r : Except BusError (List UInt8)}
    (hd : d.operational = true) (h : Runs readVersion.run d turns r d') :
    ∃ replies outcome, turns = tries (Protocol.versionRequest .v0) replies ∧
      Settles Device.attemptsMax replies outcome ∧
      r = outcome.map (fun _ => delivered (.replicate versionLength 0) replies) ∧
      d' = d.noting !outcome.isOk := by
  obtain ⟨⟨outcome, buffer⟩, hread, rfl⟩ := runs_bind_pure.1 h
  rw [Device.readRawAt, List.length_replicate] at hread
  obtain ⟨replies, rfl, hsettles, rfl, rfl⟩ := Device.runs_transact hd hread
  exact ⟨replies, outcome, rfl, hsettles, rfl, rfl⟩

theorem asksOnce_readVersion : Device.AsksOnce (Protocol.versionRequest .v0) readVersion := by
  intro d d' turns outcome hd h
  obtain ⟨replies, result, rfl, hsettles, -, rfl⟩ := runs_readVersion hd h
  exact ⟨replies, result, _, rfl, hsettles, rfl⟩

theorem runs_readBoardType {d d' : Device} {r : Except BusError (List UInt8 × Nat)}
    (hd : d.operational = true) (h : Runs readBoardType.run d turns r d') :
    ∃ (replies : List (Reply (Protocol.boardTypeRequest .v0))) (outcome : Except BusError Nat),
      turns = tries _ replies ∧ Settles Device.attemptsMax replies outcome ∧
      r = outcome.map (fun count => (delivered (.replicate boardTypeLength 0) replies, count)) ∧
      d' = d.noting !outcome.isOk := by
  obtain ⟨⟨outcome, buffer⟩, hread, rfl⟩ := runs_bind_pure.1 h
  obtain ⟨replies, rfl, hsettles, rfl, rfl⟩ := Device.runs_readBlock hd List.length_replicate (by decide) hread
  exact ⟨replies, outcome, rfl, hsettles, rfl, rfl⟩

theorem asksOnce_readBoardType : Device.AsksOnce (Protocol.boardTypeRequest .v0) readBoardType := by
  intro d d' turns outcome hd h
  obtain ⟨replies, result, rfl, hsettles, -, rfl⟩ := runs_readBoardType hd h
  exact ⟨replies, result, _, rfl, hsettles, rfl⟩

/-- The text is what a read gave that was repeated until it came twice in a row. -/
def ReadsText {α : Type} [BEq α] (once : DeviceM.Try α) (raw : α → List UInt8) (d : Driver) (turns : List Turn)
    (text : String) (d' : Driver) : Prop :=
  ∃ results r device, Repeats once.run d.device turns results device ∧ Confirmed results r ∧
    text = textOf (r.map raw) ∧ d' = { d with device := device }

theorem readsText_confirmed {α : Type} [BEq α] {what : String} {once : DeviceM.Try α}
    {raw : α → List UInt8} {tell : Except BusError α → DriverM String}
    (hok : ∀ v, tell (.ok v) = liftM (fieldText (raw v)))
    (herror : ∀ e {d turns text d'},
      Runs (tell (.error e)) d turns text d' → turns = [] ∧ "" = text ∧ d = d')
    (h : Runs (onDevice (confirmed what once).run >>= tell) d turns text d') :
    ReadsText once raw d turns text d' := by
  obtain ⟨_, r, mid, _, rfl, hread, htell⟩ := runs_bind.1 h
  obtain ⟨device, hconfirmed, rfl⟩ := runs_onDevice.1 hread
  obtain ⟨results, hrepeats, hresult⟩ := runs_confirmed hconfirmed
  refine ⟨results, r, device, ?_⟩
  cases r with
  | ok v =>
    rw [hok] at htell
    obtain ⟨rfl, rfl, rfl⟩ := runs_fieldText.1 htell
    exact ⟨by simpa using hrepeats, hresult, rfl, rfl⟩
  | error e =>
    obtain ⟨rfl, rfl, rfl⟩ := herror e htell
    exact ⟨by simpa using hrepeats, hresult, rfl, rfl⟩

theorem runs_firmwareVersion (h : Runs firmwareVersion d turns text d') :
    ReadsText readVersion id d turns text d' :=
  readsText_confirmed (fun _ => rfl) (fun _ _ _ _ _ => runs_unreadable.1) h

theorem runs_boardType (h : Runs boardType d turns text d') :
    ReadsText readBoardType (fun read => read.1.take read.2) d turns text d' := by
  refine readsText_confirmed (fun _ => rfl) (fun e d turns text d' hwarned => ?_) h
  rw [runs_get_bind, Driver.runs_log_bind] at hwarned
  exact runs_pure.1 hwarned

end V0

/-! ## The newer generation -/

namespace V1
open Driver
variable {d d' : Driver} {text : String}

theorem runs_readField {register : UInt8} {length : Nat} {op : Operation}
    (hd : d.device.operational = true) (hlen : length ≤ blockMax)
    (h : Runs (readField register length op) d turns text d') :
    ∃ (replies : List (Reply (.readBlock register length))) (outcome : Except BusError Nat),
      turns = tries _ replies ∧ Settles Device.attemptsMax replies outcome ∧
      text = textOf (outcome.map (delivered (.replicate length 0) replies).take) ∧ d.Like d' := by
  obtain ⟨_, ⟨outcome, buffer⟩, _, _, rfl, hread, htell⟩ := runs_bind.1 h
  obtain ⟨device, hblock, rfl⟩ := runs_onDevice.1 hread
  obtain ⟨replies, rfl, hsettles, rfl, rfl⟩ := Device.runs_readBlock hd List.length_replicate hlen hblock
  refine ⟨replies, outcome, ?_⟩
  cases outcome with
  | ok count =>
    obtain ⟨rfl, rfl, rfl⟩ := runs_fieldText.1 htell
    exact ⟨List.append_nil _, hsettles, rfl, .noting _⟩
  | error e =>
    obtain ⟨rfl, rfl, rfl⟩ := runs_unreadable.1 htell
    exact ⟨List.append_nil _, hsettles, rfl, .noting _⟩

theorem asks_readField {register : UInt8} {length : Nat} {op : Operation}
    (hlen : length ≤ blockMax) (hd : d.device.operational = true)
    (h : Runs (readField register length op) d turns text d') :
    d.Like d' ∧ ∃ outcome, Asks (.readBlock register length) turns [outcome] := by
  obtain ⟨replies, outcome, rfl, hsettles, -, hlike⟩ := runs_readField hd hlen h
  exact ⟨hlike, outcome, .single hsettles⟩

end V1

namespace Driver
variable {d d' : Driver} {info : DeviceInfo}

theorem runs_deviceInfo (h : Runs deviceInfo d turns info d') :
    ∃ first mid rest, turns = first ++ rest ∧ Runs firmwareVersion d first info.firmwareVersion mid ∧
      Runs boardType mid rest info.boardType d' ∧ info.protocol = d.protocol := by
  rw [deviceInfo, runs_get_bind] at h
  simp only [runs_bind, runs_pure] at h
  obtain ⟨first, version, mid, _, rfl, hversion, rest, board, _, _, rfl, hboard, rfl, rfl, rfl⟩ := h
  exact ⟨first, mid, rest, by simp, hversion, hboard, rfl⟩

/-- A read that is repeated on a handle makes one request over and over. -/
theorem asks_repeats {α : Type} {once : DeviceM.Try α} {outcomes : List (Except BusError α)}
    {r : Request} {device device' : Device} (honce : Device.AsksOnce r once)
    (hd : device.operational = true) (h : Repeats once.run device turns outcomes device') :
    (∃ streak, device' = { device with streak := streak }) ∧
      ∃ results, Asks r turns results ∧ results.length = outcomes.length := by
  induction h with
  | nil => exact ⟨⟨_, rfl⟩, [], .nil, rfl⟩
  | cons hrun _ ih =>
    obtain ⟨replies, result, failed, rfl, hsettles, rfl⟩ := honce hd hrun
    obtain ⟨hdevice, results, hasks, hlength⟩ := ih hd
    exact ⟨hdevice, result :: results, .cons hsettles hasks, congrArg (· + 1) hlength⟩

/-- A string is asked for over and over in the older generation, and once in the newer one. -/
theorem asks_byProtocol {α : Type} [BEq α] (request : Protocol → Request) {v0 v1 : DriverM String}
    {once : DeviceM.Try α} {raw : α → List UInt8} {text : String}
    (honce : Device.AsksOnce (request .v0) once)
    (hv0 : Runs v0 d turns text d' → V0.ReadsText once raw d turns text d')
    (hv1 : d.device.operational = true → Runs v1 d turns text d' →
      d.Like d' ∧ ∃ outcome, Asks (request .v1) turns [outcome])
    (hd : d.device.operational = true) (h : Runs (byProtocol v0 v1) d turns text d') :
    d.Like d' ∧ ∃ results, Asks (request d.protocol) turns results ∧ results.length ≤ confirmAttempts := by
  rw [runs_byProtocol] at h
  cases hp : d.protocol with
  | v0 =>
    rw [hp] at h
    obtain ⟨outcomes, r, device, hrepeats, hconfirmed, -, rfl⟩ := hv0 h
    obtain ⟨⟨streak, rfl⟩, results, hasks, hlength⟩ := asks_repeats honce hd hrepeats
    exact ⟨⟨streak, rfl⟩, results, hasks, hlength ▸ hconfirmed.length_le⟩
  | v1 =>
    rw [hp] at h
    obtain ⟨hlike, outcome, hasks⟩ := hv1 hd h
    exact ⟨hlike, [outcome], hasks, (by decide : 1 ≤ confirmAttempts)⟩

theorem asks_read (field : IdentityField) {text : String} (hd : d.device.operational = true)
    (h : Runs field.read d turns text d') :
    d.Like d' ∧ ∃ results, Asks (field.request d.protocol) turns results ∧
      results.length ≤ confirmAttempts := by
  cases field with
  | firmwareVersion =>
    exact asks_byProtocol Protocol.versionRequest V0.asksOnce_readVersion
      V0.runs_firmwareVersion (V1.asks_readField (by decide)) hd h
  | boardType =>
    exact asks_byProtocol Protocol.boardTypeRequest V0.asksOnce_readBoardType
      V0.runs_boardType (V1.asks_readField (by decide)) hd h

/-- Reading the identity leaves the driver as it was and asks for nothing else. -/
theorem deviceInfo_turns (hd : d.device.operational = true) (h : Runs deviceInfo d turns info d') :
    d.Like d' ∧ info.protocol = d.protocol ∧ ∀ turn ∈ turns, d.protocol.AsksIdentity turn := by
  obtain ⟨first, mid, rest, rfl, hversion, hboard, hp⟩ := runs_deviceInfo h
  obtain ⟨hmid, _, hfirst, -⟩ := asks_read .firmwareVersion hd hversion
  obtain ⟨hend, _, hboards, -⟩ := asks_read .boardType (hmid.operational_eq.trans hd) hboard
  have hrest := hboards.request
  rw [hmid.protocol_eq] at hrest
  refine ⟨hmid.trans hend, hp, List.forall_mem_append.2 ⟨fun turn hturn => ?_, fun turn hturn => ?_⟩⟩
  · exact .inl (hfirst.request turn hturn)
  · exact .inr (hrest turn hturn)

end Driver
end Backplane
