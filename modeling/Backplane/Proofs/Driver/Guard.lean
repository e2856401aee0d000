import Backplane.Proofs.Driver.Acts
import Backplane.Proofs.Driver.Locate
import Backplane.Proofs.Stream

/-!
# Indices of channels

Whatever is asked of a driver about one channel, the index comes first: one that is too high is refused
at once, before anything is asked, logged or kept. Any other index fits where it is shifted or sent, and
what is read, answered and written there is the channel's own.

* `ChannelCall`: what can be asked about one channel.
* `refuses_perform`: an index that is too high.
* `ChannelCall.Reads`, `reads_perform`: what an answer is made of.
* `admits_perform`: no index in range is refused.
* `naming_perform`: the channel that requests name.
* `fits_index`: shifts and conversions of an index in range.
* `channel_guard`: all of it, at every site.
-/
namespace Backplane

/-- The channel that a request names. -/
def Request.channel? : Request → Option Nat
  | .writeByteData command value =>
    if command ∈ [V0.locateOnCommand, V0.locateOffCommand, V0.driveTypeCommand] then some value.toNat
    else none
  | _ => none

/-- What is made of an index stays within its word, and means that channel. -/
structure FitsIndex (index : Nat) : Prop where
  byte_eq : (UInt8.ofNat index).toNat = index
  channelBit_eq : (channelBit index).toNat = 2 ^ index
  hasChannel_eq : ∀ mask, hasChannel mask index = mask.toNat.testBit index
  shift_eq : (UInt16.ofNat (index * 2)).toNat = index * 2
  shift_lt : index * 2 < 16
  unpackType_eq : ∀ word, (unpackType word index).toNat = word.toNat / 4 ^ index % 4

theorem fits_index {index : Nat} (hi : index < channelCount) : FitsIndex index := by
  have hlt : index < 8 := hi
  refine ⟨?_, toNat_channelBit index hi, fun mask => hasChannel_eq mask hi, ?_, by omega,
    toNat_unpackType hi⟩
  · rw [UInt8.toNat_ofNat']
    omega
  · rw [UInt16.toNat_ofNat']
    omega

namespace Driver

variable {d d' : Driver} {index : Nat} {turns : List Turn} {α β : Type}

/-- What a driver can be asked about one channel. -/
inductive ChannelCall where
  | present
  | failed
  | driveType
  | setLocate (on : Bool)
  | locate
  | state
  deriving DecidableEq, Repr

namespace ChannelCall

/-- What it answers. -/
def Answer : ChannelCall → Type
  | present => Bool
  | failed => Bool
  | driveType => DriveType
  | setLocate _ => Unit
  | locate => Bool
  | state => ChannelState

/-- Asks a driver about the channel of an index. -/
def perform (index : Nat) : (call : ChannelCall) → DriverM.Try call.Answer
  | present => channelPresent index
  | failed => channelFailed index
  | driveType => channelDriveType index
  | setLocate on => Driver.setLocate index on
  | locate => channelLocate index
  | state => channelState index

end ChannelCall

/-! ## Indices that are too high -/

/-- The operation refuses the index at once, and leaves the driver as it is. -/
def Refuses (index : Nat) (x : DriverM.Try α) : Prop :=
  ∀ d, x.run.run d = pure (.error (.invalidChannel index), d)

theorem refuses_checkChannel_bind {f : Unit → DriverM.Try α} (hi : ¬ index < channelCount) :
    Refuses index (checkChannel index >>= f) := by
  intro d
  rw [checkChannel, if_neg hi]
  rfl

theorem refuses_byProtocol {v0 v1 : DriverM.Try α} (h0 : Refuses index v0) (h1 : Refuses index v1) :
    Refuses index (tryByProtocol v0 v1) := by
  intro d
  rw [tryByProtocol, ExceptT.run_mk, byProtocol, StateT.run_bind, StateT.run_get, pure_bind]
  cases d.protocol with
  | v0 => exact h0 d
  | v1 => exact h1 d

/-- A value that is missing where it can not be told does not hide that the index was refused. -/
theorem refuses_ifSupported_bind {read : DriverM.Try α} {f : Option α → DriverM.Try β}
    (h : Refuses index read) : Refuses index (ifSupported read >>= f) := by
  intro d
  have hread : (ifSupported read).run.run d = pure (.error (.invalidChannel index), d) := by
    rw [ifSupported, ExceptT.run_mk, StateT.run_bind, h d]
    rfl
  rw [ExceptT.run_bind, StateT.run_bind, hread]
  rfl

theorem refuses_perform (hi : ¬ index < channelCount) (call : ChannelCall) :
    Refuses index (call.perform index) := by
  have hchecked {α : Type} {v0 v1 : Unit → DriverM.Try α} :
      Refuses index (tryByProtocol (checkChannel index >>= v0) (checkChannel index >>= v1)) :=
    refuses_byProtocol (refuses_checkChannel_bind hi) (refuses_checkChannel_bind hi)
  cases call with
  | present => exact hchecked
  | failed => exact hchecked
  | driveType => exact hchecked
  | setLocate on => exact hchecked
  | locate => exact hchecked
  | state => exact refuses_ifSupported_bind hchecked

/-! ## Indices in range -/

/-- The result is no refusal of an index. -/
def Admitted (r : Except Error α) : Prop := ∀ k, r ≠ .error (.invalidChannel k)

theorem admitted_ok (v : α) : Admitted (.ok v) := fun _ => nofun

/-- Which result an operation would have had plays no part in its failure. -/
theorem Admitted.error {e : Error} (h : Admitted (.error e : Except Error α)) :
    Admitted (.error e : Except Error β) :=
  fun k heq => h k (congrArg Except.error (Except.error.inj heq))

theorem Admitted.map {r : Except Error α} (h : Admitted r) (f : α → β) : Admitted (r.map f) := by
  cases r with
  | ok v => exact admitted_ok _
  | error e => exact h.error

theorem admitted_communication {label : String} {op : Operation} (result : Except BusError α) :
    Admitted (result.mapError (.communication label op)) := by
  cases result <;> exact fun _ => nofun

theorem Obtains.admitted {held : Option α} {read : DeviceM.Try α} {op : Operation}
    {keep : α → Driver → Driver} {r : Except Error α} (h : Obtains held read op keep d turns r d') :
    Admitted r := by
  cases h with
  | held => exact admitted_ok _
  | read => exact admitted_communication _

theorem ObtainsType.admitted {r : Except Error UInt8} (h : d.ObtainsType index turns r d') : Admitted r := by
  cases h with
  | v0 => exact admitted_communication _
  | v1 _ h => exact h.admitted.map _

theorem admitted_locateMask {r : Except Error UInt8} (h : Runs locateMask.run d turns r d') : Admitted r := by
  obtain ⟨-, -, rfl, -⟩ | ⟨-, result, device, -, rfl, -⟩ := runs_locateMask h
  · exact fun _ => nofun
  · exact admitted_communication _

/-- A state that is put together from the answers about one channel, one behind the other. -/
inductive Assembles (d : Driver) (index : Nat) : List Turn → ChannelState → Driver → Prop
  | assembled {first second third fourth : List Turn} {locate : Option Bool} {present failed : Bool}
      {reported : DriveType} {d₁ d₂ d₃ d' : Driver}
      (hlocate : Runs (ifSupported (channelLocate index)).run d first (.ok locate) d₁)
      (hpresent : Runs (channelPresent index).run d₁ second (.ok present) d₂)
      (hfailed : Runs (channelFailed index).run d₂ third (.ok failed) d₃)
      (htype : Runs (channelDriveType index).run d₃ fourth (.ok reported) d') :
      Assembles d index (first ++ (second ++ (third ++ fourth)))
        ⟨index, present, failed, reconciled present reported, locate⟩ d'

theorem assembles_channelState {state : ChannelState}
    (h : Runs (channelState index).run d turns (.ok state) d') : Assembles d index turns state d' := by
  obtain ⟨_, -, ⟨⟩⟩ | ⟨_, locate, _, _, rfl, hlocate, h⟩ := tries_bind.1 h
  obtain ⟨_, -, ⟨⟩⟩ | ⟨_, present, _, _, rfl, hpresent, h⟩ := tries_bind.1 h
  obtain ⟨_, -, ⟨⟩⟩ | ⟨_, failed, _, _, rfl, hfailed, h⟩ := tries_bind.1 h
  obtain ⟨_, -, ⟨⟩⟩ | ⟨_, reported, _, _, rfl, htype, h⟩ := tries_bind.1 h
  obtain ⟨_, _, _, _, rfl, hreconcile, h⟩ := tries_lift_bind.1 h
  obtain ⟨rfl, rfl, rfl⟩ := runs_reconcile hreconcile
  obtain ⟨rfl, ⟨⟩, rfl⟩ := tries_pure.1 h
  rw [List.append_nil, List.append_nil]
  exact .assembled hlocate hpresent hfailed htype

/-- Setting the locate LED of a channel: the older generation names the channel and what is asked of it,
the newer one changes one bit of a mask. -/
def SetsLocate (d : Driver) (index : Nat) (on : Bool) (turns : List Turn) (r : Except Error Unit) : Prop :=
  match d.protocol with
  | .v0 => ∃ result, r = result.mapError (.communication d.label .setLocate) ∧
    d.device.Puts (.writeByteData (if on then V0.locateOnCommand else V0.locateOffCommand) (.ofNat index))
      turns result
  | .v1 => V1.SetsLocate d index on turns r

theorem setsLocate_setLocate {on : Bool} {r : Except Error Unit} (hi : index < channelCount)
    (h : Runs (setLocate index on).run d turns r d') : d.SetsLocate index on turns r := by
  rw [setLocate, tries_byProtocol] at h
  unfold SetsLocate
  cases hp : d.protocol with
  | v0 =>
    rw [hp] at h
    dsimp only at h
    rw [V0.setLocate, tries_checkChannel_bind, if_pos hi] at h
    obtain ⟨result, hputs, rfl, -⟩ := puts_communicate h
    exact ⟨result, rfl, hputs⟩
  | v1 =>
    rw [hp] at h
    exact (V1.runs_setLocate hi h).1

theorem SetsLocate.admitted {on : Bool} {r : Except Error Unit} (h : d.SetsLocate index on turns r) :
    Admitted r := by
  unfold SetsLocate at h
  split at h
  · obtain ⟨result, rfl, -⟩ := h
    exact admitted_communication _
  · cases h with
    | unread => exact admitted_communication (.error _)
    | kept => exact admitted_ok _
    | written => exact admitted_communication _

/-- What an answer about a channel is made of, and what setting its locate LED does. -/
def ChannelCall.Reads (d : Driver) (index : Nat) (turns : List Turn) (d' : Driver) :
    (call : ChannelCall) → Except Error call.Answer → Prop
  | .present, r => ∃ outcome, ObtainsMask .presence d turns outcome d' ∧
    r = outcome.map fun mask => mask.toNat.testBit index
  | .failed, r => ∃ outcome, ObtainsMask .failures d turns outcome d' ∧
    r = outcome.map fun mask => mask.toNat.testBit index
  | .driveType, r => ∃ outcome, d.ObtainsType index turns outcome d' ∧ r = outcome.map typeOf
  | .setLocate on, r => d.SetsLocate index on turns r
  | .locate, r => ∃ outcome, Runs locateMask.run d turns outcome d' ∧
    r = outcome.map fun mask => mask.toNat.testBit index
  | .state, r => ∀ state : ChannelState, r = .ok state → Assembles d index turns state d'

theorem reads_perform (hi : index < channelCount) (call : ChannelCall) {r : Except Error call.Answer}
    (h : Runs (call.perform index).run d turns r d') : call.Reads d index turns d' r := by
  have hbit : (fun mask => hasChannel mask index) = fun mask : UInt8 => mask.toNat.testBit index :=
    funext fun mask => hasChannel_eq mask hi
  cases call with
  | present =>
    obtain ⟨outcome, hobtains, rfl⟩ := runs_answer .presence hi h
    exact ⟨outcome, hobtains, congrArg outcome.map hbit⟩
  | failed =>
    obtain ⟨outcome, hobtains, rfl⟩ := runs_answer .failures hi h
    exact ⟨outcome, hobtains, congrArg outcome.map hbit⟩
  | driveType => exact runs_channelDriveType hi h
  | setLocate on => exact setsLocate_setLocate hi h
  | locate =>
    obtain ⟨outcome, hread, rfl⟩ := runs_channelLocate hi h
    exact ⟨outcome, hread, congrArg outcome.map hbit⟩
  | state =>
    rintro state rfl
    exact assembles_channelState h

theorem admits_of_reads {call : ChannelCall} {r : Except Error call.Answer} (hcall : call ≠ .state)
    (h : call.Reads d index turns d' r) : Admitted r := by
  cases call with
  | present =>
    obtain ⟨outcome, hobtains, rfl⟩ := h
    exact hobtains.admitted.map _
  | failed =>
    obtain ⟨outcome, hobtains, rfl⟩ := h
    exact hobtains.admitted.map _
  | driveType =>
    obtain ⟨outcome, hobtains, rfl⟩ := h
    exact hobtains.admitted.map _
  | setLocate on => exact SetsLocate.admitted h
  | locate =>
    obtain ⟨outcome, hread, rfl⟩ := h
    exact (admitted_locateMask hread).map _
  | state => exact absurd rfl hcall

/-- An operation of which no run ends with the refusal of an index. -/
def Admits (x : DriverM.Try α) : Prop := ∀ ⦃d turns r d'⦄, Runs x.run d turns r d' → Admitted r

theorem admits_bind {x : DriverM.Try α} {f : α → DriverM.Try β} (hx : Admits x)
    (hf : ∀ v, Admits (f v)) : Admits (x >>= f) := by
  intro d turns r d' h
  obtain ⟨e, hfail, rfl⟩ | ⟨_, v, _, _, -, -, hrest⟩ := tries_bind.1 h
  · exact (hx hfail).error
  · exact hf v hrest

theorem admits_lift (x : DriverM α) : Admits (liftM x) := by
  intro d turns r d' h
  obtain ⟨v, rfl, -⟩ := tries_lift.1 h
  exact admitted_ok v

theorem admits_ifSupported {read : DriverM.Try α} (h : Admits read) : Admits (ifSupported read) := by
  intro d turns r d' hrun
  obtain ⟨outcome, hread, rfl⟩ := runs_ifSupported.1 hrun
  have hadmitted := h hread
  unfold supported
  split
  · exact admitted_ok _
  · exact admitted_ok _
  · exact hadmitted.error

theorem admits_perform (hi : index < channelCount) (call : ChannelCall) : Admits (call.perform index) := by
  have hsingle : ∀ call : ChannelCall, call ≠ .state → Admits (call.perform index) :=
    fun call hcall d turns r d' h => admits_of_reads hcall (reads_perform hi call h)
  by_cases hcall : call = .state
  · subst hcall
    refine admits_bind (admits_ifSupported (hsingle .locate (by decide))) fun _ => ?_
    refine admits_bind (hsingle .present (by decide)) fun _ => ?_
    refine admits_bind (hsingle .failed (by decide)) fun _ => ?_
    refine admits_bind (hsingle .driveType (by decide)) fun _ => ?_
    exact admits_bind (admits_lift _) fun state => admits_lift (pure _)
  · exact hsingle call hcall

/-! ## Requests that name a channel -/

/-- An attempt names no channel but the one of the index. -/
def Names (index : Nat) (turn : Turn) : Prop :=
  ∀ r channel, turn.request? = some r → r.channel? = some channel → channel = index

/-- The operation names no channel but the one of the index. -/
abbrev Naming (index : Nat) (x : DriverM α) : Prop := Keeps (fun _ => True) (Names index) x

theorem names_attempted {r : Request} (h : ∀ channel, r.channel? = some channel → channel = index)
    (reply : Reply r) : Names index (.attempted r reply) := by
  rintro _ channel ⟨⟩ hchannel
  exact h channel hchannel

theorem naming_exchange {op : Operation} {r : Request} {command : Option UInt8}
    {sent : Option (List UInt8)} {received : r.Value → Option (List UInt8)}
    (h : ∀ channel, r.channel? = some channel → channel = index) :
    Naming index (communicate op (Device.exchange r command sent received)).run :=
  leads_communicate (fun _ _ h => h) onDevice_each (Device.keeps_exchange (names_attempted h))

theorem naming_fetched {op : Operation} {read : DeviceM.Try α} {keep : α → Driver → Driver}
    (h : Keeps (fun _ => True) (Names index) read.run) : Naming index (fetch read op keep).run :=
  leadsTry_bind (leads_communicate (fun _ _ h => h) onDevice_each h) fun _ =>
    leadsTry_bind (leadsTry_modify fun _ _ => ⟨trivial, List.forall_mem_nil _⟩) fun _ => leadsTry_pure _

theorem naming_fetch {p : Protocol} (mask : Mask) :
    Naming index (fetch (p.readMask mask.name (mask.register p)) mask.operation mask.keep).run :=
  naming_fetched (keeps_readMask (names_attempted nofun))

theorem naming_answer (mask : Mask) : Naming index (mask.answer index).run := by
  rw [answer_eq]
  refine leads_byProtocol (fun _ _ _ => ?_) (fun _ _ _ => ?_)
  · refine leadsTry_bind leads_checkChannel fun _ => leadsTry_get_bind fun d _ => ?_
    cases mask.held d with
    | some value => exact leadsTry_pure _
    | none => exact leadsTry_bind (naming_fetch mask) fun _ => leadsTry_pure _
  · refine leadsTry_bind leads_checkChannel fun _ => leadsTry_bind (leadsTry_get_bind fun d _ => ?_) fun _ =>
      leadsTry_pure _
    cases mask.held d with
    | some value => exact leadsTry_pure _
    | none => exact naming_fetch mask

variable (hi : index < channelCount)
include hi

/-- A request of the older generation that carries the index names that channel. -/
theorem channel?_ofNat {command : UInt8} {channel : Nat}
    (h : (Request.writeByteData command (.ofNat index)).channel? = some channel) : channel = index := by
  rw [Request.channel?] at h
  split at h
  · rw [← Option.some.inj h, (fits_index hi).byte_eq]
  · cases h

theorem naming_driveType : Naming index (channelDriveType index).run := by
  refine leads_byProtocol (fun _ _ _ => ?_) (fun _ _ _ => ?_)
  · refine leadsTry_bind leads_checkChannel fun _ => leadsTry_bind ?_ fun _ =>
      leadsTry_lift leads_driveTypeOf
    refine leads_communicate (fun _ _ h => h) onDevice_each (keeps_confirmed (leadsTry_bind ?_ fun _ => ?_))
    · exact Device.keeps_exchange (names_attempted fun _ => channel?_ofNat hi)
    · exact Device.keeps_exchange (names_attempted nofun)
  · refine leadsTry_bind leads_checkChannel fun _ => leadsTry_bind (leadsTry_get_bind fun d _ => ?_) fun _ =>
      leadsTry_lift leads_driveTypeOf
    have hread : Naming index
        (fetch (Device.readWordData V1.driveTypesRegister) .readDriveTypes keepTypes).run :=
      naming_fetched (Device.keeps_exchange (names_attempted nofun))
    cases d.types with
    | some word => exact leadsTry_pure _
    | none => exact hread

theorem naming_setLocate {on : Bool} : Naming index (setLocate index on).run := by
  refine leads_byProtocol (fun _ _ _ => ?_) (fun _ _ _ => ?_)
  · exact leadsTry_bind leads_checkChannel fun _ => naming_exchange fun _ => channel?_ofNat hi
  · refine leadsTry_bind leads_checkChannel fun _ => leadsTry_bind (naming_exchange nofun) fun current => ?_
    have hwrite : ∀ wanted, Naming index (if wanted = current then pure () else communicate .setLocate
        (Device.writeByteData V1.locateRegister wanted) : DriverM.Try Unit).run := by
      intro wanted
      split
      · exact leadsTry_pure _
      · exact naming_exchange nofun
    exact hwrite _

omit hi in
theorem naming_locate : Naming index (channelLocate index).run :=
  leads_byProtocol (fun _ _ _ => leadsTry_bind leads_checkChannel fun _ => leadsTry_throw _)
    fun _ _ _ => leadsTry_bind leads_checkChannel fun _ =>
      leadsTry_bind (naming_exchange nofun) fun _ => leadsTry_pure _

theorem naming_perform (call : ChannelCall) : Naming index (call.perform index).run := by
  cases call with
  | present => exact naming_answer .presence
  | failed => exact naming_answer .failures
  | driveType => exact naming_driveType hi
  | setLocate on => exact naming_setLocate hi
  | locate => exact naming_locate
  | state =>
    refine leadsTry_bind (leads_ifSupported naming_locate) fun _ => ?_
    refine leadsTry_bind (naming_answer .presence) fun _ => ?_
    refine leadsTry_bind (naming_answer .failures) fun _ => ?_
    refine leadsTry_bind (naming_driveType hi) fun _ => ?_
    exact leadsTry_bind (leadsTry_lift leads_reconcile) fun _ => leadsTry_pure _

omit hi

/-! ## At a site -/

/-- What comes of a refusal at a site: it is the answer, and neither driver nor site have changed. -/
theorem Refuses.play {σ : Type} {x : DriverM.Try α} (h : Refuses index x) (site : Site σ) (d : Driver)
    (bench : Bench σ) :
    site.play x.run (d, bench) = (.error (.invalidChannel index), d, bench) ∧
      site.trail x.run (d, bench) = [] := by
  rw [Site.play, Site.trail, h d]
  exact ⟨rfl, rfl⟩

/-- Whatever the site, the driver and the question about a channel: the index is refused exactly if it is too
high, and then nothing is asked and nothing has changed. Any other index fits wherever it is shifted or sent,
names its own channel in every request, and gets the answer of its own channel. -/
theorem channel_guard {σ : Type} (site : Site σ) (d : Driver) (bench : Bench σ) (index : Nat)
    (call : ChannelCall) :
    let played := site.play (call.perform index).run (d, bench)
    let trail := site.trail (call.perform index).run (d, bench)
    (played.1 = .error (.invalidChannel index) ↔ channelCount ≤ index) ∧
      (channelCount ≤ index → trail = [] ∧ played.2 = (d, bench)) ∧
      (index < channelCount → FitsIndex index ∧ (∀ turn ∈ trail, Names index turn) ∧
        call.Reads d index trail played.2.1 played.1 ∧ ∀ k, played.1 ≠ .error (.invalidChannel k)) := by
  intro played trail
  have hruns : Runs (call.perform index).run d trail played.1 played.2.1 :=
    site.runs_trail (call.perform index).run (d, bench)
  rcases Nat.lt_or_ge index channelCount with hi | hi
  · have hadmitted : Admitted played.1 := admits_perform hi call hruns
    have hbeyond : ¬ channelCount ≤ index := Nat.not_le.2 hi
    refine ⟨iff_of_false (hadmitted index) hbeyond, fun h => absurd h hbeyond,
      fun _ => ⟨fits_index hi, ?_, ?_, ?_⟩⟩
    · exact (naming_perform hi call trivial hruns).2
    · exact reads_perform hi call hruns
    · exact hadmitted
  · have hwithin : ¬ index < channelCount := Nat.not_lt.2 hi
    obtain ⟨hplay, htrail⟩ := (refuses_perform hwithin call).play site d bench
    have hplayed : played = (.error (.invalidChannel index), d, bench) := hplay
    refine ⟨iff_of_true ?_ hi, fun _ => ⟨htrail, ?_⟩, fun h => absurd h hwithin⟩
    · rw [hplayed]
    · rw [hplayed]

end Driver
end Backplane
