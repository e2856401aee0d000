import Backplane.Proofs.Driver.Masks
import Backplane.Proofs.Simulator.Reads

/-!
# Single channels and all channels agree

A driver can be asked for the states of all channels at once, or for one after the other. The first way
reads the locate LEDs once and shares them out, the second reads them for each channel; both read masks and
types when they are first needed. With a simulated controller that does not glitch both come to the same
states, or to the same first error, whatever the controller is equipped with and however it misbehaves.

* `Attuned`: what the driver keeps is what the controller would answer.
* `Yields`: an operation that comes to one outcome from there on.
* `yields_buildState`, `yields_channelState`: the states, in terms of what each register comes to.
* `eachChannel_eq_channelStates`: both ways come to the same and leave the controller untouched.
-/
namespace Backplane

namespace Driver

/-- The state of each channel, one after the other, in a poll cycle of its own. -/
def eachChannel : DriverM.Try (List ChannelState) := do
  refresh
  (List.range channelCount).mapM channelState

end Driver

namespace Simulator
open Driver

variable {s t t' : Simulator} {d d' : Driver} {name : String} {turns : List Turn} {α β : Type} {index : Nat}

/-! ## What registers come to -/

/-- What the operation of a driver comes to whose transactions come to this. -/
def failing (d : Driver) (op : Operation) : Except BusError α → Except Error α :=
  Except.mapError (.communication d.label op)

def maskReading (s : Simulator) (d : Driver) (mask : Mask) : Except Error UInt8 :=
  failing d mask.operation (s.reading d.device.operational (.readByteData (mask.register d.protocol)))

/-- The word of all types, which only the newer generation has. -/
def wordReading (s : Simulator) (d : Driver) : Except Error UInt16 :=
  failing d .readDriveTypes (s.reading d.device.operational (.readWordData V1.driveTypesRegister))

/-- The channel of an index, which is to be below eight. -/
def channelAt (index : Nat) : Fin channelCount := ⟨index % channelCount, Nat.mod_lt _ channelCount_pos⟩

/-- The raw type of a channel. -/
def typeReading (s : Simulator) (d : Driver) (index : Nat) : Except Error UInt8 :=
  match d.protocol with
  | .v0 => failing d .readDriveType (s.readingType d.device.operational (channelAt index))
  | .v1 => (s.wordReading d).map (unpackType · index)

/-- The mask of the locate LEDs. -/
def locateReading (s : Simulator) (d : Driver) : Except Error UInt8 :=
  match d.protocol with
  | .v0 => .error (.unsupported .readLocateLed .v0)
  | .v1 => failing d .readLocate (s.reading d.device.operational (.readByteData V1.locateRegister))

/-! ## Operations that come to one outcome -/

/-- What the driver keeps is what the controller would answer. The driver was `d` before, and the
controller `s`. -/
structure Attuned (s : Simulator) (d d' : Driver) (t : Simulator) : Prop where
  protocol : d'.protocol = d.protocol
  label : d'.label = d.label
  operational : d'.device.operational = d.device.operational
  masks : ∀ (mask : Mask) (value : UInt8), mask.held d' = some value → s.maskReading d mask = .ok value
  types : d.protocol = .v1 → ∀ word, d'.types = some word → s.wordReading d = .ok word
  untouched : s.Untouched t

/-- From there on the operation comes to this outcome, and what the driver keeps stays right. -/
def Yields (name : String) (s : Simulator) (d : Driver) (x : DriverM.Try α) (outcome : Except Error α) : Prop :=
  ∀ ⦃e : Driver⦄ ⦃t : Simulator⦄ ⦃turns : List Turn⦄ ⦃r : Except Error α⦄ ⦃e' : Driver⦄ ⦃t' : Simulator⦄,
    Attuned s d e t → Runs x.run e turns r e' → (bus name).Follows t turns t' →
      r = outcome ∧ Attuned s d e' t'

theorem yields_pure (v : α) : Yields name s d (pure v) (pure v) := by
  intro e t turns r e' t' he hrun h
  obtain ⟨rfl, rfl, rfl⟩ := tries_pure.1 hrun
  obtain rfl := h
  exact ⟨rfl, he⟩

theorem yields_bind {x : DriverM.Try α} {f : α → DriverM.Try β} {a : Except Error α}
    {g : α → Except Error β} (hx : Yields name s d x a) (hf : ∀ v, Yields name s d (f v) (g v)) :
    Yields name s d (x >>= f) (a >>= g) := by
  intro e t turns r e' t' he hrun h
  obtain ⟨e, hfail, rfl⟩ | ⟨first, v, mid, rest, rfl, hfirst, hrest⟩ := tries_bind.1 hrun
  · obtain ⟨rfl, hend⟩ := hx he hfail h
    exact ⟨rfl, hend⟩
  · obtain ⟨u, hbefore, hafter⟩ := Bus.follows_append.1 h
    obtain ⟨rfl, hmid⟩ := hx he hfirst hbefore
    exact hf v hmid hrest hafter

theorem yields_mapM {f : β → DriverM.Try α} {g : β → Except Error α} {l : List β}
    (hf : ∀ b ∈ l, Yields name s d (f b) (g b)) : Yields name s d (l.mapM f) (l.mapM g) := by
  induction l with
  | nil => exact yields_pure _
  | cons b l ih =>
    rw [List.forall_mem_cons] at hf
    rw [List.mapM_cons, List.mapM_cons]
    exact yields_bind hf.1 fun v => yields_bind (ih hf.2) fun vs => yields_pure _

theorem yields_ifSupported {x : DriverM.Try α} {a : Except Error α} (hx : Yields name s d x a) :
    Yields name s d (ifSupported x) (supported a) := by
  intro e t turns r e' t' he hrun h
  obtain ⟨outcome, hread, rfl⟩ := runs_ifSupported.1 hrun
  obtain ⟨rfl, hend⟩ := hx he hread h
  exact ⟨rfl, hend⟩

/-! ## Masks and types -/

/-- A read leaves nothing of the driver but its error streak. -/
theorem Attuned.noting {e : Driver} (h : Attuned s d e t) (ht : s.Untouched t') (streak : ErrorStreak) :
    Attuned s d { e with device := { e.device with streak := streak } } t' :=
  ⟨h.protocol, h.label, h.operational, h.masks, h.types, ht⟩

/-- A mask that is kept is what the controller would answer. -/
theorem Attuned.keep {e : Driver} {mask : Mask} {value : UInt8} (h : Attuned s d e t)
    (hvalue : s.maskReading d mask = .ok value) : Attuned s d (mask.keep value e) t where
  protocol := (mask.protocol_keep value e).trans h.protocol
  label := by
    cases mask <;> exact h.label
  operational := by
    cases mask <;> exact h.operational
  masks := by
    intro other v hheld
    by_cases hother : mask = other
    · subst hother
      rw [Mask.held_keep] at hheld
      rw [hvalue, Option.some.inj hheld]
    · rw [Mask.held_keep_of_ne hother] at hheld
      exact h.masks other v hheld
  types := by
    intro hp word hword
    rw [Mask.types_keep] at hword
    exact h.types hp word hword
  untouched := h.untouched

/-- A value that is kept comes to the same whether it is at hand or read. -/
theorem Attuned.obtains {e e' : Driver} {held : Option α} {read : DeviceM.Try α} {op : Operation}
    {keep : α → Driver → Driver} {outcome : Except BusError α} {r : Except Error α} (he : Attuned s d e t)
    (h : Obtains held read op keep e turns r e') (hfollows : (bus name).Follows t turns t')
    (hheld : ∀ v, held = some v → failing d op outcome = .ok v)
    (hread : Finds name s.Untouched d.device.operational read outcome)
    (hkeep : ∀ v e t, failing d op outcome = .ok v → Attuned s d e t → Attuned s d (keep v e) t) :
    r = failing d op outcome ∧ Attuned s d e' t' := by
  cases h with
  | @held v hv =>
    obtain rfl := hfollows
    exact ⟨(hheld v hv).symm, he⟩
  | @read _ result _ _ hrun =>
    obtain ⟨rfl, ⟨streak, rfl⟩, ht⟩ := hread he.operational he.untouched hrun hfollows
    have hlabel : e.device.label = d.label := he.label
    have hnoted := he.noting ht streak
    cases result with
    | error x => exact ⟨by rw [failing, ← hlabel], hnoted⟩
    | ok v => exact ⟨rfl, hkeep v _ _ rfl hnoted⟩

theorem finds_readMask {operational : Bool} {p : Protocol} {what : String} {register : UInt8}
    (hr : s.Steady (.readByteData register)) :
    Finds name s.Untouched operational (p.readMask what register)
      (s.reading operational (.readByteData register)) := by
  cases p with
  | v0 => exact (finds_exchange hr).confirmed
  | v1 => exact finds_exchange hr

section Masks
variable (hglitch : s.faults.glitchPresence = 0)
include hglitch

theorem yields_answer (mask : Mask) (hi : index < channelCount) :
    Yields name s d (mask.answer index) ((s.maskReading d mask).map (hasChannel · index)) := by
  intro e t turns r e' t' he hrun h
  obtain ⟨outcome, hobtains, rfl⟩ := runs_answer mask hi hrun
  have hsteady : s.Steady (.readByteData (mask.register d.protocol)) := by
    cases mask <;> cases d.protocol <;> exact steady_readByteData hglitch (by decide) (by decide)
  rw [ObtainsMask, he.protocol] at hobtains
  -- What was at hand is what the controller would answer, so it does not matter whether it was read.
  obtain ⟨rfl, hend⟩ :=
    he.obtains hobtains h (he.masks mask) (finds_readMask hsteady) fun value e t hvalue he => he.keep hvalue
  exact ⟨rfl, hend⟩

theorem yields_locateMask : Yields name s d locateMask (s.locateReading d) := by
  intro e t turns r e' t' he hrun h
  unfold locateReading
  obtain ⟨hp, rfl, rfl, rfl⟩ | ⟨hp, result, device, hread, rfl, rfl⟩ := runs_locateMask hrun
  · obtain rfl := h
    rw [he.protocol.symm.trans hp]
    exact ⟨rfl, he⟩
  · have hsteady : s.Steady (.readByteData V1.locateRegister) :=
      steady_readByteData hglitch (by decide) (by decide)
    obtain ⟨rfl, ⟨streak, rfl⟩, ht⟩ := finds_exchange hsteady he.operational he.untouched hread h
    have hlabel : e.device.label = d.label := he.label
    rw [he.protocol.symm.trans hp]
    exact ⟨by rw [failing, ← hlabel], he.noting ht streak⟩

theorem yields_channelLocate (hi : index < channelCount) :
    Yields name s d (channelLocate index) ((s.locateReading d).map (hasChannel · index)) := by
  intro e t turns r e' t' he hrun h
  obtain ⟨outcome, hmask, rfl⟩ := runs_channelLocate hi hrun
  obtain ⟨rfl, hend⟩ := yields_locateMask hglitch he hmask h
  exact ⟨rfl, hend⟩

end Masks

theorem yields_channelDriveType (hi : index < channelCount) :
    Yields name s d (channelDriveType index) ((s.typeReading d index).map typeOf) := by
  intro e t turns r e' t' he hrun h
  obtain ⟨outcome, htype, rfl⟩ := runs_channelDriveType hi hrun
  unfold typeReading
  cases htype with
  | v0 hp hread =>
    have hchannel : (channelAt index : Nat) = index := Nat.mod_eq_of_lt hi
    rw [← hchannel] at hread
    obtain ⟨rfl, ⟨streak, rfl⟩, ht⟩ :=
      (finds_readDriveType _).confirmed he.operational he.untouched hread h
    have hlabel : e.device.label = d.label := he.label
    rw [he.protocol.symm.trans hp]
    exact ⟨by rw [failing, ← hlabel], he.noting ht streak⟩
  | v1 hp hobtains =>
    rw [he.protocol.symm.trans hp]
    obtain ⟨rfl, hend⟩ := he.obtains hobtains h (he.types (he.protocol.symm.trans hp))
      (finds_exchange steady_readWordData) fun word e t hword he =>
        { he with
          types := by
            rintro - _ ⟨⟩
            exact hword }
    exact ⟨rfl, hend⟩

theorem yields_reconcile {present : Bool} {reported : DriveType} :
    Yields name s d (liftM (reconcile index present reported)) (.ok (reconciled present reported)) := by
  intro e t turns r e' t' he hrun h
  obtain ⟨type, rfl, hreconcile⟩ := tries_lift.1 hrun
  obtain ⟨rfl, rfl, rfl⟩ := runs_reconcile hreconcile
  obtain rfl := h
  exact ⟨rfl, he⟩

/-! ## States -/

/-- What the state of a channel comes to, with a locate LED that is known. -/
def stateReading (s : Simulator) (d : Driver) (index : Nat) (locate : Option Bool) :
    Except Error ChannelState := do
  let present ← (s.maskReading d .presence).map (hasChannel · index)
  let failed ← (s.maskReading d .failures).map (hasChannel · index)
  let reported ← (s.typeReading d index).map typeOf
  pure ⟨index, present, failed, reconciled present reported, locate⟩

/-- What the state of a channel comes to whose locate LED is asked for. -/
def channelReading (s : Simulator) (d : Driver) (index : Nat) : Except Error ChannelState := do
  let locate ← supported ((s.locateReading d).map (hasChannel · index))
  s.stateReading d index locate

section States
variable (hglitch : s.faults.glitchPresence = 0)
include hglitch

theorem yields_buildState (hi : index < channelCount) (locate : Option Bool) :
    Yields name s d (buildState index locate) (s.stateReading d index locate) :=
  yields_bind (yields_answer hglitch .presence hi) fun _ => yields_bind (yields_answer hglitch .failures hi)
    fun _ => yields_bind (yields_channelDriveType hi) fun _ => yields_bind yields_reconcile
      fun _ => yields_pure _

theorem yields_channelState (hi : index < channelCount) :
    Yields name s d (channelState index) (s.channelReading d index) :=
  yields_bind (yields_ifSupported (yields_channelLocate hglitch hi)) fun locate =>
    yields_buildState hglitch hi locate

theorem yields_collectStates :
    Yields name s d collectStates (do
      let mask ← supported (s.locateReading d)
      (List.range channelCount).mapM fun index =>
        s.stateReading d index (mask.map (hasChannel · index))) :=
  yields_bind (yields_ifSupported (yields_locateMask hglitch)) fun _ =>
    yields_mapM fun _ hindex => yields_buildState hglitch (List.mem_range.1 hindex) _

end States

theorem supported_map (f : α → β) (a : Except Error α) :
    supported (a.map f) = (supported a).map (Option.map f) := by
  rcases a with e | v
  · cases e <;> rfl
  · rfl

/-- A locate LED that is asked for is that of the mask. -/
theorem channelReading_eq (s : Simulator) (d : Driver) (index : Nat) :
    s.channelReading d index =
      supported (s.locateReading d) >>= fun mask =>
        s.stateReading d index (mask.map (hasChannel · index)) := by
  rw [channelReading, supported_map]
  cases supported (s.locateReading d) <;> rfl

/-- What is read once and shared out, and what is read for each element, comes to the same. -/
theorem bind_mapM_shared {ε γ : Type} (a : Except ε γ) {l : List β} (hl : l ≠ []) (f : γ → β → Except ε α) :
    (a >>= fun v => l.mapM (f v)) = l.mapM fun b => a >>= fun v => f v b := by
  cases a with
  | ok v => rfl
  | error e =>
    cases l with
    | nil => exact absurd rfl hl
    | cons b l =>
      rw [List.mapM_cons]
      rfl

/-- Behind the start of a poll cycle an operation comes to what it yields. -/
theorem run_refreshed {x : DriverM.Try α} {a : Except Error α} (hx : Yields name s d x a)
    (events : Array Event) :
    ((bus name).site.run ((do refresh; x : DriverM.Try α).run.run d) ⟨s, events⟩).1.1 = a ∧
      s.Untouched ((bus name).site.run ((do refresh; x : DriverM.Try α).run.run d) ⟨s, events⟩).2.state := by
  have hcourse := (bus name).site.course_moves ((do refresh; x : DriverM.Try α).run.run d) ⟨s, events⟩
  have hfollows := (bus name).follows_moves ((do refresh; x : DriverM.Try α).run.run d) ⟨s, events⟩
  obtain ⟨_, _, fresh, _, hturns, hrefresh, hrest⟩ := tries_lift_bind.1 hcourse
  obtain ⟨rfl, hdevice, hprotocol, hpresence, hfailures, htypes⟩ := runs_refresh hrefresh
  rw [hturns, List.nil_append] at hfollows
  have hfresh : Attuned s d fresh s :=
    { protocol := hprotocol
      label := congrArg Device.label hdevice
      operational := congrArg Device.operational hdevice
      masks := by
        intro mask value hheld
        cases mask with
        | presence => cases hpresence.symm.trans hheld
        | failures => cases hfailures.symm.trans hheld
      types := by simp +contextual [htypes]
      untouched := .refl s }
  obtain ⟨houtcome, hend⟩ := hx hfresh hrest hfollows
  exact ⟨houtcome, hend.untouched⟩

/-- Both ways to the states of all channels come to the same, be it the states or the first error, with any
simulated controller that does not glitch and any driver. Both leave the controller as it was, but for
counts and the channel whose type was asked for last. -/
theorem eachChannel_eq_channelStates (s : Simulator) (hglitch : s.faults.glitchPresence = 0) (name : String)
    (d : Driver) (events : Array Event) :
    let site := (bus name).site
    let one := site.run (eachChannel.run.run d) ⟨s, events⟩
    let all := site.run (channelStates.run.run d) ⟨s, events⟩
    one.1.1 = all.1.1 ∧ s.Untouched one.2.state ∧ s.Untouched all.2.state := by
  intro site one all
  -- Each way comes to what registers come to; the locate LEDs are read at the front of one and for each
  -- channel of the other.
  have hone : Yields name s d ((List.range channelCount).mapM channelState) _ :=
    yields_mapM fun _ hindex => yields_channelState hglitch (List.mem_range.1 hindex)
  obtain ⟨heach, huntouched⟩ := run_refreshed hone events
  obtain ⟨hall, huntouched'⟩ := run_refreshed (yields_collectStates hglitch) events
  refine ⟨?_, huntouched, huntouched'⟩
  calc one.1.1
    _ = (List.range channelCount).mapM (s.channelReading d) := heach
    _ = (List.range channelCount).mapM fun index => supported (s.locateReading d) >>= fun mask =>
          s.stateReading d index (mask.map (hasChannel · index)) := by
      rw [funext (s.channelReading_eq d)]
    _ = supported (s.locateReading d) >>= fun mask => (List.range channelCount).mapM fun index =>
          s.stateReading d index (mask.map (hasChannel · index)) :=
      (bind_mapM_shared _ (by decide) _).symm
    _ = all.1.1 := hall.symm

/-- A controller of the older generation with a drive of a raw type that does not fit into two bits, and a
type where there is no drive. -/
def odd : Simulator :=
  .start { ((Config.equipped .v0).withDrive ⟨1, by decide⟩ 7).withTypes [2, 7, 1] with failures := 0x02 } {}

/-- With a driver of its generation every state is found, with one of the other generation neither way comes
past its first read. -/
theorem eachChannel_eq_channelStates_odd :
    odd.faults.glitchPresence = 0 ∧ ∀ p : Protocol,
      let site := (bus "odd").site
      let d : Driver := .ofDevice ⟨"odd", true, .none⟩ p
      let one := site.run (eachChannel.run.run d) ⟨odd, #[]⟩
      let all := site.run (channelStates.run.run d) ⟨odd, #[]⟩
      one.1.1 = all.1.1 ∧ odd.Untouched one.2.state ∧ odd.Untouched all.2.state ∧
        all.1.1.isOk = (p == .v0) := by
  refine ⟨rfl, fun p => ?_⟩
  obtain ⟨hsame, hone, hall⟩ :=
    eachChannel_eq_channelStates odd rfl "odd" (.ofDevice ⟨"odd", true, .none⟩ p) #[]
  refine ⟨hsame, hone, hall, ?_⟩
  cases p <;> decide +kernel

end Simulator
end Backplane
