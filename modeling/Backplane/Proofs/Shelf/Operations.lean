import Backplane.Proofs.Drive
import Backplane.Proofs.Driver.Locate
import Backplane.Proofs.Shelf.Answers
import Backplane.Proofs.Shelf.Basic

/-!
# Operations refine the shelf

Each operation of a driver, on the bus of a running controller without faults, is answered what the shelf
answers and leaves the driver and the controller that make up the shelf behind it. What the driver keeps
between two operations stays what the controller would answer.

* `Coherent`: what is true between two operations.
* `Refines`: an operation does what a function of the shelf does.
* `refines_answer` to `refines_writeChunk`: the operations, of both generations.
-/
namespace Backplane.Shelf
open Driver

variable {d d' e : Driver} {s s' t : Simulator} {p : Protocol} {name : String} {turns : List Turn}
  {α β : Type} {index : Nat}

/-- The driver speaks with a running controller without faults. -/
structure Ready (d : Driver) (s : Simulator) : Prop where
  operational : d.device.operational = true
  running : s.Running d.protocol
  faults : s.faults = {}
  types : ∀ channel, s.config.driveTypes.get channel < 4

/-- What the driver keeps is what the controller would answer. -/
structure Coherent (d : Driver) (s : Simulator) : Prop extends Ready d s where
  presence : ∀ mask, d.presence = some mask → mask = s.config.presence
  failures : ∀ mask, d.failures = some mask → mask = s.config.failures
  word : d.protocol = .v1 → ∀ word, d.types = some word → word = packTypes s.config.driveTypes.toList

theorem Ready.agrees (h : Ready d s) (hs : s.Agrees s') : Ready d s' where
  operational := h.operational
  running := hs.running h.running
  faults := hs.faults.trans h.faults
  types := hs.config ▸ h.types

theorem Coherent.agrees (h : Coherent d s) (hs : s.Agrees s') : Coherent d s' where
  toReady := h.toReady.agrees hs
  presence := hs.config ▸ h.presence
  failures := hs.config ▸ h.failures
  word := hs.config ▸ h.word

theorem Coherent.like (h : Coherent d s) (hd : d.Like d') : Coherent d' s := by
  obtain ⟨streak, rfl⟩ := hd
  exact ⟨⟨h.operational, h.running, h.faults, h.types⟩, h.presence, h.failures, h.word⟩

theorem view_like (hd : d.Like d') (hs : s.Agrees s') : view d' s' = view d s := by
  unfold view
  rw [hd.flashOffset_eq, hs.config, hs.hostPower, hs.flash]

/-- An operation came to what the shelf answers, and to the shelf behind it. -/
structure Conforms (d : Driver) (outcome : Except Error α × Shelf) (r : Except Error α) (d' : Driver)
    (s' : Simulator) : Prop where
  result : r = outcome.1
  shelf : view d' s' = outcome.2
  coherent : Coherent d' s'
  label : d'.label = d.label
  protocol : d'.protocol = d.protocol

/-- Up to what the shelf does not show, the operation left the driver `e` and the controller `t`. -/
theorem conforms_of {r : Except Error α} {shelf : Shelf} (hc : Coherent e t) (hd : e.Like d')
    (hs : t.Agrees s') (hshelf : view e t = shelf) (hlabel : e.label = d.label)
    (hprotocol : e.protocol = d.protocol) : Conforms d (r, shelf) r d' s' where
  result := rfl
  shelf := (view_like hd hs).trans hshelf
  coherent := (hc.like hd).agrees hs
  label := hd.label_eq.trans hlabel
  protocol := hd.protocol_eq.trans hprotocol

theorem Conforms.map {r : Except Error α} {outcome : Except Error α × Shelf} (f : α → β)
    (h : Conforms d outcome r d' s') : Conforms d (outcome.1.map f, outcome.2) (r.map f) d' s' :=
  ⟨congrArg (Except.map f) h.result, h.shelf, h.coherent, h.label, h.protocol⟩

/-- An operation of drivers of a generation does to what makes up a shelf what `spec` does to the shelf. -/
def Refines (name : String) (p : Protocol) (x : DriverM (Except Error α))
    (spec : String → Shelf → Except Error α × Shelf) : Prop :=
  ∀ ⦃d : Driver⦄ ⦃s : Simulator⦄ ⦃turns : List Turn⦄ ⦃r : Except Error α⦄ ⦃d' : Driver⦄ ⦃s' : Simulator⦄,
    d.protocol = p → Coherent d s → Runs x d turns r d' → (Simulator.bus name).Follows s turns s' →
      Conforms d (spec d.label (view d s)) r d' s'

theorem Refines.byProtocol {v0 v1 : DriverM.Try α} {spec : String → Shelf → Except Error α × Shelf}
    (h0 : Refines name .v0 v0.run spec) (h1 : Refines name .v1 v1.run spec) :
    Refines name p (tryByProtocol v0 v1).run spec := by
  intro d s turns r d' s' hp hc hrun hfollows
  have hrun := tries_byProtocol.1 hrun
  cases hd : d.protocol with
  | v0 =>
    rw [hd] at hrun
    exact h0 hd hc hrun hfollows
  | v1 =>
    rw [hd] at hrun
    exact h1 hd hc hrun hfollows

/-- One operation behind another that does not fail. -/
theorem Refines.bind {x : DriverM.Try α} {f : α → DriverM.Try β} {value : Shelf → α} {next : Shelf → Shelf}
    {spec : α → String → Shelf → Except Error β × Shelf}
    (hx : Refines name p x.run fun _ s => (.ok (value s), next s))
    (hf : ∀ v, Refines name p (f v).run (spec v)) :
    Refines name p (x >>= f).run fun label s => spec (value s) label (next s) := by
  intro d s turns r d' s' hp hc hrun hfollows
  obtain ⟨e, hfail, rfl⟩ | ⟨first, v, mid, rest, rfl, hfirst, hrest⟩ := tries_bind.1 hrun
  · cases (hx hp hc hfail hfollows).result
  obtain ⟨t, hbefore, hafter⟩ := Bus.follows_append.1 hfollows
  have hmid := hx hp hc hfirst hbefore
  have hend := hf v (hmid.protocol.trans hp) hmid.coherent hrest hafter
  rw [hmid.label, hmid.shelf, Except.ok.inj hmid.result] at hend
  exact ⟨hend.result, hend.shelf, hend.coherent, hend.label.trans hmid.label,
    hend.protocol.trans hmid.protocol⟩

/-- An operation on a channel: there is nothing to do where there is no such channel. -/
theorem Refines.channel {f : Unit → DriverM.Try α} {say : Shelf → Fin channelCount → α}
    {next : Shelf → Shelf}
    (h : ∀ hi : index < channelCount,
      Refines name p (f ()).run fun _ s => (.ok (say s ⟨index, hi⟩), next s))
    (hnext : ¬ index < channelCount → ∀ s, next s = s) :
    Refines name p (checkChannel index >>= f).run fun _ s => (inChannel index (say s), next s) := by
  intro d s turns r d' s' hp hc hrun hfollows
  rw [tries_checkChannel_bind] at hrun
  dsimp only
  by_cases hi : index < channelCount
  · rw [if_pos hi] at hrun
    rw [inChannel, dif_pos hi]
    exact h hi hp hc hrun hfollows
  · rw [if_neg hi] at hrun
    obtain ⟨rfl, rfl, rfl⟩ := hrun
    obtain rfl := hfollows
    rw [inChannel, dif_neg hi, hnext hi]
    exact conforms_of hc (.refl _) (.refl _) rfl rfl rfl

/-! ## Masks and types -/

/-- From here the operation comes to this value, and the shelf stays as it is. -/
def Comes (name : String) (d : Driver) (s : Simulator) (x : DriverM.Try α) (value : α) : Prop :=
  ∀ ⦃turns : List Turn⦄ ⦃r : Except Error α⦄ ⦃d' : Driver⦄ ⦃s' : Simulator⦄, Runs x.run d turns r d' →
    (Simulator.bus name).Follows s turns s' → Conforms d (.ok value, view d s) r d' s'

/-- What follows makes something of the value, and does nothing else. -/
theorem Comes.bind {x : DriverM.Try α} {f : α → DriverM.Try β} {v : α} {w : β} (hx : Comes name d s x v)
    (hf : ∀ {d turns r d'}, Runs (f v).run d turns r d' → turns = [] ∧ r = .ok w ∧ d = d') :
    Comes name d s (x >>= f) w := by
  intro turns r d' s' hrun hfollows
  obtain ⟨e, hfail, rfl⟩ | ⟨first, u, mid, rest, rfl, hfirst, hrest⟩ := tries_bind.1 hrun
  · cases (hx hfail hfollows).result
  obtain ⟨t, hbefore, hafter⟩ := Bus.follows_append.1 hfollows
  have hconforms := hx hfirst hbefore
  obtain rfl := Except.ok.inj hconforms.result
  obtain ⟨rfl, rfl, rfl⟩ := hf hrest
  obtain rfl := hafter
  exact ⟨rfl, hconforms.shelf, hconforms.coherent, hconforms.label, hconforms.protocol⟩

/-- The mask that the controller answers. -/
def answered (s : Simulator) : Mask → UInt8
  | .presence => s.config.presence
  | .failures => s.config.failures

theorem Coherent.masks {mask : Mask} {value : UInt8} (h : Coherent d s) (hheld : mask.held d = some value) :
    value = answered s mask := by
  cases mask with
  | presence => exact h.presence value hheld
  | failures => exact h.failures value hheld

theorem Coherent.keeping (h : Coherent d s) (mask : Mask) : Coherent (mask.keep (answered s mask) d) s := by
  have hready : Ready (mask.keep (answered s mask) d) s := by
    cases mask <;> exact ⟨h.operational, h.running, h.faults, h.types⟩
  refine ⟨hready, ?_, ?_, by cases mask <;> exact h.word⟩
  · cases mask with
    | presence =>
      rintro _ ⟨⟩
      rfl
    | failures => exact h.presence
  · cases mask with
    | presence => exact h.failures
    | failures =>
      rintro _ ⟨⟩
      rfl

theorem Coherent.keeping_types (h : Coherent d s) :
    Coherent { d with types := some (packTypes s.config.driveTypes.toList) } s where
  toReady := ⟨h.operational, h.running, h.faults, h.types⟩
  presence := h.presence
  failures := h.failures
  word := by
    rintro _ _ ⟨⟩
    rfl

section
variable (hc : Coherent d s)
include hc

theorem Coherent.reads_mask (mask : Mask) (hp : d.protocol = p) :
    Simulator.Reads name s (p.readMask mask.name (mask.register p)) (answered s mask) := by
  have hread : Simulator.Reads name s (Device.readByteData (mask.register p)) (answered s mask) := by
    refine .of_answers fun t ht => ?_
    have hrunning := ht.running (hp ▸ hc.running)
    cases mask with
    | presence =>
      have hanswers := Simulator.answers_presence hrunning (ht.faults.trans hc.faults)
      rwa [ht.config] at hanswers
    | failures =>
      have hanswers := Simulator.answers_failures hrunning
      rwa [ht.config] at hanswers
  cases p with
  | v0 => exact hread.confirmed
  | v1 => exact hread

/-- What the driver has at hand is what the controller would answer, and what it reads it keeps. -/
theorem Coherent.conforms_obtains {held : Option α} {read : DeviceM.Try α} {value : α} {op : Operation}
    {keep : α → Driver → Driver} {r : Except Error α} (hheld : ∀ v, held = some v → v = value)
    (hread : Simulator.Reads name s read value) (hkeep : Coherent (keep value d) s)
    (hsame : view (keep value d) s = view d s ∧ (keep value d).label = d.label ∧
      (keep value d).protocol = d.protocol)
    (hlike : ∀ streak, (keep value d).Like
      (keep value { d with device := { d.device with streak := streak } }))
    (hobtains : Obtains held read op keep d turns r d') (hfollows : (Simulator.bus name).Follows s turns s') :
    Conforms d (.ok value, view d s) r d' s' := by
  cases hobtains with
  | held h =>
    obtain rfl := hheld _ h
    obtain rfl := hfollows
    exact conforms_of hc (.refl _) (.refl _) rfl rfl rfl
  | read _ hrun =>
    obtain ⟨rfl, ⟨streak, rfl⟩, hs⟩ := hread hc.operational (.refl s) hrun hfollows
    exact conforms_of hkeep (hlike streak) hs hsame.1 hsame.2.1 hsame.2.2

/-- One type of the older generation: the channel is selected first. -/
theorem Coherent.reads_driveType (hp : d.protocol = .v0) (hi : index < channelCount) :
    Simulator.Reads name s (V0.readDriveType index) (s.config.driveTypes.get ⟨index, hi⟩) := by
  intro e e' turns r t t' he ht hrun hfollows
  have hrunning : t.Running .v0 := ht.running (hp ▸ hc.running)
  have hserve := Simulator.attempt_select hrunning hi
  have hselect : t.Answers (.writeByteData V0.driveTypeCommand (.ofNat index)) () t :=
    ⟨by rw [hserve]; rfl, by rw [hserve]; exact ⟨rfl, rfl, rfl, rfl, rfl⟩⟩
  obtain ⟨x, hfail, rfl⟩ | ⟨_, _, mid, _, rfl, hfirst, hrest⟩ := tries_bind.1 hrun
  · cases (Simulator.exchange_answered hselect he hfail hfollows).1
  obtain ⟨u, hbefore, hafter⟩ := Bus.follows_append.1 hfollows
  obtain ⟨-, rfl, rfl⟩ := Simulator.exchange_answered hselect he hfirst hbefore
  have hread := Simulator.answers_readByte (hselect.next.running hrunning)
  have hnoted : (e.noting false).operational = true := he
  obtain ⟨rfl, rfl, rfl⟩ := Simulator.exchange_answered hread hnoted hrest hafter
  have hend := (ht.trans hselect.next).trans hread.next
  rw [hserve]
  refine ⟨congrArg _ ?_, ⟨_, rfl⟩, hserve ▸ hend⟩
  rw [← ht.config]
  rfl

theorem Coherent.comes_types (hp : d.protocol = .v1) :
    Comes name d s V1.types (packTypes s.config.driveTypes.toList) := by
  intro turns r d' s' hrun hfollows
  have hread : Simulator.Reads name s (Device.readWordData V1.driveTypesRegister) _ :=
    .of_answers fun t ht => ht.config ▸ Simulator.answers_types (ht.running (hp ▸ hc.running))
  exact hc.conforms_obtains (hc.word hp) hread hc.keeping_types ⟨rfl, rfl, rfl⟩ (fun streak => ⟨streak, rfl⟩)
    (V1.obtains_types hrun) hfollows

/-- The value is read, and the driver keeps nothing. -/
theorem Coherent.comes_communicate {read : DeviceM.Try α} {value : α} {op : Operation}
    (hread : Simulator.Reads name s read value) : Comes name d s (communicate op read) value := by
  intro turns r d' s' hrun hfollows
  obtain ⟨result, device, hasked, rfl, rfl⟩ := runs_communicate hrun
  obtain ⟨rfl, ⟨streak, rfl⟩, hs⟩ := hread hc.operational (.refl s) hasked hfollows
  exact conforms_of hc ⟨streak, rfl⟩ hs rfl rfl rfl

end

theorem typeOf_ofNat : ∀ n : Fin 4,
    typeOf (.ofNat n) = driveType (Fin.ofNat 4 (UInt8.ofNat n).toNat) := by
  decide

/-- A driver says of a raw type what the shelf does. -/
theorem tries_driveTypeOf {value : UInt8} {r : Except Error DriveType} (hvalue : value < 4)
    (h : Runs (liftM (driveTypeOf index value) : DriverM.Try DriveType).run d turns r d') :
    turns = [] ∧ r = .ok (driveType (Fin.ofNat 4 value.toNat)) ∧ d = d' := by
  obtain ⟨type, rfl, hrun⟩ := tries_lift.1 h
  obtain ⟨rfl, rfl, rfl⟩ := runs_driveTypeOf hrun
  have htype := typeOf_ofNat ⟨value.toNat, UInt8.lt_iff_toNat_lt.1 hvalue⟩
  rw [UInt8.ofNat_toNat] at htype
  exact ⟨rfl, congrArg _ htype, rfl⟩

/-! ## Channels -/

/-- The channels of a mask. -/
def shown (s : Shelf) : Mask → Fin channelCount → Bool
  | .presence => s.presence
  | .failures => s.failures

theorem refines_answer (mask : Mask) :
    Refines name p (mask.answer index).run fun _ s => (inChannel index (s.shown mask), s) := by
  intro d s turns r d' s' hp hc hrun hfollows
  dsimp only
  by_cases hi : index < channelCount
  · obtain ⟨outcome, hobtains, rfl⟩ := runs_answer mask hi hrun
    have hconforms := hc.conforms_obtains (fun _ => hc.masks) (hc.reads_mask mask rfl) (hc.keeping mask)
      (by cases mask <;> exact ⟨rfl, rfl, rfl⟩) (fun streak => ⟨streak, by cases mask <;> rfl⟩)
      hobtains hfollows
    rw [inChannel, dif_pos hi]
    cases mask <;> exact hconforms.map (hasChannel · index)
  · obtain ⟨rfl, rfl, rfl⟩ := runs_answer_beyond hi hrun
    obtain rfl := hfollows
    rw [inChannel, dif_neg hi]
    exact conforms_of hc (.refl _) (.refl _) rfl rfl rfl

theorem unpackType_driveTypes (types : Vector UInt8 channelCount) (hi : index < channelCount) :
    unpackType (packTypes types.toList) index = types.get ⟨index, hi⟩ &&& 3 := by
  rw [unpackType_packTypes (by simpa using hi) (by simp)]
  rfl

theorem refines_channelDriveType :
    Refines name p (channelDriveType index).run fun _ s =>
      (inChannel index fun channel => driveType (s.types channel), s) := by
  refine Refines.byProtocol (Refines.channel (fun hi => ?_) fun _ _ => rfl)
    (Refines.channel (fun hi => ?_) fun _ _ => rfl)
  · intro d s turns r d' s' hp hc hrun hfollows
    refine (hc.comes_communicate (hc.reads_driveType hp hi).confirmed).bind (fun h => ?_) hrun hfollows
    exact tries_driveTypeOf (hc.types ⟨index, hi⟩) h
  · intro d s turns r d' s' hp hc hrun hfollows
    refine (hc.comes_types hp).bind (fun h => ?_) hrun hfollows
    rw [unpackType_driveTypes _ hi, and_three_of_lt (hc.types ⟨index, hi⟩)] at h
    exact tries_driveTypeOf (hc.types ⟨index, hi⟩) h

/-! ## Locate LEDs -/

theorem Coherent.with_locate (h : Coherent d s) (mask : UInt8) :
    Coherent d { s with config.locate := mask } :=
  ⟨⟨h.operational, h.running, h.faults, h.types⟩, h.presence, h.failures, h.word⟩

/-- One LED was set or cleared, whatever was sent for it. -/
theorem conforms_relit {on : Bool} (hi : index < channelCount) (hc : Coherent d s) (hd : d.Like d')
    (hs : ({ s with config.locate := relit s.config.locate index on } : Simulator).Agrees s') :
    Conforms d (.ok (), (view d s).withLocate index on) (.ok ()) d' s' := by
  refine conforms_of (hc.with_locate _) hd hs ?_ rfl rfl
  simp only [view, withLocate, hasChannel_relit hi]

theorem withLocate_eq (hi : ¬ index < channelCount) (s : Shelf) (on : Bool) : s.withLocate index on = s := by
  have hlocate : (fun channel : Fin channelCount => if channel.val = index then on else s.locate channel) =
      s.locate := by
    funext channel
    exact if_neg fun heq : channel.val = index => hi (heq ▸ channel.isLt)
  rw [withLocate, hlocate]

theorem V0.refines_setLocate {on : Bool} : Refines name .v0 (V0.setLocate index on).run fun _ s =>
    (inChannel index fun _ => (), s.withLocate index on) := by
  refine Refines.channel (fun hi => ?_) fun hi s => withLocate_eq hi s on
  intro d s turns r d' s' hp hc hrun hfollows
  obtain ⟨rfl, hlike, hs⟩ := Simulator.communicate_answered
    (Simulator.answers_locate_one on (hp ▸ hc.running) hi) hc.operational hrun hfollows
  exact conforms_relit hi hc hlike hs

theorem V1.refines_setLocate {on : Bool} : Refines name .v1 (V1.setLocate index on).run fun _ s =>
    (inChannel index fun _ => (), s.withLocate index on) := by
  refine Refines.channel (fun hi => ?_) fun hi s => withLocate_eq hi s on
  intro d s turns r d' s' hp hc hrun hfollows
  have hset : Runs (V1.setLocate index on).run d turns r d' :=
    tries_checkChannel_bind.2 (by rwa [if_pos hi])
  obtain ⟨hways, hlike⟩ := V1.runs_setLocate hi hset
  obtain ⟨rfl, ⟨hbit, rfl⟩ | ⟨-, rfl⟩⟩ :=
    Simulator.follows_setLocate hi hc.operational (hp ▸ hc.running) hways hfollows
  · refine conforms_relit hi hc hlike ?_
    rw [(relit_eq_iff hi).2 hbit]
    exact Simulator.agrees_count
  · exact conforms_relit hi hc hlike ⟨rfl, rfl, rfl, rfl, rfl⟩

theorem refines_setLocate {on : Bool} : Refines name p (setLocate index on).run fun _ s =>
    (inChannel index fun _ => (), s.withLocate index on) :=
  .byProtocol V0.refines_setLocate V1.refines_setLocate

/-- LEDs that are cleared one after the other. -/
theorem V0.refines_clear (indices : List Nat) (h : ∀ index ∈ indices, index < channelCount) :
    Refines name .v0 (indices.forM fun index => V0.setLocate index false).run fun _ s =>
      (.ok (), indices.foldl (fun s index => s.withLocate index false) s) := by
  induction indices with
  | nil =>
    intro d s turns r d' s' hp hc hrun hfollows
    obtain ⟨rfl, rfl, rfl⟩ := tries_pure.1 hrun
    obtain rfl := hfollows
    exact conforms_of hc (.refl _) (.refl _) rfl rfl rfl
  | cons index indices ih =>
    rw [List.forall_mem_cons] at h
    have hfirst : Refines name .v0 (V0.setLocate index false).run fun _ s =>
        (.ok (), s.withLocate index false) := by
      have hset : Refines name .v0 (V0.setLocate index false).run _ := V0.refines_setLocate
      rwa [show (inChannel index fun _ => ()) = .ok () from dif_pos h.1] at hset
    exact hfirst.bind fun _ => ih h.2

theorem foldl_withLocate (indices : List Nat) (s : Shelf) :
    indices.foldl (fun s index => s.withLocate index false) s =
      { s with locate := fun channel => if channel.val ∈ indices then false else s.locate channel } := by
  induction indices generalizing s with
  | nil => simp
  | cons index indices ih =>
    rw [List.foldl_cons, ih]
    simp only [withLocate, List.mem_cons]
    congr 1
    funext channel
    grind

theorem refines_resetLocate : Refines name p resetLocate.run fun _ s =>
    (.ok (), { s with locate := fun _ => false }) := by
  refine Refines.byProtocol ?_ ?_
  · have hclear : Refines name .v0 V0.resetLocate.run _ :=
      V0.refines_clear (List.range channelCount) fun index => List.mem_range.1
    simpa only [foldl_withLocate, List.mem_range, Fin.isLt, if_true] using hclear
  · intro d s turns r d' s' hp hc hrun hfollows
    obtain ⟨rfl, hlike, hs⟩ := Simulator.communicate_answered
      (Simulator.answers_locate_all 0 (hp ▸ hc.running)) hc.operational hrun hfollows
    refine conforms_of (hc.with_locate 0) hlike hs ?_ rfl rfl
    simp [view, hasChannel]

/-! ## Power, reboot and identification -/

theorem refines_setHostPower {on : Bool} : Refines name p (setHostPower on).run fun _ s =>
    (.ok (), { s with hostPower := some on }) := by
  have hpower : ∀ {d s}, Coherent d s → Coherent d { s with hostPower := some on } := fun h =>
    ⟨⟨h.operational, h.running, h.faults, h.types⟩, h.presence, h.failures, h.word⟩
  refine Refines.byProtocol ?_ ?_
  · intro d s turns r d' s' hp hc hrun hfollows
    obtain ⟨rfl, hlike, hs⟩ := Simulator.communicate_answered
      (Simulator.answers_power_v0 on (hp ▸ hc.running)) hc.operational hrun hfollows
    exact conforms_of (hpower hc) hlike hs rfl rfl rfl
  · intro d s turns r d' s' hp hc hrun hfollows
    obtain ⟨rfl, hlike, hs⟩ := Simulator.communicate_answered
      (Simulator.answers_power_v1 on (hp ▸ hc.running)) hc.operational hrun hfollows
    exact conforms_of (hpower hc) hlike hs rfl rfl rfl

theorem refines_reboot : Refines name p reboot.run fun _ s => (.ok (), s) := by
  intro d s turns r d' s' hp hc hrun hfollows
  obtain ⟨replies, result, rfl, hsettles, rfl, hlike⟩ := runs_reboot hc.operational hrun
  have hreboot := Simulator.answers_reboot hc.running hc.faults
  obtain ⟨rfl, rfl⟩ := Simulator.follows_answered hreboot hsettles hfollows
  exact conforms_of hc hlike hreboot.next rfl rfl rfl

theorem conforms_ping {answered : Bool} (hc : Coherent d s) (hrun : Runs ping d turns answered d')
    (hfollows : (Simulator.bus name).Follows s turns s') :
    Conforms d (.ok true, view d s) (.ok answered) d' s' := by
  obtain ⟨replies, result, rfl, hsettles, rfl, hlike⟩ := runs_ping hc.operational hrun
  have hident := Simulator.answers_ident hc.running hc.faults
  obtain ⟨rfl, rfl⟩ := Simulator.follows_answered hident hsettles hfollows
  exact conforms_of hc hlike hident.next rfl rfl rfl

/-- A driver that looks again keeps nothing that may have changed. -/
theorem conforms_refresh (h : Ready d s) (hrun : Runs refresh d turns () d')
    (hfollows : (Simulator.bus name).Follows s turns s') :
    Conforms d (.ok (), view d s) (.ok ()) d' s' := by
  have hrun := runs_byProtocol.1 hrun
  cases hp : d.protocol with
  | v0 =>
    rw [hp] at hrun
    obtain ⟨rfl, rfl⟩ := runs_modify.1 hrun
    obtain rfl := hfollows
    refine ⟨rfl, rfl, ⟨⟨h.operational, h.running, h.faults, h.types⟩, by simp, by simp, ?_⟩, rfl, rfl⟩
    intro hv1
    cases hp.symm.trans hv1
  | v1 =>
    rw [hp] at hrun
    obtain ⟨rfl, rfl⟩ := runs_modify.1 hrun
    obtain rfl := hfollows
    exact ⟨rfl, rfl, ⟨⟨h.operational, h.running, h.faults, h.types⟩, by simp, by simp, by simp⟩, rfl, rfl⟩

/-! ## Flash -/

theorem refines_eraseFlash : Refines name p eraseFlash.run fun _ s => (.ok (), s.erase) := by
  intro d s turns r d' s' hp hc hrun hfollows
  obtain ⟨replies, result, rfl, hsettles, rfl, hlike⟩ := runs_eraseFlash hc.operational hrun
  have herase := Simulator.answers_erase hc.running
  obtain ⟨rfl, rfl⟩ := Simulator.follows_answered herase hsettles hfollows
  have hcoherent : Coherent { d with flashOffset := 0 }
      { s with flash := .replicate imageMax 0xFF } :=
    ⟨⟨hc.operational, hc.running, hc.faults, hc.types⟩, hc.presence, hc.failures, hc.word⟩
  refine conforms_of hcoherent hlike herase.next ?_ rfl rfl
  simp [view, erase]

/-- A driver takes the chunks that the shelf takes. -/
theorem isChunk_iff {bytes : List UInt8} : IsChunk d.flashOffset bytes ↔
    ¬ (bytes = [] ∨ 128 < bytes.length ∨ (view d s).offset % 4 ≠ 0) := by
  have haligned : d.flashOffset % 4 = 0 ↔ (view d s).offset % 4 = 0 := by
    rw [← UInt32.toNat_inj, UInt32.toNat_mod]
    rfl
  rw [IsChunk, haligned, not_or, not_or, Nat.not_lt, not_not]
  rfl

/-- The offset of the driver does not wrap behind a chunk that fits. -/
theorem toNat_past {bytes : List UInt8} (hchunk : IsChunk d.flashOffset bytes)
    (hle : d.flashOffset.toNat + bytes.length ≤ imageMax) :
    (d.past bytes (.ok ())).flashOffset.toNat = d.flashOffset.toNat + bytes.length := by
  have hlength : bytes.length ≤ 128 := hchunk.2.1
  have hmax : imageMax = 131072 := rfl
  change (d.flashOffset + .ofNat bytes.length).toNat = _
  rw [UInt32.toNat_add, UInt32.toNat_ofNat']
  omega

/-- A chunk that a driver does not take is refused before anything is sent. -/
theorem writes_unfit {bytes : List UInt8} {r : Except Error Unit} (hchunk : ¬ IsChunk d.flashOffset bytes)
    (h : d.Writes bytes turns r) : turns = [] ∧ r = .error (.invalidChunk bytes.length) := by
  unfold Driver.Writes at h
  cases hp : d.protocol with
  | v0 =>
    rw [hp] at h
    cases h with
    | refused => exact ⟨rfl, rfl⟩
    | _ => exact absurd ‹_› hchunk
  | v1 =>
    rw [hp] at h
    cases h with
    | refused => exact ⟨rfl, rfl⟩
    | _ => exact absurd ‹_› hchunk

/-- What flash holds behind a chunk that fits. -/
theorem getElem_writeBytes (flash : Vector UInt8 imageMax) {offset : Nat} {bytes : List UInt8}
    (hle : offset + bytes.length ≤ imageMax) :
    (fun i : Fin imageMax => (Simulator.writeBytes flash offset bytes)[i]) =
      patch (fun i => flash[i]) offset bytes := by
  funext i
  have hget : ∀ memory : Vector UInt8 imageMax, memory[(i : Nat)]? = some memory[i] := fun memory => by simp
  apply Option.some.inj
  rw [← hget, patch]
  by_cases hi : offset ≤ i
  · rw [if_pos hi]
    by_cases hlt : i - offset < bytes.length
    · have hinside : (Simulator.writeBytes flash offset bytes)[offset + (i - offset)]? = bytes[i - offset]? :=
        Simulator.getElem?_writeBytes_inside hlt hle
      rw [Nat.add_sub_cancel' hi] at hinside
      rw [hinside, List.getElem?_eq_getElem hlt, Option.getD_some]
    · rw [Simulator.getElem?_writeBytes_outside (.inr (by omega)), hget,
        List.getElem?_eq_none (by omega), Option.getD_none]
  · rw [if_neg hi, Simulator.getElem?_writeBytes_outside (.inl (by omega)), hget]

theorem refines_writeChunk {bytes : List UInt8} :
    Refines name p (writeChunk bytes).run fun label s => s.write label bytes := by
  intro d s turns r d' s' hp hc hrun hfollows
  obtain ⟨hwrites, hlike⟩ := Driver.writes_writeChunk hc.operational hrun
  have hunwithheld : s.faults.nakIdent = 0 := congrArg Simulator.Faults.nakIdent hc.faults
  have hend : s'.faults.nakIdent = 0 :=
    Nat.le_zero.1 (hunwithheld ▸ Simulator.nakIdent_follows hfollows)
  dsimp only
  by_cases hchunk : IsChunk d.flashOffset bytes
  · rw [write, if_neg (isChunk_iff.1 hchunk)]
    by_cases hle : (view d s).offset + bytes.length ≤ imageMax
    · have hharmless : s.faults.Harmless := by
        rw [hc.faults]
        exact ⟨rfl, rfl, rfl, rfl, rfl⟩
      obtain ⟨rfl, hcore⟩ := Simulator.writes_ok hc.running hharmless hchunk hle hwrites hfollows
      have hstored : ((s.store d.flashOffset bytes).paused d.protocol.pause).Agrees s' :=
        .of_core hcore hunwithheld hend
      have hcoherent : Coherent (d.past bytes (.ok ()))
          ((s.store d.flashOffset bytes).paused d.protocol.pause) :=
        ⟨⟨hc.operational, hc.running, hc.faults, hc.types⟩, hc.presence, hc.failures, hc.word⟩
      rw [if_pos hle]
      refine conforms_of hcoherent hlike hstored ?_ rfl rfl
      have hoffset : (d.past bytes (.ok ())).flashOffset.toNat = (view d s).offset + bytes.length :=
        toNat_past hchunk hle
      have hflash : (fun i : Fin imageMax =>
          ((s.store d.flashOffset bytes).paused d.protocol.pause).flash[i]) =
            patch (view d s).flash (view d s).offset bytes :=
        getElem_writeBytes s.flash hle
      rw [view, hflash, hoffset]
      rfl
    · obtain ⟨rfl, hcore⟩ := Simulator.writes_beyond hc.running hchunk (Nat.lt_of_not_le hle) hwrites hfollows
      rw [if_neg hle]
      exact conforms_of hc hlike (.of_core hcore hunwithheld hend) rfl rfl rfl
  · obtain ⟨rfl, rfl⟩ := writes_unfit hchunk hwrites
    obtain rfl := hfollows
    rw [write, if_pos (by rwa [isChunk_iff, not_not] at hchunk)]
    exact conforms_of hc hlike (.refl _) rfl rfl rfl

end Backplane.Shelf
