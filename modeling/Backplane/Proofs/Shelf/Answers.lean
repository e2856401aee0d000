import Backplane.Proofs.Driver.Locate
import Backplane.Proofs.Driver.Masks
import Backplane.Proofs.Simulator.Chunk
import Backplane.Proofs.Simulator.Reads

/-!
# What a controller without faults answers

A running controller without faults acknowledges every request of a driver in the first attempt. What
becomes of it is told up to what no driver can see: counts, the latch, and what is selected.

* `Simulator.Answers`: one request.
* `communicate_answered`, `Reads.confirmed`: operations on a handle.
* `follows_setLocate`: one locate LED of the newer generation.
-/
namespace Backplane

namespace Simulator

variable {s s' t : Simulator} {r : Request} {p : Protocol} {label : String}

/-- Both controllers are equipped alike, misbehave alike, and hold the same. -/
structure Agrees (s t : Simulator) : Prop where
  config : t.config = s.config
  faults : t.faults = s.faults
  booting : t.booting = s.booting
  hostPower : t.hostPower = s.hostPower
  flash : t.flash = s.flash

namespace Agrees

theorem refl (s : Simulator) : s.Agrees s := ⟨rfl, rfl, rfl, rfl, rfl⟩

theorem trans {u : Simulator} (h : s.Agrees t) (h' : t.Agrees u) : s.Agrees u :=
  ⟨h'.config.trans h.config, h'.faults.trans h.faults, h'.booting.trans h.booting,
    h'.hostPower.trans h.hostPower, h'.flash.trans h.flash⟩

theorem running (h : s.Agrees t) (hs : s.Running p) : t.Running p :=
  ⟨h.booting.trans hs.1, (congrArg Config.protocol h.config).trans hs.2⟩

/-- Controllers that are the same but for counts, and withhold no identification. -/
theorem of_core (h : s'.core = t.core) (ht : t.faults.nakIdent = 0) (hs : s'.faults.nakIdent = 0) :
    t.Agrees s' := by
  have hfaults : s'.faults = t.faults := by
    have hcore : s'.core.faults = t.core.faults := congrArg (·.faults) h
    calc s'.faults
      _ = s'.core.faults := by unfold core; rw [← hs]
      _ = t.core.faults := hcore
      _ = t.faults := by unfold core; rw [← ht]
  exact ⟨congrArg (·.config) h, hfaults, congrArg (·.booting) h, congrArg (·.hostPower) h,
    congrArg (·.flash) h⟩

end Agrees

/-- The controller acknowledges a request with a value, and then it is another one. -/
structure Answers (s : Simulator) (r : Request) (value : r.Value) (t : Simulator) : Prop where
  value : (attempt r s).value.result = .ok value
  next : t.Agrees (attempt r s).next

theorem agrees_count : s.Agrees (s.count r) := ⟨rfl, rfl, rfl, rfl, rfl⟩

theorem Answers.of_serve {value : r.Value} (hs : s.Running p) (hr : r ≠ .functionality)
    (h : (s.count r).serve r = answer value s') (ht : t.Agrees s') : s.Answers r value t := by
  rw [← attempt_running hr hs] at h
  exact ⟨by rw [h]; rfl, by rw [h]; exact ht⟩

/-- A read that changes nothing. -/
theorem Answers.of_read {value : r.Value} (hs : s.Running p) (hr : r ≠ .functionality)
    (h : (s.count r).serve r = answer value (s.count r)) : s.Answers r value s :=
  .of_serve hs hr h agrees_count

section Requests

theorem answers_presence (hs : s.Running p) (hf : s.faults = {}) :
    s.Answers (.readByteData p.presenceRegister) s.config.presence s := by
  refine .of_read hs (by simp) ?_
  have hglitch : s.faults.glitchPresence = 0 := congrArg Faults.glitchPresence hf
  have hprotocol : (s.count (.readByteData p.presenceRegister)).config.protocol = p := hs.2
  rw [serve, serveReadByteData, hprotocol]
  cases p <;> exact if_pos hglitch

theorem answers_failures (hs : s.Running p) :
    s.Answers (.readByteData p.failuresRegister) s.config.failures s := by
  refine .of_read hs (by simp) ?_
  have hprotocol : (s.count (.readByteData p.failuresRegister)).config.protocol = p := hs.2
  rw [serve, serveReadByteData, hprotocol]
  cases p <;> rfl

theorem answers_types (hs : s.Running .v1) :
    s.Answers (.readWordData V1.driveTypesRegister) (packTypes s.config.driveTypes.toList) s :=
  .of_read hs (by simp) (if_pos ⟨hs.2, rfl⟩)

theorem answers_readByte (hs : s.Running .v0) :
    s.Answers .readByte (s.config.driveTypes.get s.selected) s := by
  refine .of_read hs (by simp) ?_
  have hprotocol : (s.count .readByte).config.protocol = .v0 := hs.2
  rw [serve, hprotocol]
  rfl

theorem wireBit_ofNat : ∀ index < channelCount, wireBit (.ofNat index) = channelBit index := by
  decide

/-- The older generation is told of one locate LED at a time. -/
theorem answers_locate_one {index : Nat} (on : Bool) (hs : s.Running .v0) (hi : index < channelCount) :
    s.Answers (.writeByteData (if on then V0.locateOnCommand else V0.locateOffCommand) (.ofNat index)) ()
      { s with config.locate := relit s.config.locate index on } := by
  have hprotocol : ∀ r, (s.count r).config.protocol = .v0 := fun _ => hs.2
  have hserve : ∀ command, (s.count (.writeByteData command (.ofNat index))).serve
      (.writeByteData command (.ofNat index)) = _ := fun command => by
    rw [serve, serveWriteByteData, wireBit_ofNat index hi, hprotocol]
  cases on
  · exact .of_serve hs (by simp) (hserve V0.locateOffCommand) ⟨rfl, rfl, rfl, rfl, rfl⟩
  · exact .of_serve hs (by simp) (hserve V0.locateOnCommand) ⟨rfl, rfl, rfl, rfl, rfl⟩

theorem answers_locate_mask (hs : s.Running .v1) :
    s.Answers (.readByteData V1.locateRegister) s.config.locate s := by
  have hserve := attempt_readLocate hs
  exact ⟨by rw [hserve]; rfl, by rw [hserve]; exact agrees_count⟩

/-- The newer generation is told of all locate LEDs. -/
theorem answers_locate_all (mask : UInt8) (hs : s.Running .v1) :
    s.Answers (.writeByteData V1.locateRegister mask) () { s with config.locate := mask } := by
  have hserve := attempt_writeLocate mask hs
  exact ⟨by rw [hserve]; rfl, by rw [hserve]; exact ⟨rfl, rfl, rfl, rfl, rfl⟩⟩

theorem answers_power_v0 (on : Bool) (hs : s.Running .v0) :
    s.Answers (.writeByte (if on then V0.powerOnCommand else V0.powerOffCommand)) ()
      { s with hostPower := some on } := by
  have hprotocol : ∀ r, (s.count r).config.protocol = .v0 := fun _ => hs.2
  have hserve : ∀ command, (s.count (.writeByte command)).serve (.writeByte command) = _ :=
    fun command => by rw [serve, serveWriteByte, hprotocol]
  cases on
  · exact .of_serve hs (by simp) (hserve V0.powerOffCommand) ⟨rfl, rfl, rfl, rfl, rfl⟩
  · exact .of_serve hs (by simp) (hserve V0.powerOnCommand) ⟨rfl, rfl, rfl, rfl, rfl⟩

theorem answers_power_v1 (on : Bool) (hs : s.Running .v1) :
    s.Answers (.writeByteData V1.powerRegister (if on then 1 else 0)) ()
      { s with hostPower := some on } := by
  have hprotocol : ∀ r, (s.count r).config.protocol = .v1 := fun _ => hs.2
  have hserve : ∀ value, (s.count (.writeByteData V1.powerRegister value)).serve
      (.writeByteData V1.powerRegister value) = _ :=
    fun value => by rw [serve, serveWriteByteData, hprotocol]
  cases on
  · exact .of_serve hs (by simp) (hserve 0) ⟨rfl, rfl, rfl, rfl, rfl⟩
  · exact .of_serve hs (by simp) (hserve 1) ⟨rfl, rfl, rfl, rfl, rfl⟩

theorem answers_ident (hs : s.Running p) (hf : s.faults = {}) : s.Answers identRequest p.ident s := by
  have hnak : s.faults.nakIdent = 0 := congrArg Faults.nakIdent hf
  have hserve := attempt_ident hs
  rw [if_pos hnak] at hserve
  exact ⟨by rw [hserve]; rfl, by rw [hserve]; exact agrees_count⟩

theorem answers_erase (hs : s.Running p) :
    s.Answers (.writeByte p.eraseCommand) () { s with flash := .replicate imageMax 0xFF } := by
  have hserve := attempt_erase hs
  exact ⟨by rw [hserve]; rfl, by rw [hserve]; exact ⟨rfl, rfl, rfl, rfl, rfl⟩⟩

/-- Without faults a reboot is over at once and leaves everything as it was. -/
theorem agrees_reboot (hs : s.Running p) (hf : s.faults = {}) : s.Agrees s.reboot.2 := by
  have hboot : s.booting = none := hs.1
  have hsettled : s.reboot.2.Agrees s := by
    unfold reboot settleBoot finishBoot
    dsimp only
    rw [hf]
    exact ⟨rfl, hf, hboot, rfl, rfl⟩
  exact ⟨hsettled.config.symm, hsettled.faults.symm, hsettled.booting.symm, hsettled.hostPower.symm,
    hsettled.flash.symm⟩

theorem answers_reboot (hs : s.Running p) (hf : s.faults = {}) :
    s.Answers (.writeByte p.rebootCommand) () s := by
  obtain ⟨hvalue, hnext⟩ := attempt_reboot hs
  refine ⟨hvalue, hnext ▸ agrees_count.trans (agrees_reboot (p := p) hs hf)⟩

end Requests

/-! ## Operations on a handle -/

variable {most : Nat} {turns : List Turn} {command : Option UInt8} {sent : Option (List UInt8)}

/-- A request that is acknowledged is attempted once. -/
theorem follows_answered {value : r.Value} {replies : List (Reply r)} {result : Except BusError r.Value}
    (ha : s.Answers r value t) (hsettles : Settles most replies result)
    (h : (bus label).Follows s (tries r replies) s') :
    result = .ok value ∧ s' = (attempt r s).next := by
  obtain ⟨failed, last, rfl, hfailed, rfl, -⟩ := hsettles
  cases failed with
  | nil =>
    obtain ⟨_, ⟨rfl, rfl⟩, rfl⟩ := h
    exact ⟨ha.value, rfl⟩
  | cons reply failed =>
    obtain ⟨_, ⟨rfl, -⟩, -⟩ := h
    obtain ⟨e, he⟩ := hfailed _ List.mem_cons_self
    cases ha.value.symm.trans he

/-- An operation on a handle that passed its check. -/
theorem follows_puts {value : r.Value} {d : Device} {result : Except BusError r.Value}
    (ha : s.Answers r value t) (hd : d.operational = true) (hputs : d.Puts r turns result)
    (h : (bus label).Follows s turns s') : result = .ok value ∧ s' = (attempt r s).next := by
  cases hputs with
  | attempted _ hsettles => exact follows_answered ha hsettles h
  | refused hrefuses => cases hd.symm.trans hrefuses

/-- Setting one locate LED of the newer generation: the mask is read, and it is written where it has to
change. -/
theorem follows_setLocate {d : Driver} {index : Nat} {on : Bool} {outcome : Except Error Unit}
    (hi : index < channelCount) (hd : d.device.operational = true) (hs : s.Running .v1)
    (hways : V1.SetsLocate d index on turns outcome) (h : (bus label).Follows s turns s') :
    let read := s.count (.readByteData V1.locateRegister)
    let wanted := relit s.config.locate index on
    outcome = .ok () ∧ (hasChannel s.config.locate index = on ∧ s' = read ∨
      hasChannel s.config.locate index ≠ on ∧
        s' = { read.count (.writeByteData V1.locateRegister wanted) with config.locate := wanted }) := by
  intro read wanted
  have hmask := answers_locate_mask hs
  have hread : (attempt (.readByteData V1.locateRegister) s).next = read := by
    rw [attempt_readLocate hs]
    rfl
  cases hways with
  | unread hputs => cases (follows_puts hmask hd hputs h).1
  | kept hputs hbit =>
    obtain ⟨heq, hs'⟩ := follows_puts hmask hd hputs h
    obtain rfl := Except.ok.inj heq
    exact ⟨rfl, .inl ⟨hbit, hs'.trans hread⟩⟩
  | @written first rest mask chosen result hputs hbit hchosen hwrite =>
    obtain ⟨t, hbefore, hafter⟩ := Bus.follows_append.1 h
    obtain ⟨heq, ht⟩ := follows_puts hmask hd hputs hbefore
    obtain rfl := Except.ok.inj heq
    obtain rfl : t = read := ht.trans hread
    obtain rfl : chosen = wanted := eq_of_hasChannel fun channel hchannel =>
      (hchosen ⟨channel, hchannel⟩).trans (hasChannel_relit hi ⟨channel, hchannel⟩).symm
    have hrunning : read.Running .v1 := hs
    obtain ⟨rfl, hs'⟩ := follows_puts (answers_locate_all wanted hrunning) hd hwrite hafter
    rw [attempt_writeLocate wanted hrunning] at hs'
    exact ⟨rfl, .inr ⟨hbit, hs'⟩⟩

theorem exchange_answered {value : r.Value} {d d' : Device} {received : r.Value → Option (List UInt8)}
    {result : Except BusError r.Value} (ha : s.Answers r value t) (hd : d.operational = true)
    (hrun : Runs (Device.exchange r command sent received).run d turns result d')
    (h : (bus label).Follows s turns s') :
    result = .ok value ∧ d' = d.noting false ∧ s' = (attempt r s).next := by
  obtain ⟨replies, rfl, hsettles, rfl⟩ := Device.runs_exchange hd hrun
  obtain ⟨rfl, rfl⟩ := follows_answered ha hsettles h
  exact ⟨rfl, rfl, rfl⟩

/-- An operation of a driver that is one request. -/
theorem communicate_answered {value : r.Value} {d d' : Driver} {op : Operation}
    {received : r.Value → Option (List UInt8)} {outcome : Except Error r.Value}
    (ha : s.Answers r value t) (hd : d.device.operational = true)
    (hrun : Runs (Driver.communicate op (Device.exchange r command sent received)).run d turns outcome d')
    (h : (bus label).Follows s turns s') : outcome = .ok value ∧ d.Like d' ∧ t.Agrees s' := by
  obtain ⟨replies, result, rfl, hsettles, rfl, hlike⟩ := Driver.runs_communicate_exchange hd hrun
  obtain ⟨rfl, rfl⟩ := follows_answered ha hsettles h
  exact ⟨rfl, hlike, ha.next⟩

/-- What a read does that is repeated: whenever it is done, it comes to the value, and it leaves the
controller as it was. -/
def Reads {α : Type} (label : String) (s : Simulator) (read : DeviceM.Try α) (value : α) : Prop :=
  ∀ ⦃d d' : Device⦄ ⦃turns : List Turn⦄ ⦃r : Except BusError α⦄ ⦃t t' : Simulator⦄,
    d.operational = true → s.Agrees t → Runs read.run d turns r d' → (bus label).Follows t turns t' →
      r = .ok value ∧ (∃ streak, d' = { d with streak := streak }) ∧ s.Agrees t'

/-- A read that always comes to one value is confirmed. -/
theorem Reads.confirmed {α : Type} [BEq α] {read : DeviceM.Try α} {value : α} {what : String}
    (hread : Reads label s read value) : Reads label s (Driver.confirmed what read) value :=
  Finds.confirmed (I := s.Agrees) hread

/-- A register that a controller answers whenever it is asked. -/
theorem Reads.of_answers {value : r.Value} {received : r.Value → Option (List UInt8)}
    (ha : ∀ t, s.Agrees t → t.Answers r value t) :
    Reads label s (Device.exchange r command sent received) value := by
  intro d d' turns result t t' hd ht hrun h
  exact exchange_tries (fun t ht => ⟨(ha t ht).value, ht.trans (ha t ht).next⟩) hd ht hrun h

end Simulator
end Backplane
