import Backplane.Proofs.Simulator.Requests

/-!
# Reads that always come to the same

A simulated controller answers most reads of a driver the same however often it is asked, be it with a
value or not at all, and all that such reads leave behind is their count and the channel whose type was
asked for last.

* `Untouched`: what such reads leave alone.
* `Steady`: the requests that are answered the same each time.
* `Finds`: a read on a handle that comes to one outcome whenever it is done, `Finds.confirmed` also where
  it is repeated until the same value comes twice in a row.
-/
namespace Backplane.Simulator

variable {s t t' : Simulator} {r : Request} {name : String} {turns : List Turn}

/-- Both controllers are the same, but for counts and the channel whose type is read next. -/
def Untouched (s t : Simulator) : Prop :=
  ∃ counters selected, t = { s with counters := counters, selected := selected }

namespace Untouched

theorem refl (s : Simulator) : s.Untouched s := ⟨s.counters, s.selected, rfl⟩

theorem count (h : s.Untouched t) (r : Request) : s.Untouched (t.count r) := by
  obtain ⟨_, selected, rfl⟩ := h
  exact ⟨_, selected, rfl⟩

theorem select (h : s.Untouched t) (selected : Fin channelCount) :
    s.Untouched { t with selected := selected } := by
  obtain ⟨counters, _, rfl⟩ := h
  exact ⟨counters, selected, rfl⟩

end Untouched

/-! ## Steady requests -/

/-- The request is answered the same each time, and leaves everything untouched. -/
def Steady (s : Simulator) (r : Request) : Prop :=
  ∀ t, s.Untouched t → (attempt r t).value.result = (attempt r s).value.result ∧
    s.Untouched (attempt r t).next

theorem steady_of_serve (hr : r ≠ .functionality)
    (h : ∀ t, s.Untouched t → (t.serve r).value = (s.serve r).value ∧ s.Untouched (t.serve r).next) :
    s.Steady r := by
  intro t ht
  have hboot : t.booting = s.booting := by
    obtain ⟨_, _, rfl⟩ := ht
    rfl
  rw [attempt_eq hr, attempt_eq hr, hboot]
  cases s.booting with
  | some elapsed => exact ⟨rfl, ht.count r⟩
  | none =>
    obtain ⟨hvalue, hnext⟩ := h _ (ht.count r)
    obtain ⟨hself, -⟩ := h _ ((Untouched.refl s).count r)
    exact ⟨congrArg Reply.result (hvalue.trans hself.symm), hnext⟩

/-- Byte registers, as long as presence does not glitch: but the identification may be withheld for a
while, and reading the latch clears it. -/
theorem steady_readByteData {register : UInt8} (hglitch : s.faults.glitchPresence = 0)
    (hident : register ≠ Protocol.identRegister) (hlatch : register ≠ V1.latchRegister) :
    s.Steady (.readByteData register) := by
  refine steady_of_serve (by simp) fun t ht => ?_
  obtain ⟨counters, selected, rfl⟩ := id ht
  simp only [serve, serveReadByteData, if_neg hident, if_neg hlatch, servePresence, hglitch, if_true]
  cases s.config.protocol <;>
  · dsimp only
    repeat' split
    all_goals exact ⟨rfl, ht⟩

theorem steady_readWordData {register : UInt8} : s.Steady (.readWordData register) := by
  refine steady_of_serve (by simp) fun t ht => ?_
  obtain ⟨counters, selected, rfl⟩ := id ht
  simp only [serve]
  split <;> exact ⟨rfl, ht⟩

/-- The choice of a channel, in the older generation. -/
theorem steady_select {channel : UInt8} : s.Steady (.writeByteData V0.driveTypeCommand channel) := by
  refine steady_of_serve (by simp) fun t ht => ?_
  obtain ⟨counters, selected, rfl⟩ := id ht
  simp only [serve, serveWriteByteData]
  cases s.config.protocol with
  | v0 =>
    simp only [show V0.driveTypeCommand ≠ V0.locateOnCommand by decide,
      show V0.driveTypeCommand ≠ V0.locateOffCommand by decide, if_false, if_true]
    split
    · exact ⟨rfl, ht.select _⟩
    · exact ⟨rfl, ht⟩
  | v1 =>
    simp only [show V0.driveTypeCommand ≠ V1.locateRegister by decide,
      show V0.driveTypeCommand ≠ V1.powerRegister by decide, if_false]
    exact ⟨rfl, ht⟩

theorem attempt_readByte (t : Simulator) :
    (attempt .readByte t).next = t.count .readByte ∧
      (attempt .readByte t).value.result =
        if t.booting = none ∧ t.config.protocol = .v0 then .ok (t.config.driveTypes.get t.selected)
        else .error nak := by
  rw [attempt_eq (by simp)]
  cases hboot : t.booting with
  | some elapsed => exact ⟨rfl, rfl⟩
  | none =>
    rw [if_neg (by simp), serve, show (t.count .readByte).config = t.config from rfl]
    cases hp : t.config.protocol <;> exact ⟨rfl, rfl⟩

/-- The byte of the channel that was chosen. -/
theorem readByte_chosen {channel : Fin channelCount} (ht : s.Untouched t) (hchosen : t.selected = channel) :
    (attempt .readByte t).value.result = (attempt .readByte { s with selected := channel }).value.result ∧
      s.Untouched (attempt .readByte t).next ∧ (attempt .readByte t).next.selected = channel := by
  rw [(attempt_readByte t).1, (attempt_readByte t).2, (attempt_readByte { s with selected := channel }).2]
  refine ⟨?_, ht.count _, hchosen⟩
  obtain ⟨counters, selected, rfl⟩ := ht
  obtain rfl := hchosen
  rfl

/-- The older generation is asked for one type at a time. -/
theorem attempt_select {index : Nat} (hs : s.Running .v0) (hi : index < channelCount) :
    attempt (.writeByteData V0.driveTypeCommand (.ofNat index)) s =
      answer () { s.count (.writeByteData V0.driveTypeCommand (.ofNat index)) with
        selected := ⟨index, hi⟩ } := by
  have hindex : (UInt8.ofNat index).toNat = index := by
    rw [UInt8.toNat_ofNat', Nat.mod_eq_of_lt (Nat.lt_trans hi (by decide))]
  have hprotocol :
      (s.count (.writeByteData V0.driveTypeCommand (.ofNat index))).config.protocol = .v0 := hs.2
  rw [attempt_running (by simp) hs, serve, serveWriteByteData, hprotocol]
  dsimp only
  rw [if_neg (by decide), if_neg (by decide), if_pos rfl, dif_pos (by rwa [hindex])]
  simp only [hindex]

theorem selected_of_ok {channel : Fin channelCount}
    (h : (attempt (.writeByteData V0.driveTypeCommand (.ofNat channel)) t).value.result = .ok ()) :
    (attempt (.writeByteData V0.driveTypeCommand (.ofNat channel)) t).next.selected = channel := by
  cases hboot : t.booting with
  | some elapsed =>
    rw [attempt_eq (by simp), hboot] at h
    cases h
  | none =>
    cases hp : t.config.protocol with
    | v0 =>
      rw [attempt_select ⟨hboot, hp⟩ channel.isLt]
      rfl
    | v1 =>
      have hprotocol :
          (t.count (.writeByteData V0.driveTypeCommand (.ofNat channel))).config.protocol = .v1 := hp
      rw [attempt_running (by simp) ⟨hboot, hp⟩, serve, serveWriteByteData, hprotocol] at h
      cases h

/-! ## Reads on a handle -/

/-- Attempts that leave some controllers among themselves and are answered the same by all of them. -/
theorem follows_tries {I : Simulator → Prop} {outcome : Except BusError r.Value}
    {replies : List (Reply r)}
    (hstep : ∀ t, I t → (attempt r t).value.result = outcome ∧ I (attempt r t).next) (ht : I t)
    (h : (bus name).Follows t (tries r replies) t') : (∀ reply ∈ replies, reply.result = outcome) ∧ I t' := by
  induction replies generalizing t with
  | nil =>
    obtain rfl := h
    exact ⟨by simp, ht⟩
  | cons reply replies ih =>
    obtain ⟨_, ⟨rfl, rfl⟩, hrest⟩ := h
    obtain ⟨hvalue, hnext⟩ := hstep t ht
    obtain ⟨hall, hend⟩ := ih hnext hrest
    exact ⟨List.forall_mem_cons.2 ⟨hvalue, hall⟩, hend⟩

/-- While the controller is one of these, the read comes to this outcome whenever it is done. -/
def Finds {α : Type} (name : String) (I : Simulator → Prop) (operational : Bool) (read : DeviceM.Try α)
    (outcome : Except BusError α) : Prop :=
  ∀ ⦃d d' : Device⦄ ⦃turns : List Turn⦄ ⦃r : Except BusError α⦄ ⦃t t' : Simulator⦄,
    d.operational = operational → I t → Runs read.run d turns r d' → (bus name).Follows t turns t' →
      r = outcome ∧ (∃ streak, d' = { d with streak := streak }) ∧ I t'

/-- A read that always comes to one outcome comes to it as well if it is repeated until a value comes
twice in a row. -/
theorem Finds.confirmed {α : Type} [BEq α] {I : Simulator → Prop} {operational : Bool} {what : String}
    {read : DeviceM.Try α} {outcome : Except BusError α} (h : Finds name I operational read outcome) :
    Finds name I operational (Driver.confirmed what read) outcome := by
  intro d d' turns r t t' hd ht hrun hfollows
  obtain ⟨results, hrepeats, hconfirmed⟩ := Driver.runs_confirmed hrun
  -- A read leaves its error streak on the handle, so the repetitions are from handles that differ in it.
  have hstep : ∀ {e e' : Device} {turns r t t'}, (∃ streak, e = { d with streak := streak }) ∧ I t →
      Runs read.run e turns r e' → (bus name).Follows t turns t' →
      r = outcome ∧ (∃ streak, e' = { d with streak := streak }) ∧ I t' := by
    rintro _ e' turns r t t' ⟨⟨streak, rfl⟩, ht⟩ honce hfollows
    have hoperational : ({ d with streak := streak } : Device).operational = operational := hd
    obtain ⟨hvalue, ⟨streak', rfl⟩, hend⟩ := h hoperational ht honce hfollows
    exact ⟨hvalue, ⟨streak', rfl⟩, hend⟩
  obtain ⟨hall, hdevice, hend⟩ := hrepeats.follows hstep ⟨⟨_, rfl⟩, ht⟩ hfollows
  exact ⟨hall r hconfirmed.mem, hdevice, hend⟩

/-- What a request comes to on a handle. -/
def reading (s : Simulator) (operational : Bool) (r : Request) : Except BusError r.Value :=
  if operational then (attempt r s).value.result else .error .notOperational

/-- An exchange comes to what each attempt is answered. -/
theorem exchange_tries {I : Simulator → Prop} {outcome result : Except BusError r.Value} {d d' : Device}
    {command : Option UInt8} {sent : Option (List UInt8)} {received : r.Value → Option (List UInt8)}
    (hstep : ∀ t, I t → (attempt r t).value.result = outcome ∧ I (attempt r t).next)
    (hd : d.operational = true) (ht : I t)
    (hrun : Runs (Device.exchange r command sent received).run d turns result d')
    (h : (bus name).Follows t turns t') :
    result = outcome ∧ (∃ streak, d' = { d with streak := streak }) ∧ I t' := by
  obtain ⟨replies, rfl, ⟨failed, last, rfl, -, rfl, -⟩, rfl⟩ := Device.runs_exchange hd hrun
  obtain ⟨hall, hend⟩ := follows_tries hstep ht h
  exact ⟨hall last (by simp), ⟨_, rfl⟩, hend⟩

theorem finds_exchange {operational : Bool} {command : Option UInt8} {sent : Option (List UInt8)}
    {received : r.Value → Option (List UInt8)} (hr : s.Steady r) :
    Finds name s.Untouched operational (Device.exchange r command sent received)
      (s.reading operational r) := by
  intro d d' turns result t t' hd ht hrun h
  cases operational with
  | true => exact exchange_tries hr hd ht hrun h
  | false =>
    obtain ⟨rfl, rfl, rfl⟩ := Device.runs_exchange_refused hd hrun
    obtain rfl := h
    exact ⟨rfl, ⟨_, rfl⟩, ht⟩

/-- What the type of a channel comes to in the older generation. -/
def readingType (s : Simulator) (operational : Bool) (channel : Fin channelCount) : Except BusError UInt8 := do
  s.reading operational (.writeByteData V0.driveTypeCommand (.ofNat channel))
  reading { s with selected := channel } operational .readByte

theorem finds_readDriveType {operational : Bool} (channel : Fin channelCount) :
    Finds name s.Untouched operational (V0.readDriveType channel) (s.readingType operational channel) := by
  intro d d' turns result t t' hd ht hrun h
  unfold readingType
  obtain ⟨e, hfail, rfl⟩ | ⟨first, _, mid, rest, rfl, hselect, hread⟩ := tries_bind.1 hrun
  · obtain ⟨hr, hdevice, hend⟩ := finds_exchange steady_select hd ht hfail h
    rw [← hr]
    exact ⟨rfl, hdevice, hend⟩
  · obtain ⟨u, hbefore, hafter⟩ := Bus.follows_append.1 h
    obtain ⟨hr, ⟨streak, rfl⟩, hu⟩ := finds_exchange steady_select hd ht hselect hbefore
    rw [← hr]
    cases operational with
    | false => cases hr
    | true =>
      -- The choice of the channel was accepted, so the byte that is read next is of that channel.
      obtain ⟨replies, rfl, hsettles, -⟩ := Device.runs_exchange hd hselect
      obtain ⟨chosen, -, hok, rfl, -⟩ := follows_settles hsettles hbefore
      have hnoted : ({ d with streak := streak } : Device).operational = true := hd
      obtain ⟨rfl, ⟨streak', rfl⟩, hend, -⟩ :=
        exchange_tries (I := fun t => s.Untouched t ∧ t.selected = channel)
          (fun t ht => readByte_chosen ht.1 ht.2) hnoted ⟨hu, selected_of_ok hok⟩ hread hafter
      exact ⟨rfl, ⟨streak', rfl⟩, hend⟩

end Backplane.Simulator
