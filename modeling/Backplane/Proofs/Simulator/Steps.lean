import Backplane.Proofs.Simulator.HotPlug
import Backplane.Proofs.Simulator.Identity

/-!
# Whatever happens to a simulated controller

Attempts at any requests, delays, connections and plugged drives, in any order. The counts of a controller
stay in proportion: what was stored, erased or rebooted was written, and what was written was attempted. An
attempt that is refused is counted, and nothing else has changed but how often the identification is still
withheld. An attempt that is answered fills its read buffers, and stays within the update area.

* `Simulator.Step`, `Simulator.after`: a step, and the controller behind some steps.
* `proportionate_step`: one step, and `proportionate_after`: any steps.
* `refused_attempt`, `answered_attempt`: what one attempt comes to.
* `after_sound`: all of this, of every controller that was started and of every request.
-/
namespace Backplane

/-- The number of bytes that the read buffers of a request hold. -/
def Request.room : Request → Nat
  | .readBlock _ length => length
  | .transfer messages => (messages.map fun m => if m.isWrite then 0 else m.length).sum
  | _ => 0

/-- Nothing that was delivered changes no buffer. -/
@[simp] theorem scatter_nil (buffers : List (List UInt8)) : scatter buffers [] = buffers := by
  induction buffers with
  | nil => rfl
  | cons buffer buffers ih => rw [scatter, List.drop_nil, ih, overlay_nil]

namespace Simulator

/-- Something that happens to a simulated controller. -/
inductive Step where
  | attempt (r : Request)
  | delay (us : UInt32)
  /-- A handle is opened under a label. -/
  | connect (label : String)
  | plug (p : Plug)
  deriving DecidableEq, Repr

/-- The controller behind a step. -/
def step (s : Simulator) : Step → Simulator
  | .attempt r => (attempt r s).next
  | .delay us => (delay us s).next
  | .connect label => (connect label s).next
  | .plug p => s.hotPlug p.1 p.2

/-- The controller behind some steps, one after the other. -/
def after (s : Simulator) (steps : List Step) : Simulator := steps.foldl step s

variable {s t : Simulator} {r : Request} {messages : List Message} {frame : Frame}

theorem step_delay (s : Simulator) (us : UInt32) : s.step (.delay us) = (s.elapse us).2 :=
  delay_next "" us

theorem step_connect (s : Simulator) (label : String) :
    ∃ connects, s.step (.connect label) = { s with counters.connects := connects } := by
  change ∃ connects, ((bus label).connect s).next = _
  rw [connect_next]
  split
  · exact ⟨s.counters.connects, rfl⟩
  · exact ⟨_, rfl⟩

/-! ## Counts -/

/-- The counts of a controller are in proportion. -/
structure Counters.Proportionate (c : Counters) : Prop where
  accepted : c.flashChunks + c.erases + c.reboots ≤ c.busWrites
  written : c.busWrites ≤ c.transactions
  identified : c.identReads ≤ c.transactions

/-- A request that is accepted as a chunk, an erasure or a reboot carries data. -/
theorem carriesData_of_activity
    (h : r.activity = .reboot ∨ r.activity = .erase ∨ r.activity = .flashWrite) : carriesData r = true := by
  cases r with
  | transfer messages =>
    match messages with
    | .write (_ :: _) :: _ => rfl
    | .write [] :: _ => rcases h with h | h | h <;> cases h
    | .read _ :: _ => rcases h with h | h | h <;> cases h
    | [] => rcases h with h | h | h <;> cases h
  | writeByte value => rfl
  | writeByteData command value => rfl
  | writeWordData command value => rfl
  | readByteData command =>
    by_cases hident : command = Protocol.identRegister <;> simp [Request.activity, hident] at h
  | _ => rcases h with h | h | h <;> cases h

theorem counters_settleBoot (s : Simulator) : s.settleBoot.2.counters = s.counters := by
  unfold settleBoot
  split
  · split <;> rfl
  · rfl

/-- What is accepted adds one to one of three counts, and everything else to none of them. -/
theorem counters_changes (h : Changes s r t) :
    t.counters = s.counters ∨
      (r.activity = .reboot ∨ r.activity = .erase ∨ r.activity = .flashWrite) ∧
        ∃ chunks erases reboots, chunks + erases + reboots =
            s.counters.flashChunks + s.counters.erases + s.counters.reboots + 1 ∧
          t.counters = { s.counters with flashChunks := chunks, erases := erases, reboots := reboots } := by
  cases h with
  | settings => exact .inl rfl
  | addressed => exact .inl rfl
  | rebooted hr =>
    refine .inr ⟨.inl hr, s.counters.flashChunks, s.counters.erases, s.counters.reboots + 1, by omega, ?_⟩
    exact counters_settleBoot _
  | erased hr =>
    exact .inr ⟨.inr (.inl hr), s.counters.flashChunks, s.counters.erases + 1, s.counters.reboots, by omega,
      rfl⟩
  | stored hr =>
    exact .inr ⟨.inr (.inr hr), s.counters.flashChunks + 1, s.counters.erases, s.counters.reboots, by omega,
      rfl⟩

theorem proportionate_count (h : s.counters.Proportionate) : (s.count r).counters.Proportionate where
  accepted := Nat.le_trans h.accepted (Nat.le_add_right _ _)
  written := by
    have := h.written
    simp only [count]
    split <;> omega
  identified := by
    have := h.identified
    simp only [count]
    split <;> omega

theorem proportionate_attempt (h : s.counters.Proportionate) :
    (attempt r s).next.counters.Proportionate := by
  obtain ⟨-, hnext, -⟩ | hheard := heard_attempt s r
  · rwa [hnext]
  have hcount := proportionate_count (r := r) h
  generalize attempt r s = served at hheard ⊢
  cases hheard with
  | refused => exact hcount
  | answered hchanges =>
    obtain heq | ⟨hactivity, chunks, erases, reboots, hsum, heq⟩ := counters_changes hchanges
    · rwa [heq]
    · -- The write that was counted in front makes room for what was accepted.
      have hwrites : (s.count r).counters.busWrites = s.counters.busWrites + 1 := by
        simp [count, carriesData_of_activity hactivity]
      have hbefore : (s.count r).counters.flashChunks + (s.count r).counters.erases +
          (s.count r).counters.reboots ≤ s.counters.busWrites := h.accepted
      rw [heq]
      refine ⟨?_, hcount.written, hcount.identified⟩
      change chunks + erases + reboots ≤ (s.count r).counters.busWrites
      omega

theorem proportionate_elapse (h : s.counters.Proportionate) (us : UInt32) :
    (s.elapse us).2.counters.Proportionate := by
  rw [elapse, counters_settleBoot]
  exact ⟨h.accepted, h.written, h.identified⟩

theorem proportionate_step (h : s.counters.Proportionate) (next : Step) :
    (s.step next).counters.Proportionate := by
  cases next with
  | attempt r => exact proportionate_attempt h
  | delay us => exact step_delay s us ▸ proportionate_elapse h us
  | connect label =>
    obtain ⟨connects, heq⟩ := step_connect s label
    rw [heq]
    exact ⟨h.accepted, h.written, h.identified⟩
  | plug p => exact h

theorem proportionate_after (h : s.counters.Proportionate) (steps : List Step) :
    (s.after steps).counters.Proportionate := by
  induction steps generalizing s with
  | nil => exact h
  | cons next steps ih => exact ih (proportionate_step h next)

/-! ## One attempt -/

/-- What an attempt leaves that is refused: only counts and the number of identifications that are still
withheld may differ, and the read buffers are as they were. -/
structure Refused (s : Simulator) (served : Served (Reply r) Simulator) : Prop where
  next : served.next = { s with
    counters := served.next.counters
    faults.nakIdent := served.next.faults.nakIdent }
  buffers : ∀ buffers, scatter buffers served.value.data = buffers

theorem refused_attempt {e : BusError} (h : (attempt r s).value.result = .error e) :
    e = nak ∧ s.Refused (attempt r s) := by
  obtain ⟨n, hrefused⟩ := refused_of_error h
  rw [hrefused] at h ⊢
  cases h
  exact ⟨rfl, rfl, scatter_nil⟩

/-- The part of the update area that a frame stores or loads: where it starts, and how long it is. -/
def Frame.extent? : Frame → Option (Nat × Nat)
  | .store offset bytes => some (offset.toNat, bytes.length)
  | .load offset length => some (offset.toNat, length)
  | .version _ => none
  | .address _ _ => none

/-- The number of bytes that a frame reads. -/
def Frame.room : Frame → Nat
  | .version length => length
  | .load _ length => length
  | .store _ _ => 0
  | .address _ _ => 0

theorem room_write (bytes : List UInt8) : (Request.transfer [.write bytes]).room = 0 := rfl

theorem room_read (bytes : List UInt8) (n : Nat) :
    (Request.transfer [.write bytes, .read n]).room = n :=
  Nat.zero_add n

theorem room_frameV0? (h : frameV0? messages = some frame) :
    (Request.transfer messages).room = frame.room := by
  unfold frameV0? at h
  split at h
  · split at h
    · split at h <;> cases h
      exact room_write _
    · cases h
  · split at h
    · cases h
      exact room_read _ _
    · split at h
      · split at h <;> cases h
        exact room_read _ _
      · cases h
  · cases h

theorem room_frameV1? {address : Option (UInt32 × Nat)} (h : frameV1? address messages = some frame) :
    (Request.transfer messages).room = frame.room := by
  unfold frameV1? at h
  split at h
  · split at h
    · obtain ⟨place, -, rfl⟩ := Option.map_eq_some_iff.1 h
      exact room_write _
    · split at h
      · split at h
        · split at h <;> cases h
          exact room_write _
        · cases h
      · cases h
  · split at h
    · split at h <;> cases h
      exact room_read _ _
    · cases h
  · cases h

/-- A frame reads as many bytes as its messages have room for. -/
theorem room_frame? (h : s.frame? messages = some frame) :
    (Request.transfer messages).room = frame.room := by
  unfold frame? at h
  cases hp : s.config.protocol <;> rw [hp] at h
  · exact room_frameV0? h
  · exact room_frameV1? h

theorem length_load (s : Simulator) {offset : UInt32} {length : Nat}
    (h : offset.toNat + length ≤ imageMax) : (s.load offset length).length = length := by
  have hread : (readBytes s.flash offset.toNat length).length = length := by
    rw [readBytes_eq, List.length_take, List.length_drop, Vector.length_toList]
    omega
  unfold load
  dsimp only
  split
  · cases hbytes : readBytes s.flash offset.toNat length with
    | nil => rwa [hbytes] at hread
    | cons b rest => rwa [hbytes] at hread
  · exact hread

/-- What is answered without a buffer delivers nothing. -/
theorem data_answerBoot {value : r.Value} {outcome : Bool × Simulator} :
    (answerBoot value outcome).value.data = [] := by
  obtain ⟨_ | _, _⟩ := outcome <;> rfl

theorem data_serveWriteByte (value : UInt8) : (s.serveWriteByte value).value.data = [] := by
  unfold serveWriteByte
  cases s.config.protocol <;>
  · dsimp only
    repeat' split
    all_goals first | exact data_answerBoot | rfl

theorem data_serveReadByteData (command : UInt8) : (s.serveReadByteData command).value.data = [] := by
  unfold serveReadByteData serveIdent servePresence
  cases s.config.protocol <;>
  · dsimp only
    repeat' split
    all_goals rfl

theorem data_serveWriteByteData (command value : UInt8) :
    (s.serveWriteByteData command value).value.data = [] := by
  unfold serveWriteByteData
  cases s.config.protocol <;>
  · dsimp only
    repeat' split
    all_goals rfl

/-- What an attempt comes to that is answered: its read buffers are full, and what it stores or loads lies in
the update area. -/
structure Answered (s : Simulator) (r : Request) (reply : Reply r) : Prop where
  filled : reply.data.length = r.room
  inside : ∀ messages frame, r = .transfer messages → s.frame? messages = some frame →
    ∀ first length, frame.extent? = some (first, length) → first + length ≤ 131072

theorem answered_serveTransfer {value : (Request.transfer messages).Value}
    (h : (s.serveTransfer messages).value.result = .ok value) :
    s.Answered (.transfer messages) (s.serveTransfer messages).value := by
  unfold serveTransfer at h ⊢
  cases hframe : s.frame? messages with
  | none =>
    rw [hframe] at h
    cases h
  | some frame =>
    rw [hframe] at h
    by_cases haccepts : s.accepts frame = true
    · have hinside : ∀ first length, frame.extent? = some (first, length) → first + length ≤ imageMax := by
        intro first length hextent
        cases frame <;> cases hextent <;> simp [accepts] at haccepts <;> omega
      dsimp only
      rw [if_pos haccepts]
      refine ⟨?_, ?_⟩
      · rw [room_frame? hframe]
        cases frame with
        | version length => exact length_field _ _
        | store offset bytes => rfl
        | load offset length => exact length_load s (hinside _ _ rfl)
        | address offset length => rfl
      · rintro _ _ ⟨⟩ hsome
        obtain rfl := Option.some.inj (hframe.symm.trans hsome)
        exact hinside
    · dsimp only at h
      rw [if_neg haccepts] at h
      cases h

theorem answered_serve {value : r.Value} (h : (s.serve r).value.result = .ok value) :
    s.Answered r (s.serve r).value := by
  have hempty : ∀ {r : Request}, (∀ messages, r ≠ .transfer messages) → r.room = 0 →
      (s.serve r).value.data = [] → s.Answered r (s.serve r).value := by
    intro r hr hroom hdata
    exact ⟨by rw [hdata, hroom]; rfl, fun messages _ hmessages => absurd hmessages (hr messages)⟩
  cases r with
  | functionality => exact hempty (by simp) rfl rfl
  | readByte => exact hempty (by simp) rfl (by rw [serve]; split <;> rfl)
  | writeByte byte => exact hempty (by simp) rfl (data_serveWriteByte byte)
  | readByteData command => exact hempty (by simp) rfl (data_serveReadByteData command)
  | writeByteData command byte => exact hempty (by simp) rfl (data_serveWriteByteData command byte)
  | readWordData command => exact hempty (by simp) rfl (by rw [serve]; split <;> rfl)
  | writeWordData command value => exact hempty (by simp) rfl rfl
  | readBlock command length =>
    refine ⟨?_, by simp⟩
    rw [serve] at h ⊢
    split at h
    · exact length_field _ _
    · cases h
  | transfer messages => exact answered_serveTransfer h

theorem answered_attempt {value : r.Value} (h : (attempt r s).value.result = .ok value) :
    s.Answered r (attempt r s).value := by
  by_cases hr : r = .functionality
  · subst hr
    exact answered_serve (s := s) (r := .functionality) h
  rw [attempt_eq hr] at h ⊢
  by_cases hboot : s.booting.isSome = true
  · rw [if_pos hboot] at h
    cases h
  · rw [if_neg hboot] at h ⊢
    obtain ⟨hfilled, hinside⟩ := answered_serve h
    exact ⟨hfilled, hinside⟩

/-! ## Any controller that was started -/

theorem transactions_attempt (hr : r ≠ .functionality) :
    (attempt r s).next.counters.transactions = s.counters.transactions + 1 := by
  obtain ⟨hfunctionality, -, -⟩ | hheard := heard_attempt s r
  · exact absurd hfunctionality hr
  · generalize attempt r s = served at hheard ⊢
    cases hheard with
    | refused => rfl
    | answered hchanges =>
      obtain heq | ⟨-, chunks, erases, reboots, -, heq⟩ := counters_changes hchanges <;> rw [heq] <;> rfl

/-- A controller with any configuration and any faults, behind any attempts, delays, connections and plugged
drives. The update area and the channel whose type is read next are what they can be, the counts are in
proportion, and every attempt counts once. An attempt that is refused changes nothing but counts and the
number of identifications that are still withheld, and delivers nothing. One that is answered fills its read
buffers, and what it stores or loads lies in the update area. -/
theorem after_sound (config : Config) (faults : Faults) (steps : List Step) :
    let s := (start config faults).after steps
    s.flash.toList.length = 131072 ∧ s.selected.val < 8 ∧ s.counters.Proportionate ∧
      ∀ r : Request,
        (r ≠ .functionality →
          (attempt r s).next.counters.transactions = s.counters.transactions + 1) ∧
        (∀ e, (attempt r s).value.result = .error e → e = nak ∧ s.Refused (attempt r s)) ∧
        ∀ value, (attempt r s).value.result = .ok value → s.Answered r (attempt r s).value := by
  intro s
  have hstart : (start config faults).counters.Proportionate := ⟨Nat.le_refl _, Nat.le_refl _, Nat.le_refl _⟩
  refine ⟨Vector.length_toList, s.selected.isLt, proportionate_after hstart steps, fun r => ⟨?_, ?_, ?_⟩⟩
  · exact transactions_attempt
  · exact fun _ => refused_attempt
  · exact fun _ => answered_attempt

end Simulator
end Backplane
