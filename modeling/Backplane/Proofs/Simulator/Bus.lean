import Backplane.Proofs.Driver.Traffic
import Backplane.Proofs.Simulator.Memory
import Backplane.Simulator.Bus

/-!
# Turns of a simulated controller

What a simulated controller does in one turn, and what it does while one request is repeated. An
attempt that fails leaves nothing but counts behind, so `core` leaves the counts of attempts out; a
controller that runs stays so until it is told to reboot, and flash changes by writes and erasures.

* `attempt_error`: failed attempts.
* `running_serves`, `flash_serves`, `nakIdent_serves`: what a turn leaves alone.
* `follows_settles`: a request that is repeated comes down to its last attempt.
-/
namespace Backplane.Simulator

variable {s s' t : Simulator} {r : Request} {turn : Turn} {turns : List Turn} {label : String}

/-- A controller without what attempts leave behind: their counts, and a place for flash data. -/
def core (s : Simulator) : Simulator :=
  { s with
    counters := { s.counters with transactions := 0, busWrites := 0, identReads := 0 }
    faults := { s.faults with nakIdent := 0 }
    flashAddress := none }

@[simp] theorem core_count (s : Simulator) (r : Request) : (s.count r).core = s.core := rfl

@[simp] theorem core_store (s : Simulator) (offset : UInt32) (bytes : List UInt8) :
    (s.store offset bytes).core = s.core.store offset bytes := rfl

theorem settleBoot_core (s : Simulator) :
    (settleBoot s).1 = (settleBoot s.core).1 ∧ (settleBoot s).2.core = (settleBoot s.core).2 := by
  unfold settleBoot
  rw [show s.core.booting = s.booting from rfl]
  cases s.booting with
  | none => exact ⟨rfl, rfl⟩
  | some elapsed =>
    by_cases h : (s.faults.bootTime ≤ elapsed && !s.faults.neverReturn) = true
    · have hcore : (s.core.faults.bootTime ≤ elapsed && !s.core.faults.neverReturn) = true := h
      dsimp only
      rw [if_pos h, if_pos hcore]
      exact ⟨rfl, rfl⟩
    · have hcore : ¬ (s.core.faults.bootTime ≤ elapsed && !s.core.faults.neverReturn) = true := h
      dsimp only
      rw [if_neg h, if_neg hcore]
      exact ⟨rfl, rfl⟩

/-- A reboot is not over when that much time has gone by. -/
def Faults.StillBoots (f : Faults) (elapsed : Nat) : Prop := elapsed < f.bootTime ∨ f.neverReturn = true

instance (f : Faults) (elapsed : Nat) : Decidable (f.StillBoots elapsed) :=
  inferInstanceAs (Decidable (_ ∨ _))

theorem settleBoot_still {elapsed : Nat} (hboot : s.booting = some elapsed)
    (h : s.faults.StillBoots elapsed) : settleBoot s = (false, s) := by
  unfold settleBoot
  rw [hboot]
  refine if_neg ?_
  obtain hless | hnever := h
  · simp [Nat.not_le.2 hless]
  · simp [hnever]

theorem settleBoot_over {elapsed : Nat} (hboot : s.booting = some elapsed)
    (h : ¬ s.faults.StillBoots elapsed) : settleBoot s = (true, s.finishBoot) := by
  unfold settleBoot
  rw [hboot]
  refine if_pos ?_
  obtain ⟨hover, hreturn⟩ := not_or.1 h
  simp [Nat.le_of_not_lt hover, hreturn]

theorem core_reboot (s : Simulator) : s.reboot.2.core = s.core.reboot.2 :=
  (settleBoot_core _).2

theorem core_elapse (s : Simulator) (us : UInt32) : (s.elapse us).2.core = (s.core.elapse us).2 :=
  (settleBoot_core _).2

/-- The controller is running and speaks a generation. -/
def Running (p : Protocol) (s : Simulator) : Prop := s.booting = none ∧ s.config.protocol = p

theorem running_of_core {p : Protocol} (h : t.core = s.core) (hs : s.Running p) : t.Running p := by
  have hboot : t.booting = s.booting := congrArg (·.booting) h
  have hconfig : t.config = s.config := congrArg (·.config) h
  exact ⟨hboot.trans hs.1, hconfig ▸ hs.2⟩

/-- Faults that do not keep an update from its end. -/
structure Faults.Harmless (f : Faults) : Prop where
  failChunk : f.failChunk = none
  corruptChunk : f.corruptChunk = none
  missingFunctionality : f.missingFunctionality = false
  connectFails : f.connectFails = false
  neverReturn : f.neverReturn = false

theorem harmless_of_core (h : t.core = s.core) (hs : s.faults.Harmless) : t.faults.Harmless := by
  have hcore : t.core.faults.Harmless := h ▸ ⟨hs.1, hs.2, hs.3, hs.4, hs.5⟩
  exact ⟨hcore.1, hcore.2, hcore.3, hcore.4, hcore.5⟩

/-! ## Attempts -/

theorem frameV0?_store {messages : List Message} {offset : UInt32} {bytes : List UInt8}
    (h : frameV0? messages = some (.store offset bytes)) :
    (Request.transfer messages).activity = .flashWrite := by
  unfold frameV0? at h
  split at h
  · next frame =>
    match frame, h with
    | op :: _ :: _ :: _ :: _ :: _ :: _ :: _, h =>
      simp only [Flash.parseHeader] at h
      split at h
      · next hop =>
        obtain ⟨rfl, -⟩ := hop
        rfl
      · cases h
  · split at h
    · cases h
    · split at h
      · split at h <;> cases h
      · cases h
  · cases h

theorem frameV0?_address {messages : List Message} {offset : UInt32} {length : Nat} :
    frameV0? messages ≠ some (.address offset length) := by
  unfold frameV0?
  split
  · split
    · split <;> simp
    · simp
  · split
    · simp
    · split
      · split <;> simp
      · simp
  · simp

theorem frameV1?_activity {address : Option (UInt32 × Nat)} {messages : List Message} {frame : Frame}
    (h : frameV1? address messages = some frame) :
    (∃ offset bytes, frame = .store offset bytes) ∨ (∃ offset length, frame = .address offset length) →
      (Request.transfer messages).activity = .flashWrite := by
  unfold frameV1? at h
  split at h
  · split at h
    · next hcommand =>
      subst hcommand
      exact fun _ => rfl
    · split at h
      · next hcommand =>
        subst hcommand
        exact fun _ => rfl
      · cases h
  · split at h
    · split at h
      · cases h
        simp
      · cases h
    · cases h
  · cases h

/-- A frame that stores data or announces its place writes flash. -/
theorem frame?_activity {messages : List Message} {frame : Frame} (h : s.frame? messages = some frame)
    (hframe : (∃ offset bytes, frame = .store offset bytes) ∨
      ∃ offset length, frame = .address offset length) :
    (Request.transfer messages).activity = .flashWrite := by
  unfold frame? at h
  cases hp : s.config.protocol with
  | v0 =>
    rw [hp] at h
    obtain ⟨offset, bytes, rfl⟩ | ⟨offset, length, rfl⟩ := hframe
    · exact frameV0?_store h
    · exact absurd h frameV0?_address
  | v1 =>
    rw [hp] at h
    exact frameV1?_activity h hframe

/-- What an answered request changes. -/
inductive Changes (s : Simulator) (r : Request) : Simulator → Prop
  /-- Something beside flash and boot: what the host set, and what was read once. -/
  | settings {hostPower : Option Bool} {latch locate : UInt8} {selected : Fin channelCount}
      {glitches : Nat} :
      Changes s r { s with
        hostPower := hostPower
        latch := latch
        selected := selected
        config.locate := locate
        faults.glitchPresence := glitches }
  | rebooted (hr : r.activity = .reboot) : Changes s r s.reboot.2
  | erased (hr : r.activity = .erase) : Changes s r s.erase
  | addressed {address : UInt32 × Nat} (hr : r.activity = .flashWrite) :
      Changes s r { s with flashAddress := some address }
  | stored {offset : UInt32} {bytes : List UInt8} (hr : r.activity = .flashWrite)
      (haccepts : s.accepts (.store offset bytes) = true) : Changes s r (s.store offset bytes)

theorem Changes.nothing : Changes s r s := .settings

/-- A request was answered, or it was refused: then nothing was delivered and nothing changed but the
number of withheld identifications. -/
inductive Heard (s : Simulator) : Served (Reply r) Simulator → Prop
  | answered {value : r.Value} {data : List UInt8} {next : Simulator} {events : List Event}
      (hnext : Changes s r next) : Heard s ⟨⟨.ok value, data⟩, next, events⟩
  | refused {n : Nat} (hn : n ≤ s.faults.nakIdent) :
      Heard s ⟨.fail nak, { s with faults.nakIdent := n }, []⟩

theorem heard_refuse : Heard s (refuse s : Served (Reply r) Simulator) := .refused (Nat.le_refl _)

theorem heard_answer {value : r.Value} (h : Changes s r t) : Heard s (answer value t) := .answered h

theorem heard_answerBoot {value : r.Value} {outcome : Bool × Simulator}
    (h : Changes s r outcome.2) : Heard s (answerBoot value outcome) := by
  obtain ⟨_ | _, _⟩ := outcome <;> exact .answered h

theorem heard_serveWriteByte (value : UInt8) : Heard s (s.serveWriteByte value) := by
  unfold serveWriteByte
  cases s.config.protocol with
  | v0 =>
    dsimp only
    split
    · next h => exact heard_answerBoot (.rebooted (h ▸ rfl))
    · split
      · next h => exact heard_answer (.erased (h ▸ rfl))
      · split
        · exact heard_answer .settings
        · split
          · exact heard_answer .settings
          · exact heard_refuse
  | v1 =>
    dsimp only
    split
    · next h => exact heard_answerBoot (.rebooted (h ▸ rfl))
    · split
      · next h => exact heard_answer (.erased (h ▸ rfl))
      · exact heard_refuse

theorem heard_serveIdent (command : UInt8) : Heard s (s.serveIdent command) := by
  unfold serveIdent
  split
  · exact heard_answer .nothing
  · exact .refused (Nat.sub_le _ _)

theorem heard_servePresence (command : UInt8) : Heard s (s.servePresence command) := by
  unfold servePresence
  split <;> exact heard_answer .settings

theorem heard_serveReadByteData (command : UInt8) : Heard s (s.serveReadByteData command) := by
  unfold serveReadByteData
  split
  · exact heard_serveIdent command
  · cases s.config.protocol <;>
    · dsimp only
      repeat' split
      all_goals
        first
        | exact heard_servePresence command
        | exact heard_answer .settings
        | exact heard_refuse

theorem heard_serveWriteByteData (command value : UInt8) :
    Heard s (s.serveWriteByteData command value) := by
  unfold serveWriteByteData
  cases s.config.protocol <;>
  · dsimp only
    repeat' split
    all_goals first | exact heard_answer .settings | exact heard_refuse

theorem heard_serveTransfer (messages : List Message) : Heard s (s.serveTransfer messages) := by
  unfold serveTransfer
  split
  · next frame hframe =>
    split
    · next haccepts =>
      refine .answered ?_
      cases frame with
      | version n => exact .nothing
      | store offset bytes =>
        exact .stored (frame?_activity hframe (.inl ⟨offset, bytes, rfl⟩)) haccepts
      | load offset length => exact .nothing
      | address offset length =>
        exact .addressed (frame?_activity hframe (.inr ⟨offset, length, rfl⟩))
    · exact heard_refuse
  · exact heard_refuse

/-- Everything a controller that runs can do about a request. -/
theorem heard_serve (s : Simulator) (r : Request) : Heard s (s.serve r) := by
  cases r with
  | functionality => exact heard_answer .nothing
  | readByte =>
    rw [serve]
    cases s.config.protocol
    · exact heard_answer .nothing
    · exact heard_refuse
  | writeByte value => exact heard_serveWriteByte value
  | readByteData command => exact heard_serveReadByteData command
  | writeByteData command value => exact heard_serveWriteByteData command value
  | readWordData command =>
    rw [serve]
    split
    · exact heard_answer .nothing
    · exact heard_refuse
  | writeWordData command value => exact heard_refuse
  | readBlock command length =>
    rw [serve]
    cases s.blockField? command
    · exact heard_refuse
    · exact .answered .nothing
  | transfer messages => exact heard_serveTransfer messages

/-- Every attempt but the question for the functionality is counted and may go unheard. -/
theorem attempt_eq (hr : r ≠ .functionality) :
    attempt r s = if s.booting.isSome then refuse (s.count r) else (s.count r).serve r := by
  cases r with
  | functionality => exact absurd rfl hr
  | _ => rfl

/-- Everything a controller can do about an attempt: it is counted, except for the question for the
functionality, and then heard. -/
theorem heard_attempt (s : Simulator) (r : Request) :
    r = .functionality ∧ (attempt r s).next = s ∧ (∃ value, (attempt r s).value = .ok value) ∨
      Heard (s.count r) (attempt r s) := by
  by_cases hr : r = .functionality
  · subst hr
    exact .inl ⟨rfl, rfl, _, rfl⟩
  · rw [attempt_eq hr]
    split
    · exact .inr heard_refuse
    · exact .inr (heard_serve _ r)

/-! ## What attempts leave alone -/

/-- Both controllers are the same, but for counts of attempts. -/
def Alike (s t : Simulator) : Prop := t.core = s.core ∧ t.flashAddress = s.flashAddress

namespace Alike

theorem refl (s : Simulator) : s.Alike s := ⟨rfl, rfl⟩

theorem trans {u : Simulator} (h : s.Alike t) (h' : t.Alike u) : s.Alike u :=
  ⟨h'.1.trans h.1, h'.2.trans h.2⟩

theorem flash_eq (h : s.Alike t) : t.flash = s.flash := congrArg (·.flash) h.1

theorem config_eq (h : s.Alike t) : t.config = s.config := congrArg (·.config) h.1

theorem booting_eq (h : s.Alike t) : t.booting = s.booting := congrArg (·.booting) h.1

theorem running {p : Protocol} (h : s.Alike t) (hs : s.Running p) : t.Running p :=
  running_of_core h.1 hs

end Alike

theorem alike_count : s.Alike (s.count r) := ⟨rfl, rfl⟩

/-- An attempt that fails was refused. -/
theorem refused_of_error {e : BusError} (h : (attempt r s).value.result = .error e) :
    ∃ n, attempt r s = ⟨.fail nak, { s.count r with faults.nakIdent := n }, []⟩ := by
  obtain ⟨-, -, value, hvalue⟩ | hheard := heard_attempt s r
  · rw [hvalue] at h
    cases h
  · generalize attempt r s = served at h hheard
    cases hheard with
    | answered => cases h
    | refused => exact ⟨_, rfl⟩

/-- It delivers nothing and leaves nothing but counts behind. -/
theorem attempt_error {e : BusError} (h : (attempt r s).value.result = .error e) :
    (attempt r s).value.data = [] ∧ s.Alike (attempt r s).next := by
  obtain ⟨n, hrefused⟩ := refused_of_error h
  rw [hrefused]
  exact ⟨rfl, rfl, rfl⟩

theorem nakIdent_changes (h : Changes s r t) : t.faults.nakIdent = s.faults.nakIdent := by
  cases h with
  | rebooted =>
    unfold reboot settleBoot
    dsimp only
    split <;> rfl
  | _ => rfl

/-- Identifications are only withheld as often as they were to be. -/
theorem nakIdent_attempt (s : Simulator) (r : Request) :
    (attempt r s).next.faults.nakIdent ≤ s.faults.nakIdent := by
  obtain ⟨-, hnext, -⟩ | hheard := heard_attempt s r
  · exact Nat.le_of_eq (congrArg (·.faults.nakIdent) hnext)
  · change _ ≤ (s.count r).faults.nakIdent
    generalize attempt r s = served at hheard ⊢
    cases hheard with
    | answered hnext => exact Nat.le_of_eq (nakIdent_changes hnext)
    | refused hn => exact hn

/-- A controller that runs does so until it is told to reboot. -/
theorem running_attempt {p : Protocol} (hr : r.activity ≠ .reboot) (h : s.Running p) :
    (attempt r s).next.Running p := by
  obtain ⟨-, hnext, -⟩ | hheard := heard_attempt s r
  · rwa [hnext]
  · generalize attempt r s = served at hheard ⊢
    cases hheard with
    | answered hnext =>
      cases hnext with
      | rebooted hreboot => exact absurd hreboot hr
      | _ => exact h
    | refused => exact h

theorem flash_reboot (s : Simulator) : s.reboot.2.flash = s.flash := by
  unfold reboot settleBoot
  dsimp only
  split <;> rfl

/-- Flash is changed by writes and erasures only. -/
theorem flash_attempt (hwrite : r.activity ≠ .flashWrite) (herase : r.activity ≠ .erase) :
    (attempt r s).next.flash = s.flash := by
  obtain ⟨-, hnext, -⟩ | hheard := heard_attempt s r
  · rw [hnext]
  · generalize attempt r s = served at hheard ⊢
    cases hheard with
    | answered hnext =>
      cases hnext with
      | settings => rfl
      | rebooted => exact flash_reboot _
      | erased h => exact absurd h herase
      | addressed => rfl
      | stored h => exact absurd h hwrite
    | refused => rfl

/-! ## Turns -/

/-- A controller that was running meanwhile. -/
def paused (s : Simulator) (us : UInt32) : Simulator :=
  { s with counters.delay := s.counters.delay + us.toNat }

theorem elapse_running {p : Protocol} (h : s.Running p) (us : UInt32) :
    s.elapse us = (false, s.paused us) := by
  obtain ⟨hboot, -⟩ := h
  cases s
  obtain rfl := hboot
  rfl

theorem elapse_fields (s : Simulator) (us : UInt32) :
    (s.elapse us).2.flash = s.flash ∧ (s.elapse us).2.faults.nakIdent = s.faults.nakIdent := by
  unfold elapse settleBoot
  cases s.booting with
  | none => exact ⟨rfl, rfl⟩
  | some elapsed =>
    dsimp only [Option.map_some]
    split <;> exact ⟨rfl, rfl⟩

theorem delay_next (label : String) (us : UInt32) :
    ((bus label).delay us s).next = (s.elapse us).2 := by
  change (delay us s).next = _
  unfold delay
  split <;> simp [*]

/-- Time that passes for a running controller. -/
theorem follows_delayed {p : Protocol} {us : UInt32} (hs : s.Running p) :
    (bus label).Follows s (.delayed us :: turns) s' ↔ (bus label).Follows (s.paused us) turns s' := by
  rw [Bus.follows_cons]
  constructor
  · intro h
    obtain ⟨mid, rfl, hrest⟩ := h
    rwa [delay_next, elapse_running hs] at hrest
  · intro hrest
    exact ⟨_, rfl, by rwa [delay_next, elapse_running hs]⟩

theorem connect_next (label : String) :
    ((bus label).connect s).next =
      if s.faults.connectFails then s
      else { s with counters.connects := s.counters.connects + 1 } := by
  change (connect label s).next = _
  unfold connect
  split <;> rfl

theorem nakIdent_serves (h : (bus label).Serves s turn s') : s'.faults.nakIdent ≤ s.faults.nakIdent := by
  obtain ⟨a, answer⟩ := turn
  cases a with
  | connect =>
    obtain ⟨-, rfl⟩ := h
    rw [connect_next]
    split <;> exact Nat.le_refl _
  | attempt r =>
    obtain ⟨-, rfl⟩ := h
    exact nakIdent_attempt s r
  | delay us =>
    obtain rfl := h
    rw [delay_next]
    exact Nat.le_of_eq (elapse_fields s us).2
  | _ =>
    obtain rfl := h
    exact Nat.le_refl _

/-- A controller that runs does so until it is told to reboot. -/
theorem running_serves {p : Protocol} (hs : s.Running p) (hturn : turn.activity ≠ .reboot)
    (h : (bus label).Serves s turn s') : s'.Running p := by
  obtain ⟨a, answer⟩ := turn
  cases a with
  | connect =>
    obtain ⟨-, rfl⟩ := h
    rw [connect_next]
    split <;> exact hs
  | attempt r =>
    obtain ⟨-, rfl⟩ := h
    exact running_attempt hturn hs
  | delay us =>
    obtain rfl := h
    rw [delay_next, elapse_running hs]
    exact hs
  | _ =>
    obtain rfl := h
    exact hs

/-- Flash is changed by writes and erasures that are answered. -/
theorem flash_serves (hwrite : turn.activity ≠ .flashWrite)
    (herase : turn.activity = .erase → turn.Fails) (h : (bus label).Serves s turn s') :
    s'.flash = s.flash := by
  obtain ⟨a, answer⟩ := turn
  cases a with
  | connect =>
    obtain ⟨-, rfl⟩ := h
    rw [connect_next]
    split <;> rfl
  | attempt r =>
    obtain ⟨rfl, rfl⟩ := h
    by_cases hr : r.activity = .erase
    · obtain ⟨e, he⟩ := herase hr
      exact (attempt_error he).2.flash_eq
    · exact flash_attempt hwrite hr
  | delay us =>
    obtain rfl := h
    rw [delay_next, (elapse_fields s us).1]
  | _ =>
    obtain rfl := h
    rfl

theorem nakIdent_follows (h : (bus label).Follows s turns s') :
    s'.faults.nakIdent ≤ s.faults.nakIdent :=
  h.preserves (I := fun t => t.faults.nakIdent ≤ s.faults.nakIdent) (P := fun _ => True)
    (fun ht _ hserves => Nat.le_trans (nakIdent_serves hserves) ht) (fun _ _ => trivial) (Nat.le_refl _)

theorem running_follows {p : Protocol} (hs : s.Running p) (hturns : ∀ turn ∈ turns, turn.activity ≠ .reboot)
    (h : (bus label).Follows s turns s') : s'.Running p :=
  h.preserves (fun ht hturn hserves => running_serves ht hturn hserves) hturns hs

theorem flash_follows (hturns : ∀ turn ∈ turns, turn.activity ≠ .flashWrite ∧
    (turn.activity = .erase → turn.Fails)) (h : (bus label).Follows s turns s') :
    s'.flash = s.flash :=
  h.preserves (I := fun t => t.flash = s.flash)
    (fun ht hturn hserves => (flash_serves hturn.1 hturn.2 hserves).trans ht) hturns rfl

/-! ## Repeated requests -/

/-- Replies that are failures. -/
theorem follows_failed {failed : List (Reply r)}
    (hfailed : ∀ reply ∈ failed, ∃ e, reply.result = .error e)
    (h : (bus label).Follows s (tries r failed) t) :
    s.Alike t ∧ ∀ buffer, delivered buffer failed = buffer := by
  induction failed generalizing s with
  | nil =>
    obtain rfl := h
    exact ⟨.refl _, fun _ => rfl⟩
  | cons reply failed ih =>
    obtain ⟨mid, ⟨rfl, rfl⟩, hrest⟩ := h
    rw [List.forall_mem_cons] at hfailed
    obtain ⟨⟨e, he⟩, hfailed⟩ := hfailed
    obtain ⟨hdata, hmid⟩ := attempt_error he
    obtain ⟨hlike, hdelivered⟩ := ih hfailed hrest
    refine ⟨hmid.trans hlike, fun buffer => ?_⟩
    rw [delivered_cons, hdelivered]
    change overlay buffer (attempt r s).value.data = buffer
    rw [hdata, overlay_nil]

/-- A request that is repeated comes down to its last attempt. -/
theorem follows_settles {most : Nat} {replies : List (Reply r)} {result : Except BusError r.Value}
    (hsettles : Settles most replies result) (h : (bus label).Follows s (tries r replies) s') :
    ∃ t, s.Alike t ∧ (attempt r t).value.result = result ∧ s' = (attempt r t).next ∧
      ∀ buffer, delivered buffer replies = overlay buffer (attempt r t).value.data := by
  obtain ⟨failed, last, rfl, hfailed, rfl, -, -⟩ := hsettles
  rw [tries_append, Bus.follows_append] at h
  obtain ⟨t, hfirst, mid, ⟨rfl, rfl⟩, rfl⟩ := h
  obtain ⟨hlike, hdelivered⟩ := follows_failed hfailed hfirst
  refine ⟨t, hlike, rfl, rfl, fun buffer => ?_⟩
  rw [delivered_append, hdelivered]
  rfl

/-- A request that failed in the end. -/
theorem follows_error {most : Nat} {replies : List (Reply r)} {e : BusError}
    (hsettles : Settles most replies (.error e)) (h : (bus label).Follows s (tries r replies) s') :
    s.Alike s' := by
  obtain ⟨t, hlike, hresult, rfl, -⟩ := follows_settles hsettles h
  exact hlike.trans (attempt_error hresult).2

end Backplane.Simulator
