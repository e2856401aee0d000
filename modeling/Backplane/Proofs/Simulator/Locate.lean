import Backplane.Proofs.Driver.Locate
import Backplane.Proofs.Shelf.Answers
import Backplane.Proofs.Stream

/-!
# Locate LEDs of a simulated controller

A controller of the newer generation behind calls that set one locate LED or clear all of them. Each LED is
what the last call that says something of it said, nothing else of the controller has changed but its
counts, and it was written to as often as its mask had to be written.

* `LocateCall.behind`, `LocateCall.countWrites`: what the calls make of the LEDs, and how often they write.
* `LocateCall.leaves_perform`: one call.
* `LocateCall.leaves_performEach`: any calls.
-/
namespace Backplane

/-- The locate LEDs of all channels. -/
abbrev Leds := Fin channelCount → Bool

/-- The locate LEDs of a simulated controller. -/
def Simulator.leds (s : Simulator) : Leds := fun channel => hasChannel s.config.locate channel

/-- A call that changes locate LEDs. -/
inductive LocateCall where
  | set (index : Nat) (on : Bool)
  | reset
  deriving DecidableEq, Repr

namespace LocateCall

/-- Makes the call. -/
def perform : LocateCall → DriverM (Except Error Unit)
  | .set index on => (Driver.setLocate index on).run
  | .reset => Driver.resetLocate.run

/-- What a call is answered: a channel that there is not is refused. -/
def answer : LocateCall → Except Error Unit
  | .set index _ => if index < channelCount then .ok () else .error (.invalidChannel index)
  | .reset => .ok ()

/-- What a call says of the LED of a channel. -/
def says? (channel : Fin channelCount) : LocateCall → Option Bool
  | .set index on => if index = channel.val then some on else none
  | .reset => some false

/-- The LEDs behind calls: what the last call that says something of an LED says, and what it was before if
there is none. -/
def behind (leds : Leds) (calls : List LocateCall) : Leds := fun channel =>
  (calls.reverse.findSome? (says? channel)).getD (leds channel)

/-- Whether a call has to write the mask: clearing it is always written, and setting an LED where it changes. -/
def writes (leds : Leds) : LocateCall → Bool
  | .set index on => if h : index < channelCount then leds ⟨index, h⟩ != on else false
  | .reset => true

/-- How often calls have to write the mask. -/
def countWrites (leds : Leds) : List LocateCall → Nat
  | [] => 0
  | call :: rest => (call.writes leds).toNat + countWrites (behind leds [call]) rest

theorem behind_single (leds : Leds) (call : LocateCall) :
    behind leds [call] = fun channel => (call.says? channel).getD (leds channel) := by
  funext channel
  rw [behind, List.reverse_singleton, List.findSome?_singleton]

/-- The LEDs behind calls are those behind the first one, and then behind the others. -/
theorem behind_cons (leds : Leds) (call : LocateCall) (rest : List LocateCall) :
    behind leds (call :: rest) = behind (behind leds [call]) rest := by
  funext channel
  rw [behind_single, behind, List.reverse_cons, List.findSome?_append, List.findSome?_singleton, behind]
  cases rest.reverse.findSome? (says? channel) <;> rfl

theorem behind_set (leds : Leds) (index : Nat) (on : Bool) (channel : Fin channelCount) :
    behind leds [.set index on] channel = if channel.val = index then on else leds channel := by
  rw [behind_single]
  change (if index = channel.val then some on else none).getD (leds channel) = _
  by_cases h : index = channel.val <;> simp [h, eq_comm]

/-- Setting an LED that is as it is asked to be changes nothing, and neither does one that there is not. -/
theorem behind_set_same {leds : Leds} {index : Nat} {on : Bool}
    (h : ∀ channel : Fin channelCount, channel.val = index → leds channel = on) :
    behind leds [.set index on] = leds := by
  funext channel
  rw [behind_set]
  split
  · next heq => exact (h channel heq).symm
  · rfl

/-- Calls leave a controller as it is, but for its LEDs, and for its counts: it was written to as often as
the mask had to be. -/
structure Leaves (s : Simulator) (calls : List LocateCall) (s' : Simulator) : Prop where
  leds : s'.leds = behind s.leds calls
  busWrites : s'.counters.busWrites = s.counters.busWrites + countWrites s.leds calls
  rest : s' = { s with config.locate := s'.config.locate, counters := s'.counters }

variable {s s' t : Simulator} {call : LocateCall} {calls : List LocateCall} {label : String}
  {d d' : Driver} {turns : List Turn}

namespace Leaves

theorem nil (s : Simulator) : Leaves s [] s := ⟨rfl, rfl, rfl⟩

theorem cons (h : Leaves s [call] t) (h' : Leaves t calls s') : Leaves s (call :: calls) s' where
  leds := by rw [h'.leds, h.leds, ← behind_cons]
  busWrites := by
    rw [h'.busWrites, h.busWrites, h.leds, countWrites, countWrites, countWrites]
    omega
  rest := by
    rw [h'.rest, h.rest]

theorem running (h : Leaves s calls s') (hs : s.Running .v1) : s'.Running .v1 := by
  rw [h.rest]
  exact hs

end Leaves

/-- One LED is set. -/
theorem leaves_set {index : Nat} {on : Bool} {outcome : Except Error Unit} (hi : index < channelCount)
    (hd : d.device.operational = true) (hs : s.Running .v1)
    (hways : V1.SetsLocate d index on turns outcome) (h : (Simulator.bus label).Follows s turns s') :
    outcome = .ok () ∧ Leaves s [.set index on] s' := by
  obtain ⟨rfl, ⟨hbit, rfl⟩ | ⟨hbit, rfl⟩⟩ := Simulator.follows_setLocate hi hd hs hways h
  · have hled : s.leds ⟨index, hi⟩ = on := hbit
    refine ⟨rfl, (behind_set_same ?_).symm, ?_, rfl⟩
    · rintro channel rfl
      exact hled
    · rw [countWrites, writes, dif_pos hi, hled, bne_self_eq_false]
      rfl
  · have hled : (s.leds ⟨index, hi⟩ != on) = true := bne_iff_ne.2 hbit
    refine ⟨rfl, ?_, ?_, rfl⟩
    · funext channel
      rw [behind_set]
      exact hasChannel_relit hi channel
    · rw [countWrites, writes, dif_pos hi, hled]
      rfl

/-- One call. -/
theorem leaves_perform {outcome : Except Error Unit} (hp : d.protocol = .v1)
    (hd : d.device.operational = true) (hs : s.Running .v1) (hrun : Runs call.perform d turns outcome d')
    (h : (Simulator.bus label).Follows s turns s') :
    outcome = call.answer ∧ d.Like d' ∧ Leaves s [call] s' := by
  cases call with
  | set index on =>
    have hrun := Driver.tries_byProtocol.1 hrun
    rw [hp] at hrun
    by_cases hi : index < channelCount
    · obtain ⟨hways, hlike⟩ := V1.runs_setLocate hi hrun
      obtain ⟨rfl, hleaves⟩ := leaves_set hi hd hs hways h
      exact ⟨(if_pos hi).symm, hlike, hleaves⟩
    · rw [V1.setLocate, Driver.tries_checkChannel_bind, if_neg hi] at hrun
      obtain ⟨rfl, rfl, rfl⟩ := hrun
      obtain rfl := h
      refine ⟨(if_neg hi).symm, .refl _, (behind_set_same ?_).symm, ?_, rfl⟩
      · rintro channel rfl
        exact absurd channel.isLt hi
      · rw [countWrites, writes, dif_neg hi]
        rfl
  | reset =>
    have hrun := Driver.tries_byProtocol.1 hrun
    rw [hp] at hrun
    obtain ⟨result, hputs, rfl, hlike⟩ := Driver.puts_communicate hrun
    obtain ⟨rfl, rfl⟩ := Simulator.follows_puts (Simulator.answers_locate_all 0 hs) hd hputs h
    rw [Simulator.attempt_writeLocate 0 hs]
    refine ⟨rfl, hlike, ?_, rfl, rfl⟩
    funext channel
    rw [behind_single]
    exact (hasChannel_eq 0 channel.isLt).trans (Nat.zero_testBit _)

/-- Any calls, one behind the other. -/
theorem leaves_performEach {outcomes : List (Except Error Unit)} (hp : d.protocol = .v1)
    (hd : d.device.operational = true) (hs : s.Running .v1)
    (hrun : Runs (calls.mapM perform) d turns outcomes d') (h : (Simulator.bus label).Follows s turns s') :
    outcomes = calls.map answer ∧ d.Like d' ∧ Leaves s calls s' := by
  induction calls generalizing d s turns outcomes with
  | nil =>
    rw [List.mapM_nil] at hrun
    obtain ⟨rfl, rfl, rfl⟩ := runs_pure.1 hrun
    obtain rfl := h
    exact ⟨rfl, .refl _, .nil _⟩
  | cons call calls ih =>
    rw [List.mapM_cons] at hrun
    obtain ⟨first, outcome, mid, _, rfl, hfirst, hrun⟩ := runs_bind.1 hrun
    obtain ⟨later, hrest, rfl⟩ := runs_bind_pure.1 hrun
    obtain ⟨t, hbefore, hafter⟩ := Bus.follows_append.1 h
    obtain ⟨rfl, hlike, hleaves⟩ := leaves_perform hp hd hs hfirst hbefore
    obtain ⟨rfl, hlikes, hothers⟩ := ih (hlike.protocol_eq.trans hp) (hlike.operational_eq.trans hd)
      (hleaves.running hs) hrest hafter
    exact ⟨rfl, hlike.trans hlikes, hleaves.cons hothers⟩

/-- Setting a locate LED of the newer generation is one read of the mask, and one write of it with that bit
changed where the bit is not what it is asked to be, whatever the bus answers. So behind any calls on a
running simulated controller each LED is what the last call that says something of it said, and the
controller was written to once for each call that cleared the LEDs or changed one. -/
theorem leaves_run {σ : Type} (site : Site σ) (bench : Bench σ) (name : String) (board : Bench Simulator)
    (d : Driver) (calls : List LocateCall) (hp : d.protocol = .v1) :
    (∀ index < channelCount, ∀ on : Bool,
      let set := (Driver.setLocate index on).run
      V1.SetsLocate d index on (site.trail set (d, bench)) (site.play set (d, bench)).1 ∧
        d.Like (site.play set (d, bench)).2.1) ∧
      (d.device.operational = true → board.state.Running .v1 →
        let ran := (Simulator.bus name).site.play (calls.mapM perform) (d, board)
        ran.1 = calls.map answer ∧ d.Like ran.2.1 ∧ Leaves board.state calls ran.2.2.state) := by
  refine ⟨?any, ?simulated⟩
  case any =>
    intro index hi on
    have hrun := Driver.tries_byProtocol.1 (site.runs_trail (Driver.setLocate index on).run (d, bench))
    rw [hp] at hrun
    exact V1.runs_setLocate hi hrun
  case simulated =>
    intro hd hs
    exact leaves_performEach hp hd hs ((Simulator.bus name).site.runs_trail _ (d, board))
      (Bus.follows_moves ..)

/-- An LED is set twice, one that there is not is refused, all are cleared, and another one is set: three
writes, and one LED is on. -/
theorem leaves_run_blank :
    let d := Driver.ofDevice ⟨"bp", true, .none⟩ .v1
    let board : Bench Simulator := ⟨.start (.blank .v1) {}, #[]⟩
    let ran := (Simulator.bus "bp").site.play
      (List.mapM perform [.set 3 true, .set 3 true, .set 9 true, .reset, .set 0 true]) (d, board)
    ran.1 = [.ok (), .ok (), .error (.invalidChannel 9), .ok (), .ok ()] ∧
      (∀ channel, ran.2.2.state.leds channel = decide (channel.val = 0)) ∧
      ran.2.2.state.counters.busWrites = 3 := by
  intro d board ran
  have hrun : ran.1 = _ ∧ _ ∧ Leaves _ _ ran.2.2.state :=
    (leaves_run (Simulator.bus "bp").site board "bp" board d _ rfl).2 rfl ⟨rfl, rfl⟩
  -- From here on the run is what the theorem says of it.
  clear_value ran
  obtain ⟨hanswers, -, hleaves⟩ := hrun
  have hdark : board.state.leds = fun _ => false := by
    funext channel
    exact (hasChannel_eq 0 channel.isLt).trans (Nat.zero_testBit _)
  refine ⟨hanswers, fun channel => ?_, ?_⟩
  · rw [hleaves.leds, hdark]
    revert channel
    decide
  · rw [hleaves.busWrites, hdark]
    rfl

end LocateCall
end Backplane
