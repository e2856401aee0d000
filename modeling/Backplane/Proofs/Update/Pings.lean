import Backplane.Proofs.Update.Traffic

/-!
# Pings behind a reboot

The pings of an update are a row of silent ones, each told to the observer with its number, and at
most one that is answered behind them. The numbers start at 1 and leave nothing out, and where
nobody answered there are exactly as many pings as the options allow.

* `silentPings`: the row, from any number on.
* `Awaits.pings`: waiting is nothing else.
-/
namespace Backplane.Update

variable {options : UpdateOptions} {turns : List Turn}

/-- One ping that nobody answered: every attempt at it failed. -/
def Unanswered (replies : List (Reply identRequest)) : Prop :=
  ∃ e, Settles Device.attemptsMax replies (.error e)

/-- Pings that nobody answered, the first of them with this number. -/
def silentPings (options : UpdateOptions) : (number : Nat) → List (List (Reply identRequest)) → List Turn
  | _, [] => []
  | number, replies :: rest =>
    .delayed options.pingInterval :: tries identRequest replies ++
      .told (.pingFailed (.ofNat number) options.pingAttempts) :: silentPings options (number + 1) rest

/-- The ways the pings behind a reboot end. -/
inductive Pings (options : UpdateOptions) : List Turn → Except Error UInt32 → Prop
  | unanswered {silent : List (List (Reply identRequest))}
      (hsilent : ∀ replies ∈ silent, Unanswered replies)
      (hlength : silent.length = options.pingAttempts.toNat) :
      Pings options (silentPings options 1 silent) (.error (.deviceDidNotReturn options.pingAttempts))
  | answered {silent : List (List (Reply identRequest))} {replies : List (Reply identRequest)}
      {byte : UInt8} {n : UInt32} (hsilent : ∀ replies ∈ silent, Unanswered replies)
      (hping : Settles Device.attemptsMax replies (.ok byte))
      (hn : n.toNat = silent.length + 1) (hle : n ≤ options.pingAttempts) :
      Pings options
        (silentPings options 1 silent ++ .delayed options.pingInterval :: tries identRequest replies)
        (.ok n)

/-- What an observer is told of silent pings. -/
theorem notices_silentPings (number : Nat) (silent : List (List (Reply identRequest))) :
    notices (silentPings options number silent) =
      (List.range' number silent.length).map fun k => .pingFailed (.ofNat k) options.pingAttempts := by
  induction silent generalizing number with
  | nil => rfl
  | cons replies rest ih =>
    have hping : notices (.delayed options.pingInterval :: tries identRequest replies) = [] :=
      notices_tries (by simp)
    rw [silentPings, notices_append, hping, notices_told, ih, List.length_cons, List.range'_succ,
      List.map_cons, List.nil_append]

/-- Waiting with some pings left: the silent ones are counted on from those before. -/
theorem Awaits.exists_silent {left : Nat} {r : Except Error UInt32} (h : Awaits options left turns r)
    (hleft : left ≤ options.pingAttempts.toNat) :
    ∃ silent : List (List (Reply identRequest)), (∀ replies ∈ silent, Unanswered replies) ∧
      (silent.length = left ∧
          turns = silentPings options (options.pingAttempts.toNat - left + 1) silent ∧
          r = .error (.deviceDidNotReturn options.pingAttempts) ∨
        ∃ replies byte, silent.length < left ∧
          turns = silentPings options (options.pingAttempts.toNat - left + 1) silent ++
            .delayed options.pingInterval :: tries identRequest replies ∧
          Settles Device.attemptsMax replies (.ok byte) ∧
          r = .ok (.ofNat (options.pingAttempts.toNat - left + silent.length + 1))) := by
  -- The number of the next ping, as the loop computes it.
  have hnumber : ∀ {left}, left + 1 ≤ options.pingAttempts.toNat →
      options.pingAttempts.toNat - (left + 1) + 1 = options.pingAttempts.toNat - left := by
    omega
  induction h with
  | exhausted => exact ⟨[], by simp, .inl ⟨rfl, rfl, rfl⟩⟩
  | @answered left replies byte hping =>
    refine ⟨[], by simp, .inr ⟨replies, byte, by simp, rfl, hping, ?_⟩⟩
    rw [List.length_nil, Nat.add_zero, hnumber hleft]
  | @silent left replies e rest r hping hrest ih =>
    obtain ⟨silent, hsilent, hend⟩ := ih (by omega)
    refine ⟨replies :: silent, List.forall_mem_cons.2 ⟨⟨e, hping⟩, hsilent⟩, ?_⟩
    rw [hnumber hleft]
    obtain ⟨hlength, rfl, rfl⟩ | ⟨answer, byte, hlength, rfl, hanswer, rfl⟩ := hend
    · exact .inl ⟨by rw [List.length_cons, hlength], rfl, rfl⟩
    · refine .inr ⟨answer, byte, by simpa using hlength, ?_, hanswer, ?_⟩
      · simp [silentPings]
      · rw [List.length_cons]
        congr 2
        omega

/-- Behind a reboot the numbers of the pings start at 1. -/
theorem Awaits.pings {r : Except Error UInt32}
    (h : Awaits options options.pingAttempts.toNat turns r) : Pings options turns r := by
  obtain ⟨silent, hsilent, ⟨hlength, rfl, rfl⟩ | ⟨replies, byte, hlength, rfl, hping, rfl⟩⟩ :=
    h.exists_silent (Nat.le_refl _)
  · rw [Nat.sub_self]
    exact .unanswered hsilent hlength
  · simp only [Nat.sub_self, Nat.zero_add]
    have hbound := options.pingAttempts.toNat_lt
    have hn : (UInt32.ofNat (silent.length + 1)).toNat = silent.length + 1 := by
      rw [UInt32.toNat_ofNat']
      exact Nat.mod_eq_of_lt (by omega)
    refine .answered hsilent hping hn ?_
    rw [UInt32.le_iff_toNat_le, hn]
    exact hlength

namespace Pings

/-- Why the pings end an update: none of them was answered. -/
theorem unanswered_inv {e : Error} (h : Pings options turns (.error e)) :
    e = .deviceDidNotReturn options.pingAttempts ∧
      ∃ silent, turns = silentPings options 1 silent ∧ (∀ replies ∈ silent, Unanswered replies) ∧
        silent.length = options.pingAttempts.toNat := by
  cases h with
  | unanswered hsilent hlength => exact ⟨rfl, _, rfl, hsilent, hlength⟩

/-- What an observer is told of pings of which one was answered is what it is told of the silent ones. -/
theorem notices_answered {n : UInt32} (h : Pings options turns (.ok n)) :
    ∃ silent, n.toNat = silent + 1 ∧ notices turns =
      (List.range' 1 silent).map fun k => .pingFailed (.ofNat k) options.pingAttempts := by
  cases h with
  | @answered silent replies byte n hsilent hping hn =>
    have hanswer : notices (.delayed options.pingInterval :: tries identRequest replies) = [] :=
      notices_tries (by simp)
    exact ⟨silent.length, hn, by rw [notices_append, notices_silentPings, hanswer, List.append_nil]⟩

end Pings
end Backplane.Update
