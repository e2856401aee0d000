import Backplane.Proofs.Simulator.Requests
import Backplane.Proofs.Update.Stages

/-!
# The reboot of a simulated controller

A rebooted controller is deaf until the boot time has gone by in requested delays. The pings of an
update are one delay apart, so the number of the first one that is answered is the boot time in units
of the ping interval, rounded up; a controller that boots in no time answers the first.

* `awaits_awaited`: pings while the controller boots, by induction on the pings.
* `awaits_reboot`: pings behind a reboot.
-/
namespace Backplane

/-- The number of the first ping that a rebooted controller answers, none if no time goes by for it. -/
def answeringPing (bootTime interval : Nat) : Option Nat :=
  if bootTime = 0 then some 1
  else if interval = 0 then none
  else some ((bootTime + interval - 1) / interval)

/-- The first ping that is answered is the first one behind the boot time. -/
theorem answeringPing_eq {bootTime interval k : Nat} (hboot : 0 < bootTime)
    (hle : bootTime ≤ k * interval) (hlt : (k - 1) * interval < bootTime) :
    answeringPing bootTime interval = some k := by
  have hinterval : 0 < interval := by
    apply Nat.pos_of_ne_zero
    intro h
    subst h
    omega
  have hk : 0 < k := by
    apply Nat.pos_of_ne_zero
    intro h
    subst h
    omega
  have hprev : (k - 1) * interval + interval = k * interval := by
    rw [← Nat.succ_mul, Nat.succ_eq_add_one, Nat.sub_add_cancel hk]
  unfold answeringPing
  rw [if_neg (by omega), if_neg (by omega)]
  congr 1
  apply Nat.div_eq_of_lt_le
  · omega
  · rw [Nat.succ_mul]
    omega

/-- As long as the boot time has not gone by no ping is answered. -/
theorem lt_answeringPing {bootTime interval left k : Nat} (hlt : left * interval < bootTime)
    (hk : answeringPing bootTime interval = some k) : left < k := by
  unfold answeringPing at hk
  rw [if_neg (by omega)] at hk
  split at hk
  · cases hk
  · next hinterval =>
    obtain rfl := Option.some.inj hk
    apply (Nat.le_div_iff_mul_le (by omega)).2
    rw [Nat.succ_mul]
    omega

namespace Simulator

variable {s s' t t' u : Simulator} {label : String} {p : Protocol} {options : UpdateOptions}
  {turns : List Turn} {elapsed : Nat}

/-- The counters behind a reboot and some time. -/
def Counters.restarted (c : Counters) (us : Nat) : Counters :=
  { c with
    reboots := c.reboots + 1
    delay := c.delay + us }

/-- A controller behind a reboot that was over when that much time had gone by. -/
def returned (s : Simulator) (us : Nat) : Simulator :=
  finishBoot { s with counters := s.counters.restarted us }

/-- A controller that has been booting for some time. -/
def awaited (s : Simulator) (us : Nat) : Simulator :=
  { s with
    booting := some us
    counters := s.counters.restarted us }

theorem settleBoot_awaited (hreturn : u.faults.neverReturn = false) :
    (settleBoot (u.awaited elapsed)).2 =
      if u.faults.bootTime ≤ elapsed then u.returned elapsed else u.awaited elapsed := by
  have hbooting : (u.awaited elapsed).booting = some elapsed := rfl
  by_cases hboot : u.faults.bootTime ≤ elapsed
  · have hover : ¬ (u.awaited elapsed).faults.StillBoots elapsed :=
      not_or.2 ⟨Nat.not_lt.2 hboot, by simp [awaited, hreturn]⟩
    rw [if_pos hboot, settleBoot_over hbooting hover]
    rfl
  · rw [if_neg hboot, settleBoot_still hbooting (.inl (Nat.lt_of_not_le hboot))]

theorem reboot_core (hreturn : s.faults.neverReturn = false) :
    s.core.reboot.2 = if s.faults.bootTime ≤ 0 then s.core.returned 0 else s.core.awaited 0 :=
  settleBoot_awaited (u := s.core) hreturn

theorem elapse_awaited (hreturn : u.faults.neverReturn = false) (us : UInt32) :
    ((u.awaited elapsed).elapse us).2 =
      if u.faults.bootTime ≤ elapsed + us.toNat then u.returned (elapsed + us.toNat)
      else u.awaited (elapsed + us.toNat) := by
  have helapse : (u.awaited elapsed).elapse us = settleBoot (u.awaited (elapsed + us.toNat)) := by
    simp only [elapse, awaited, Counters.restarted, Nat.add_assoc, Option.map_some]
  rw [helapse, settleBoot_awaited hreturn]

/-! ## Pings -/

/-- The identification that a rebooted controller answers with. -/
theorem running_returned (h : t.core = u.returned elapsed) :
    t.Running (u.faults.protocolAfterReboot.getD u.config.protocol) := by
  have hboot : t.booting = none := congrArg (·.booting) h
  have hconfig : t.config.protocol = u.faults.protocolAfterReboot.getD u.config.protocol :=
    congrArg (·.config.protocol) h
  exact ⟨hboot, hconfig⟩

theorem not_running_awaited (h : t.core = u.awaited elapsed) : ¬ t.Running p := by
  have hboot : t.booting = some elapsed := congrArg (·.booting) h
  intro h
  obtain ⟨hnone, -⟩ := h
  rw [hnone] at hboot
  cases hboot

/-- A ping to a controller that was booting: it is answered exactly if the boot time is over. -/
theorem follows_ping {us : UInt32} {replies : List (Reply identRequest)} {result : Except BusError UInt8}
    (hreturn : u.faults.neverReturn = false) (ht : t.core = u.awaited elapsed)
    (hnak : t.faults.nakIdent = 0) (hsettles : Settles Device.attemptsMax replies result)
    (h : (bus label).Follows t (.delayed us :: tries _ replies) t') :
    (u.faults.bootTime ≤ elapsed + us.toNat ∧ (∃ byte, result = .ok byte) ∧
      t'.core = u.returned (elapsed + us.toNat)) ∨
    (elapsed + us.toNat < u.faults.bootTime ∧ (∃ e, result = .error e) ∧
      t'.core = u.awaited (elapsed + us.toNat)) := by
  obtain ⟨mid, rfl, hping⟩ := h
  rw [delay_next] at hping
  have hmid : (t.elapse us).2.core = if u.faults.bootTime ≤ elapsed + us.toNat
      then u.returned (elapsed + us.toNat) else u.awaited (elapsed + us.toNat) := by
    rw [core_elapse, ht, elapse_awaited hreturn]
  by_cases hboot : u.faults.bootTime ≤ elapsed + us.toNat
  · rw [if_pos hboot] at hmid
    have hzero : (t.elapse us).2.faults.nakIdent < Device.attemptsMax := by
      rw [(elapse_fields t us).2, hnak]
      decide
    obtain ⟨rfl, hlike, -⟩ := follows_ident (running_returned hmid) hzero hsettles hping
    exact .inl ⟨hboot, ⟨_, rfl⟩, hlike.1.trans hmid⟩
  · rw [if_neg hboot] at hmid
    refine .inr ⟨by omega, ?_⟩
    cases result with
    | ok byte =>
      obtain ⟨p, -, hrun, -⟩ := follows_ident_ok hsettles hping
      exact absurd hrun (not_running_awaited hmid)
    | error e => exact ⟨⟨e, rfl⟩, (follows_error hsettles hping).1.trans hmid⟩

/-- Pings while the controller boots: some ping is the first behind the boot time, or there are too
few of them. -/
theorem awaits_awaited {left : Nat} {r : Except Error UInt32} (hreturn : u.faults.neverReturn = false)
    (h : Update.Awaits options left turns r) (ht : t.core = u.awaited elapsed)
    (hboot : elapsed < u.faults.bootTime) (hnak : t.faults.nakIdent = 0)
    (hleft : left ≤ options.pingAttempts.toNat) (hfollows : (bus label).Follows t turns t') :
    (∃ k, 0 < k ∧ k ≤ left ∧ u.faults.bootTime ≤ elapsed + k * options.pingInterval.toNat ∧
      elapsed + (k - 1) * options.pingInterval.toNat < u.faults.bootTime ∧
      r = .ok (.ofNat (options.pingAttempts.toNat - left + k)) ∧
      t'.core = u.returned (elapsed + k * options.pingInterval.toNat)) ∨
    (elapsed + left * options.pingInterval.toNat < u.faults.bootTime ∧
      r = .error (.deviceDidNotReturn options.pingAttempts) ∧
      t'.core = u.awaited (elapsed + left * options.pingInterval.toNat)) := by
  induction h generalizing t elapsed with
  | exhausted =>
    obtain rfl := hfollows
    rw [Nat.zero_mul]
    exact .inr ⟨hboot, rfl, ht⟩
  | @answered left replies byte hsettles =>
    obtain ⟨hover, -, hcore⟩ | ⟨-, ⟨e, he⟩, -⟩ := follows_ping hreturn ht hnak hsettles hfollows
    · refine .inl ⟨1, by omega, by omega, ?_, ?_, ?_, ?_⟩
      · rwa [Nat.one_mul]
      · rwa [Nat.sub_self, Nat.zero_mul]
      · rw [show options.pingAttempts.toNat - (left + 1) + 1 = options.pingAttempts.toNat - left by omega]
      · rwa [Nat.one_mul]
    · cases he
  | @silent left replies e rest r hsettles _ ih =>
    obtain ⟨_, hfirst, mid, rfl, hrest⟩ := Bus.follows_append.1 hfollows
    obtain ⟨-, ⟨byte, hbyte⟩, -⟩ | ⟨hless, -, hcore⟩ := follows_ping hreturn ht hnak hsettles hfirst
    · cases hbyte
    have hmid : mid.faults.nakIdent = 0 := by
      have := nakIdent_follows hfirst
      omega
    have hsucc : ∀ k, elapsed + options.pingInterval.toNat + k * options.pingInterval.toNat =
        elapsed + (k + 1) * options.pingInterval.toNat := by
      intro k
      rw [Nat.succ_mul]
      omega
    obtain ⟨k, hk, hle, hover, hprev, rfl, hcore⟩ | ⟨hless, rfl, hcore⟩ :=
      ih hcore hless hmid (by omega) hrest
    · refine .inl ⟨k + 1, by omega, by omega, ?_, ?_, ?_, ?_⟩
      · rwa [← hsucc]
      · obtain ⟨j, rfl⟩ := Nat.exists_eq_add_of_lt hk
        rw [show 0 + j + 1 - 1 = j by omega, hsucc] at hprev
        rwa [show 0 + j + 1 + 1 - 1 = j + 1 by omega]
      · rw [show options.pingAttempts.toNat - (left + 1) + (k + 1) =
          options.pingAttempts.toNat - left + k by omega]
      · rwa [← hsucc]
    · rw [hsucc] at hless hcore
      exact .inr ⟨hless, rfl, hcore⟩

/-- Pings to a controller that booted in no time: it answers the first. -/
theorem awaits_returned {left : Nat} {r : Except Error UInt32} (h : Update.Awaits options left turns r)
    (ht : t.core = u.returned 0) (hnak : t.faults.nakIdent = 0)
    (hfollows : (bus label).Follows t turns t') :
    (0 < left ∧ r = .ok (.ofNat (options.pingAttempts.toNat - (left - 1))) ∧
      t'.core = u.returned options.pingInterval.toNat) ∨
    (left = 0 ∧ r = .error (.deviceDidNotReturn options.pingAttempts) ∧ t'.core = u.returned 0) := by
  have hping : ∀ {replies : List (Reply identRequest)} {result mid},
      Settles Device.attemptsMax replies result →
      (bus label).Follows t (.delayed options.pingInterval :: tries _ replies) mid →
      (∃ byte, result = .ok byte) ∧ mid.core = u.returned options.pingInterval.toNat := by
    intro replies result mid hsettles hfirst
    have hrun := running_returned ht
    rw [follows_delayed hrun] at hfirst
    have hpaused : (t.paused options.pingInterval).Running _ := hrun
    have hzero : (t.paused options.pingInterval).faults.nakIdent < Device.attemptsMax := by
      change t.faults.nakIdent < Device.attemptsMax
      rw [hnak]
      decide
    obtain ⟨hresult, hlike, -⟩ := follows_ident hpaused hzero hsettles hfirst
    refine ⟨⟨_, hresult⟩, hlike.1.trans ?_⟩
    change t.core.paused options.pingInterval = _
    rw [ht]
    rfl
  cases h with
  | exhausted =>
    obtain rfl := hfollows
    exact .inr ⟨rfl, rfl, ht⟩
  | answered hsettles => exact .inl ⟨Nat.succ_pos _, rfl, (hping hsettles hfollows).2⟩
  | silent hsettles =>
    obtain ⟨mid, hfirst, -⟩ := Bus.follows_append.1 hfollows
    obtain ⟨⟨byte, hbyte⟩, -⟩ := hping hsettles hfirst
    cases hbyte

/-- Pings behind a reboot: the first one behind the boot time is answered, if there are as many. -/
theorem awaits_reboot {r : Except Error UInt32} (hreturn : s.faults.neverReturn = false)
    (ht : t.core = s.core.reboot.2) (hnak : t.faults.nakIdent = 0)
    (h : Update.Awaits options options.pingAttempts.toNat turns r)
    (hfollows : (bus label).Follows t turns t') :
    (∃ k, answeringPing s.faults.bootTime options.pingInterval.toNat = some k ∧
      k ≤ options.pingAttempts.toNat ∧ r = .ok (.ofNat k) ∧
      t'.core = s.core.returned (k * options.pingInterval.toNat)) ∨
    ((∀ k, answeringPing s.faults.bootTime options.pingInterval.toNat = some k →
        options.pingAttempts.toNat < k) ∧
      r = .error (.deviceDidNotReturn options.pingAttempts) ∧ t'.flash = s.flash ∧
      t'.core.counters =
        s.core.counters.restarted (options.pingAttempts.toNat * options.pingInterval.toNat)) := by
  rw [reboot_core hreturn] at ht
  by_cases hboot : s.faults.bootTime ≤ 0
  · have hone : answeringPing s.faults.bootTime options.pingInterval.toNat = some 1 :=
      if_pos (Nat.le_zero.1 hboot)
    rw [if_pos hboot] at ht
    rw [hone]
    obtain ⟨hpos, rfl, hcore⟩ | ⟨hzero, rfl, hcore⟩ := awaits_returned h ht hnak hfollows
    · refine .inl ⟨1, rfl, hpos, ?_, by rwa [Nat.one_mul]⟩
      rw [Nat.sub_sub_self hpos]
    · refine .inr ⟨?_, rfl, congrArg (·.flash) hcore, ?_⟩
      · intro k hk
        obtain rfl := Option.some.inj hk
        omega
      · rw [hcore, hzero, Nat.zero_mul]
        rfl
  · rw [if_neg hboot] at ht
    obtain ⟨k, -, hle, hover, hprev, rfl, hcore⟩ | ⟨hless, rfl, hcore⟩ :=
      awaits_awaited (u := s.core) hreturn h ht (Nat.lt_of_not_le hboot) hnak (Nat.le_refl _) hfollows
    · rw [Nat.zero_add] at hover hprev hcore
      refine .inl ⟨k, answeringPing_eq (Nat.lt_of_not_le hboot) hover hprev, hle, ?_, hcore⟩
      rw [Nat.sub_self, Nat.zero_add]
    · rw [Nat.zero_add] at hless hcore
      refine .inr ⟨fun k hk => lt_answeringPing hless hk, rfl, congrArg (·.flash) hcore, ?_⟩
      rw [hcore]
      rfl

end Simulator
end Backplane
