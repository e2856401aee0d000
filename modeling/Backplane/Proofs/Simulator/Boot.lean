import Mathlib.Data.List.DropRight
import Backplane.Proofs.Simulator.Requests
import Backplane.Proofs.Simulator.Steps

/-!
# Boots of a simulated controller

A controller that is told to reboot is deaf until the delays that are requested add up to its boot time, or
for ever. Meanwhile drives may be plugged, and nothing else changes but counts. The delay that reaches the
boot time ends the boot, and brings the version and the generation that were set for the next boot. Later
boots find nothing set, so they bring nothing.

* `BootingFor.silent`: what it answers while it boots.
* `BootingFor.step`: one step while it boots, and `bootingFor_after`: any steps.
* `BootingFor.ends`: the delay that ends the boot.
* `progress_step`: what can come of a boot in one step, and `Renewal.after`: the firmware behind any steps.
* `reboot_lasts`: all of this, behind every command to reboot that a controller hears.
-/
namespace Backplane.Simulator

/-- The time that a step asks for. -/
def Step.wait : Step → Nat
  | .delay us => us.toNat
  | _ => 0

/-- The time that some steps ask for. -/
def waited (steps : List Step) : Nat := (steps.map Step.wait).sum

/-- The drive that a step plugs. -/
def Step.plug? : Step → Option Plug
  | .plug p => some p
  | _ => none

/-- The controller with the drives that some steps plug. -/
def refitted (s : Simulator) (steps : List Step) : Simulator :=
  (steps.filterMap Step.plug?).foldl (fun s p => s.hotPlug p.1 p.2) s

/-- The controller with the version and the generation that were set for its next boot. -/
def renewed (s : Simulator) : Simulator :=
  { s with
    config.firmwareVersion := s.faults.versionAfterReboot.getD s.config.firmwareVersion
    config.protocol := s.faults.protocolAfterReboot.getD s.config.protocol
    faults.versionAfterReboot := none
    faults.protocolAfterReboot := none }

/-- The controller `t` has been booting since `s` was told to reboot, all through some steps. -/
def BootingFor (s : Simulator) (steps : List Step) (t : Simulator) : Prop :=
  ∃ counters : Counters, counters.reboots = s.counters.reboots + 1 ∧
    t = { s.refitted steps with
      flashAddress := none
      booting := some (waited steps)
      counters := counters }

/-- The controller `t` is back from the reboot that `s` was told. -/
def BackFrom (s : Simulator) (steps : List Step) (t : Simulator) : Prop :=
  ∃ counters : Counters, counters.reboots = s.counters.reboots + 1 ∧
    t = { (s.refitted steps).renewed with
      flashAddress := none
      booting := none
      counters := counters }

variable {s t : Simulator} {r : Request} {steps : List Step}

@[simp] theorem waited_concat (steps : List Step) (next : Step) :
    waited (steps ++ [next]) = waited steps + next.wait := by
  simp [waited]

theorem refitted_concat (s : Simulator) (steps : List Step) (next : Step) :
    s.refitted (steps ++ [next]) =
      match next.plug? with
      | some p => (s.refitted steps).hotPlug p.1 p.2
      | none => s.refitted steps := by
  unfold refitted
  rw [List.filterMap_append, List.foldl_append]
  cases h : next.plug? <;> simp [h]

@[simp] theorem faults_refitted (s : Simulator) (steps : List Step) : (s.refitted steps).faults = s.faults := by
  induction steps using List.reverseRecOn with
  | nil => rfl
  | append_singleton steps next ih =>
    rw [refitted_concat]
    split <;> exact ih

theorem after_concat (s : Simulator) (steps : List Step) (next : Step) :
    s.after (steps ++ [next]) = (s.after steps).step next :=
  List.foldl_concat ..

/-! ## While it boots -/

/-- A controller that boots hears nothing. -/
theorem attempt_booting (hboot : t.booting.isSome = true) (hr : r ≠ .functionality) :
    attempt r t = refuse (t.count r) := by
  rw [attempt_eq hr, if_pos hboot]

/-- The controller behind a delay that ends when it has been booting for some time. -/
def lasting (s : Simulator) (elapsed : Nat) (us : UInt32) : Simulator :=
  { s with
    booting := some elapsed
    counters.delay := s.counters.delay + us.toNat }

theorem elapse_still {elapsed : Nat} {us : UInt32} (hboot : t.booting = some elapsed)
    (h : t.faults.StillBoots (elapsed + us.toNat)) :
    t.elapse us = (false, t.lasting (elapsed + us.toNat) us) := by
  rw [elapse, hboot]
  exact settleBoot_still (s := t.lasting (elapsed + us.toNat) us) rfl h

theorem elapse_over {elapsed : Nat} {us : UInt32} (hboot : t.booting = some elapsed)
    (h : ¬ t.faults.StillBoots (elapsed + us.toNat)) :
    t.elapse us = (true, (t.lasting (elapsed + us.toNat) us).finishBoot) := by
  rw [elapse, hboot]
  exact settleBoot_over (s := t.lasting (elapsed + us.toNat) us) rfl h

namespace BootingFor

/-- What it answers. -/
theorem silent (h : s.BootingFor steps t) (hr : r ≠ .functionality) : attempt r t = refuse (t.count r) := by
  obtain ⟨counters, -, rfl⟩ := h
  exact attempt_booting rfl hr

/-- Some time goes by, and the boot is not over. -/
theorem elapse (h : s.BootingFor steps t) {us : UInt32}
    (hstill : s.faults.StillBoots (waited steps + us.toNat)) :
    s.BootingFor (steps ++ [.delay us]) (t.elapse us).2 := by
  obtain ⟨counters, hreboots, rfl⟩ := h
  refine ⟨{ counters with delay := counters.delay + us.toNat }, hreboots, ?_⟩
  rw [elapse_still rfl (by rwa [faults_refitted]), refitted_concat, waited_concat]
  rfl

/-- One step, and the boot is not over. -/
theorem step (h : s.BootingFor steps t) (next : Step)
    (hstill : s.faults.StillBoots (waited (steps ++ [next]))) :
    s.BootingFor (steps ++ [next]) (t.step next) := by
  rw [waited_concat] at hstill
  cases next with
  | attempt r =>
    -- Asked for the functionality it does not even count.
    have hkeeps : ∃ counters : Counters, counters.reboots = t.counters.reboots ∧
        t.step (.attempt r) = { t with counters := counters } := by
      by_cases hr : r = .functionality
      · subst hr
        exact ⟨_, rfl, rfl⟩
      · exact ⟨(t.count r).counters, rfl, by rw [Simulator.step, h.silent hr]; rfl⟩
    obtain ⟨counters, hreboots, heq⟩ := hkeeps
    obtain ⟨_, hbefore, rfl⟩ := h
    refine ⟨counters, hreboots.trans hbefore, ?_⟩
    rw [heq, refitted_concat, waited_concat]
    rfl
  | delay us =>
    rw [step_delay]
    exact h.elapse hstill
  | connect label =>
    obtain ⟨connects, heq⟩ := step_connect t label
    obtain ⟨counters, hreboots, rfl⟩ := h
    refine ⟨{ counters with connects := connects }, hreboots, ?_⟩
    rw [heq, refitted_concat, waited_concat]
    rfl
  | plug p =>
    obtain ⟨counters, hreboots, rfl⟩ := h
    refine ⟨counters, hreboots, ?_⟩
    rw [refitted_concat, waited_concat]
    rfl

/-- The delay that ends the boot. -/
theorem ends (h : s.BootingFor steps t) {us : UInt32}
    (hover : ¬ s.faults.StillBoots (waited steps + us.toNat)) : s.BackFrom steps (t.step (.delay us)) := by
  obtain ⟨counters, hreboots, rfl⟩ := h
  refine ⟨{ counters with delay := counters.delay + us.toNat }, hreboots, ?_⟩
  rw [step_delay, elapse_over rfl (by rwa [faults_refitted])]
  rfl

end BootingFor

theorem Faults.StillBoots.mono {f : Faults} {elapsed later : Nat} (h : f.StillBoots later)
    (hle : elapsed ≤ later) : f.StillBoots elapsed :=
  h.imp_left (Nat.lt_of_le_of_lt hle)

/-- The controller right behind the command to reboot. -/
def rebooting (s : Simulator) : Simulator :=
  { s with
    flashAddress := none
    booting := some 0
    counters.reboots := s.counters.reboots + 1 }

/-- A controller that is told to reboot boots, or is back at once. -/
theorem reboot_still (h : s.faults.StillBoots 0) : s.reboot = (false, s.rebooting) :=
  settleBoot_still (s := s.rebooting) rfl h

theorem reboot_over (h : ¬ s.faults.StillBoots 0) : s.reboot = (true, s.rebooting.finishBoot) :=
  settleBoot_over (s := s.rebooting) rfl h

/-- Any steps behind a reboot, as long as the boot is not over. -/
theorem bootingFor_after (h : s.BootingFor [] t) (hstill : s.faults.StillBoots (waited steps)) :
    s.BootingFor steps (t.after steps) := by
  induction steps using List.reverseRecOn with
  | nil => exact h
  | append_singleton steps next ih =>
    rw [after_concat]
    rw [waited_concat] at hstill
    exact (ih (hstill.mono (Nat.le_add_right _ _))).step next (by rwa [waited_concat])

/-! ## What boots bring -/

/-- What boots change: the version and the generation, and what is set for the next boot. -/
structure Firmware where
  version : String
  protocol : Protocol
  nextVersion : Option String
  nextProtocol : Option Protocol
  deriving DecidableEq, Repr

/-- What is set for the next boot takes effect, once. -/
def Firmware.renew (f : Firmware) : Firmware where
  version := f.nextVersion.getD f.version
  protocol := f.nextProtocol.getD f.protocol
  nextVersion := none
  nextProtocol := none

/-- The firmware of a controller. -/
def firmware (s : Simulator) : Firmware where
  version := s.config.firmwareVersion
  protocol := s.config.protocol
  nextVersion := s.faults.versionAfterReboot
  nextProtocol := s.faults.protocolAfterReboot

/-- What was set for the next boot is used up. -/
theorem Firmware.renew_renew (f : Firmware) : f.renew.renew = f.renew := rfl

/-- What can come of a boot in one step. -/
inductive Progress (s t : Simulator) : Prop
  | same (hboot : t.booting.isSome = s.booting.isSome) (hreboots : t.counters.reboots = s.counters.reboots)
      (hfirmware : t.firmware = s.firmware)
  | started (hs : s.booting = none) (hboot : t.booting.isSome = true)
      (hreboots : t.counters.reboots = s.counters.reboots + 1) (hfirmware : t.firmware = s.firmware)
  /-- It takes no time, so it is over as soon as it started. -/
  | returned (hs : s.booting = none) (hboot : t.booting = none)
      (hreboots : t.counters.reboots = s.counters.reboots + 1) (hfirmware : t.firmware = s.firmware.renew)
  | ended (hs : s.booting.isSome = true) (hboot : t.booting = none)
      (hreboots : t.counters.reboots = s.counters.reboots) (hfirmware : t.firmware = s.firmware.renew)

theorem progress_refl (s : Simulator) : s.Progress s := .same rfl rfl rfl

theorem progress_reboot (hs : s.booting = none) : s.Progress s.reboot.2 := by
  by_cases hstill : s.faults.StillBoots 0
  · rw [reboot_still hstill]
    exact .started hs rfl rfl rfl
  · rw [reboot_over hstill]
    exact .returned hs rfl rfl rfl

/-- To be counted changes nothing of a boot. -/
theorem progress_of_count (h : (s.count r).Progress t) : s.Progress t := by
  cases h with
  | same hboot hreboots hfirmware => exact .same hboot hreboots hfirmware
  | started hs hboot hreboots hfirmware => exact .started hs hboot hreboots hfirmware
  | returned hs hboot hreboots hfirmware => exact .returned hs hboot hreboots hfirmware
  | ended hs hboot hreboots hfirmware => exact .ended hs hboot hreboots hfirmware

theorem progress_attempt (s : Simulator) (r : Request) : s.Progress (attempt r s).next := by
  by_cases hr : r = .functionality
  · subst hr
    exact progress_refl s
  cases hboot : s.booting with
  | some elapsed =>
    rw [attempt_booting (by rw [hboot]; rfl) hr]
    exact .same rfl rfl rfl
  | none =>
    obtain ⟨hfunctionality, -, -⟩ | hheard := heard_attempt s r
    · exact absurd hfunctionality hr
    generalize attempt r s = served at hheard
    cases hheard with
    | refused => exact .same rfl rfl rfl
    | answered hchanges =>
      cases hchanges with
      | rebooted => exact progress_of_count (progress_reboot hboot)
      | _ => exact .same rfl rfl rfl

theorem progress_elapse (s : Simulator) (us : UInt32) : s.Progress (s.elapse us).2 := by
  cases hboot : s.booting with
  | none =>
    rw [elapse, hboot]
    exact .same (by rw [hboot]; rfl) rfl rfl
  | some elapsed =>
    by_cases hstill : s.faults.StillBoots (elapsed + us.toNat)
    · rw [elapse_still hboot hstill]
      exact .same (by rw [hboot]; rfl) rfl rfl
    · rw [elapse_over hboot hstill]
      exact .ended (by rw [hboot]; rfl) rfl rfl rfl

theorem firmware_hotPlug (s : Simulator) (channel : Fin channelCount) (value : Option UInt8) :
    (s.hotPlug channel value).firmware = s.firmware := by
  cases value <;> rfl

theorem progress_step (s : Simulator) (next : Step) : s.Progress (s.step next) := by
  cases next with
  | attempt r => exact progress_attempt s r
  | delay us => exact step_delay s us ▸ progress_elapse s us
  | connect label =>
    obtain ⟨connects, heq⟩ := step_connect s label
    rw [heq]
    exact .same rfl rfl rfl
  | plug p => exact .same rfl rfl (firmware_hotPlug s p.1 p.2)

/-- The controller `t` has taken a reboot behind `reboots` others. Until it is back from it the firmware is
`f`, and then it is what was set for the next boot, however often it reboots. -/
structure Renewal (f : Firmware) (reboots : Nat) (t : Simulator) : Prop where
  taken : reboots < t.counters.reboots
  firmware : t.firmware = if t.booting.isSome ∧ t.counters.reboots = reboots + 1 then f else f.renew

theorem Renewal.of_step (hs : s.booting = none) {next : Step}
    (hnext : (s.step next).counters.reboots = s.counters.reboots + 1) :
    Renewal s.firmware s.counters.reboots (s.step next) := by
  refine ⟨by omega, ?_⟩
  cases progress_step s next with
  | same _ hreboots => omega
  | started _ hboot _ hsame => rw [hsame, if_pos ⟨hboot, hnext⟩]
  | returned _ hboot _ hrenew => rw [hrenew, if_neg (by simp [hboot])]
  | ended hboots => simp [hs] at hboots

theorem Renewal.step {f : Firmware} {reboots : Nat} (h : Renewal f reboots t) (next : Step) :
    Renewal f reboots (t.step next) := by
  obtain ⟨htaken, hfirmware⟩ := h
  cases progress_step t next with
  | same hboot hreboots hsame => exact ⟨by omega, by rw [hsame, hfirmware, hboot, hreboots]⟩
  | started ht hboot hreboots hsame =>
    refine ⟨by omega, ?_⟩
    -- It was back, so this is a later boot, and nothing is set for it.
    rw [hsame, hfirmware, if_neg (by simp [ht]), if_neg (by omega)]
  | returned ht hboot hreboots hrenew =>
    refine ⟨by omega, ?_⟩
    rw [hrenew, hfirmware, if_neg (by simp [ht]), if_neg (by simp [hboot]), Firmware.renew_renew]
  | ended ht hboot hreboots hrenew =>
    refine ⟨by omega, ?_⟩
    rw [hrenew, hfirmware, if_neg (c := (t.step next).booting.isSome ∧ _) (by simp [hboot])]
    split
    · rfl
    · exact Firmware.renew_renew f

theorem Renewal.after {f : Firmware} {reboots : Nat} (h : Renewal f reboots t) (steps : List Step) :
    Renewal f reboots (t.after steps) := by
  induction steps generalizing t with
  | nil => exact h
  | cons next steps ih => exact ih (h.step next)

/-! ## The command -/

theorem Changes.boot (h : Changes s r t) (hr : r.activity ≠ .reboot) :
    t.counters.reboots = s.counters.reboots ∧ t.booting = s.booting := by
  cases h with
  | rebooted hreboot => exact absurd hreboot hr
  | _ => exact ⟨rfl, rfl⟩

theorem boot_serveWriteByte {value : UInt8} (h : value ≠ s.config.protocol.rebootCommand) :
    (s.serveWriteByte value).next.counters.reboots = s.counters.reboots ∧
      (s.serveWriteByte value).next.booting = s.booting := by
  unfold serveWriteByte
  cases hp : s.config.protocol with
  | v0 =>
    have hvalue : value ≠ V0.rebootCommand := by rwa [hp] at h
    dsimp only
    rw [if_neg hvalue]
    repeat' split
    all_goals exact ⟨rfl, rfl⟩
  | v1 =>
    have hvalue : value ≠ V1.rebootCommand := by rwa [hp] at h
    dsimp only
    rw [if_neg hvalue]
    split <;> exact ⟨rfl, rfl⟩

theorem writeByte_of_activity (h : r.activity = .reboot) : ∃ value, r = .writeByte value := by
  cases r with
  | writeByte value => exact ⟨value, rfl⟩
  | readByteData command =>
    by_cases hident : command = Protocol.identRegister <;> simp [Request.activity, hident] at h
  | transfer messages =>
    unfold Request.activity at h
    repeat' split at h
    all_goals simp_all
  | _ => cases h

/-- Nothing but the command to reboot reboots a controller. -/
theorem attempt_other (hr : r ≠ .writeByte s.config.protocol.rebootCommand) :
    (attempt r s).next.counters.reboots = s.counters.reboots ∧ (attempt r s).next.booting = s.booting := by
  by_cases hactivity : r.activity = .reboot
  · obtain ⟨value, rfl⟩ := writeByte_of_activity hactivity
    rw [attempt_eq (by simp)]
    split
    · exact ⟨rfl, rfl⟩
    · exact boot_serveWriteByte (s := s.count (.writeByte value)) fun h => hr (h ▸ rfl)
  · obtain ⟨-, hnext, -⟩ | hheard := heard_attempt s r
    · rw [hnext]
      exact ⟨rfl, rfl⟩
    · generalize attempt r s = served at hheard
      cases hheard with
      | refused => exact ⟨rfl, rfl⟩
      | answered hchanges => exact hchanges.boot hactivity

/-- Behind the command a controller boots, or it is back already. -/
theorem step_rebootCommand (hs : s.booting = none) {next : Step}
    (hnext : next = .attempt (.writeByte s.config.protocol.rebootCommand)) :
    (s.faults.StillBoots 0 → s.BootingFor [] (s.step next)) ∧
      (¬ s.faults.StillBoots 0 → s.BackFrom [] (s.step next)) := by
  subst hnext
  have hcommand := (attempt_reboot (s := s) ⟨hs, rfl⟩).2
  refine ⟨fun hstill => ?_, fun hover => ?_⟩
  · rw [step, hcommand, reboot_still (s := s.count _) hstill]
    exact ⟨_, rfl, rfl⟩
  · rw [step, hcommand, reboot_over (s := s.count _) hover]
    exact ⟨_, rfl, rfl⟩

/-- A controller that runs is told to reboot, and then any attempts, delays, connections and plugged drives
follow. The command is accepted, and no other request reboots. As long as the delays stay below the boot time,
and for ever if the controller never returns, it boots: nothing has changed but the place for flash data, the
drives that were plugged and counts, and every request is refused and counted. The first delay that reaches
the boot time ends the boot, and without a boot time the command does. What was set for the next boot takes
effect when the first boot ends, and not again. -/
theorem reboot_lasts (s : Simulator) (hs : s.booting = none) (steps : List Step) :
    let reboot := Request.writeByte s.config.protocol.rebootCommand
    let t := s.after (.attempt reboot :: steps)
    (attempt reboot s).value.result = .ok () ∧
    (∀ r ≠ reboot, (attempt r s).next.counters.reboots = s.counters.reboots ∧
      (attempt r s).next.booting = none) ∧
    (s.faults.StillBoots (waited steps) →
      s.BootingFor steps t ∧
      (∀ r ≠ .functionality, attempt r t = ⟨.fail nak, t.count r, []⟩) ∧
      ∀ us : UInt32, ¬ s.faults.StillBoots (waited steps + us.toNat) →
        s.BackFrom steps (t.step (.delay us))) ∧
    (¬ s.faults.StillBoots 0 → s.BackFrom [] (s.step (.attempt reboot))) ∧
    Renewal s.firmware s.counters.reboots t := by
  intro reboot t
  have hresult := (attempt_reboot (s := s) ⟨hs, rfl⟩).1
  obtain ⟨hboots, hback⟩ := step_rebootCommand hs rfl
  have hcounted : (s.step (.attempt reboot)).counters.reboots = s.counters.reboots + 1 := by
    by_cases hstill : s.faults.StillBoots 0
    · obtain ⟨counters, hreboots, heq⟩ := hboots hstill
      rw [heq, hreboots]
    · obtain ⟨counters, hreboots, heq⟩ := hback hstill
      rw [heq, hreboots]
  refine ⟨hresult, fun r hr => hs ▸ attempt_other hr, fun hstill => ?_, hback,
    (Renewal.of_step hs hcounted).after steps⟩
  have hbooting : s.BootingFor steps t := bootingFor_after (hboots (hstill.mono (Nat.zero_le _))) hstill
  exact ⟨hbooting, fun r => hbooting.silent, fun us => hbooting.ends⟩

/-- A boot of two milliseconds: no time goes by, a read and a second command are not heard, a drive is taken
out, and a delay ends the boot that is one microsecond longer than what is missing. -/
theorem reboot_lasts_two_milliseconds :
    let s := start (.equipped .v0) { nakIdent := 1, bootTime := 2000, protocolAfterReboot := some .v1 }
    let steps : List Step := [.delay 0, .attempt identRequest, .attempt (.writeByte V0.rebootCommand),
      .plug (3, none), .delay 1999]
    let t := s.after (.attempt (.writeByte V0.rebootCommand) :: steps)
    s.booting = none ∧ s.BootingFor steps t ∧ attempt identRequest t = ⟨.fail nak, t.count identRequest, []⟩ ∧
      s.BackFrom steps (t.step (.delay 2)) ∧ Renewal s.firmware 0 (t.step (.delay 2)) := by
  intro s steps t
  obtain ⟨-, -, hboots, -, -⟩ := reboot_lasts s rfl steps
  obtain ⟨hbooting, hsilent, hover⟩ := hboots (by decide)
  obtain ⟨-, -, -, -, hrenewal⟩ := reboot_lasts s rfl (steps ++ [.delay 2])
  refine ⟨rfl, hbooting, hsilent identRequest (by simp), hover 2 (by decide), ?_⟩
  rwa [← List.cons_append, after_concat] at hrenewal

end Backplane.Simulator
