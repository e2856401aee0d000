import Backplane.Proofs.Drive
import Backplane.Proofs.Driver.Channels

/-!
# Locate LEDs of the newer generation, on any bus

All locate LEDs are one mask. Setting one of them reads the mask, and writes it with that one bit changed
where the bit is not yet what it is asked to be; a mask that can not be read is not written.

* `V1.SetsLocate`, `V1.runs_setLocate`: the ways of setting one LED.
-/
namespace Backplane

variable {turns : List Turn} {d d' : Driver} {index : Nat} {on : Bool}

namespace V1
open Driver

/-- The ways of setting the locate LED of a channel: the mask can not be read; it holds what it is asked to
hold; or it is written with the bit of the channel changed and the others as they are. -/
inductive SetsLocate (d : Driver) (index : Nat) (on : Bool) : List Turn → Except Error Unit → Prop
  | unread {turns : List Turn} {e : BusError}
      (hread : d.device.Puts (.readByteData locateRegister) turns (.error e)) :
      SetsLocate d index on turns (.error (.communication d.label .readLocate e))
  | kept {turns : List Turn} {mask : UInt8}
      (hread : d.device.Puts (.readByteData locateRegister) turns (.ok mask))
      (hbit : hasChannel mask index = on) : SetsLocate d index on turns (.ok ())
  | written {turns rest : List Turn} {mask wanted : UInt8} {result : Except BusError Unit}
      (hread : d.device.Puts (.readByteData locateRegister) turns (.ok mask))
      (hbit : hasChannel mask index ≠ on)
      (hwanted : ∀ channel : Fin channelCount, hasChannel wanted channel =
        if channel.val = index then on else hasChannel mask channel)
      (hwrite : d.device.Puts (.writeByteData locateRegister wanted) rest result) :
      SetsLocate d index on (turns ++ rest) (result.mapError (.communication d.label .setLocate))

/-- Setting one locate LED, on any bus. -/
theorem runs_setLocate {outcome : Except Error Unit} (hi : index < channelCount)
    (h : Runs (setLocate index on).run d turns outcome d') :
    SetsLocate d index on turns outcome ∧ d.Like d' := by
  rw [setLocate, tries_checkChannel_bind, if_pos hi] at h
  obtain ⟨e, hread, rfl⟩ | ⟨first, mask, mid, rest, rfl, hread, hrest⟩ := tries_bind.1 h
  · obtain ⟨result, hputs, houtcome, hlike⟩ := puts_communicate hread
    cases result with
    | ok mask => cases houtcome
    | error e =>
      cases houtcome
      exact ⟨.unread hputs, hlike⟩
  obtain ⟨result, hputs, houtcome, hlike⟩ := puts_communicate hread
  obtain rfl : result = .ok mask := by
    cases result with
    | ok value =>
      cases houtcome
      rfl
    | error e => cases houtcome
  -- The mask is written only where it has to change.
  change Runs (if relit mask index on = mask then pure ()
    else communicate .setLocate (Device.writeByteData locateRegister (relit mask index on)) :
      DriverM.Try Unit).run mid rest outcome d' at hrest
  by_cases hsame : relit mask index on = mask
  · rw [if_pos hsame] at hrest
    obtain ⟨rfl, rfl, rfl⟩ := tries_pure.1 hrest
    rw [List.append_nil]
    exact ⟨.kept hputs ((relit_eq_iff hi).1 hsame), hlike⟩
  · rw [if_neg hsame] at hrest
    obtain ⟨written, hwrite, rfl, hlast⟩ := puts_communicate hrest
    rw [hlike.label_eq]
    exact ⟨.written hputs (fun hbit => hsame ((relit_eq_iff hi).2 hbit)) (hasChannel_relit hi)
      (hwrite.congr hlike.operational_eq), hlike.trans hlast⟩

end V1
end Backplane
