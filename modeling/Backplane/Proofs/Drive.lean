import Mathlib.Data.Nat.Bitwise
import Backplane.Drive

/-!
# Masks, packed types and fingerprints

What the bits of a mask say about single channels, and that nothing is lost where eight types are
packed into a word or two masks into a fingerprint.

* `hasChannel_or_channelBit`, `hasChannel_and_not_channelBit`: setting and clearing one channel.
* `eq_of_hasChannel`: a mask is what it says about every channel.
* `hasChannel_relit`, `relit_eq_iff`: a mask with one channel as it is asked for.
* `unpackType_packTypes`: packed types read back, cut to two bits.
* `toNat_unpackType`: a raw type as a digit of its word.
* `fingerprint_inj`: a fingerprint is two masks.
-/
namespace Backplane

/-! ## Masks -/

theorem toNat_channelBit : ∀ i < channelCount, (channelBit i).toNat = 2 ^ i := by
  decide

theorem hasChannel_eq {i : Nat} (mask : UInt8) (hi : i < channelCount) :
    hasChannel mask i = mask.toNat.testBit i := by
  rw [hasChannel, Bool.eq_iff_iff, bne_iff_ne, ne_eq, ← UInt8.toNat_inj, UInt8.toNat_and,
    toNat_channelBit i hi, Nat.and_two_pow]
  cases mask.toNat.testBit i <;> simp

theorem hasChannel_or_channelBit {i j : Nat} (mask : UInt8) (hi : i < channelCount)
    (hj : j < channelCount) :
    hasChannel (mask ||| channelBit i) j = (hasChannel mask j || decide (i = j)) := by
  rw [hasChannel_eq _ hj, hasChannel_eq _ hj, UInt8.toNat_or, toNat_channelBit i hi, Nat.testBit_or,
    Nat.testBit_two_pow]

/-- A mask is what it says about every channel. -/
theorem eq_of_hasChannel {mask mask' : UInt8}
    (h : ∀ i < channelCount, hasChannel mask i = hasChannel mask' i) : mask = mask' := by
  refine UInt8.toNat_inj.1 (Nat.eq_of_testBit_eq fun i => ?_)
  rcases Nat.lt_or_ge i channelCount with hi | hi
  · rw [← hasChannel_eq mask hi, ← hasChannel_eq mask' hi, h i hi]
  · have hsize : 2 ^ channelCount ≤ 2 ^ i := Nat.pow_le_pow_right Nat.two_pos hi
    rw [Nat.testBit_lt_two_pow (Nat.lt_of_lt_of_le mask.toNat_lt hsize),
      Nat.testBit_lt_two_pow (Nat.lt_of_lt_of_le mask'.toNat_lt hsize)]

theorem or_channelBit_ne_zero {i : Nat} (mask : UInt8) (hi : i < channelCount) :
    mask ||| channelBit i ≠ 0 := by
  intro h
  have hset : hasChannel (mask ||| channelBit i) i = true := by
    simp [hasChannel_or_channelBit mask hi hi]
  rw [h, hasChannel_eq _ hi] at hset
  simp at hset

theorem hasChannel_not_channelBit : ∀ i < channelCount, ∀ j < channelCount,
    hasChannel (~~~channelBit i) j = !decide (i = j) := by
  decide

theorem hasChannel_and_not_channelBit {i j : Nat} (mask : UInt8) (hi : i < channelCount)
    (hj : j < channelCount) :
    hasChannel (mask &&& ~~~channelBit i) j = (hasChannel mask j && !decide (i = j)) := by
  rw [← hasChannel_not_channelBit i hi j hj, hasChannel_eq _ hj, hasChannel_eq _ hj,
    hasChannel_eq _ hj, UInt8.toNat_and, Nat.testBit_and]

/-- A mask with one channel set or cleared. -/
def relit (mask : UInt8) (index : Nat) (on : Bool) : UInt8 :=
  if on then mask ||| channelBit index else mask &&& ~~~channelBit index

/-- One channel is as it was asked for, and the others are as they were. -/
theorem hasChannel_relit {index : Nat} {mask : UInt8} {on : Bool} (hi : index < channelCount)
    (channel : Fin channelCount) :
    hasChannel (relit mask index on) channel = if channel.val = index then on else hasChannel mask channel := by
  unfold relit
  cases on
  · rw [if_neg Bool.false_ne_true, hasChannel_and_not_channelBit mask hi channel.isLt]
    by_cases h : index = channel.val <;> simp [h, eq_comm]
  · rw [if_pos rfl, hasChannel_or_channelBit mask hi channel.isLt]
    by_cases h : index = channel.val <;> simp [h, eq_comm]

/-- Nothing changes where the channel is as it is asked for. -/
theorem relit_eq_iff {index : Nat} {mask : UInt8} {on : Bool} (hi : index < channelCount) :
    relit mask index on = mask ↔ hasChannel mask index = on := by
  constructor
  · intro h
    have hset : hasChannel (relit mask index on) index = _ := hasChannel_relit hi ⟨index, hi⟩
    rwa [h, if_pos rfl] at hset
  · intro h
    refine eq_of_hasChannel fun channel hchannel => ?_
    rw [hasChannel_relit hi ⟨channel, hchannel⟩]
    split
    · next heq =>
      dsimp only at heq
      rw [heq, h]
    · rfl

/-! ## Packed types -/

theorem getElem_three : ∀ i (hi : i < 8), (3#8)[i] = decide (i < 2) := by
  decide

theorem getLsbD_three (i : Nat) : (3#16).getLsbD i = decide (i < 2) := by
  rcases Nat.lt_or_ge i 16 with hi | hi
  · revert i
    decide
  · rw [BitVec.getLsbD_of_ge _ _ hi, eq_comm, decide_eq_false_iff_not]
    omega

/-- The first type lies in the lowest bits. -/
theorem unpackType_cons_zero (t : UInt8) (types : List UInt8) :
    unpackType (packTypes (t :: types)) 0 = t &&& 3 := by
  apply UInt8.toBitVec_inj.1
  ext k hk
  simp [packTypes, unpackType, getElem_three]
  grind

/-- The others lie behind it. -/
theorem unpackType_cons_succ {i : Nat} (t : UInt8) (types : List UInt8) (hi : i + 1 < channelCount) :
    unpackType (packTypes (t :: types)) (i + 1) = unpackType (packTypes types) i := by
  apply UInt8.toBitVec_inj.1
  ext k hk
  have hi : i + 1 < 8 := hi
  have hshift : (i + 1) * 2 % 16 = (i + 1) * 2 := by omega
  have hshift' : i * 2 % 16 = i * 2 := by omega
  have hplace : (i + 1) * 2 + k - 2 = i * 2 + k := by omega
  simp [packTypes, unpackType, hshift, hshift', hplace, getLsbD_three, getElem_three]
  grind

theorem unpackType_packTypes {types : List UInt8} {i : Nat} (hi : i < types.length)
    (hcount : types.length ≤ channelCount) :
    unpackType (packTypes types) i = types[i] &&& 3 := by
  induction types generalizing i with
  | nil => cases hi
  | cons t types ih =>
    rw [List.length_cons] at hi hcount
    cases i with
    | zero => exact unpackType_cons_zero t types
    | succ i =>
      rw [unpackType_cons_succ t types (by omega), ih (by omega) (by omega)]
      rfl

/-- A raw type is the digit to base four at the place of its channel. -/
theorem toNat_unpackType {index : Nat} (hi : index < channelCount) (word : UInt16) :
    (unpackType word index).toNat = word.toNat / 4 ^ index % 4 := by
  have hlt : index < 8 := hi
  have hshift : (UInt16.ofNat (index * 2)).toNat % 16 = index * 2 := by
    rw [UInt16.toNat_ofNat']
    omega
  have hpow : 2 ^ (index * 2) = 4 ^ index := by rw [Nat.mul_comm, Nat.pow_mul]
  rw [unpackType, UInt16.toNat_toUInt8, UInt16.toNat_and, UInt16.toNat_shiftRight, hshift,
    Nat.shiftRight_eq_div_pow, hpow, show (3 : UInt16).toNat = 2 ^ 2 - 1 from rfl,
    Nat.and_two_pow_sub_one_eq_mod]
  omega

/-- A type of two bits is what was packed. -/
theorem and_three_of_lt {t : UInt8} (h : t < 4) : t &&& 3 = t := by
  have hmask : (3 : UInt8).toNat = 2 ^ 2 - 1 := rfl
  apply UInt8.toNat_inj.1
  rw [UInt8.toNat_and, hmask, Nat.and_two_pow_sub_one_eq_mod, Nat.mod_eq_of_lt]
  exact UInt8.lt_iff_toNat_lt.1 h

/-! ## Fingerprints -/

theorem toUInt8_fingerprint (presence failures : UInt8) :
    (fingerprint presence failures).toUInt8 = presence := by
  apply UInt8.toBitVec_inj.1
  ext i hi
  simp [fingerprint]

theorem toUInt8_fingerprint_shift (presence failures : UInt8) :
    (fingerprint presence failures >>> 8).toUInt8 = failures := by
  apply UInt8.toBitVec_inj.1
  ext i hi
  simp [fingerprint, Nat.lt_of_lt_of_le hi]
  omega

theorem fingerprint_inj {p p' f f' : UInt8} (h : fingerprint p f = fingerprint p' f') :
    p = p' ∧ f = f' := by
  constructor
  · rw [← toUInt8_fingerprint p f, h, toUInt8_fingerprint]
  · rw [← toUInt8_fingerprint_shift p f, h, toUInt8_fingerprint_shift]

end Backplane
