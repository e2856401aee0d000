import Backplane.Simulator.Basic

/-!
# Memory of a simulated controller

What a memory holds behind a write, byte by byte and as a list.

* `getElem?_writeBytes_inside`, `getElem?_writeBytes_outside`: single bytes.
* `readBytes_writeBytes`: what was written reads back.
* `writeBytes_append`: writes one behind the other are one write.
* `toList_writeBytes`: a write at the start replaces the start.
-/
namespace Backplane.Simulator

variable {n : Nat} {memory : Vector UInt8 n} {offset i : Nat} {bytes : List UInt8}

@[simp] theorem writeBytes_nil : writeBytes memory offset [] = memory := rfl

theorem writeBytes_append (memory : Vector UInt8 n) (offset : Nat) (first rest : List UInt8) :
    writeBytes memory offset (first ++ rest) =
      writeBytes (writeBytes memory offset first) (offset + first.length) rest := by
  induction first generalizing memory offset with
  | nil => rfl
  | cons b first ih =>
    rw [List.cons_append, writeBytes, ih, writeBytes, List.length_cons]
    rw [show offset + 1 + first.length = offset + (first.length + 1) by omega]

theorem getElem?_writeBytes_outside (h : i < offset ∨ offset + bytes.length ≤ i) :
    (writeBytes memory offset bytes)[i]? = memory[i]? := by
  induction bytes generalizing memory offset with
  | nil => rfl
  | cons b bytes ih =>
    rw [List.length_cons] at h
    rw [writeBytes, ih (by omega), Vector.getElem?_setIfInBounds_ne (by omega)]

theorem getElem?_writeBytes_inside {k : Nat} (hk : k < bytes.length)
    (hle : offset + bytes.length ≤ n) :
    (writeBytes memory offset bytes)[offset + k]? = bytes[k]? := by
  induction bytes generalizing memory offset k with
  | nil => cases hk
  | cons b bytes ih =>
    rw [List.length_cons] at hk hle
    cases k with
    | zero =>
      rw [writeBytes, getElem?_writeBytes_outside (by omega), Nat.add_zero,
        Vector.getElem?_setIfInBounds_self_of_lt (by omega)]
      rfl
    | succ k =>
      rw [writeBytes, show offset + (k + 1) = offset + 1 + k by omega, ih (by omega) (by omega)]
      rfl

theorem readBytes_eq (memory : Vector UInt8 n) (offset length : Nat) :
    readBytes memory offset length = (memory.toList.drop offset).take length := by
  simp [readBytes, Array.toList_extract, List.extract, Vector.toList]

/-- What was written reads back. -/
theorem readBytes_writeBytes (memory : Vector UInt8 n) (offset : Nat) (bytes : List UInt8)
    (hle : offset + bytes.length ≤ n) :
    readBytes (writeBytes memory offset bytes) offset bytes.length = bytes := by
  rw [readBytes_eq]
  apply List.ext_getElem?
  intro k
  rcases Nat.lt_or_ge k bytes.length with hk | hk
  · rw [List.getElem?_take_of_lt hk, List.getElem?_drop, Vector.getElem?_toList,
      getElem?_writeBytes_inside hk hle]
  · rw [List.getElem?_eq_none hk, List.getElem?_eq_none]
    exact Nat.le_trans (List.length_take_le _ _) hk

/-- A write at the start replaces the start. -/
theorem toList_writeBytes (memory : Vector UInt8 n) (hle : bytes.length ≤ n) :
    (writeBytes memory 0 bytes).toList = bytes ++ memory.toList.drop bytes.length := by
  have htake : (writeBytes memory 0 bytes).toList.take bytes.length = bytes := by
    have h := readBytes_writeBytes memory 0 bytes (by omega)
    rwa [readBytes_eq, List.drop_zero] at h
  have hdrop : (writeBytes memory 0 bytes).toList.drop bytes.length =
      memory.toList.drop bytes.length := by
    apply List.ext_getElem?
    intro i
    rw [List.getElem?_drop, List.getElem?_drop, Vector.getElem?_toList, Vector.getElem?_toList,
      getElem?_writeBytes_outside (by omega)]
  rw [← List.take_append_drop bytes.length (writeBytes memory 0 bytes).toList, htake, hdrop]

end Backplane.Simulator
