import Mathlib.Data.List.DropRight
import Backplane.Text.Field

/-!
# Texts in fields

Which texts a field gives back. A text is written to a field as UTF-8, cut at the size of the field and
filled up with zeros. The zeros do not matter, and what comes out is what went in exactly where the text is
short enough, printable ASCII, and does not end in a blank.

* `toList_toUTF8`, `toList_toUTF8_of_printable`: the bytes of a text.
* `fieldText_append_padding`: what fills a field up.
* `printable_fieldText`, `getLast?_fieldText_ne`: every text of a field.
* `fieldText_eq_iff`: the texts that come out as they went in.
-/
namespace Backplane.Text

/-! ## Bytes of a text -/

theorem toList_loop (bytes : ByteArray) (i : Nat) (seen : List UInt8) :
    ByteArray.toList.loop bytes i seen = seen.reverse ++ bytes.data.toList.drop i := by
  fun_induction ByteArray.toList.loop with
  | case1 i seen hi ih =>
    have hlength : i < bytes.data.toList.length := hi
    have hget : bytes.get! i = bytes.data.toList[i] := by
      change bytes.data[i]! = _
      rw [getElem!_pos bytes.data i hi, Array.getElem_toList]
    rw [ih, List.reverse_cons, List.append_assoc, hget, List.singleton_append, ← List.drop_eq_getElem_cons hi]
  | case2 i seen hi =>
    rw [List.drop_of_length_le (Nat.le_of_not_lt hi), List.append_nil]

theorem toList_toUTF8 (text : String) : text.toUTF8.toList = text.toList.flatMap String.utf8EncodeChar := by
  rw [ByteArray.toList, toList_loop, String.toUTF8_eq_toByteArray, ← String.utf8Encode_toList,
    List.utf8Encode, List.data_toByteArray]
  rfl

theorem length_toUTF8 (text : String) : text.toUTF8.toList.length = text.utf8ByteSize := by
  rw [ByteArray.toList, toList_loop]
  rfl

/-- Printable ASCII, the blank included. -/
def Printable (c : Char) : Prop := 0x20 ≤ c.toNat ∧ c.toNat ≤ 0x7E

instance : DecidablePred Printable := fun c => inferInstanceAs (Decidable (0x20 ≤ c.toNat ∧ c.toNat ≤ 0x7E))

/-- The byte of a character of ASCII. -/
def byteOf (c : Char) : UInt8 := c.val.toUInt8

theorem Printable.toNat_byteOf {c : Char} (h : Printable c) : (byteOf c).toNat = c.toNat := by
  change c.val.toUInt8.toNat = c.toNat
  rw [UInt32.toNat_toUInt8]
  exact Nat.mod_eq_of_lt (Nat.lt_of_le_of_lt h.2 (by decide))

/-- Printable characters are single bytes. -/
theorem toList_toUTF8_of_printable {text : String} (h : ∀ c ∈ text.toList, Printable c) :
    text.toUTF8.toList = text.toList.map byteOf := by
  rw [toList_toUTF8, ← List.flatMap_pure_eq_map]
  refine List.flatMap_congr fun c hc => ?_
  have hsize : c.utf8Size = 1 := by
    rw [Char.utf8Size_eq_one_iff, UInt32.le_iff_toNat_le]
    exact Nat.le_succ_of_le (h c hc).2
  exact String.utf8EncodeChar_eq_singleton hsize

/-! ## Bytes of a field -/

theorem fieldBytes_eq (raw : List UInt8) : fieldBytes raw = (raw.takeWhile (· != 0)).rdropWhile isPadding :=
  rfl

/-- Padding behind a field does not matter. -/
theorem fieldText_append_padding (raw : List UInt8) {padding : List UInt8}
    (h : ∀ b ∈ padding, isPadding b = true) : fieldText (raw ++ padding) = fieldText raw := by
  have hdrop : ∀ more, (∀ b ∈ more, isPadding b = true) →
      (raw ++ more).rdropWhile isPadding = raw.rdropWhile isPadding := by
    intro more hmore
    rw [List.rdropWhile, List.rdropWhile, List.reverse_append,
      List.dropWhile_append_of_pos fun b hb => hmore b (List.mem_reverse.1 hb)]
  rw [fieldText, fieldText, fieldBytes_eq, fieldBytes_eq, List.takeWhile_append]
  split
  · next hall =>
    have hwhole : raw.takeWhile (· != 0) = raw := (List.takeWhile_prefix _).eq_of_length hall
    rw [hwhole, hdrop _ fun b hb => h b ((List.takeWhile_prefix _).mem hb)]
  · rfl

theorem length_fieldBytes_le (raw : List UInt8) : (fieldBytes raw).length ≤ raw.length :=
  Nat.le_trans (List.rdropWhile_prefix isPadding _).length_le (List.takeWhile_prefix _).length_le

/-- The last byte that carries text is none of those that pad a field. -/
theorem not_isPadding_getLast {raw : List UInt8} {b : UInt8} (h : (fieldBytes raw).getLast? = some b) :
    isPadding b = false := by
  rw [fieldBytes_eq] at h
  have hne : (raw.takeWhile (· != 0)).rdropWhile isPadding ≠ [] := by
    rintro hnil
    simp [hnil] at h
  rw [List.getLast?_eq_some_getLast hne, Option.some.injEq] at h
  have hkept := List.rdropWhile_last_not isPadding _ hne
  rw [h] at hkept
  exact Bool.eq_false_iff.2 hkept

/-- Bytes that are text and do not end in padding are text as they are. -/
theorem fieldBytes_eq_self {raw : List UInt8} (hzero : ∀ b ∈ raw, b ≠ 0)
    (hlast : ∀ b, raw.getLast? = some b → isPadding b = false) : fieldBytes raw = raw := by
  have hcut : raw.takeWhile (· != 0) = raw :=
    List.takeWhile_eq_self_iff.2 fun b hb => by simpa using hzero b hb
  rw [fieldBytes_eq, hcut, List.rdropWhile_eq_self_iff]
  intro hne
  exact Bool.eq_false_iff.1 (hlast _ (List.getLast?_eq_some_getLast hne))

/-! ## Texts of a field -/

theorem toNat_fieldChar {b : UInt8} (h : isPrintable b = true) : (fieldChar b).toNat = b.toNat := by
  have hvalid : b.toNat.isValidChar := Or.inl (Nat.lt_trans b.toNat_lt (by decide))
  rw [fieldChar, if_pos h, Char.ofNat, dif_pos hvalid]
  rfl

theorem printable_fieldChar (b : UInt8) : Printable (fieldChar b) := by
  by_cases h : isPrintable b = true
  · have hchar := toNat_fieldChar h
    simp only [isPrintable, Bool.and_eq_true, decide_eq_true_eq, UInt8.le_iff_toNat_le] at h
    rw [Printable, hchar]
    exact h
  · rw [fieldChar, if_neg h]
    decide

theorem fieldChar_byteOf {c : Char} (h : Printable c) : fieldChar (byteOf c) = c := by
  have hbyte := h.toNat_byteOf
  have hprint : isPrintable (byteOf c) = true := by
    simp only [isPrintable, Bool.and_eq_true, decide_eq_true_eq, UInt8.le_iff_toNat_le, hbyte]
    exact h
  rw [fieldChar, if_pos hprint, hbyte]
  exact Char.ofNat_toNat c

theorem byteOf_ne_zero {c : Char} (h : Printable c) : byteOf c ≠ 0 := by
  intro hzero
  have hle := h.toNat_byteOf ▸ h.1
  rw [hzero] at hle
  exact absurd hle (by decide)

/-- Among the printable characters only the blank pads a field. -/
theorem isPadding_byteOf {c : Char} (h : Printable c) (hpad : isPadding (byteOf c) = true) : c = ' ' := by
  obtain ⟨hmin, hmax⟩ := id h
  have hbyte := h.toNat_byteOf
  simp only [isPadding, Bool.or_eq_true, decide_eq_true_eq, beq_iff_eq, UInt8.le_iff_toNat_le,
    ← UInt8.toNat_inj, hbyte] at hpad
  have hblank : c.toNat = 0x20 := by
    obtain (hle | hdel) | hff := hpad
    · exact Nat.le_antisymm hle hmin
    · exact absurd hdel (Nat.ne_of_lt (Nat.lt_succ_of_le hmax))
    · exact absurd hff (Nat.ne_of_lt (Nat.lt_of_le_of_lt hmax (by decide)))
  rw [← Char.ofNat_toNat c, hblank]

/-- What is left of a field does not end in a blank. -/
theorem fieldChar_ne_blank {b : UInt8} (h : isPadding b = false) : fieldChar b ≠ ' ' := by
  intro hblank
  by_cases hprint : isPrintable b = true
  · have hb : b = 0x20 := by
      rw [← UInt8.toNat_inj, ← toNat_fieldChar hprint, hblank]
      rfl
    rw [hb] at h
    exact absurd h (by decide)
  · rw [fieldChar, if_neg hprint] at hblank
    exact absurd hblank (by decide)

theorem printable_fieldText (raw : List UInt8) : ∀ c ∈ (fieldText raw).toList, Printable c := by
  intro c hc
  rw [fieldText, String.toList_ofList] at hc
  obtain ⟨b, -, rfl⟩ := List.mem_map.1 hc
  exact printable_fieldChar b

theorem getLast?_fieldText_ne (raw : List UInt8) : (fieldText raw).toList.getLast? ≠ some ' ' := by
  intro hblank
  rw [fieldText, String.toList_ofList, List.getLast?_map, Option.map_eq_some_iff] at hblank
  obtain ⟨b, hlast, hb⟩ := hblank
  exact fieldChar_ne_blank (not_isPadding_getLast hlast) hb

theorem utf8ByteSize_fieldText_le (raw : List UInt8) : (fieldText raw).utf8ByteSize ≤ raw.length := by
  calc (fieldText raw).utf8ByteSize
    _ = (fieldText raw).toUTF8.toList.length := (length_toUTF8 _).symm
    _ = (fieldText raw).toList.length := by
      rw [toList_toUTF8_of_printable (printable_fieldText raw), List.length_map]
    _ = (fieldBytes raw).length := by rw [fieldText, String.toList_ofList, List.length_map]
    _ ≤ raw.length := length_fieldBytes_le raw

/-- A text that a field of `size` bytes holds unchanged: it is no longer than the field, it is printable
ASCII, and it does not end in a blank. -/
structure Fits (size : Nat) (text : String) : Prop where
  short : text.utf8ByteSize ≤ size
  printable : ∀ c ∈ text.toList, Printable c
  unblank : text.toList.getLast? ≠ some ' '

instance (size : Nat) (text : String) : Decidable (Fits size text) :=
  letI : Decidable (∀ c ∈ text.toList, Printable c) := List.decidableBAll Printable text.toList
  decidable_of_iff
    (text.utf8ByteSize ≤ size ∧ (∀ c ∈ text.toList, Printable c) ∧ text.toList.getLast? ≠ some ' ')
    ⟨fun ⟨hs, hp, hu⟩ => ⟨hs, hp, hu⟩, fun h => ⟨h.short, h.printable, h.unblank⟩⟩

/-- A field gives back the texts that fit it, and no others. -/
theorem fieldText_eq_iff (size : Nat) (text : String) :
    fieldText (text.toUTF8.toList.take size) = text ↔ Fits size text := by
  constructor
  · intro h
    have hsize := utf8ByteSize_fieldText_le (text.toUTF8.toList.take size)
    rw [h, List.length_take] at hsize
    exact ⟨hsize.trans (Nat.min_le_left _ _), h ▸ printable_fieldText _, h ▸ getLast?_fieldText_ne _⟩
  · rintro ⟨hshort, hprint, hblank⟩
    have hbytes := toList_toUTF8_of_printable hprint
    have hall : text.toUTF8.toList.take size = text.toList.map byteOf := by
      rw [List.take_of_length_le (by rw [length_toUTF8]; exact hshort), hbytes]
    have hself : fieldBytes (text.toList.map byteOf) = text.toList.map byteOf := by
      refine fieldBytes_eq_self ?_ ?_
      · intro b hb
        obtain ⟨c, hc, rfl⟩ := List.mem_map.1 hb
        exact byteOf_ne_zero (hprint c hc)
      · intro b hb
        rw [List.getLast?_map, Option.map_eq_some_iff] at hb
        obtain ⟨c, hc, rfl⟩ := hb
        have hne : c ≠ ' ' := fun heq => hblank (heq ▸ hc)
        exact Bool.eq_false_iff.2 fun hpad =>
          hne (isPadding_byteOf (hprint c (List.mem_of_getLast? hc)) hpad)
    have hback : (text.toList.map byteOf).map fieldChar = text.toList := by
      rw [List.map_map]
      exact (List.map_congr_left fun c hc => fieldChar_byteOf (hprint c hc)).trans (List.map_id _)
    rw [fieldText, hall, hself, hback, String.ofList_toList]

end Backplane.Text
