import Backplane.Bus.Playback
import Backplane.Driver.Basic
import Backplane.Proofs.Text.Field

/-!
# What is kept of a field

The bytes of a field that carry its text, said without the reader: the field is cut in front of its first
NUL, and of what is left the longest piece from the start on is kept that does not end in a byte that
fields are padded with. A control byte inside is kept and reads as an underscore, and an underscore is no
padding, so a text that came out of a field reads as itself.

* `isFront_takeWhile`, `isKept_fieldBytes`: the reader keeps that piece.
* `fieldText_append_nul`, `fieldText_append_padding`: what stands behind a field does not matter.
* `Driver.fieldText_keeps`: the text of a field, and when it is logged.
-/
namespace Backplane

namespace Text

variable {b : UInt8} {raw front kept : List UInt8}

/-- A byte that is dropped at the end of a field: white space, erased flash, or a control byte of ASCII. -/
def Trimmed (b : UInt8) : Prop :=
  b ∈ [0x09, 0x0A, 0x0B, 0x0C, 0x0D, 0x20, 0xFF] ∨ b < 0x20 ∨ b = 0x7F

instance : DecidablePred Trimmed := fun b =>
  inferInstanceAs (Decidable (b ∈ [0x09, 0x0A, 0x0B, 0x0C, 0x0D, 0x20, 0xFF] ∨ b < 0x20 ∨ b = 0x7F))

theorem isPadding_iff : isPadding b = true ↔ Trimmed b := by
  simp only [isPadding, Trimmed, List.mem_cons, List.not_mem_nil, or_false, Bool.or_eq_true,
    decide_eq_true_eq, beq_iff_eq, UInt8.le_iff_toNat_le, UInt8.lt_iff_toNat_lt, ← UInt8.toNat_inj,
    UInt8.reduceToNat]
  omega

theorem isPrintable_iff : isPrintable b = true ↔ 0x20 ≤ b ∧ b ≤ 0x7E := by
  simp [isPrintable]

/-- Everything in front of the first NUL, or everything where there is none. -/
def IsFront (raw front : List UInt8) : Prop :=
  0 ∉ front ∧ (front = raw ∨ front ++ [0] <+: raw)

/-- Bytes that do not end in one that is dropped there. -/
def EndsInText (bytes : List UInt8) : Prop := ∀ b, bytes.getLast? = some b → ¬ Trimmed b

/-- The longest piece from the start on that does not end in a dropped byte. -/
structure IsKept (front kept : List UInt8) : Prop where
  starts : kept <+: front
  ends : EndsInText kept
  longest : ∀ other, other <+: front → EndsInText other → other.length ≤ kept.length

/-- The text has a character for each byte: a printable one stands for itself, any other reads as an
underscore. -/
structure Spells (kept : List UInt8) (text : String) : Prop where
  length : text.length = kept.length
  char : ∀ i (hi : i < kept.length), text.toList[i]? =
    some (if 0x20 ≤ kept[i] ∧ kept[i] ≤ 0x7E then Char.ofNat kept[i].toNat else '_')

/-! ## The piece that is kept -/

theorem isFront_takeWhile (raw : List UInt8) : IsFront raw (raw.takeWhile (· != 0)) := by
  induction raw with
  | nil => exact ⟨by simp, .inl rfl⟩
  | cons b raw ih =>
    obtain ⟨hfree, hcut⟩ := ih
    by_cases hb : b = 0
    · subst hb
      exact ⟨by simp, .inr ⟨raw, rfl⟩⟩
    · have hkeep : (b :: raw).takeWhile (· != 0) = b :: raw.takeWhile (· != 0) := by
        rw [List.takeWhile_cons, if_pos (by simpa using hb)]
      rw [hkeep]
      refine ⟨by simpa [eq_comm] using ⟨hb, hfree⟩, ?_⟩
      obtain hall | ⟨rest, hrest⟩ := hcut
      · exact .inl (congrArg _ hall)
      · exact .inr ⟨rest, congrArg _ hrest⟩

/-- Bytes are dropped from the end one by one, and the first one that is text ends that. -/
theorem isKept_rdropWhile (front : List UInt8) : IsKept front (front.rdropWhile isPadding) := by
  induction front using List.reverseRecOn with
  | nil =>
    refine ⟨List.prefix_rfl, by simp [EndsInText], fun other hother _ => ?_⟩
    rw [List.prefix_nil.1 hother]
    rfl
  | append_singleton front b ih =>
    by_cases hb : isPadding b = true
    · rw [List.rdropWhile_concat_pos _ _ _ hb]
      refine ⟨ih.starts.trans (List.prefix_append front [b]), ih.ends, fun other hother hends => ?_⟩
      obtain rfl | hother := List.prefix_concat_iff.1 hother
      · exact absurd (isPadding_iff.1 hb) (hends b List.getLast?_concat)
      · exact ih.longest other hother hends
    · rw [List.rdropWhile_concat_neg _ _ _ hb]
      refine ⟨List.prefix_rfl, fun last hlast => ?_, fun other hother _ => hother.length_le⟩
      rw [List.getLast?_concat, Option.some.injEq] at hlast
      exact hlast ▸ mt isPadding_iff.2 hb

theorem isKept_fieldBytes (raw : List UInt8) : IsKept (raw.takeWhile (· != 0)) (fieldBytes raw) :=
  isKept_rdropWhile _

theorem spells_fieldText (raw : List UInt8) : Spells (fieldBytes raw) (fieldText raw) where
  length := by simp [fieldText]
  char i hi := by
    simp only [fieldText, String.toList_ofList, List.getElem?_map, List.getElem?_eq_getElem hi,
      Option.map_some, fieldChar, isPrintable_iff]

theorem fieldReplaced_iff : fieldReplaced raw = true ↔ ∃ b ∈ fieldBytes raw, ¬ (0x20 ≤ b ∧ b ≤ 0x7E) := by
  simp only [fieldReplaced, List.any_eq_true, Bool.not_eq_true', ← isPrintable_iff, Bool.not_eq_true]

/-! ## What stands behind a field -/

/-- Nothing behind a NUL matters. -/
theorem fieldText_append_nul (raw junk : List UInt8) : fieldText (raw ++ [0] ++ junk) = fieldText raw := by
  have hcut : (raw ++ [0] ++ junk).takeWhile (· != 0) = raw.takeWhile (· != 0) := by
    induction raw with
    | nil => rfl
    | cons b raw ih => rw [List.cons_append, List.cons_append, List.takeWhile_cons, List.takeWhile_cons, ih]
  rw [fieldText, fieldText, fieldBytes_eq, fieldBytes_eq, hcut]

/-- A text that came out of a field reads as itself. -/
theorem fieldText_fieldText (raw : List UInt8) : fieldText (fieldText raw).toUTF8.toList = fieldText raw := by
  have hself := (fieldText_eq_iff (fieldText raw).utf8ByteSize (fieldText raw)).2
    ⟨Nat.le_refl _, printable_fieldText raw, getLast?_fieldText_ne raw⟩
  rwa [List.take_of_length_le (Nat.le_of_eq (length_toUTF8 _))] at hself

end Text

namespace Driver
variable {σ : Type} (site : Site σ) (bench : Bench σ)

/-- The line about a text with characters that were put in. -/
def replacedLine (text : String) : LogLine :=
  ⟨.library, .info, s!"String contains non-printable characters: {Text.quoted text}"⟩

theorem run_fieldText (raw : List UInt8) :
    site.run (fieldText raw) bench = (Text.fieldText raw,
      if Text.fieldReplaced raw then
        { bench with events := bench.events.push (.noted (.log (replacedLine (Text.fieldText raw)))) }
      else bench) := by
  rw [fieldText]
  split <;> rfl

/-- The text of a field: its bytes are cut in front of the first NUL, the longest piece is kept that does
not end in padding, and each byte of that reads as one character. A line is written exactly where one of
them had to be replaced. So the text is printable and does not end in a blank, it reads as itself, and
neither what is behind a NUL nor padding at the end matters. -/
theorem fieldText_keeps (raw : List UInt8) :
    let text := (site.run (fieldText raw) bench).1
    (∃ front kept, Text.IsFront raw front ∧ Text.IsKept front kept ∧ Text.Spells kept text ∧
      (site.run (fieldText raw) bench).2 =
        if ∃ b ∈ kept, ¬ (0x20 ≤ b ∧ b ≤ 0x7E) then
          { bench with events := bench.events.push (.noted (.log (replacedLine text))) }
        else bench) ∧
      (∀ c ∈ text.toList, Text.Printable c) ∧
      text.toList.getLast? ≠ some ' ' ∧
      (site.run (fieldText text.toUTF8.toList) bench).1 = text ∧
      (∀ junk, (site.run (fieldText (raw ++ [0] ++ junk)) bench).1 = text) ∧
      ∀ padding, (∀ b ∈ padding, b = 0 ∨ Text.Trimmed b) →
        (site.run (fieldText (raw ++ padding)) bench).1 = text := by
  have htext : ∀ raw, (site.run (fieldText raw) bench).1 = Text.fieldText raw :=
    fun raw => congrArg Prod.fst (run_fieldText site bench raw)
  simp only [htext]
  refine ⟨⟨_, _, Text.isFront_takeWhile raw, Text.isKept_fieldBytes raw, Text.spells_fieldText raw, ?log⟩,
    Text.printable_fieldText raw, Text.getLast?_fieldText_ne raw, Text.fieldText_fieldText raw,
    Text.fieldText_append_nul raw, ?padding⟩
  case log =>
    rw [run_fieldText]
    exact if_congr Text.fieldReplaced_iff rfl rfl
  case padding =>
    intro padding hpadding
    refine Text.fieldText_append_padding raw fun b hb => ?_
    obtain rfl | htrimmed := hpadding b hb
    · rfl
    · exact Text.isPadding_iff.2 htrimmed

/-- A byte inside that is not printable is replaced, the same bytes at the end are dropped, and a
replaced one is not. -/
theorem fieldText_keeps_replaced :
    let site := Playback.bus.site
    let bench : Bench Playback := ⟨⟨[], .ok .required, ⟨[], ⟨none, []⟩⟩⟩, #[]⟩
    let raw : List UInt8 := [0x76, 0x01, 0xFF, 0x80]
    (∀ b ∈ [0xFF, 0x00, 0x09], b = 0 ∨ Text.Trimmed b) ∧
      (site.run (fieldText raw) bench).1 = "v___" ∧
      (site.run (fieldText (raw ++ [0xFF, 0x00, 0x09])) bench).1 = "v___" := by
  intro site bench raw
  have hpadding : ∀ b ∈ [0xFF, 0x00, 0x09], b = 0 ∨ Text.Trimmed b := by
    simp [Text.Trimmed]
  have htext : (site.run (fieldText raw) bench).1 = "v___" := by
    rw [run_fieldText]
    decide
  obtain ⟨-, -, -, -, -, hbehind⟩ := fieldText_keeps site bench raw
  exact ⟨hpadding, htext, (hbehind _ hpadding).trans htext⟩

end Driver
end Backplane
