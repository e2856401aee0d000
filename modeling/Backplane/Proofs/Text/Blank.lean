import Mathlib.Data.List.DropRight
import Backplane.Text.Blank

/-!
# What is trimmed

A text without the blanks at its ends, said without the loops that drop them: what stands in front of it and
behind it is blank, and it neither starts nor ends in a blank.

* `trimChars_blanks`: blanks around a text do not matter.
* `trims_iff`: trimming gives the text between the blanks, so there is only one.
-/
namespace Backplane.Text

/-- The text is `name` between blanks, and `name` neither starts nor ends in one. -/
structure Trims (text name : List Char) : Prop where
  around : ∃ front back, text = front ++ name ++ back ∧ ∀ c ∈ front ++ back, isBlank c = true
  starts : ∀ c, name.head? = some c → isBlank c = false
  ends : ∀ c, name.getLast? = some c → isBlank c = false

variable {text name front back : List Char}

theorem trimChars_eq (text : List Char) : trimChars text = (text.dropWhile isBlank).rdropWhile isBlank := rfl

theorem rdropWhile_append_blanks (hback : ∀ c ∈ back, isBlank c = true) (text : List Char) :
    (text ++ back).rdropWhile isBlank = text.rdropWhile isBlank := by
  have hreverse : ∀ c ∈ back.reverse, isBlank c = true := fun c hc => hback c (List.mem_reverse.1 hc)
  rw [List.rdropWhile, List.reverse_append, List.dropWhile_append_of_pos hreverse]
  rfl

/-- Blanks around a text do not matter. -/
theorem trimChars_blanks (hblank : ∀ c ∈ front ++ back, isBlank c = true) (text : List Char) :
    trimChars (front ++ text ++ back) = trimChars text := by
  obtain ⟨hfront, hback⟩ := List.forall_mem_append.1 hblank
  rw [trimChars_eq, trimChars_eq, List.append_assoc, List.dropWhile_append_of_pos hfront, List.dropWhile_append]
  split
  · next hempty =>
    have hall : back.dropWhile isBlank = [] := List.dropWhile_eq_nil_iff.2 hback
    rw [hall, List.isEmpty_iff.1 hempty]
  · exact rdropWhile_append_blanks hback _

theorem trims_trimChars (text : List Char) : Trims text (trimChars text) where
  around := by
    refine ⟨text.takeWhile isBlank, (text.dropWhile isBlank).rtakeWhile isBlank, ?_, ?_⟩
    · rw [trimChars_eq, List.append_assoc, List.rdropWhile_append_rtakeWhile, List.takeWhile_append_dropWhile]
    · exact List.forall_mem_append.2 ⟨fun c => List.mem_takeWhile_imp, fun c => List.mem_rtakeWhile_imp⟩
  starts c hc := by
    -- What is left of the text without its front starts as that text does.
    obtain ⟨rest, hrest⟩ := List.head?_eq_some_iff.1 hc
    obtain ⟨dropped, hdropped⟩ := List.rdropWhile_prefix isBlank (text.dropWhile isBlank)
    have hnot := List.head?_dropWhile_not isBlank text
    rw [← hdropped, ← trimChars_eq, hrest] at hnot
    exact hnot
  ends c hc := by
    obtain ⟨rest, hrest⟩ := List.getLast?_eq_some_iff.1 hc
    have hne : trimChars text ≠ [] := by simp [hrest]
    have hnot := List.rdropWhile_last_not isBlank (text.dropWhile isBlank) hne
    simpa [← trimChars_eq, hrest] using hnot

theorem trimChars_self (hstarts : ∀ c, name.head? = some c → isBlank c = false)
    (hends : ∀ c, name.getLast? = some c → isBlank c = false) : trimChars name = name := by
  have hfront : name.dropWhile isBlank = name := by
    cases name with
    | nil => rfl
    | cons c rest => exact List.dropWhile_cons_of_neg (by simp [hstarts c rfl])
  rw [trimChars_eq, hfront, List.rdropWhile_eq_self_iff]
  exact fun hne => by simp [hends _ (List.getLast?_eq_some_getLast hne)]

theorem isBlank_of_all (h : text.all (!isBlank ·) = true) : ∀ c ∈ text, isBlank c = false := by
  simpa using h

theorem trimChars_of_forall (h : ∀ c ∈ name, isBlank c = false) : trimChars name = name :=
  trimChars_self (fun c hc => h c (List.mem_of_head? hc)) fun c hc => h c (List.mem_of_getLast? hc)

theorem trimChars_trimChars (text : List Char) : trimChars (trimChars text) = trimChars text :=
  trimChars_self (trims_trimChars text).starts (trims_trimChars text).ends

theorem trims_iff : Trims text name ↔ trimChars text = name := by
  constructor
  · rintro ⟨⟨front, back, rfl, hblank⟩, hstarts, hends⟩
    rw [trimChars_blanks hblank, trimChars_self hstarts hends]
  · rintro rfl
    exact trims_trimChars text

end Backplane.Text
