import Mathlib.Data.Nat.Digits.Lemmas
import Backplane.Proofs.Lists
import Backplane.Text.Numeral

/-!
# What is a numeral

The numerals of a radix and their values, said without the reader: an optional plus sign and one or more
digits, of which each counts as many times as its place says. Zeros in front are digits like any others. The
reader gives the value of a numeral where it is in range, and there are no other values it gives.

* `digits_eq_ok_iff`: the reader of digits behind a value that was read, by `continues_cons`.
* `numeral_eq_ok_iff`: the reader reads numerals, and `value_unique`: to one value each.
* `IsDigits.zeros`: zeros in front, and `isDigits_toString`: the digits that a number is printed with.
-/
namespace Backplane.Text

/-- The character is a digit of the radix and stands for `d`. Behind `9` come the letters, of either case. -/
def IsDigit (radix : Nat) (c : Char) (d : Nat) : Prop :=
  d < radix ∧ (c = d.digitChar ∨ c = d.digitChar.toUpper)

/-- The text is digits of the radix, at least one, and each counts as many times as its place says. -/
def IsDigits (radix : Nat) (text : List Char) (n : Nat) : Prop :=
  text ≠ [] ∧ ∃ values, List.Forall₂ (IsDigit radix) text values ∧ n = Nat.ofDigits radix values.reverse

/-- The text is a numeral of the radix and stands for `n`. -/
def IsNumeral (radix : Nat) (text : List Char) (n : Nat) : Prop :=
  ∃ written, (text = written ∨ text = '+' :: written) ∧ IsDigits radix written n

variable {radix limit value n : Nat} {c : Char} {d : Nat} {text : List Char}

/-! ## Digits -/

theorem isDigit_of_digit? (hradix : radix ≤ 16) (h : digit? radix c = some d) : IsDigit radix c d := by
  obtain ⟨hvalue, hlt⟩ := Option.filter_eq_some_iff.1 h
  have hlt : d < radix := by simpa using hlt
  have hd : d < 16 := by omega
  have hcode : c.toNat = d + 48 ∧ d < 10 ∨ (c.toNat = d + 87 ∨ c.toNat = d + 55) ∧ 10 ≤ d := by
    simp only [Bool.and_eq_true, decide_eq_true_eq] at hvalue
    split at hvalue
    · have := Option.some.inj hvalue
      omega
    · split at hvalue
      · have := Option.some.inj hvalue
        omega
      · split at hvalue
        · have := Option.some.inj hvalue
          omega
        · cases hvalue
  refine ⟨hlt, ?_⟩
  rw [← Char.ofNat_toNat c]
  obtain ⟨hcode, hten⟩ | ⟨hcode | hcode, hten⟩ := hcode <;> rw [hcode]
  · left
    interval_cases d <;> rfl
  · left
    interval_cases d <;> rfl
  · right
    interval_cases d <;> rfl

theorem digit?_of_isDigit (hradix : radix ≤ 16) (h : IsDigit radix c d) : digit? radix c = some d := by
  obtain ⟨hlt, hchar⟩ := h
  have hd : d < 16 := by omega
  refine Option.filter_eq_some_iff.2 ⟨?_, by simpa using hlt⟩
  obtain rfl | rfl := hchar <;> interval_cases d <;> rfl

/-- Digits behind a value that was read move it up by as many places, and come to `n`. -/
def Continues (radix value : Nat) (text : List Char) (n : Nat) : Prop :=
  ∃ values, List.Forall₂ (IsDigit radix) text values ∧
    n = value * radix ^ values.length + Nat.ofDigits radix values.reverse

theorem continues_nil : Continues radix value [] n ↔ value = n := by
  constructor
  · rintro ⟨values, hvalues, rfl⟩
    cases hvalues
    simp
  · rintro rfl
    exact ⟨[], .nil, by simp⟩

/-- The digit in front moves the value up by one place. -/
theorem continues_cons (hradix : radix ≤ 16) (hd : IsDigit radix c d) :
    Continues radix value (c :: text) n ↔ Continues radix (value * radix + d) text n := by
  have hplaces : ∀ values, value * radix ^ (d :: values).length + Nat.ofDigits radix (d :: values).reverse =
      (value * radix + d) * radix ^ values.length + Nat.ofDigits radix values.reverse := by
    intro values
    rw [Nat.ofDigits_reverse_cons, List.length_cons, Nat.pow_succ]
    ring
  constructor
  · rintro ⟨values, hvalues, rfl⟩
    obtain ⟨other, values, hother, hrest, rfl⟩ := List.forall₂_cons_left_iff.1 hvalues
    obtain rfl : other = d :=
      Option.some.inj ((digit?_of_isDigit hradix hother).symm.trans (digit?_of_isDigit hradix hd))
    exact ⟨values, hrest, hplaces values⟩
  · rintro ⟨values, hrest, rfl⟩
    exact ⟨d :: values, .cons hd hrest, (hplaces values).symm⟩

theorem Continues.le (h : Continues radix value text n) (hpos : 0 < radix) : value ≤ n := by
  obtain ⟨values, -, rfl⟩ := h
  have hup : value ≤ value * radix ^ values.length := Nat.le_mul_of_pos_right _ (Nat.pow_pos hpos)
  omega

/-- The reader looks at the limit behind every digit, and no value on the way is larger than the last. -/
theorem digits_eq_ok_iff (hpos : 0 < radix) (hradix : radix ≤ 16) (hvalue : value ≤ limit) :
    digits radix limit value text = .ok n ↔ Continues radix value text n ∧ n ≤ limit := by
  induction text generalizing value with
  | nil =>
    rw [digits, Except.ok.injEq, continues_nil]
    exact ⟨fun h => ⟨h, h ▸ hvalue⟩, And.left⟩
  | cons c rest ih =>
    rw [digits]
    cases hdigit : digit? radix c with
    | none =>
      simp only [reduceCtorEq, false_iff]
      rintro ⟨⟨values, hvalues, -⟩, -⟩
      obtain ⟨d, -, hd, -, -⟩ := List.forall₂_cons_left_iff.1 hvalues
      rw [digit?_of_isDigit hradix hd] at hdigit
      cases hdigit
    | some d =>
      rw [continues_cons hradix (isDigit_of_digit? hradix hdigit)]
      dsimp only
      by_cases hle : value * radix + d ≤ limit
      · rw [if_pos hle, ih hle]
      · rw [if_neg hle]
        simp only [reduceCtorEq, false_iff]
        rintro ⟨hcontinues, hn⟩
        exact hle ((hcontinues.le hpos).trans hn)

/-- Zeros in front add nothing. -/
theorem IsDigits.zeros (h : IsDigits radix text n) (hpos : 0 < radix) (k : Nat) :
    IsDigits radix (List.replicate k '0' ++ text) n := by
  obtain ⟨hne, values, hvalues, rfl⟩ := h
  refine ⟨by simp [hne], List.replicate k 0 ++ values, ?_, ?_⟩
  · refine List.rel_append ?_ hvalues
    induction k with
    | zero => exact .nil
    | succ k ih => exact .cons ⟨hpos, .inl rfl⟩ ih
  · rw [List.reverse_append, List.reverse_replicate, Nat.ofDigits_append_replicate_zero]

/-- The digits that a number is printed with. -/
theorem isDigits_toDigits (n : Nat) : IsDigits 10 (Nat.toDigits 10 n) n := by
  induction n using Nat.strongRecOn with
  | ind n ih =>
    rw [Nat.toDigits_eq_if (by decide)]
    split
    · next hlt => exact ⟨by simp, [n], .cons ⟨hlt, .inl rfl⟩ .nil, by simp⟩
    · next hge =>
      obtain ⟨-, values, hvalues, hn⟩ := ih (n / 10) (by omega)
      refine ⟨by simp, values ++ [n % 10], ?_, ?_⟩
      · exact List.rel_append hvalues (.cons ⟨Nat.mod_lt _ (by decide), .inl rfl⟩ .nil)
      · rw [List.reverse_append, List.reverse_singleton, List.singleton_append, Nat.ofDigits_cons, ← hn]
        exact (Nat.mod_add_div n 10).symm

theorem isDigits_toString (n : Nat) : IsDigits 10 (toString n).toList n := by
  rw [Nat.toString_eq_ofList_toDigits, String.toList_ofList]
  exact isDigits_toDigits n

/-! ## Numerals -/

theorem IsDigits.isNumeral (h : IsDigits radix text n) : IsNumeral radix text n := ⟨text, .inl rfl, h⟩

theorem IsDigits.signed (h : IsDigits radix text n) : IsNumeral radix ('+' :: text) n := ⟨text, .inr rfl, h⟩

/-- Text with a character that is no digit. -/
theorem not_isDigits_of_mem (hradix : radix ≤ 16) (hc : c ∈ text) (hnone : digit? radix c = none) :
    ¬ IsDigits radix text n := by
  rintro ⟨-, values, hvalues, -⟩
  obtain ⟨d, hd⟩ := exists_forall₂_iff.1 ⟨values, hvalues⟩ c hc
  rw [digit?_of_isDigit hradix hd] at hnone
  cases hnone

theorem not_isNumeral_of_mem (hradix : radix ≤ 16) (hc : c ∈ text) (hnone : digit? radix c = none)
    (hplus : c ≠ '+') : ¬ IsNumeral radix text n := by
  rintro ⟨written, rfl | rfl, hdigits⟩
  · exact not_isDigits_of_mem hradix hc hnone hdigits
  · exact not_isDigits_of_mem hradix (List.mem_of_ne_of_mem hplus hc) hnone hdigits

/-- The digits behind no value. -/
theorem digits_zero_eq_ok_iff (hpos : 0 < radix) (hradix : radix ≤ 16) (hne : text ≠ []) :
    digits radix limit 0 text = .ok n ↔ IsDigits radix text n ∧ n ≤ limit := by
  rw [digits_eq_ok_iff hpos hradix (Nat.zero_le limit)]
  simp only [Continues, Nat.zero_mul, Nat.zero_add, IsDigits, ne_eq, hne, not_false_eq_true, true_and]

theorem isNumeral_cons_plus (hradix : radix ≤ 16) :
    IsNumeral radix ('+' :: text) n ↔ IsDigits radix text n := by
  constructor
  · rintro ⟨written, rfl | heq, hdigits⟩
    · exact absurd hdigits (not_isDigits_of_mem hradix List.mem_cons_self rfl)
    · rwa [(List.cons.inj heq).2]
  · exact IsDigits.signed

theorem isNumeral_of_head (hhead : ∀ rest, text ≠ '+' :: rest) :
    IsNumeral radix text n ↔ IsDigits radix text n := by
  constructor
  · rintro ⟨written, rfl | heq, hdigits⟩
    · exact hdigits
    · exact absurd heq (hhead written)
  · exact IsDigits.isNumeral

/-- The reader gives the value of a numeral that is in range, and nothing else. -/
theorem numeral_eq_ok_iff (hpos : 0 < radix) (hradix : radix ≤ 16) :
    numeral radix limit text = .ok n ↔ IsNumeral radix text n ∧ n ≤ limit := by
  unfold numeral
  split
  · simp [IsNumeral, IsDigits]
  · rw [isNumeral_cons_plus hradix]
    simp [IsDigits]
  · next rest hrest =>
    rw [isNumeral_cons_plus hradix, digits_zero_eq_ok_iff hpos hradix hrest]
  · next hempty _ hhead =>
    rw [isNumeral_of_head hhead, digits_zero_eq_ok_iff hpos hradix hempty]

/-- What is read under every limit that it keeps to has one value. -/
theorem value_unique {ε : Type} {IsValue : Nat → Prop} {reader : Nat → Except ε Nat}
    (h : ∀ limit n, reader limit = .ok n ↔ IsValue n ∧ n ≤ limit) {m n : Nat} (hm : IsValue m) (hn : IsValue n) :
    m = n := by
  have hreads := (h (max m n) m).2 ⟨hm, Nat.le_max_left m n⟩
  rw [(h (max m n) n).2 ⟨hn, Nat.le_max_right m n⟩] at hreads
  exact (Except.ok.inj hreads).symm

end Backplane.Text
