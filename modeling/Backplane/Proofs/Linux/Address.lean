import Backplane.CommandLine.Argument
import Backplane.Proofs.Lists
import Backplane.Proofs.Text.Blank
import Backplane.Proofs.Text.Numeral
import Backplane.Scan.Config

/-!
# Texts of addresses

What a text of an address is, in one grammar: a decimal numeral, or `0x` and a hexadecimal one, of a value that
a target can have. The command line takes such a text, the name of a system target and an item of a scan list
take one between blanks. A value that is out of range is refused, also where its lowest bits are an address.

* `numeral_radixOf`: the reader of both kinds of numerals, and `isSpelled_unique`: it reads one value each.
* `readAddresses_eq_ok_iff`: a list of addresses, item by item.
* `parseAddress_agree`: the three readers together.
-/
namespace Backplane
namespace Linux
open Text

/-- The text spells `n`: a decimal numeral, or `0x` and a hexadecimal one. -/
def IsSpelled (text : List Char) (n : Nat) : Prop :=
  IsNumeral 10 text n ∨
    ∃ rest, (text = '0' :: 'x' :: rest ∨ text = '0' :: 'X' :: rest) ∧ IsNumeral 16 rest n

/-- The text spells the address of a target. -/
def IsAddress (text : List Char) (a : UInt8) : Prop :=
  IsSpelled text a.toNat ∧ 1 ≤ a.toNat ∧ a.toNat ≤ 127

variable {text : List Char} {n limit : Nat} {a : UInt8}

/-- The reader of both kinds of numerals. -/
theorem numeral_radixOf :
    numeral (radixOf text).1 limit (radixOf text).2 = .ok n ↔ IsSpelled text n ∧ n ≤ limit := by
  have hhex : ∀ {x : Char} {rest : List Char}, x = 'x' ∨ x = 'X' →
      (IsSpelled ('0' :: x :: rest) n ↔ IsNumeral 16 rest n) := by
    intro x rest hx
    constructor
    · rintro (hten | ⟨rest', heq, hsixteen⟩)
      · have hdigit : digit? 10 x = none ∧ x ≠ '+' := by obtain rfl | rfl := hx <;> decide
        exact absurd hten (not_isNumeral_of_mem (by decide) (by simp) hdigit.1 hdigit.2)
      · obtain heq | heq := heq <;> cases heq <;> exact hsixteen
    · intro hsixteen
      obtain rfl | rfl := hx
      · exact .inr ⟨rest, .inl rfl, hsixteen⟩
      · exact .inr ⟨rest, .inr rfl, hsixteen⟩
  unfold radixOf
  split
  · dsimp only
    rw [hhex (.inl rfl), numeral_eq_ok_iff (by decide) (by decide)]
  · dsimp only
    rw [hhex (.inr rfl), numeral_eq_ok_iff (by decide) (by decide)]
  · next hlower hupper =>
    dsimp only
    rw [numeral_eq_ok_iff (by decide) (by decide)]
    have hten : IsSpelled text n ↔ IsNumeral 10 text n := by
      refine ⟨?_, .inl⟩
      rintro (hten | ⟨rest, rfl | rfl, -⟩)
      · exact hten
      · exact absurd rfl (hlower rest)
      · exact absurd rfl (hupper rest)
    rw [hten]

theorem isSpelled_unique {m : Nat} (hm : IsSpelled text m) (hn : IsSpelled text n) : m = n :=
  value_unique (fun _ _ => numeral_radixOf) hm hn

theorem target?_eq_some_iff : target? n = some a ↔ n = a.toNat ∧ 1 ≤ a.toNat ∧ a.toNat ≤ 127 := by
  unfold target?
  constructor
  · intro h
    split at h
    · next hrange =>
      obtain rfl := Option.some.inj h
      have hn : (UInt8.ofNat n).toNat = n := by
        rw [UInt8.toNat_ofNat']
        omega
      exact ⟨hn.symm, by omega, by omega⟩
    · cases h
  · rintro ⟨rfl, hrange⟩
    rw [if_pos hrange, UInt8.ofNat_toNat]

/-- A number that is spelled and then taken for an address. -/
theorem isAddress_iff : (∃ n, (IsSpelled text n ∧ n ≤ wordLimit) ∧ target? n = some a) ↔ IsAddress text a := by
  simp only [target?_eq_some_iff]
  constructor
  · rintro ⟨n, ⟨hspelled, -⟩, rfl, hrange⟩
    exact ⟨hspelled, hrange⟩
  · rintro ⟨hspelled, hrange⟩
    have hword : a.toNat ≤ wordLimit := Nat.le_trans hrange.2 (by decide)
    exact ⟨a.toNat, ⟨hspelled, hword⟩, rfl, hrange⟩

theorem radixOf_cases (text : List Char) : ∃ rest, radixOf text = (16, rest) ∨ radixOf text = (10, rest) := by
  unfold radixOf
  split
  · exact ⟨_, .inl rfl⟩
  · exact ⟨_, .inl rfl⟩
  · exact ⟨_, .inr rfl⟩

/-! ## Readers -/

/-- A system target's. -/
theorem parseAddress_eq_ok_iff {s : String} :
    parseAddress s = .ok a ↔ IsAddress (trimChars s.toList) a := by
  rw [← isAddress_iff]
  simp only [← numeral_radixOf]
  unfold parseAddress
  dsimp only
  cases numeral (radixOf (trimChars s.toList)).1 wordLimit (radixOf (trimChars s.toList)).2 with
  | error fault => simp
  | ok n => cases h : target? n <;> simp [h]

example : parseAddress "\t0X+007f " = .ok 127 := rfl

end Linux

/-- The command line's. -/
theorem CommandLine.parseAddress_eq_ok_iff {s : String} {a : UInt8} :
    CommandLine.parseAddress s = .ok a ↔ Linux.IsAddress s.toList a := by
  rw [← Linux.isAddress_iff, CommandLine.parseAddress]
  simp only [← Linux.numeral_radixOf]
  obtain ⟨rest, hradix | hradix⟩ := Linux.radixOf_cases s.toList <;>
  · rw [hradix]
    refine bind_eq_ok_iff.trans (exists_congr fun n => and_congr mapError_eq_ok_iff ?_)
    cases Linux.target? n <;> simp [pure, Except.pure, throw, throwThe, MonadExceptOf.throw]

namespace ScanConfig
open Text
open Linux (IsSpelled IsAddress)

/-- The value is an item of a list of addresses and stands for `a`. -/
inductive Lists : Toml.Value → UInt8 → Prop
  | text {s : String} {name : List Char} {a : UInt8} (htrims : Trims s.toList name)
      (haddress : IsAddress name a) : Lists (.text s) a
  | integer {n : Int} {a : UInt8} (hn : n = a.toNat) (hrange : 1 ≤ n ∧ n ≤ 127) : Lists (.integer n) a

theorem parseNumber_eq_ok_iff {s : String} {n : Nat} :
    parseNumber s = .ok n ↔ IsSpelled (trimChars s.toList) n ∧ n ≤ wordLimit := by
  rw [parseNumber, ← Linux.numeral_radixOf]
  obtain ⟨rest, hradix | hradix⟩ := Linux.radixOf_cases (trimChars s.toList) <;>
  · rw [hradix]
    exact mapError_eq_ok_iff

theorem address_eq_ok_iff {w : Written} {a : UInt8} :
    w.address = .ok a ↔ ∃ n, w.number? = .ok n ∧ Linux.target? n = some a := by
  rw [Written.address, bind_eq_ok_iff]
  refine exists_congr fun n => and_congr_right fun _ => ?_
  cases Linux.target? n <;> simp [pure, Except.pure, throw, throwThe, MonadExceptOf.throw]

theorem word?_eq_some_iff {m : Int} {n : Nat} : word? m = some n ↔ m = n ∧ n ≤ wordLimit := by
  unfold word?
  split
  · rw [Option.some.injEq]
    omega
  · simp only [reduceCtorEq, false_iff]
    omega

/-- One item. -/
theorem lists_iff {value : Toml.Value} {a : UInt8} :
    (∃ w, readWritten value = .ok w ∧ w.address = .ok a) ↔ Lists value a := by
  constructor
  · rintro ⟨w, hw, ha⟩
    obtain ⟨n, hn, htarget⟩ := address_eq_ok_iff.1 ha
    cases value with
    | text s =>
      cases hw
      exact .text (trims_trimChars _) (Linux.isAddress_iff.1 ⟨n, parseNumber_eq_ok_iff.1 hn, htarget⟩)
    | integer m =>
      obtain ⟨rfl, hrange⟩ := Linux.target?_eq_some_iff.1 htarget
      rw [readWritten] at hw
      cases hword : word? m with
      | none =>
        rw [hword] at hw
        cases hw
      | some k =>
        rw [hword] at hw
        cases hw
        cases hn
        obtain ⟨rfl, -⟩ := word?_eq_some_iff.1 hword
        exact .integer rfl (by omega)
    | _ => cases hw
  · intro h
    cases h with
    | text htrims haddress =>
      obtain rfl := trims_iff.1 htrims
      obtain ⟨n, hn, htarget⟩ := Linux.isAddress_iff.2 haddress
      exact ⟨_, rfl, address_eq_ok_iff.2 ⟨n, parseNumber_eq_ok_iff.2 hn, htarget⟩⟩
    | integer hn hrange =>
      subst hn
      have hword : word? (a.toNat : Int) = some a.toNat :=
        word?_eq_some_iff.2 ⟨rfl, Nat.le_trans (by omega : a.toNat ≤ 127) (by decide)⟩
      refine ⟨.number a.toNat, by rw [readWritten, hword]; rfl, ?_⟩
      exact address_eq_ok_iff.2 ⟨a.toNat, rfl, Linux.target?_eq_some_iff.2 ⟨rfl, by omega, by omega⟩⟩

/-- A list is read item by item, although all items are told apart before any is read. -/
theorem readAddresses_eq_ok_iff {value : Toml.Value} {as : List UInt8} :
    readAddresses value = .ok as ↔
      ∃ headed items, value = .array headed items ∧ List.Forall₂ Lists items as := by
  have hitems : ∀ items, readItems value = .ok items ↔ ∃ headed, value = .array headed items := by
    intro items
    cases value <;> simp [readItems, mismatch]
  simp only [readAddresses, bind_eq_ok_iff, hitems, mapM_eq_ok_iff, forall₂_comp, lists_iff]
  constructor
  · rintro ⟨items, ⟨headed, hvalue⟩, hlist⟩
    exact ⟨headed, items, hvalue, hlist⟩
  · rintro ⟨headed, items, hvalue, hlist⟩
    exact ⟨items, ⟨headed, hvalue⟩, hlist⟩

theorem readAddresses_array {headed : Bool} {items : List Toml.Value} {as : List UInt8} :
    readAddresses (.array headed items) = .ok as ↔ List.Forall₂ Lists items as := by
  rw [readAddresses_eq_ok_iff]
  constructor
  · rintro ⟨_, _, ⟨⟩, hlist⟩
    exact hlist
  · exact fun hlist => ⟨headed, items, rfl, hlist⟩

theorem lists_text_iff {s : String} {a : UInt8} :
    Lists (.text s) a ↔ IsAddress (trimChars s.toList) a := by
  constructor
  · rintro (⟨htrims, haddress⟩ | -)
    rwa [trims_iff.1 htrims]
  · exact .text (trims_trimChars _)

end ScanConfig

open Text Linux ScanConfig

/-- One grammar of addresses. The command line takes a text of it, the name of a system target is such a text
between blanks, and so is a text in a scan list, where a number stands for itself. A scan list is taken if all
its items are, and keeps them in their order. A text whose value is too large is taken by none of them. -/
theorem parseAddress_agree (s : String) :
    (∀ a, CommandLine.parseAddress s = .ok a ↔ IsAddress s.toList a) ∧
    (∀ a, Linux.parseAddress s = .ok a ↔ ∃ name, Trims s.toList name ∧ IsAddress name a) ∧
    (∀ value as, readAddresses value = .ok as ↔
      ∃ headed items, value = .array headed items ∧ List.Forall₂ Lists items as) ∧
    (∀ a, Lists (.text s) a ↔ Linux.parseAddress s = .ok a) ∧
    (∀ headed items, (∃ as, readAddresses (.array headed items) = .ok as) ↔ ∀ item ∈ items, ∃ a, Lists item a) ∧
    (∀ n, 127 < n → (IsSpelled s.toList n → ∀ a, CommandLine.parseAddress s ≠ .ok a) ∧
      ∀ name, Trims s.toList name → IsSpelled name n → (∀ a, Linux.parseAddress s ≠ .ok a) ∧
        ∀ headed items as, .text s ∈ items → readAddresses (.array headed items) ≠ .ok as) := by
  have hlarge : ∀ {text n a}, 127 < n → IsSpelled text n → ¬ IsAddress text a := by
    rintro text n a hn hspelled ⟨haddress, -, hrange⟩
    have := isSpelled_unique hspelled haddress
    omega
  refine ⟨fun a => CommandLine.parseAddress_eq_ok_iff, fun a => ?_, fun value as => readAddresses_eq_ok_iff,
    fun a => ?_, fun headed items => ?_, fun n hn => ⟨fun hspelled a h => ?_, ?_⟩⟩
  · simp only [trims_iff, exists_eq_left', Linux.parseAddress_eq_ok_iff]
  · rw [lists_text_iff, Linux.parseAddress_eq_ok_iff]
  · simp only [readAddresses_array, exists_forall₂_iff]
  · exact hlarge hn hspelled (CommandLine.parseAddress_eq_ok_iff.1 h)
  · intro name htrims hspelled
    obtain rfl := trims_iff.1 htrims
    refine ⟨fun a h => hlarge hn hspelled (Linux.parseAddress_eq_ok_iff.1 h), fun headed items as hmem h => ?_⟩
    obtain ⟨a, ha⟩ := exists_forall₂_iff.1 ⟨as, readAddresses_array.1 h⟩ _ hmem
    exact hlarge hn hspelled (lists_text_iff.1 ha)

end Backplane
