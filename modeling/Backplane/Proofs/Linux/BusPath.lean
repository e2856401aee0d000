import Backplane.Command.Connect
import Backplane.Proofs.CommandLine.Bus
import Backplane.Proofs.Linux.Address

/-!
# Names of buses and their device paths

A bus is named by a path, by a decimal number, or by `i2c-` and a decimal number, between blanks. The device
path is a normal form of these names: it names itself, and blanks, a sign, zeros in front and `i2c-` do not
change it.

* `busPath_eq_ok_iff`: which names have a device path, and which one.
* `busPath_busPath`, `busPath_blanks`, `busPath_spelled`: what does not change it.
* `ofArgument_toString`: a number leads to its device, and `ofArgument_simulated`: other names lead to none.
* `busPath_normal`: all of this, also from scan lists and command lines on.
-/
namespace Backplane.Linux
open Text

/-- The text is the number of a bus. -/
def IsBusNumber (text : List Char) (n : Nat) : Prop :=
  ∃ written, (text = written ∨ text = "i2c-".toList ++ written) ∧ IsNumeral 10 written n

/-- The text, which has no blanks around it, names the device of a bus. -/
inductive Names : List Char → String → Prop
  | path (rest : List Char) : Names ('/' :: rest) (String.ofList ('/' :: rest))
  | number {text : List Char} {n : Nat} (hnumber : IsBusNumber text n) (hn : n < 2 ^ 32) :
      Names text ("/dev/i2c-" ++ toString n)

variable {text : List Char} {s p : String} {n limit : Nat} {c : Char}

theorem afterOptional_append (start text : List Char) : afterOptional start (start ++ text) = text := by
  rw [afterOptional, if_pos (List.isPrefixOf_iff_prefix.2 (List.prefix_append _ _)), List.drop_left]

theorem afterOptional_otherwise {start text : List Char} (h : ¬ start <+: text) :
    afterOptional start text = text :=
  if_neg fun hstarts => h (List.isPrefixOf_iff_prefix.1 hstarts)

/-- The reader of bus numbers. -/
theorem numeral_afterOptional :
    numeral 10 limit (afterOptional "i2c-".toList text) = .ok n ↔ IsBusNumber text n ∧ n ≤ limit := by
  rw [numeral_eq_ok_iff (by decide) (by decide)]
  refine and_congr_left fun _ => ?_
  by_cases hstarts : "i2c-".toList <+: text
  · obtain ⟨written, rfl⟩ := hstarts
    rw [afterOptional_append]
    constructor
    · exact fun h => ⟨written, .inr rfl, h⟩
    · rintro ⟨other, rfl | heq, h⟩
      · have hletter : 'i' ∈ "i2c-".toList ++ written := List.mem_cons_self
        exact absurd h (not_isNumeral_of_mem (by decide) hletter (by decide) (by decide))
      · rwa [List.append_cancel_left heq]
  · rw [afterOptional_otherwise hstarts]
    constructor
    · exact fun h => ⟨text, .inl rfl, h⟩
    · rintro ⟨written, rfl | rfl, h⟩
      · exact h
      · exact absurd (List.prefix_append _ _) hstarts

theorem isBusNumber_unique {m : Nat} (hm : IsBusNumber text m) (hn : IsBusNumber text n) : m = n :=
  value_unique (fun _ _ => numeral_afterOptional) hm hn

theorem not_isBusNumber_path {rest : List Char} : ¬ IsBusNumber ('/' :: rest) n := by
  rintro ⟨written, rfl | heq, h⟩
  · exact not_isNumeral_of_mem (by decide) List.mem_cons_self (by decide) (by decide) h
  · cases (List.cons.inj heq).1

/-- A text that does not start a path. -/
theorem names_iff_of_head (hhead : ∀ rest, text ≠ '/' :: rest) :
    Names text p ↔ ∃ n, (IsBusNumber text n ∧ n ≤ wordLimit) ∧ p = "/dev/i2c-" ++ toString n := by
  have hword : ∀ n, n ≤ wordLimit ↔ n < 2 ^ 32 := by
    intro n
    rw [wordLimit, UInt32.size]
    omega
  simp only [hword]
  constructor
  · rintro (⟨rest⟩ | ⟨hnumber, hn⟩)
    · exact absurd rfl (hhead rest)
    · exact ⟨_, ⟨hnumber, hn⟩, rfl⟩
  · rintro ⟨n, ⟨hnumber, hn⟩, rfl⟩
    exact .number hnumber hn

theorem names_iff_of_isBusNumber (h : IsBusNumber text n) :
    Names text p ↔ n < 2 ^ 32 ∧ p = "/dev/i2c-" ++ toString n := by
  constructor
  · rintro (⟨rest⟩ | ⟨hnumber, hn⟩)
    · exact absurd h not_isBusNumber_path
    · obtain rfl := isBusNumber_unique h hnumber
      exact ⟨hn, rfl⟩
  · rintro ⟨hn, rfl⟩
    exact .number h hn

/-- The device path is that of the name between the blanks. -/
theorem busPath_eq_ok_iff : busPath s = .ok p ↔ Names (trimChars s.toList) p := by
  unfold busPath
  dsimp only
  split
  · next hempty =>
    rw [hempty]
    refine ⟨nofun, ?_⟩
    rintro (_ | ⟨hnumber, -⟩)
    cases numeral_afterOptional.2 ⟨hnumber, Nat.le_refl _⟩
  · next rest hpath =>
    rw [hpath, Except.ok.injEq]
    constructor
    · rintro rfl
      exact .path rest
    · rintro (_ | ⟨hnumber, -⟩)
      · rfl
      · exact absurd hnumber not_isBusNumber_path
  · next hhead =>
    rw [names_iff_of_head hhead]
    simp only [← numeral_afterOptional]
    cases numeral 10 wordLimit (afterOptional "i2c-".toList (trimChars s.toList)) with
    | error fault => simp
    | ok n =>
      simp only [Except.ok.injEq, exists_eq_left']
      exact eq_comm

example : busPath " i2c-+007\n" = .ok "/dev/i2c-7" := rfl

/-! ## Spellings -/

theorem isBlank_of_isDigit {radix d : Nat} (hradix : radix ≤ 16) (h : IsDigit radix c d) :
    isBlank c = false := by
  obtain ⟨hlt, hchar⟩ := h
  have hd : d < 16 := by omega
  obtain rfl | rfl := hchar <;> interval_cases d <;> decide

theorem isBlank_of_isDigits {radix : Nat} (hradix : radix ≤ 16) (h : IsDigits radix text n) :
    ∀ c ∈ text, isBlank c = false := by
  obtain ⟨-, values, hvalues, -⟩ := h
  intro c hc
  obtain ⟨d, hd⟩ := exists_forall₂_iff.1 ⟨values, hvalues⟩ c hc
  exact isBlank_of_isDigit hradix hd

/-- The device path of a bus names itself. -/
theorem busPath_busPath (h : busPath s = .ok p) : busPath p = .ok p := by
  rw [busPath_eq_ok_iff] at h ⊢
  generalize hname : trimChars s.toList = name at h
  cases h with
  | path rest =>
    rw [String.toList_ofList, ← hname, trimChars_trimChars, hname]
    exact .path rest
  | @number _ n =>
    have htext : ("/dev/i2c-" ++ toString n).toList = '/' :: ("dev/i2c-".toList ++ (toString n).toList) := by
      rw [String.toList_append]
      rfl
    have hblank : ∀ c ∈ ("/dev/i2c-" ++ toString n).toList, isBlank c = false := by
      rw [String.toList_append]
      exact List.forall_mem_append.2 ⟨isBlank_of_all rfl, isBlank_of_isDigits (by decide) (isDigits_toString n)⟩
    have hpath := Names.path ("dev/i2c-".toList ++ (toString n).toList)
    rw [← htext, String.ofList_toList] at hpath
    rwa [trimChars_of_forall hblank]

/-- Blanks around a name. -/
theorem busPath_blanks (front back : String) (hblank : ∀ c ∈ front.toList ++ back.toList, isBlank c = true) :
    busPath (front ++ s ++ back) = busPath s := by
  unfold busPath
  rw [String.toList_append, String.toList_append, trimChars_blanks hblank]

/-- How the number of a bus may start. -/
def numberStarts : List String := ["", "+", "i2c-", "i2c-+"]

theorem isBusNumber_spelled {start : String} (hstart : start ∈ numberStarts) (h : IsDigits 10 text n) :
    IsBusNumber (start.toList ++ text) n := by
  simp only [numberStarts, List.mem_cons, List.not_mem_nil, or_false] at hstart
  obtain rfl | rfl | rfl | rfl := hstart
  · exact ⟨text, .inl rfl, h.isNumeral⟩
  · exact ⟨'+' :: text, .inl rfl, h.signed⟩
  · exact ⟨text, .inr rfl, h.isNumeral⟩
  · exact ⟨'+' :: text, .inr rfl, h.signed⟩

/-- A number may start as it likes and have zeros in front. -/
theorem busPath_spelled {start : String} (hstart : start ∈ numberStarts) (h : IsDigits 10 text n) (k : Nat) :
    busPath (start ++ String.ofList (List.replicate k '0' ++ text)) = .ok p ↔
      n < 2 ^ 32 ∧ p = "/dev/i2c-" ++ toString n := by
  have hzeros := h.zeros (by decide) k
  have hall : numberStarts.all (fun start => start.toList.all (!isBlank ·)) = true := rfl
  have hstarts := isBlank_of_all (List.all_eq_true.1 hall start hstart)
  have hblank := List.forall_mem_append.2 ⟨hstarts, isBlank_of_isDigits (by decide) hzeros⟩
  rw [busPath_eq_ok_iff, String.toList_append, String.toList_ofList, trimChars_of_forall hblank]
  exact names_iff_of_isBusNumber (isBusNumber_spelled hstart hzeros)

/-! ## Where a number leads to -/

theorem busPath_toString (hn : n < 2 ^ 32) : busPath (toString n) = .ok ("/dev/i2c-" ++ toString n) := by
  have hplain : "" ∈ numberStarts := by decide
  have h := (busPath_spelled hplain (isDigits_toString n) 0).2 ⟨hn, rfl⟩
  rwa [List.replicate_zero, List.nil_append, String.ofList_toList, String.empty_append] at h

theorem not_mem_toString (hnone : digit? 10 c = none) : c ∉ (toString n).toList := fun hc =>
  not_isDigits_of_mem (by decide) hc hnone (isDigits_toString n)

theorem ofArgument_toString (hn : n < 2 ^ 32) (address : UInt8) (pec : Bool) :
    Target.ofArgument (toString n) address pec = .ok (.system ⟨"/dev/i2c-" ++ toString n, address, pec⟩) := by
  have hstarts : ¬ (toString n).startsWith Target.simulatedStart = true := by
    rw [String.startsWith_string_iff]
    intro hstarts
    have hletter : 'd' ∈ Target.simulatedStart.toList := by decide
    exact not_mem_toString (by decide) (hstarts.subset hletter)
  rw [Target.ofArgument, if_neg hstarts, busPath_toString hn]

/-! ## Simulated buses -/

/-- A name that starts like that of a simulated bus never leads to a system bus. -/
theorem ofArgument_simulated {bus : String} (hstarts : Target.simulatedStart.toList <+: bus.toList)
    (address : UInt8) (pec : Bool) :
    Target.ofArgument bus address pec = (Target.simulated? bus).elim (.error (.unknownSimulated bus))
      fun p => .ok (.simulated p) := by
  rw [Target.ofArgument, if_pos (String.startsWith_string_iff.2 hstarts)]
  cases Target.simulated? bus <;> rfl

theorem simulated?_eq_none {bus : String} (h : bus ∉ ["dummy", "dummy:v0", "dummy:v1"]) :
    Target.simulated? bus = none := by
  simp only [List.mem_cons, List.not_mem_nil, or_false, not_or] at h
  obtain ⟨hplain, holder, hnewer⟩ := h
  rw [Target.simulated?, if_neg (by simp [hplain, hnewer]), if_neg holder]

open ScanConfig

/-- Names of buses, between blanks that do not matter. A name has a device path if it is a path, which is it,
or a number of a word, behind `i2c-` or not, and the path of a number is printed from its value. So a device
path names itself, and signs and zeros in front of a number do not matter. A number leads to the same device
as an integer of a scan list, as a text of it and behind `--bus` on the command line. What starts with `dummy`
never leads to a device, and if it is not one of three names it is refused before anything is opened. -/
theorem busPath_normal :
    (∀ s p, busPath s = .ok p ↔ ∃ name, Trims s.toList name ∧ Names name p) ∧
    (∀ s p, busPath s = .ok p → busPath p = .ok p) ∧
    (∀ s front back : String, (∀ c ∈ front.toList ++ back.toList, isBlank c = true) →
      busPath (front ++ s ++ back) = busPath s) ∧
    (∀ start ∈ numberStarts, ∀ text n, IsDigits 10 text n → ∀ k p,
      busPath (start ++ String.ofList (List.replicate k '0' ++ text)) = .ok p ↔
        n < 2 ^ 32 ∧ p = "/dev/i2c-" ++ toString n) ∧
    (∀ n : UInt32, let digits := toString n.toNat
      readBus (.integer n.toNat) = .ok digits ∧ readBus (.text digits) = .ok digits ∧
      (∀ entry ∈ CommandLine.busWords, ∀ rest parsed,
        CommandLine.parse (entry.1 :: "--bus" :: digits :: rest) = .ok parsed →
          ∃ address pec, parsed.command.bus? = some ⟨digits, address, pec⟩) ∧
      CommandLine.parse ["info", "--bus", digits] =
        .ok ⟨.info ⟨digits, CommandLine.Given.defaultAddress, false⟩, 0⟩ ∧
      ∀ address pec, Target.ofArgument digits address pec =
        .ok (.system ⟨"/dev/i2c-" ++ digits, address, pec⟩)) ∧
    (∀ bus : String, "dummy".toList <+: bus.toList → ∀ address pec,
      (∀ config, Target.ofArgument bus address pec ≠ .ok (.system config)) ∧
      (bus ∉ ["dummy", "dummy:v0", "dummy:v1"] →
        Target.select bus address pec = pure (.error (.unknownSimulated bus)))) := by
  refine ⟨fun s p => ?_, fun s p => busPath_busPath, fun s front back => busPath_blanks front back,
    fun start hstart text n htext k p => busPath_spelled hstart htext k, fun n => ?_,
    fun bus hbus address pec => ⟨fun config => ?_, fun hother => ?_⟩⟩
  · simp only [trims_iff, exists_eq_left', busPath_eq_ok_iff]
  · have hword : n.toNat ≤ wordLimit := Nat.le_pred_of_lt n.toNat_lt_size
    have hhead : (toString n.toNat).toList.head? ≠ some '-' := fun h =>
      not_mem_toString (by decide) (List.mem_of_head? h)
    have hread : readBus (.integer n.toNat) = .ok (toString n.toNat) := by
      rw [readBus, word?_eq_some_iff.2 ⟨rfl, hword⟩]
      rfl
    exact ⟨hread, rfl, fun entry hentry rest parsed => CommandLine.bus?_of_parse hentry hhead,
      CommandLine.parse_info hhead, ofArgument_toString n.toNat_lt⟩
  · rw [ofArgument_simulated hbus]
    cases Target.simulated? bus <;> simp
  · rw [Target.select, ofArgument_simulated hbus, simulated?_eq_none hother]
    rfl

end Backplane.Linux
