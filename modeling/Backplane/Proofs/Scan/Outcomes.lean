import Backplane.Command.Run
import Backplane.Proofs.Driver.Identity
import Backplane.Proofs.Scan.Visits
import Backplane.Simulator.Bus

/-!
# What a scan does and what it answers

A scan makes one visit for each address that is configured, in order, whatever becomes of the others.
A visit that has nothing to flash, or is not to flash, asks the controller for nothing but its identity.
The scan fails exactly where a visit failed, and says how many of how many.

* `Sees.looks`, `Concludes.looks`: visits that only look.
* `Visited.Sound`, `sound_tour`: what each visit owes.
* `length_eq_counts`: every visit has one of five outcomes.
* `plays_runScan`: what the command does and how it ends.
* `scan_accounts`: all of it, at any site.
-/
namespace Backplane

/-- A turn that asks a controller for its identity, or nothing at all. -/
def Turn.Looks : Turn → Prop
  | ⟨.attempt r, _⟩ =>
    r = .functionality ∨ r = identRequest ∨ ∃ p : Protocol, r = p.versionRequest ∨ r = p.boardTypeRequest
  | ⟨.delay _, _⟩ => False
  | ⟨.sleep _, _⟩ => False
  | ⟨.readFile _, _⟩ => False
  | _ => True

variable {turns : List Turn}

/-- A request of an identity field. -/
theorem Protocol.AsksIdentity.looks {p : Protocol} {turn : Turn} (h : p.AsksIdentity turn) :
    turn.Looks := by
  obtain ⟨a, answer⟩ := turn
  cases a with
  | attempt r =>
    obtain h | h := h
    · exact .inr (.inr ⟨p, .inl (Option.some.inj h)⟩)
    · exact .inr (.inr ⟨p, .inr (Option.some.inj h)⟩)
  | _ => simp [AsksIdentity, Turn.request?] at h

theorem Driver.Creates.looks {label : String} {r : Except Error Driver} (h : Creates label turns r) :
    ∀ turn ∈ turns, turn.Looks := by
  obtain ⟨result, rest, rfl, hrest⟩ := h.turns_eq
  refine List.forall_mem_cons.2 ⟨trivial, ?_⟩
  rintro ⟨a, answer⟩ hturn
  have hasked := hrest _ hturn
  cases a with
  | attempt r =>
    obtain hr | hr := hasked
    · exact .inl (Option.some.inj hr)
    · exact .inr (.inl (Option.some.inj hr))
  | _ => simp [Turn.request?] at hasked

namespace Scan
variable {dryRun : Bool} {v : Visit} {found : Sighting} {outcome : ScanOutcome}

/-! ## Visits that only look -/

/-- Looking at an address asks for nothing but the identity. -/
theorem Sees.looks (h : Sees v turns found) : ∀ turn ∈ turns, turn.Looks := by
  cases h with
  | unselected => simp
  | unanswered _ hcreate => exact List.forall_mem_cons.2 ⟨trivial, hcreate.looks⟩
  | identified _ hcreate hinfo =>
    obtain ⟨reply, replies, byte, p, -, -, -, -, rfl⟩ := hcreate.ok_inv
    obtain ⟨-, -, hidentity⟩ := Driver.deviceInfo_turns rfl hinfo
    refine List.forall_mem_cons.2 ⟨trivial, List.forall_mem_append.2 ⟨hcreate.looks, ?_⟩⟩
    exact fun turn hturn => (hidentity turn hturn).looks

/-- There is no reason to flash what was found. -/
def Spares (dryRun : Bool) (v : Visit) (found : Sighting) : Prop :=
  dryRun = true ∨ v.target.firmware = none ∨
    ∃ label identity, found = .identified label identity ∧
      v.target.version = some identity.firmwareVersion

theorem Concludes.looks (h : Concludes dryRun v found turns outcome) (hspares : Spares dryRun v found) :
    ∀ turn ∈ turns, turn.Looks := by
  cases h with
  | unselected | skipped | missing => simp
  | plain | current | offered => simp [Turn.Looks]
  | flashed hfirmware hversion hdry =>
    exfalso
    obtain hdry' | hnone | ⟨_, _, ⟨⟩, hsame⟩ := hspares
    · rw [hdry] at hdry'
      cases hdry'
    · rw [hfirmware] at hnone
      cases hnone
    · exact hversion hsame

/-! ## What a visit owes -/

/-- No driver could be made because there is no controller at the address. -/
def Sighting.Absent (found : Sighting) : Prop :=
  ∃ label e, found = .unanswered label e ∧ e.failureClass = .mcuAbsent

/-- What a visit owes, from what it has found. -/
structure Visited.Sound (dryRun : Bool) (seen : Visited) : Prop where
  /-- A controller is only looked at where there is no reason to flash it. -/
  looks : Spares dryRun seen.visit seen.found → ∀ turn ∈ seen.turns, turn.Looks
  /-- An address is passed over exactly where it is a default one without a controller. -/
  skipped_iff : seen.outcome = .skipped ↔ seen.visit.target.addresses = none ∧ seen.found.Absent
  /-- A controller that is missing at a configured address is a failure. -/
  missing : seen.visit.target.addresses ≠ none → seen.found.Absent → seen.outcome = .failed

theorem Sees.absent {label : String} {e : Error} (h : Sees v turns (.unanswered label e)) :
    e.isAbsent = true := by
  cases h with
  | unanswered _ hcreate => simpa [Error.isAbsent] using hcreate.failureClass_eq

theorem Concludes.skipped_iff (hsees : ∀ label e, found = .unanswered label e → e.isAbsent = true)
    (h : Concludes dryRun v found turns outcome) :
    outcome = .skipped ↔ v.expected = false ∧ found.Absent := by
  cases h with
  | @skipped label e habsent hexpected =>
    exact iff_of_true rfl ⟨hexpected, label, e, rfl, by simpa [Error.isAbsent] using habsent⟩
  | @missing label e hmissing =>
    refine iff_of_false (by simp) ?_
    rintro ⟨hexpected, -⟩
    simp [hsees label e rfl, hexpected] at hmissing
  | flashed =>
    refine iff_of_false ?_ ?_
    · split <;> simp
    · simp [Sighting.Absent]
  | _ => simp [Sighting.Absent]

theorem Concludes.missing_of_expected (h : Concludes dryRun v found turns outcome)
    (hexpected : v.expected = true) (habsent : found.Absent) : outcome = .failed := by
  obtain ⟨label, e, rfl, -⟩ := habsent
  cases h with
  | skipped _ hunexpected =>
    rw [hexpected] at hunexpected
    cases hunexpected
  | missing => rfl

/-- A controller is expected where addresses are configured. -/
theorem expected_visits {targets : List ScanTarget} (h : v ∈ visits targets) :
    v.expected = v.target.addresses.isSome := by
  obtain ⟨t, -, h⟩ := List.mem_flatMap.1 h
  obtain ⟨⟨address, expected⟩, hprobe, rfl⟩ := List.mem_map.1 h
  dsimp only
  rw [ScanTarget.probeList] at hprobe
  cases haddresses : t.addresses with
  | none =>
    rw [haddresses] at hprobe
    obtain ⟨_, -, hpair⟩ := List.mem_map.1 hprobe
    exact (Prod.mk.inj hpair).2.symm
  | some addresses =>
    rw [haddresses] at hprobe
    obtain ⟨_, -, hpair⟩ := List.mem_map.1 hprobe
    exact (Prod.mk.inj hpair).2.symm

theorem expected_tour {σ : Type} {site : Site σ} {bench : Bench σ} {targets : List ScanTarget}
    {seen : Visited} (h : seen ∈ tour site dryRun (visits targets) bench) :
    seen.visit.expected = seen.visit.target.addresses.isSome := by
  have hvisit : seen.visit ∈ visits targets := by
    rw [← map_visit_tour site bench dryRun (visits targets)]
    exact List.mem_map_of_mem h
  exact expected_visits hvisit

theorem sound_tour {σ : Type} {site : Site σ} {bench : Bench σ} {targets : List ScanTarget}
    {seen : Visited} (h : seen ∈ tour site dryRun (visits targets) bench) : seen.Sound dryRun := by
  have hexpected := expected_tour h
  obtain ⟨first, rest, hturns, hsees, hconcludes⟩ := sees_tour h
  have hunanswered : ∀ label e, seen.found = .unanswered label e → e.isAbsent = true := by
    intro label e hfound
    rw [hfound] at hsees
    exact hsees.absent
  refine ⟨fun hspares => ?_, ?_, fun hconfigured habsent => ?_⟩
  · rw [hturns]
    exact List.forall_mem_append.2 ⟨hsees.looks, hconcludes.looks hspares⟩
  · rw [hconcludes.skipped_iff hunanswered, hexpected, Option.isSome_eq_false_iff, Option.isNone_iff_eq_none]
  · exact hconcludes.missing_of_expected (by rwa [hexpected, Option.isSome_iff_ne_none]) habsent

/-! ## What a scan answers -/

/-- Every visit has one of five outcomes. -/
theorem length_eq_counts (outcomes : List ScanOutcome) :
    outcomes.length = outcomes.count .skipped + (outcomes.count .found + outcomes.count .upToDate +
      outcomes.count .updated + outcomes.count .failed) := by
  induction outcomes with
  | nil => rfl
  | cons outcome outcomes ih =>
    rw [List.length_cons, ih]
    cases outcome <;> simp <;> omega

theorem total_ofOutcomes (outcomes : List ScanOutcome) :
    (ScanSummary.ofOutcomes outcomes).total = outcomes.count .found + outcomes.count .upToDate +
      outcomes.count .updated + outcomes.count .failed := by
  rw [ScanSummary.ofOutcomes, length_eq_counts, Nat.add_sub_cancel_left]

/-- How a scan with these outcomes ends. -/
def answer (outcomes : List ScanOutcome) : Except CommandError Unit :=
  if .failed ∈ outcomes then
    .error (.scanFailed (outcomes.count .failed) (outcomes.count .found + outcomes.count .upToDate +
      outcomes.count .updated + outcomes.count .failed))
  else .ok ()

section
variable {σ : Type} {site : Site σ} {bench : Bench σ} {path : String} {targets : List ScanTarget}

/-- A configuration that is there and valid is loaded. -/
theorem run_loadScan {bytes : List UInt8} {text : String}
    (hfile : site.readFile path bench.state = .ok (.file bytes))
    (htext : String.fromUTF8? ⟨bytes.toArray⟩ = some text)
    (htargets : ScanConfig.parse ((Text.parentPath? path).getD ".") text = .ok targets) :
    site.run (Command.loadScan path).run bench = (.ok targets, bench) := by
  have hread : site.run (Task.readFile path) bench = (.ok (.file bytes), bench) := by
    rw [← hfile]
    rfl
  have hloaded : site.run (Command.readText path) bench = (.ok text, bench) := by
    rw [Command.readText, Site.run_bind, hread]
    dsimp only
    rw [htext]
    rfl
  rw [Command.loadScan, run_lift_bind, Site.run_bind, hloaded]
  dsimp only
  rw [htargets]
  rfl

/-- Reading a configuration leaves the site as it is. -/
theorem loadScan_bench (path : String) : (site.run (Command.loadScan path).run bench).2 = bench := by
  have hread : (site.run (Command.readText path) bench).2 = bench := by
    rw [Command.readText, Site.run_bind]
    rcases (site.run (Task.readFile path) bench).1 with e | bytes | _
    · rfl
    · dsimp only
      split <;> rfl
    · rfl
  rw [Command.loadScan, run_lift_bind, Site.run_bind, hread]
  cases (site.run (Command.readText path) bench).1 with
  | error e => rfl
  | ok text =>
    dsimp only
    split <;> rfl

/-- The bench behind the line that says how many targets were loaded. -/
def announced (path : String) (targets : List ScanTarget) (bench : Bench σ) : Bench σ :=
  let line : LogLine := ⟨.command, .info, s!"Loaded {targets.length} scan target(s) from {path}"⟩
  { bench with events := bench.events.push (.noted (.log line)) }

/-- A configuration that can not be loaded is all that the command looks at. -/
theorem plays_unloaded (dryRun : Bool) {e : CommandError}
    (hload : (site.run (Command.loadScan path).run bench).1 = .error e) :
    (site.run (Command.runScan path dryRun).run bench).1 = .error e ∧
      site.moves (Command.runScan path dryRun).run bench = site.moves (Command.loadScan path).run bench := by
  rw [Command.runScan, ExceptT.run_bind, Site.run_bind, Site.moves_bind, hload]
  exact ⟨rfl, List.append_nil _⟩

/-- Behind a configuration that was loaded the command scans, prints its summary, and ends as the
outcomes say. -/
theorem plays_runScan (dryRun : Bool)
    (hload : site.run (Command.loadScan path).run bench = (.ok targets, bench)) :
    (site.run (Command.runScan path dryRun).run bench).1 =
        answer (site.run (run targets dryRun) (announced path targets bench)).1 ∧
      ∃ shown, site.moves (Command.runScan path dryRun).run bench =
        site.moves (Command.loadScan path).run bench ++
          (site.moves (run targets dryRun) (announced path targets bench) ++ [.printed shown]) := by
  rw [Command.runScan, ExceptT.run_bind, Site.run_bind, Site.moves_bind, hload]
  dsimp only
  rw [run_lift_bind, Site.run_bind, Site.moves_bind]
  change (site.run _ (announced path targets bench)).1 = _ ∧
    ∃ shown, _ ++ ([] ++ site.moves _ (announced path targets bench)) = _
  rw [run_lift_bind, Site.run_bind, Site.moves_bind, run_lift_bind, Site.run_bind, Site.moves_bind, answer]
  generalize (site.run (run targets dryRun) (announced path targets bench)).1 = outcomes
  rw [← total_ofOutcomes]
  by_cases hfailed : ScanOutcome.failed ∈ outcomes
  · have hpos : (ScanSummary.ofOutcomes outcomes).failed > 0 := List.count_pos_iff.2 hfailed
    rw [if_pos hfailed, if_pos hpos]
    exact ⟨rfl, _, rfl⟩
  · have hnone : ¬ (ScanSummary.ofOutcomes outcomes).failed > 0 := fun h => hfailed (List.count_pos_iff.1 h)
    rw [if_neg hfailed, if_neg hnone]
    exact ⟨rfl, _, rfl⟩

/-- Behind a configuration that was loaded the command scans, and ends as the outcomes say. -/
theorem run_runScan (dryRun : Bool)
    (hload : site.run (Command.loadScan path).run bench = (.ok targets, bench)) :
    ∃ mid, mid.state = bench.state ∧
      (site.run (Command.runScan path dryRun).run bench).1 =
        answer (site.run (run targets dryRun) mid).1 :=
  ⟨announced path targets bench, rfl, (plays_runScan dryRun hload).1⟩

end

/-- Scans at any site. What a scan does is what its visits do, one for each address of each target, and
each does what it owes. A configuration that is there and valid is scanned, and the command succeeds
exactly where no visit failed. -/
theorem scan_accounts {σ : Type} (site : Site σ) (bench : Bench σ) (targets : List ScanTarget)
    (dryRun : Bool) :
    (site.moves (run targets dryRun) bench =
        (tour site dryRun (visits targets) bench).flatMap Visited.turns ∧
      (site.run (run targets dryRun) bench).1 =
        (tour site dryRun (visits targets) bench).map Visited.outcome ∧
      (tour site dryRun (visits targets) bench).map
          (fun seen => (seen.visit.target, seen.visit.address, seen.visit.expected)) =
        targets.flatMap fun t => t.probeList.map fun (address, expected) => (t, address, expected)) ∧
    (∀ seen ∈ tour site dryRun (visits targets) bench, seen.Sound dryRun) ∧
    (∀ path bytes text, site.readFile path bench.state = .ok (.file bytes) →
      String.fromUTF8? ⟨bytes.toArray⟩ = some text →
      ScanConfig.parse ((Text.parentPath? path).getD ".") text = .ok targets →
      ∃ mid outcomes, mid.state = bench.state ∧ (site.run (run targets dryRun) mid).1 = outcomes ∧
        ((site.run (Command.runScan path dryRun).run bench).1 = .ok () ↔ .failed ∉ outcomes) ∧
        (.failed ∈ outcomes → (site.run (Command.runScan path dryRun).run bench).1 =
          .error (.scanFailed (outcomes.count .failed) (outcomes.count .found + outcomes.count .upToDate +
            outcomes.count .updated + outcomes.count .failed))) ∧
        outcomes.count .skipped ≤ outcomes.length ∧
        outcomes.length - outcomes.count .skipped = outcomes.count .found + outcomes.count .upToDate +
          outcomes.count .updated + outcomes.count .failed ∧
        outcomes.count .failed ≤ outcomes.length - outcomes.count .skipped) := by
  refine ⟨⟨moves_visitAll .., run_visitAll .., ?_⟩, fun seen h => sound_tour h, ?_⟩
  · have hvisits := congrArg (List.map fun v : Visit => (v.target, v.address, v.expected))
      (map_visit_tour site bench dryRun (visits targets))
    rw [List.map_map] at hvisits
    refine Eq.trans hvisits ?_
    simp [visits, List.map_flatMap, Function.comp_def]
  · intro path bytes text hfile htext htargets
    obtain ⟨mid, hstate, hanswer⟩ := run_runScan dryRun (run_loadScan hfile htext htargets)
    have htotal := total_ofOutcomes (site.run (run targets dryRun) mid).1
    refine ⟨mid, _, hstate, rfl, ?_, fun hfailed => ?_, List.count_le_length, htotal, ?_⟩
    · rw [hanswer, answer]
      split <;> simp [*]
    · rw [hanswer, answer, if_pos hfailed]
    · exact Nat.le_trans (Nat.le_add_left _ _) (Nat.le_of_eq htotal.symm)

/-- The one address of a configuration, at a bus that can not be opened. -/
theorem scan_accounts_unopened :
    let text := "[[target]]\nbus = 3\naddresses = [42]\n"
    let bytes := text.toUTF8.data.toList
    let targets := [⟨"target0", "3", some [42], none, none⟩]
    let site := { (Simulator.bus "sim").site with readFile := fun _ _ => .ok (.file bytes) }
    let bench := ⟨.start (.blank .v0) { connectFails := true }, #[]⟩
    site.readFile "scan.toml" bench.state = .ok (.file bytes) ∧
    String.fromUTF8? ⟨bytes.toArray⟩ = some text ∧
    ScanConfig.parse ((Text.parentPath? "scan.toml").getD ".") text = .ok targets ∧
    (site.run (Command.runScan "scan.toml" false).run bench).1 = .error (.scanFailed 1 1) := by
  intro text bytes targets site bench
  have hread : (ScanConfig.parse ((Text.parentPath? "scan.toml").getD ".") text).toOption = some targets := by
    decide +kernel +zetaReduce
  have htargets : ScanConfig.parse ((Text.parentPath? "scan.toml").getD ".") text = .ok targets := by
    cases hparse : ScanConfig.parse ((Text.parentPath? "scan.toml").getD ".") text with
    | ok found =>
      rw [hparse] at hread
      exact congrArg Except.ok (Option.some.inj hread)
    | error e =>
      rw [hparse] at hread
      cases hread
  have hfile : site.readFile "scan.toml" bench.state = .ok (.file bytes) := rfl
  have htext : String.fromUTF8? ⟨bytes.toArray⟩ = some text := by
    rw [Array.toArray_toList]
    exact dif_pos text.isValidUTF8
  obtain ⟨-, -, hcommand⟩ := scan_accounts site bench targets false
  obtain ⟨⟨state, events⟩, outcomes, hstate, houtcomes, -, hfailed, -⟩ :=
    hcommand "scan.toml" bytes text hfile htext htargets
  have hlost : outcomes = [.failed] := by
    dsimp only at hstate
    rw [← houtcomes, hstate]
    rfl
  rw [hlost] at hfailed
  exact ⟨hfile, htext, htargets, hfailed (by simp)⟩

end Scan
end Backplane
