import Backplane.Proofs.Command.Handles
import Backplane.Proofs.Linux.Session
import Backplane.Proofs.Scan.Outcomes

/-!
# The order of kernel calls

Whatever a kernel answers and whatever the tool is told to do, each device file that is opened is first
bound to its target, then told to check errors if that was asked for, then asked what its adapter can
do, and only then used, each step behind the success of the one before. Where one fails there is no
driver, and the command says so. A scan never asks for error checking.

* `Command.Orders`, `Survey.Orders`: what a command on one controller owes, and what a visit of a scan
  owes.
* `run_orders`: every command, over every kernel.
-/
namespace Backplane

open Linux (Exchange Carried Ordered)

variable {turns : List Turn} {calls : List Exchange}

/-- A bus that can be named has a device file. -/
theorem Linux.busPath_isEmpty {bus path : String} (h : busPath bus = .ok path) : path.isEmpty = false := by
  rw [busPath] at h
  split at h
  · cases h
  · next rest hname =>
    cases h
    rw [hname]
    simp
  · split at h
    · cases h
      simp
    · cases h

/-- The target of an argument has a device file, and the address and the error checking that were given
with it. -/
theorem Target.ofArgument_system {bus : String} {address : UInt8} {pec : Bool} {c : Linux.Config}
    (h : ofArgument bus address pec = .ok (.system c)) :
    c.device.isEmpty = false ∧ c.address = address ∧ c.pec = pec := by
  rw [ofArgument] at h
  split at h
  · split at h <;> cases h
  · split at h
    · next path hpath =>
      cases h
      exact ⟨Linux.busPath_isEmpty hpath, rfl, rfl⟩
    · cases h

namespace Command
variable {args : BusArgs} {fail : Error → CommandError} {r : Except CommandError Unit}

/-- What a command on one controller owes. It comes to the failure of every handle that was given no
driver. -/
def Orders (args : BusArgs) (fail : Error → CommandError) (turns : List Turn) (calls : List Exchange)
    (r : Except CommandError Unit) : Prop :=
  match Target.ofArgument args.bus args.address args.pec with
  | .error e => calls = [] ∧ r = .error (.usage e.message)
  | .ok target =>
      (∀ c, target = .system c → c.device.isEmpty = false ∧ c.address = args.address ∧ c.pec = args.pec) ∧
      ∃ rest made, turns = .attached target :: rest ∧ Ordered target rest calls made ∧
        ∀ e, .error e ∈ made → e.failureClass = .mcuAbsent ∧ r = .error (fail e)

theorem Serves.orders {current : Option Linux.Config} (h : Serves args fail turns r)
    (hcarried : Carried current turns calls) : Orders args fail turns calls r := by
  rw [Orders]
  cases h with
  | unselected hselect =>
    rw [hselect]
    exact ⟨hcarried, rfl⟩
  | selected hselect hleg hmade =>
    rw [hselect]
    refine ⟨?_, _, _, rfl, Linux.ordered_leg hleg hcarried, fun e he => ?_⟩
    · rintro c rfl
      exact Target.ofArgument_system hselect
    · exact ⟨Linux.failureClass_leg hleg e he, hmade e he⟩

end Command

namespace Scan

/-- A visit and the calls behind it. -/
structure Survey where
  seen : Visited
  calls : List Exchange

/-- What a visit owes. The first handle looks for a controller, every later one belongs to an update. -/
def Survey.Orders (s : Survey) : Prop :=
  match Target.ofArgument s.seen.visit.target.bus s.seen.visit.address false with
  | .error _ => s.calls = [] ∧ s.seen.outcome = .failed
  | .ok target =>
      (∀ c, target = .system c →
        c.device.isEmpty = false ∧ c.address = s.seen.visit.address ∧ c.pec = false) ∧
      ∃ rest found made, s.seen.turns = .attached target :: rest ∧
        Ordered target rest s.calls (found :: made) ∧
        (∀ e, found = .error e →
          s.seen.outcome = if s.seen.visit.target.addresses.isSome then .failed else .skipped) ∧
        ∀ e, .error e ∈ made → s.seen.outcome = .failed

theorem Covers.orders {seen : Visited} {current : Option Linux.Config}
    (h : Covers seen.visit seen.turns seen.outcome)
    (hexpected : seen.visit.expected = seen.visit.target.addresses.isSome)
    (hcarried : Carried current seen.turns calls) : Survey.Orders ⟨seen, calls⟩ := by
  obtain ⟨v, found, turns, outcome⟩ := seen
  rw [Survey.Orders]
  dsimp only at h hexpected hcarried ⊢
  cases h with
  | unselected hselect =>
    rw [hselect]
    exact ⟨hcarried, rfl⟩
  | selected hselect hleg hfound hmade =>
    rw [hselect]
    refine ⟨?_, _, _, _, rfl, Linux.ordered_leg hleg hcarried, fun e he => ?_, hmade⟩
    · rintro c rfl
      exact Target.ofArgument_system hselect
    · rw [← hexpected]
      exact hfound e he

/-- The calls behind visits, visit by visit. -/
theorem carried_visits {seen : List Visited} {current : Option Linux.Config}
    (hcovers : ∀ s ∈ seen, Covers s.visit s.turns s.outcome ∧
      s.visit.expected = s.visit.target.addresses.isSome)
    (h : Carried current (seen.flatMap Visited.turns) calls) :
    ∃ surveys : List Survey, surveys.map Survey.seen = seen ∧ calls = surveys.flatMap Survey.calls ∧
      ∀ s ∈ surveys, s.Orders := by
  induction seen generalizing current calls with
  | nil => exact ⟨[], rfl, h, by simp⟩
  | cons s seen ih =>
    rw [List.forall_mem_cons] at hcovers
    rw [List.flatMap_cons] at h
    obtain ⟨first, others, rfl, hfirst, hrest⟩ := Linux.carried_append h
    obtain ⟨surveys, rfl, rfl, horders⟩ := ih hcovers.2 hrest
    refine ⟨⟨s, first⟩ :: surveys, rfl, rfl, List.forall_mem_cons.2 ⟨?_, horders⟩⟩
    exact hcovers.1.1.orders hcovers.1.2 hfirst

/-- A visit does not ask for error checking. -/
theorem Survey.Orders.unprotected {s : Survey} (h : s.Orders) :
    ∀ x ∈ s.calls, ∀ value, x.1 ≠ .setPec value := by
  rw [Survey.Orders] at h
  split at h
  · rw [h.1]
    simp
  · obtain ⟨hconfig, rest, found, made, -, hordered, -⟩ := h
    exact hordered.unprotected fun c hc => (hconfig c hc).2.2

/-- What a scan owes. A configuration that can not be loaded takes no calls. Where it was loaded the
calls are those of the visits, and the outcomes say how the scan ends. -/
def Orders {σ : Type} (site : Site (Endpoint × σ)) (path : String) (dryRun : Bool)
    (bench : Bench (Endpoint × σ)) (calls : List Exchange) (r : Except CommandError Unit) : Prop :=
  (∃ e, (site.run (Command.loadScan path).run bench).1 = .error e ∧ r = .error e ∧ calls = []) ∨
  ∃ targets mid, ∃ surveys : List Survey,
    site.run (Command.loadScan path).run bench = (.ok targets, bench) ∧ mid.state = bench.state ∧
    surveys.map Survey.seen = tour site dryRun (visits targets) mid ∧
    calls = surveys.flatMap Survey.calls ∧ (∀ s ∈ surveys, s.Orders) ∧
    (∀ x ∈ calls, ∀ value, x.1 ≠ .setPec value) ∧
    r = answer (surveys.map fun s => s.seen.outcome)

theorem orders_runScan {σ : Type} (kernel : Linux.Answering σ)
    (files : String → σ → Except IoError FileContent) (path : String) (dryRun : Bool)
    (bench : Bench (Endpoint × σ)) :
    Orders (Linux.site kernel files) path dryRun bench
      (Linux.exchanges kernel files (Command.runScan path dryRun).run bench)
      ((Linux.site kernel files).run (Command.runScan path dryRun).run bench).1 := by
  have hcarried := Linux.carried_moves kernel files (Command.runScan path dryRun).run bench
  have hidle : ∀ turn ∈ (Linux.site kernel files).moves (Command.loadScan path).run bench,
      Attends none turn :=
    Command.stays_loadScan (Site.course_moves _ (Command.loadScan path).run bench)
  have hbench : ((Linux.site kernel files).run (Command.loadScan path).run bench).2 = bench :=
    loadScan_bench path
  cases hload : ((Linux.site kernel files).run (Command.loadScan path).run bench).1 with
  | error e =>
    obtain ⟨hresult, hmoves⟩ := plays_unloaded dryRun hload
    rw [hmoves] at hcarried
    exact .inl ⟨e, hload, hresult, Linux.carried_idle hidle hcarried⟩
  | ok targets =>
    have hran : (Linux.site kernel files).run (Command.loadScan path).run bench = (.ok targets, bench) :=
      Prod.ext hload hbench
    obtain ⟨hresult, shown, hmoves⟩ := plays_runScan dryRun hran
    have hprinted : ∀ turn ∈ [Turn.printed shown], Attends none turn :=
      List.forall_mem_singleton.2 trivial
    rw [hmoves] at hcarried
    obtain ⟨visiting, printing, hcalls, hvisits, hprinting⟩ :=
      Linux.carried_append (Linux.carried_behind hidle hcarried)
    rw [Linux.carried_idle hprinted hprinting, List.append_nil] at hcalls
    rw [run, moves_visitAll] at hvisits
    obtain ⟨surveys, hseen, rfl, horders⟩ :=
      carried_visits (fun seen h => ⟨covers_tour h, expected_tour h⟩) hvisits
    refine .inr ⟨targets, announced path targets bench, surveys, hran, rfl, hseen, hcalls, horders, ?_, ?_⟩
    · rw [hcalls]
      intro x hx
      obtain ⟨s, hs, hx⟩ := List.mem_flatMap.1 hx
      exact (horders s hs).unprotected x hx
    · rw [run, run_visitAll, ← hseen, List.map_map] at hresult
      exact hresult

end Scan

/-- Every command over every kernel. Its calls are those that the run records. A command on one
controller and a scan each owe what is said of them. -/
theorem Command.run_orders {σ : Type} (kernel : Linux.Answering σ)
    (files : String → σ → Except IoError FileContent) (c : Command) (bench : Bench (Endpoint × σ)) :
    let site := Linux.site kernel files
    let ran := site.run c.run bench
    let calls := Linux.exchanges kernel files c.run bench
    Linux.recorded ran.2.events.toList = Linux.recorded bench.events.toList ++ Linux.records calls ∧
    (∀ args, c.bus? = some args → Orders args c.failure (site.moves c.run bench) calls ran.1) ∧
    ∀ path dryRun, c = .scan path dryRun → Scan.Orders site path dryRun bench calls ran.1 := by
  intro site ran calls
  refine ⟨Linux.called_run c.run bench, fun args hargs => ?_, ?_⟩
  · exact (serves_run hargs (site.course_moves c.run bench)).orders (Linux.carried_moves kernel files c.run bench)
  · rintro path dryRun rfl
    exact Scan.orders_runScan kernel files path dryRun bench

/-- A kernel whose adapter can do all that is needed but error checking. -/
def Linux.unchecking : Linux.Answering Unit
  | .openDevice _, s => (.ok (), s)
  | .selectAddress _, s => (.ok (), s)
  | .setPec _, s => (.ok (), s)
  | .functionality, s => (.ok 0x0C180000, s)
  | .smbus _ _ _ _, s => (.error 5, s)
  | .transfer _, s => ((.error 5, []), s)

/-- A command that asks for error checking. -/
def Command.checkedInfo : Command := .info ⟨"3", 0x2A, true⟩

/-- No files, and no target yet. -/
def Linux.noFiles (_ : String) (_ : Unit) : Except IoError FileContent := .error (.os Errno.noEntry)

def Linux.unselected : Bench (Endpoint × Unit) := ⟨(.closed, ()), #[]⟩

/-- The calls of a command whose adapter can not check errors. -/
theorem Linux.records_unchecking :
    records (exchanges unchecking noFiles Command.checkedInfo.run unselected) =
      [(.openDevice "/dev/i2c-3", none), (.selectAddress 0x2A, none), (.setPec 1, none),
        (.functionality, none)] := by
  decide +kernel

theorem Linux.run_unchecking :
    ((site unchecking noFiles).run Command.checkedInfo.run unselected).1 =
      .error (.controller (.notOperational "/dev/i2c-3, 0x2a")) := by
  rfl

/-- The adapter is asked behind error checking, and nothing is sent behind its answer. -/
theorem Command.run_orders_incapable :
    checkedInfo.bus? = some ⟨"3", 0x2A, true⟩ ∧
    Linux.records (Linux.exchanges Linux.unchecking Linux.noFiles checkedInfo.run Linux.unselected) =
      [(.openDevice "/dev/i2c-3", none), (.selectAddress 0x2A, none), (.setPec 1, none),
        (.functionality, none)] ∧
    Orders ⟨"3", 0x2A, true⟩ .controller
      ((Linux.site Linux.unchecking Linux.noFiles).moves checkedInfo.run Linux.unselected)
      (Linux.exchanges Linux.unchecking Linux.noFiles checkedInfo.run Linux.unselected)
      (.error (.controller (.notOperational "/dev/i2c-3, 0x2a"))) := by
  refine ⟨rfl, Linux.records_unchecking, ?_⟩
  rw [← Linux.run_unchecking]
  exact (run_orders Linux.unchecking Linux.noFiles checkedInfo Linux.unselected).2.1 _ rfl

end Backplane
