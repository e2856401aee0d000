import Backplane.Command.Scan
import Backplane.Proofs.Driver.Detect

/-!
# Visits of a scan

A visit looks at its address first: nothing can be selected, no controller answers, or one is
identified. What it is for only matters behind that. So a visit is a look, which is the same task
whatever is configured beside the address, and what is concluded from what was found.

* `visit_eq`: a visit is these two parts.
* `Sees`, `sees_look`: the ways of a look, whatever the bus answers.
* `Concludes`, `concludes_conclude`: the ways of what comes behind it.
* `tour`: visits at a site, one behind the other, each with what can be seen of it.
-/
namespace Backplane.Scan

/-- What a visit finds at its address. -/
inductive Sighting where
  /-- The bus argument selects nothing. -/
  | unselected (e : TargetError)
  /-- No driver could be made for the target. -/
  | unanswered (label : String) (e : Error)
  | identified (label : String) (identity : DeviceInfo)
  deriving DecidableEq, Repr

/-- Looks at the address of a visit. -/
def look (v : Visit) : Task Sighting := do
  match ← Target.select v.target.bus v.address false with
  | .error e => pure (.unselected e)
  | .ok target => do
    match ← Driver.create target.label with
    | .error e => pure (.unanswered target.label e)
    | .ok driver => do
      let (identity, _) ← Driver.deviceInfo.run driver
      pure (.identified target.label identity)

/-- What a visit does about what it has found. -/
def conclude (dryRun : Bool) (v : Visit) : Sighting → Task ScanOutcome
  | .unselected e => do
    Task.announce .error s!"{v.target.name}: {e.message}"
    pure .failed
  | .unanswered label e =>
    if e.isAbsent && !v.expected then do
      Task.announce .debug s!"{v.target.name}: nothing at {label}"
      pure .skipped
    else do
      Task.announce .error s!"{v.target.name}: {e.message}"
      pure .failed
  | .identified label identity => do
    Task.print s!"{v.target.name} [{label}]: firmware {identity.firmwareVersion}, board {identity.boardType}, protocol {identity.protocol.name}\n"
    settle v.target label identity.firmwareVersion dryRun

theorem visit_eq (dryRun : Bool) (v : Visit) : visit dryRun v = look v >>= conclude dryRun v := by
  rw [visit, look, bind_assoc]
  congr 1
  funext selected
  cases selected with
  | error e => rfl
  | ok target =>
    dsimp only
    rw [identify, bind_assoc]
    congr 1
    funext created
    cases created with
    | error e => rfl
    | ok driver =>
      dsimp only
      rw [bind_assoc]
      rfl

variable {dryRun : Bool} {v : Visit} {turns : List Turn} {found : Sighting} {outcome : ScanOutcome}

/-! ## What is found -/

/-- The ways of a look. -/
inductive Sees (v : Visit) : List Turn → Sighting → Prop
  | unselected {e : TargetError} (hselect : Target.ofArgument v.target.bus v.address false = .error e) :
      Sees v [] (.unselected e)
  | unanswered {target : Target} {opening : List Turn} {e : Error}
      (hselect : Target.ofArgument v.target.bus v.address false = .ok target)
      (hcreate : Driver.Creates target.label opening (.error e)) :
      Sees v (.attached target :: opening) (.unanswered target.label e)
  | identified {target : Target} {opening identity : List Turn} {d d' : Driver} {info : DeviceInfo}
      (hselect : Target.ofArgument v.target.bus v.address false = .ok target)
      (hcreate : Driver.Creates target.label opening (.ok d))
      (hinfo : Runs Driver.deviceInfo d identity info d') :
      Sees v (.attached target :: (opening ++ identity)) (.identified target.label info)

/-- A target is selected, or the bus argument says nothing. -/
theorem course_select {bus : String} {address : UInt8} {pec : Bool} {r : Except TargetError Target}
    (h : Course (Target.select bus address pec) turns r) :
    (∃ e, Target.ofArgument bus address pec = .error e ∧ turns = [] ∧ r = .error e) ∨
      ∃ target, Target.ofArgument bus address pec = .ok target ∧ turns = [.attached target] ∧
        r = .ok target := by
  rw [Target.select] at h
  cases hselect : Target.ofArgument bus address pec with
  | error e =>
    rw [hselect] at h
    obtain ⟨rfl, rfl⟩ := course_pure.1 h
    exact .inl ⟨e, rfl, rfl, rfl⟩
  | ok target =>
    rw [hselect] at h
    refine .inr ⟨target, rfl, ?_⟩
    cases target with
    | simulated p =>
      simp only [course_bind, course_attach, course_pure] at h
      obtain ⟨_, _, _, rfl, rfl, rfl, rfl⟩ := h
      exact ⟨rfl, rfl⟩
    | system c =>
      simp only [course_bind, course_announce, course_attach, course_pure] at h
      obtain ⟨_, _, _, rfl, rfl, _, _, _, rfl, rfl, rfl, rfl⟩ := h
      exact ⟨rfl, rfl⟩

theorem sees_look (h : Course (look v) turns found) : Sees v turns found := by
  obtain ⟨_, r, rest, rfl, hcourse, h⟩ := course_bind.1 h
  obtain ⟨e, hselect, rfl, rfl⟩ | ⟨target, hselect, rfl, rfl⟩ := course_select hcourse
  · obtain ⟨rfl, rfl⟩ := course_pure.1 h
    exact .unselected hselect
  obtain ⟨opening, created, rest, rfl, hcreate, h⟩ := course_bind.1 h
  have hcreates := Driver.creates_create hcreate
  cases created with
  | error e =>
    obtain ⟨rfl, rfl⟩ := course_pure.1 h
    rw [List.append_nil]
    exact .unanswered hselect hcreates
  | ok d =>
    obtain ⟨identity, ⟨info, d'⟩, rest, rfl, hinfo, h⟩ := course_bind.1 h
    obtain ⟨rfl, rfl⟩ := course_pure.1 h
    rw [List.append_nil, List.singleton_append]
    exact .identified hselect hcreates hinfo

/-! ## What comes of it -/

/-- The ways a visit ends behind what it has found. -/
inductive Concludes (dryRun : Bool) (v : Visit) : Sighting → List Turn → ScanOutcome → Prop
  | unselected {e : TargetError} : Concludes dryRun v (.unselected e) [] .failed
  | skipped {label : String} {e : Error} (habsent : e.isAbsent = true) (hexpected : v.expected = false) :
      Concludes dryRun v (.unanswered label e) [] .skipped
  | missing {label : String} {e : Error} (h : e.isAbsent = false ∨ v.expected = true) :
      Concludes dryRun v (.unanswered label e) [] .failed
  /-- There is nothing to flash. -/
  | plain {label shown : String} {identity : DeviceInfo} (hfirmware : v.target.firmware = none) :
      Concludes dryRun v (.identified label identity) [.printed shown] .found
  /-- The controller runs the configured version. -/
  | current {label firmware shown said : String} {identity : DeviceInfo}
      (hfirmware : v.target.firmware = some firmware)
      (hversion : v.target.version = some identity.firmwareVersion) :
      Concludes dryRun v (.identified label identity) [.printed shown, .printed said] .upToDate
  /-- The controller would be flashed, but this is only asked for. -/
  | offered {label firmware shown said : String} {identity : DeviceInfo}
      (hfirmware : v.target.firmware = some firmware)
      (hversion : v.target.version ≠ some identity.firmwareVersion) (hdry : dryRun = true) :
      Concludes dryRun v (.identified label identity) [.printed shown, .printed said] .found
  | flashed {label firmware shown : String} {identity : DeviceInfo} {turns : List Turn}
      {r : Except Error UpdateReport} (hfirmware : v.target.firmware = some firmware)
      (hversion : v.target.version ≠ some identity.firmwareVersion) (hdry : dryRun = false)
      (hflash : Course (Update.runFromFile label firmware (updateOptions v.target.version)) turns r) :
      Concludes dryRun v (.identified label identity) (.printed shown :: turns)
        (if r.isOk then .updated else .failed)

theorem course_flash {t : ScanTarget} {label firmware : String}
    (h : Course (flash t label firmware) turns outcome) :
    ∃ r, Course (Update.runFromFile label firmware (updateOptions t.version)) turns r ∧
      outcome = if r.isOk then .updated else .failed := by
  obtain ⟨first, r, rest, rfl, hflash, h⟩ := course_bind.1 h
  refine ⟨r, ?_⟩
  cases r with
  | ok report =>
    obtain ⟨rfl, rfl⟩ := course_pure.1 h
    exact ⟨by rwa [List.append_nil], rfl⟩
  | error e =>
    simp only [course_bind, course_announce, course_pure] at h
    obtain ⟨_, _, _, rfl, rfl, rfl, rfl⟩ := h
    exact ⟨by rwa [List.append_nil, List.append_nil], rfl⟩

/-- A line is printed about a controller that is left as it is. -/
theorem course_said {said : String} {o : ScanOutcome}
    (h : Course (do
      Task.print said
      pure o : Task ScanOutcome) turns outcome) : turns = [.printed said] ∧ outcome = o := by
  simp only [course_bind, course_print, course_pure] at h
  obtain ⟨_, _, _, rfl, rfl, rfl, rfl⟩ := h
  exact ⟨rfl, rfl⟩

theorem concludes_settle {label : String} {identity : DeviceInfo} (shown : String)
    (h : Course (settle v.target label identity.firmwareVersion dryRun) turns outcome) :
    Concludes dryRun v (.identified label identity) (.printed shown :: turns) outcome := by
  rw [settle.eq_def] at h
  split at h
  · next hfirmware =>
    obtain ⟨rfl, rfl⟩ := course_pure.1 h
    exact .plain hfirmware
  · next firmware hfirmware =>
    split at h
    · next hversion =>
      obtain ⟨rfl, rfl⟩ := course_said h
      exact .current hfirmware hversion
    · next hversion =>
      split at h
      · next hdry =>
        obtain ⟨rfl, rfl⟩ := course_said h
        exact .offered hfirmware hversion hdry
      · next hdry =>
        obtain ⟨r, hflash, rfl⟩ := course_flash h
        exact .flashed hfirmware hversion (by simpa using hdry) hflash

theorem concludes_conclude (h : Course (conclude dryRun v found) turns outcome) :
    Concludes dryRun v found turns outcome := by
  have hannounced : ∀ {level text o}, Course (do
      Task.announce level text
      pure o : Task ScanOutcome) turns outcome → turns = [] ∧ outcome = o := by
    intro level text o h
    simp only [course_bind, course_announce, course_pure] at h
    obtain ⟨_, _, _, rfl, rfl, rfl, rfl⟩ := h
    exact ⟨rfl, rfl⟩
  cases found with
  | unselected e =>
    obtain ⟨rfl, rfl⟩ := hannounced h
    exact .unselected
  | unanswered label e =>
    rw [conclude] at h
    split at h
    · next hskip =>
      obtain ⟨rfl, rfl⟩ := hannounced h
      rw [Bool.and_eq_true, Bool.not_eq_true'] at hskip
      exact .skipped hskip.1 hskip.2
    · next hskip =>
      obtain ⟨rfl, rfl⟩ := hannounced h
      refine .missing ?_
      cases habsent : e.isAbsent with
      | false => exact .inl rfl
      | true => exact .inr (by simpa [habsent] using hskip)
  | identified label identity =>
    obtain ⟨_, _, rest, rfl, hprint, h⟩ := course_bind.1 h
    rw [course_print.1 hprint]
    exact concludes_settle _ h

/-- A visit is a look and what is concluded from it. -/
theorem course_visit (h : Course (visit dryRun v) turns outcome) :
    ∃ first found rest, turns = first ++ rest ∧ Sees v first found ∧
      Concludes dryRun v found rest outcome := by
  rw [visit_eq] at h
  obtain ⟨first, found, rest, rfl, hlook, hrest⟩ := course_bind.1 h
  exact ⟨first, found, rest, rfl, sees_look hlook, concludes_conclude hrest⟩

/-! ## Visits at a site -/

/-- What can be seen of one visit. -/
structure Visited where
  visit : Visit
  found : Sighting
  turns : List Turn
  outcome : ScanOutcome

variable {σ : Type}

/-- Visits at a site one after the other, each where the one before has left the site. -/
def tour (site : Site σ) (dryRun : Bool) : List Visit → Bench σ → List Visited
  | [], _ => []
  | v :: rest, bench =>
    ⟨v, (site.run (look v) bench).1, site.moves (visit dryRun v) bench,
        (site.run (visit dryRun v) bench).1⟩ ::
      tour site dryRun rest (site.run (visit dryRun v) bench).2

section
variable (site : Site σ) (bench : Bench σ) (dryRun : Bool) (visits : List Visit)

theorem map_visit_tour : (tour site dryRun visits bench).map Visited.visit = visits := by
  induction visits generalizing bench with
  | nil => rfl
  | cons v rest ih => rw [tour, List.map_cons, ih]

/-- The outcomes of a scan are those of its visits. -/
theorem run_visitAll :
    (site.run (visitAll dryRun visits) bench).1 = (tour site dryRun visits bench).map Visited.outcome := by
  induction visits generalizing bench with
  | nil => rfl
  | cons v rest ih =>
    rw [visitAll, Site.run_bind, Site.run_bind, tour, List.map_cons, ← ih]
    rfl

/-- A scan does nothing beside its visits. -/
theorem moves_visitAll :
    site.moves (visitAll dryRun visits) bench = (tour site dryRun visits bench).flatMap Visited.turns := by
  induction visits generalizing bench with
  | nil => rfl
  | cons v rest ih =>
    rw [visitAll, Site.moves_bind, Site.moves_bind, tour, List.flatMap_cons, ← ih]
    exact congrArg _ (List.append_nil _)

end

/-- Every visit of a tour is a look, and what is concluded from what was found. -/
theorem sees_tour {site : Site σ} {bench : Bench σ} {visits : List Visit} {seen : Visited}
    (h : seen ∈ tour site dryRun visits bench) :
    ∃ first rest, seen.turns = first ++ rest ∧ Sees seen.visit first seen.found ∧
      Concludes dryRun seen.visit seen.found rest seen.outcome := by
  induction visits generalizing bench with
  | nil => cases h
  | cons v visits ih =>
    obtain rfl | h := List.mem_cons.1 h
    · refine ⟨site.moves (look v) bench,
        site.moves (conclude dryRun v (site.run (look v) bench).1) (site.run (look v) bench).2, ?_, ?_, ?_⟩
      · dsimp only
        rw [visit_eq, Site.moves_bind]
      · exact sees_look (site.course_moves _ _)
      · refine concludes_conclude ?_
        dsimp only
        rw [visit_eq, Site.run_bind]
        exact site.course_moves _ _
    · exact ih h

end Backplane.Scan
