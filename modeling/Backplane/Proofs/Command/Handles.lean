import Backplane.Command.Run
import Backplane.Proofs.Scan.Visits
import Backplane.Proofs.Update.Handles

/-!
# The handles of a command

Whatever the tool is told to do, and whatever is done with a driver or an update beside it, no device
is sent anything before it is identified, and none is sent a request of the other generation.

* `Command.serves_run`: a command on one controller, which fails as a handle without a driver does.
* `Scan.covers_visit`: a visit of a scan, and what a handle without a driver makes of it.
* `Command.guards_run`: every command.
* `Errand.run_guarded`: everything that makes a driver, at any site.
-/
namespace Backplane

variable {known : Option Protocol} {α β ε : Type}

/-! ## Steps that can fail -/

section Try
variable {x : ExceptT ε Task α} {f : α → ExceptT ε Task β} {task : Task α}

theorem staysTry_pure (a : α) : Stays known (pure a : ExceptT ε Task α).run := stays_pure _

theorem staysTry_throw (e : ε) : Stays known (throw e : ExceptT ε Task α).run := stays_pure _

theorem staysTry_bind (hx : Stays known x.run) (hf : ∀ v, Stays known (f v).run) :
    Stays known (x >>= f).run := by
  rw [ExceptT.run_bind]
  refine stays_bind hx ?_
  rintro (e | v)
  · exact stays_pure _
  · exact hf v

theorem staysTry_lift (hx : Stays known task) : Stays known (liftM task : ExceptT ε Task α).run :=
  stays_bind hx fun _ => stays_pure _

theorem staysTry_lift_bind (hx : Stays known task) (hf : ∀ v, Stays known (f v).run) :
    Stays known (liftM task >>= f : ExceptT ε Task β).run := by
  rw [run_lift_bind]
  exact stays_bind hx hf

theorem guardsTry_bind (hx : Stays known x.run) (hf : ∀ v, Guards known (f v).run) :
    Guards known (x >>= f).run := by
  rw [ExceptT.run_bind]
  refine guards_bind hx ?_
  rintro (e | v)
  · exact (stays_pure _).guards
  · exact hf v

theorem guardsTry_lift_bind (hx : Stays known task) (hf : ∀ v, Guards known (f v).run) :
    Guards known (liftM task >>= f : ExceptT ε Task β).run := by
  rw [run_lift_bind]
  exact guards_bind hx hf

end Try

namespace Command
variable {args : BusArgs}

theorem stays_announce {level : Level} {text : String} : Stays known (Task.announce level text) :=
  stays_ask fun _ => trivial

theorem stays_print {text : String} : Stays known (Task.print text) := stays_ask fun _ => trivial

/-- What is announced is no turn. -/
theorem course_announce_bind {level : Level} {text : String} {f : Unit → Step Unit}
    {turns : List Turn} {r : Except CommandError Unit}
    (h : Course (liftM (Task.announce level text) >>= f).run turns r) : Course (f ()).run turns r := by
  rw [run_lift_bind] at h
  obtain ⟨_, _, rest, rfl, hannounce, hrest⟩ := course_bind.1 h
  rwa [course_announce.1 hannounce, List.nil_append]

/-- How a command says that a handle was given no driver. -/
def failure : Command → Error → CommandError
  | .update _ _ _ _ => .update
  | _ => .controller

/-- What a command on one controller does: its argument selects nothing, or it selects its target and
attends to it, and fails as each handle without a driver says. -/
inductive Serves (args : BusArgs) (fail : Error → CommandError) :
    List Turn → Except CommandError Unit → Prop
  | unselected {e : TargetError}
      (hselect : Target.ofArgument args.bus args.address args.pec = .error e) :
      Serves args fail [] (.error (.usage e.message))
  | selected {target : Target} {rest : List Turn} {made : List (Except Error Driver)}
      {r : Except CommandError Unit}
      (hselect : Target.ofArgument args.bus args.address args.pec = .ok target)
      (hleg : Leg none rest made) (hmade : ∀ e, .error e ∈ made → r = .error (fail e)) :
      Serves args fail (.attached target :: rest) r

theorem Serves.respects {fail : Error → CommandError} {turns : List Turn}
    {r : Except CommandError Unit} (h : Serves args fail turns r) : Respects none turns := by
  cases h with
  | unselected => exact .nil
  | selected _ hleg => exact .turn trivial hleg.respects

/-- What follows the selection of a target, where there is one. -/
theorem serves_selectTarget_bind {fail : Error → CommandError} {f : Target → Step Unit}
    {turns : List Turn} {r : Except CommandError Unit} (h : Course (selectTarget args >>= f).run turns r)
    (hf : ∀ {target rest}, Course (f target).run rest r →
      ∃ made, Leg none rest made ∧ ∀ e, .error e ∈ made → r = .error (fail e)) :
    Serves args fail turns r := by
  rw [selectTarget, bind_assoc, run_lift_bind] at h
  obtain ⟨_, selected, rest, rfl, hselect, h⟩ := course_bind.1 h
  obtain ⟨e, he, rfl, rfl⟩ | ⟨target, htarget, rfl, rfl⟩ := Scan.course_select hselect
  · obtain ⟨rfl, rfl⟩ := course_pure.1 h
    exact .unselected he
  · obtain ⟨made, hleg, hmade⟩ := hf h
    exact .selected htarget hleg hmade

/-- The command opens a driver, and then asks for nothing but what the driver understands. -/
def Borrows (args : BusArgs) (x : Step Unit) : Prop :=
  ∃ use : Driver → Step Unit, x = openDriver args >>= use ∧ ∀ d, Stays (some d.protocol) (use d).run

theorem Borrows.serves {x : Step Unit} {turns : List Turn} {r : Except CommandError Unit}
    (hx : Borrows args x) (h : Course x.run turns r) : Serves args .controller turns r := by
  obtain ⟨use, rfl, huse⟩ := hx
  rw [openDriver, bind_assoc] at h
  refine serves_selectTarget_bind h fun {target rest} h => ?_
  rw [bind_assoc, run_lift_bind] at h
  obtain ⟨opening, created, rest, rfl, hcreate, h⟩ := course_bind.1 h
  have hcreates := Driver.creates_create hcreate
  cases created with
  | error e =>
    obtain ⟨rfl, rfl⟩ := course_pure.1 h
    exact ⟨_, .opened hcreates .nil, by simp⟩
  | ok d =>
    dsimp only at h
    rw [bind_assoc] at h
    exact ⟨_, .opened hcreates (.of_attends (huse d (course_announce_bind h))), by simp⟩

theorem stays_onDriver {p : Protocol} {operation : DriverM.Try α} {d : Driver}
    (h : Driver.Speaks p operation.run) (hd : d.protocol = p) :
    Stays (some p) (onDriver operation d).run := by
  rw [onDriver, run_lift_bind]
  refine stays_run_bind h hd ?_
  rintro (e | v) d' -
  · exact staysTry_throw _
  · exact staysTry_pure _

/-! ## Commands -/

theorem borrows_runInfo : Borrows args (runInfo args) := by
  refine ⟨_, rfl, fun d => ?_⟩
  rw [run_lift_bind]
  refine stays_run_bind Driver.sparing_deviceInfo.speaks rfl fun identity d' _ => ?_
  have hshown : Stays (some d.protocol) (do
      Task.print "Backplane MCU Information\n"
      Task.print "=========================\n"
      Task.print "\n"
      Task.print (identityBlock d'.label identity) : Step Unit).run :=
    staysTry_lift_bind stays_print fun _ => staysTry_lift_bind stays_print fun _ =>
      staysTry_lift_bind stays_print fun _ => staysTry_lift stays_print
  dsimp only
  split
  · exact staysTry_lift_bind stays_announce fun _ => hshown
  · exact hshown

/-- One operation of a driver, and what is said of it. -/
theorem borrows_operation {operation : DriverM.Try α} {say : Driver → α → Task Unit}
    (h : ∀ p, Driver.Speaks p operation.run) (hsay : ∀ {p} d v, Stays (some p) (say d v)) :
    Borrows args (do
      let driver ← openDriver args
      let value ← onDriver operation driver
      liftM (say driver value)) :=
  ⟨_, rfl, fun d => staysTry_bind (stays_onDriver (h _) rfl) fun v => staysTry_lift (hsay d v)⟩

theorem borrows_runStatus : Borrows args (runStatus args) :=
  borrows_operation
    (fun _ => leadsTry_bind (leadsTry_lift Driver.sparing_refresh.speaks) fun _ =>
      Driver.sparing_collectStates.speaks)
    fun _ _ => stays_print

/-- A watch goes on with the driver of the poll before. -/
theorem stays_watchFrom {p : Protocol} {interval polls : Nat} {cache : ChangeCache} {d : Driver}
    (hd : d.protocol = p) : Stays (some p) (watchFrom interval polls cache d).run := by
  induction polls generalizing cache d with
  | zero => exact staysTry_pure _
  | succ polls ih =>
    rw [watchFrom, run_lift_bind]
    refine stays_run_bind Driver.speaks_poll hd ?_
    rintro ⟨seen, e | states⟩ d' hd'
    · exact staysTry_throw _
    · have hnext : Stays (some p) (do
          Task.sleep interval
          watchFrom interval polls seen d' : Step Unit).run :=
        staysTry_lift_bind (stays_ask fun _ => trivial) fun _ => ih hd'
      cases states with
      | none => exact hnext
      | some states =>
        exact staysTry_lift_bind stays_print fun _ => staysTry_lift_bind stays_print fun _ => hnext

theorem borrows_runWatch {interval : Nat} : Borrows args (runWatch args interval) :=
  ⟨_, rfl, fun _ => staysTry_lift_bind stays_announce fun _ => stays_watchFrom rfl⟩

theorem borrows_runLocateSet {channel : Nat} {on : Bool} : Borrows args (runLocateSet args channel on) :=
  borrows_operation
    (fun _ => (Driver.sparing_byProtocol V0.sparing_setLocate V1.sparing_setLocate).speaks)
    fun _ _ => stays_announce

theorem borrows_runLocateGet {channel : Nat} : Borrows args (runLocateGet args channel) :=
  borrows_operation
    (fun _ => (Driver.sparing_byProtocol V0.sparing_channelLocate V1.sparing_channelLocate).speaks)
    fun _ _ => stays_print

theorem borrows_runLocateReset : Borrows args (runLocateReset args) :=
  borrows_operation
    (fun _ => (Driver.sparing_byProtocol V0.sparing_resetLocate V1.sparing_resetLocate).speaks)
    fun _ _ => stays_announce

theorem borrows_runPower {on : Bool} : Borrows args (runPower args on) :=
  borrows_operation
    (fun _ => (Driver.sparing_byProtocol V0.sparing_setHostPower V1.sparing_setHostPower).speaks)
    fun _ _ => stays_announce

/-- What a command says of an update that failed. -/
theorem course_updated {task : Task (Except Error UpdateReport)}
    {say : Except Error UpdateReport → Step Unit} {turns : List Turn} {r : Except CommandError Unit}
    (hok : ∀ report, say (.ok report) = pure ()) (herror : ∀ e, say (.error e) = throw (.update e))
    (h : Course (liftM task >>= say).run turns r) :
    ∃ result, Course task turns result ∧ ∀ e, result = .error e → r = .error (.update e) := by
  rw [run_lift_bind] at h
  obtain ⟨_, result, _, rfl, hresult, hsaid⟩ := course_bind.1 h
  refine ⟨result, ?_⟩
  cases result with
  | ok report =>
    rw [hok] at hsaid
    obtain ⟨rfl, -⟩ := course_pure.1 hsaid
    exact ⟨by rwa [List.append_nil], by simp⟩
  | error e =>
    rw [herror] at hsaid
    obtain ⟨rfl, rfl⟩ := course_pure.1 hsaid
    exact ⟨by rwa [List.append_nil], by simp⟩

/-- An update opens its handles by itself. -/
theorem serves_runUpdate {file : String} {erase : Bool} {version : Option String} {turns : List Turn}
    {r : Except CommandError Unit} (h : Course (runUpdate args file erase version).run turns r) :
    Serves args .update turns r := by
  refine serves_selectTarget_bind h fun {target rest} h => ?_
  have hupdate : ∃ result, Course
      (Update.runFromFile target.label file (updateOptions erase version)) rest result ∧
      ∀ e, result = .error e → r = .error (.update e) := by
    have hflashing := course_announce_bind h
    cases erase with
    | false => exact course_updated (fun _ => rfl) (fun _ => rfl) hflashing
    | true => exact course_updated (fun _ => rfl) (fun _ => rfl) (course_announce_bind hflashing)
  obtain ⟨result, hresult, hfail⟩ := hupdate
  obtain ⟨made, hleg, hmade⟩ := Update.heeds_runFromFile hresult
  exact ⟨made, hleg, fun e he => hfail e (hmade e he)⟩

/-- A command on one controller attends to its target, and fails where it is given no driver. -/
theorem serves_run {c : Command} {turns : List Turn} {r : Except CommandError Unit}
    (hargs : c.bus? = some args) (h : Course c.run turns r) : Serves args c.failure turns r := by
  cases c with
  | info bus =>
    cases hargs
    exact borrows_runInfo.serves h
  | status bus watch interval =>
    cases hargs
    cases watch with
    | true => exact borrows_runWatch.serves h
    | false => exact borrows_runStatus.serves h
  | locate bus action =>
    cases hargs
    cases action with
    | set channel on => exact borrows_runLocateSet.serves h
    | get channel => exact borrows_runLocateGet.serves h
    | reset => exact borrows_runLocateReset.serves h
  | power bus on =>
    cases hargs
    exact borrows_runPower.serves h
  | update bus file erase version =>
    cases hargs
    exact serves_runUpdate h
  | scan config dryRun => cases hargs

end Command

/-! ## Scans -/

namespace Scan
variable {dryRun : Bool} {v : Visit} {turns : List Turn} {outcome : ScanOutcome}

/-- What becomes of a visit that finds no controller. -/
def Visit.missed (v : Visit) : ScanOutcome := if v.expected then .failed else .skipped

/-- What a visit does: its bus argument selects nothing, or it selects its target and attends to it.
Where the first handle is given no driver, nothing was found. Every other handle is one of an update,
which fails with it. -/
inductive Covers (v : Visit) : List Turn → ScanOutcome → Prop
  | unselected {e : TargetError} (hselect : Target.ofArgument v.target.bus v.address false = .error e) :
      Covers v [] .failed
  | selected {target : Target} {rest : List Turn} {found : Except Error Driver}
      {made : List (Except Error Driver)} {outcome : ScanOutcome}
      (hselect : Target.ofArgument v.target.bus v.address false = .ok target)
      (hleg : Leg none rest (found :: made)) (hfound : ∀ e, found = .error e → outcome = v.missed)
      (hmade : ∀ e, .error e ∈ made → outcome = .failed) :
      Covers v (.attached target :: rest) outcome

theorem Covers.respects (h : Covers v turns outcome) : Respects none turns := by
  cases h with
  | unselected => exact .nil
  | selected _ hleg => exact .turn trivial hleg.respects

theorem Concludes.missed {label : String} {e : Error} (habsent : e.isAbsent = true)
    (h : Concludes dryRun v (.unanswered label e) turns outcome) : turns = [] ∧ outcome = v.missed := by
  cases h with
  | skipped _ hexpected => simp [Visit.missed, hexpected]
  | missing hmissing =>
    have hexpected : v.expected = true := by simpa [habsent] using hmissing
    simp [Visit.missed, hexpected]

/-- The handle that a controller was found with is not used once it is flashed. -/
theorem Concludes.leg {label : String} {identity : DeviceInfo}
    (h : Concludes dryRun v (.identified label identity) turns outcome) :
    ∃ made, Leg known turns made ∧ ∀ e, .error e ∈ made → outcome = .failed := by
  cases h with
  | plain | current | offered => exact ⟨[], .of_attends (by simp [Attends, Allowed]), by simp⟩
  | flashed _ _ _ hflash =>
    obtain ⟨made, hleg, hmade⟩ := Update.heeds_runFromFile hflash
    exact ⟨made, .turn trivial hleg, fun e he => by rw [hmade e he]; rfl⟩

theorem Sees.covers {first rest : List Turn} {found : Sighting} (hsees : Sees v first found)
    (hconcludes : Concludes dryRun v found rest outcome) : Covers v (first ++ rest) outcome := by
  cases hsees with
  | unselected hselect =>
    cases hconcludes with
    | unselected => exact .unselected hselect
  | unanswered hselect hcreate =>
    have habsent := hcreate.failureClass_eq
    obtain ⟨rfl, houtcome⟩ := hconcludes.missed (by simpa [Error.isAbsent] using habsent)
    exact .selected hselect (.opened hcreate .nil) (fun _ _ => houtcome) (by simp)
  | identified hselect hcreate hinfo =>
    obtain ⟨made, hleg, hmade⟩ := hconcludes.leg
    rw [List.cons_append, List.append_assoc]
    exact .selected hselect (.opened hcreate (.behind (Driver.attends_deviceInfo hinfo) hleg))
      (by simp) hmade

theorem covers_visit (h : Course (visit dryRun v) turns outcome) : Covers v turns outcome := by
  obtain ⟨first, found, rest, rfl, hsees, hconcludes⟩ := course_visit h
  exact hsees.covers hconcludes

/-- Every visit of a tour is one. -/
theorem covers_tour {σ : Type} {site : Site σ} {bench : Bench σ} {visits : List Visit} {seen : Visited}
    (h : seen ∈ tour site dryRun visits bench) : Covers seen.visit seen.turns seen.outcome := by
  obtain ⟨first, rest, hturns, hsees, hconcludes⟩ := sees_tour h
  rw [hturns]
  exact hsees.covers hconcludes

theorem guards_visitAll {visits : List Visit} : Guards none (visitAll dryRun visits) := by
  induction visits with
  | nil => exact (stays_pure _).guards
  | cons v rest ih =>
    exact guards_andThen (fun _ _ h => (covers_visit h).respects) fun _ =>
      guards_andThen ih fun _ => (stays_pure _).guards

end Scan

namespace Command

theorem stays_readText {path : String} : Stays known (readText path) := by
  refine stays_bind (stays_ask fun _ => trivial) ?_
  rintro (e | bytes | _)
  · exact stays_pure _
  · dsimp only
    split <;> exact stays_pure _
  · exact stays_pure _

theorem stays_loadScan {path : String} : Stays known (loadScan path).run := by
  refine staysTry_lift_bind stays_readText ?_
  rintro (e | text)
  · exact staysTry_throw _
  · dsimp only
    split
    · exact staysTry_throw _
    · exact staysTry_pure _

theorem guards_runScan {path : String} {dryRun : Bool} : Guards none (runScan path dryRun).run := by
  refine guardsTry_bind stays_loadScan fun targets => ?_
  refine guardsTry_lift_bind stays_announce fun _ => ?_
  rw [run_lift_bind]
  refine guards_andThen Scan.guards_visitAll fun outcomes => Stays.guards ?_
  refine staysTry_lift_bind stays_print fun _ => ?_
  split
  · exact staysTry_throw _
  · exact staysTry_pure _

/-- Whatever the tool is told to do. -/
theorem guards_run (c : Command) : Guards none (run c) := by
  cases c with
  | scan config dryRun => exact guards_runScan
  | _ => exact fun _ _ h => (serves_run rfl h).respects

end Command

/-! ## Everything that makes a driver -/

/-- What makes a driver: a caller of drivers, an update, or a command. -/
inductive Errand where
  | useDriver (label : String) (methods : List Driver.Method)
  | update (label : String) (image : List UInt8) (options : UpdateOptions)
  | updateFromFile (label path : String) (options : UpdateOptions)
  | command (c : Command)
  deriving DecidableEq, Repr

namespace Errand

/-- Does an errand, whatever comes of it. -/
def task : Errand → Task Unit
  | .useDriver label methods => Backplane.useDriver label methods
  | .update label image options => discard (Update.run label image options)
  | .updateFromFile label path options => discard (Update.runFromFile label path options)
  | .command c => discard c.run

theorem guards_task (errand : Errand) : Guards none errand.task := by
  cases errand with
  | useDriver label methods => exact guards_useDriver
  | update label image options => exact guards_andThen Update.guards_run fun _ => (stays_pure _).guards
  | updateFromFile label path options =>
    exact guards_andThen Update.guards_runFromFile fun _ => (stays_pure _).guards
  | command c => exact guards_andThen (Command.guards_run c) fun _ => (stays_pure _).guards

/-- At any site every handle is identified first, and nothing that its device does not understand
is sent through it. -/
theorem run_guarded {σ : Type} (site : Site σ) (bench : Bench σ) (errand : Errand) :
    Guarded (site.moves errand.task bench) :=
  (guards_task errand (site.course_moves errand.task bench)).guarded

end Errand
end Backplane
