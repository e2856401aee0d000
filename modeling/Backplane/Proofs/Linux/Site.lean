import Backplane.Host
import Backplane.Proofs.Course

/-!
# Sites over a kernel

The tool runs at a site with every kind of target, where the system buses are behind one kernel.
`site` is such a site over any kernel that answers calls out of a state, and a host is the one over
its prepared answers. The calls of a run are the calls behind its turns: those that open a target, or
the one that carries a request.

* `run_host`: a host is a site over its kernel.
* `exchanges`: the calls of a run with their answers; `called_run`: what a run records of its calls.
* `carried_moves`: the turns of a run are carried by its calls.
-/
namespace Backplane

/-- The configuration of a target on a system bus. -/
def Target.config? : Target → Option Linux.Config
  | .simulated _ => none
  | .system c => some c

/-- The configuration of an endpoint on a system bus. -/
def Endpoint.config? : Endpoint → Option Linux.Config
  | .system c => some c
  | _ => none

/-- The target that a turn selects. -/
def Turn.target? : Turn → Option Target
  | ⟨.attach target, _⟩ => some target
  | _ => none

namespace Linux

variable {σ τ α : Type}

/-- A call and its answer. -/
abbrev Exchange := Dialogue.Turn Call.Answer

/-! ## Sites -/

/-- What was served, with the state put into its place. -/
def place (restore : σ → τ) (served : Served α σ) : Served α τ :=
  ⟨served.value, restore served.next, served.events⟩

/-- The endpoint that a target is selected as. -/
def endpoint : Target → Endpoint
  | .simulated p => .simulated (Target.simulated p).label (.start (.equipped p) {})
  | .system c => .system c

/-- A site whose system buses are behind a kernel. -/
def site (kernel : Answering σ) (files : String → σ → Except IoError FileContent) :
    Site (Endpoint × σ) where
  connect
    | (.closed, s) => ⟨.error (.os Errno.noDevice), (.closed, s), []⟩
    | (.simulated label m, s) =>
      place (fun m => (.simulated label m, s)) ((Simulator.bus label).connect m)
    | (.system c, s) => place (.system c, ·) ((bus kernel c).connect s)
    | (.playback p, s) => place (fun p => (.playback p, s)) (Playback.bus.connect p)
  attempt r
    | (.closed, s) => ⟨.fail (.os Errno.noDevice), (.closed, s), []⟩
    | (.simulated label m, s) =>
      place (fun m => (.simulated label m, s)) ((Simulator.bus label).attempt r m)
    | (.system c, s) => place (.system c, ·) ((bus kernel c).attempt r s)
    | (.playback p, s) => place (fun p => (.playback p, s)) (Playback.bus.attempt r p)
  delay us
    | (.simulated label m, s) =>
      place (fun m => (.simulated label m, s)) ((Simulator.bus label).delay us m)
    | s => ⟨(), s, []⟩
  attach target s := (endpoint target, s.2)
  readFile path s := files path s.2

/-- The files of a host, whatever its kernel. -/
def hostFiles (path : String) (s : FileTree × Kernel) : Except IoError FileContent := s.1.read path

/-- A bench with a host as one with an endpoint and a kernel. -/
def unhost (bench : Bench Host) : Bench (Endpoint × (FileTree × Kernel)) :=
  ⟨(bench.state.endpoint, bench.state.files, bench.state.kernel), bench.events⟩

theorem answer_host (a : Action) (bench : Bench Host) :
    (site Host.kernelAnswer hostFiles).answer a (unhost bench) =
      ((Host.site.answer a bench).1, unhost (Host.site.answer a bench).2) := by
  obtain ⟨⟨files, kernel, endpoint⟩, events⟩ := bench
  cases a with
  | attach target => cases target <;> rfl
  | connect => cases endpoint <;> rfl
  | attempt r => cases endpoint <;> rfl
  | delay us => cases endpoint <;> rfl
  | sleep ms => rfl
  | readFile path => rfl
  | note note => rfl

/-- A host is a site over its kernel. -/
theorem run_host (task : Task α) (bench : Bench Host) :
    (site Host.kernelAnswer hostFiles).run task (unhost bench) =
      ((Host.site.run task bench).1, unhost (Host.site.run task bench).2) := by
  induction task generalizing bench with
  | done value => rfl
  | ask a next ih =>
    have hanswer := answer_host a bench
    simp only [Site.run, Dialogue.run] at ih ⊢
    rw [hanswer]
    exact ih _ _

/-! ## The calls of a run -/

/-- The calls behind an action, each with its answer. -/
def behind (kernel : Answering σ) : Action → Endpoint × σ → List Exchange
  | .connect, (.system c, s) => Dialogue.transcript kernel (openTarget c) s
  | .attempt r, (.system c, s) => Dialogue.transcript kernel (serve c.address r) s
  | _, _ => []

/-- The calls behind a task at a bench. -/
def exchanges (kernel : Answering σ) (files : String → σ → Except IoError FileContent) :
    Task α → Bench (Endpoint × σ) → List Exchange
  | .done _, _ => []
  | .ask a next, bench =>
    let answered := (site kernel files).answer a bench
    behind kernel a bench.state ++ exchanges kernel files (next answered.1) answered.2

/-- What is recorded of a call. -/
def Exchange.event (x : Exchange) : Event := .called x.1 (x.1.failure x.2)

theorem run_recording (kernel : Answering σ) (task : KernelTask α) (s : σ) (events : List Event) :
    task.run (recording kernel) (s, events) =
      ((task.run kernel s).1, (task.run kernel s).2,
        ((task.transcript kernel s).map Exchange.event).reverse ++ events) := by
  induction task generalizing s events with
  | done value => rfl
  | ask c next ih =>
    simp only [Dialogue.run, recording, ih, Dialogue.transcript, List.map_cons, List.reverse_cons,
      List.append_assoc, List.singleton_append]
    rfl

/-- Calls are served with their value, and each is recorded. -/
theorem serveOn_eq (kernel : Answering σ) (task : KernelTask α) (s : σ) :
    serveOn kernel task s =
      ⟨(task.run kernel s).1, (task.run kernel s).2, (task.transcript kernel s).map Exchange.event⟩ := by
  simp [serveOn, run_recording]

/-- The calls that are recorded among events, each with its error number. -/
def recorded (events : List Event) : List (Call × Option Int) :=
  events.filterMap fun
    | .called c failure => some (c, failure)
    | _ => none

/-- What is recorded of calls. -/
def records (calls : List Exchange) : List (Call × Option Int) :=
  calls.map fun x => (x.1, x.1.failure x.2)

theorem recorded_append (first rest : List Event) :
    recorded (first ++ rest) = recorded first ++ recorded rest :=
  List.filterMap_append ..

theorem recorded_event (calls : List Exchange) : recorded (calls.map Exchange.event) = records calls := by
  induction calls with
  | nil => rfl
  | cons x calls ih => exact congrArg (List.cons _) ih

/-- Log lines are no calls. -/
theorem recorded_logged (lines : List LogLine) :
    recorded (lines.map fun line => .noted (.log line)) = [] := by
  induction lines with
  | nil => rfl
  | cons line lines ih => exact ih

section Simulated
open Simulator
variable {r : Request} {s : Simulator}

/-- What records no call. -/
def Calm (served : Served α τ) : Prop := recorded served.events = []

theorem calm_refuse : Calm (refuse s : Served (Reply r) Simulator) := rfl

theorem calm_answer {value : r.Value} : Calm (answer value s : Served (Reply r) Simulator) := rfl

theorem calm_answerBoot {value : r.Value} {outcome : Bool × Simulator} :
    Calm (answerBoot value outcome : Served (Reply r) Simulator) := by
  obtain ⟨booted, s⟩ := outcome
  cases booted <;> rfl

theorem calm_serveWriteByte (value : UInt8) : Calm (s.serveWriteByte value) := by
  unfold serveWriteByte
  repeat' split
  all_goals first | exact calm_answerBoot | exact calm_answer | exact calm_refuse

theorem calm_serveReadByteData (command : UInt8) : Calm (s.serveReadByteData command) := by
  unfold serveReadByteData serveIdent servePresence
  repeat' split
  all_goals first | exact calm_answer | exact calm_refuse

theorem calm_serveWriteByteData (command value : UInt8) : Calm (s.serveWriteByteData command value) := by
  unfold serveWriteByteData
  repeat' split
  all_goals first | exact calm_answer | exact calm_refuse

theorem calm_serveTransfer (messages : List Message) : Calm (s.serveTransfer messages) := by
  unfold serveTransfer
  repeat' split
  all_goals first | exact calm_refuse | rfl

theorem calm_serve (s : Simulator) (r : Request) : Calm (s.serve r) := by
  cases r with
  | functionality => exact calm_answer
  | writeByte value => exact calm_serveWriteByte value
  | readByteData command => exact calm_serveReadByteData command
  | writeByteData command value => exact calm_serveWriteByteData command value
  | writeWordData command value => exact calm_refuse
  | transfer messages => exact calm_serveTransfer messages
  | _ =>
    unfold Simulator.serve
    dsimp only
    repeat' split
    all_goals first | exact calm_answer | exact calm_refuse | rfl

theorem calm_attempt (s : Simulator) (r : Request) : Calm (s.attempt r) := by
  unfold attempt
  split
  · exact calm_serve s _
  · dsimp only
    split
    · exact calm_refuse
    · exact calm_serve _ _

theorem calm_connect (label : String) (s : Simulator) : Calm (s.connect label) := by
  unfold connect
  split <;> rfl

theorem calm_delay (us : UInt32) (s : Simulator) : Calm (s.delay us) := by
  unfold delay
  split <;> rfl

end Simulated

theorem calm_playback (p : Playback) : Calm (Playback.connect p) := by
  unfold Playback.connect
  split <;> rfl

theorem calm_playback_attempt (p : Playback) (r : Request) : Calm (Playback.attempt r p) := by
  unfold Playback.attempt
  split <;> rfl

section Run
variable {kernel : Answering σ} {files : String → σ → Except IoError FileContent}

theorem recorded_connectOn (c : Config) (s : σ) :
    recorded (connectOn kernel c s).events = records (Dialogue.transcript kernel (openTarget c) s) := by
  simp only [connectOn, serveOn_eq, recorded_append, recorded_event, recorded_logged, List.append_nil]

theorem recorded_serveOn (task : KernelTask α) (s : σ) :
    recorded (serveOn kernel task s).events = records (Dialogue.transcript kernel task s) := by
  rw [serveOn_eq, recorded_event]

/-- Serving records what the calls behind it were, in front of an event that is none. -/
theorem recorded_record {served : Served α τ} {events : Array Event} {event : α → Event}
    {calls : List Exchange} (hevent : ∀ v, recorded [event v] = [])
    (hcalls : recorded served.events = records calls) :
    recorded (Site.record served events event).2.events.toList =
      recorded events.toList ++ records calls := by
  simp only [Site.record, Array.toList_push, Array.toList_appendList, recorded_append, hcalls, hevent,
    List.append_nil]

/-- What is recorded of the calls behind an action. -/
theorem called_answer (a : Action) (bench : Bench (Endpoint × σ)) :
    recorded ((site kernel files).answer a bench).2.events.toList =
      recorded bench.events.toList ++ records (behind kernel a bench.state) := by
  obtain ⟨⟨endpoint, s⟩, events⟩ := bench
  cases a with
  | attach target => exact (List.append_nil _).symm
  | connect =>
    refine recorded_record (fun _ => rfl) ?_
    cases endpoint with
    | closed => rfl
    | simulated label m => exact calm_connect label m
    | system c => exact recorded_connectOn c s
    | playback p => exact calm_playback p
  | attempt r =>
    refine recorded_record (fun _ => rfl) ?_
    cases endpoint with
    | closed => rfl
    | simulated label m => exact calm_attempt m r
    | system c => exact recorded_serveOn (serve c.address r) s
    | playback p => exact calm_playback_attempt p r
  | delay us =>
    refine recorded_record (fun _ => rfl) ?_
    cases endpoint with
    | simulated label m => exact calm_delay us m
    | _ => rfl
  | sleep ms => exact (List.append_nil _).symm
  | readFile path => exact (List.append_nil _).symm
  | note note =>
    simp only [Site.answer, Array.toList_push, recorded_append]
    rfl

/-- What a run records of its calls is recorded of those behind it, in order. -/
theorem called_run (task : Task α) (bench : Bench (Endpoint × σ)) :
    recorded ((site kernel files).run task bench).2.events.toList =
      recorded bench.events.toList ++ records (exchanges kernel files task bench) := by
  induction task generalizing bench with
  | done value => exact (List.append_nil _).symm
  | ask a next ih =>
    have hnext := ih ((site kernel files).answer a bench).1 ((site kernel files).answer a bench).2
    rw [called_answer, List.append_assoc] at hnext
    rw [exchanges, records, List.map_append]
    exact hnext

end Run

/-! ## Turns and their calls -/

/-- The target on a system bus that is selected behind a turn, if one is. -/
def selected (current : Option Config) (turn : Turn) : Option Config :=
  match turn.target? with
  | some target => target.config?
  | none => current

/-- The calls carry the turn, at the target on a system bus that is selected, if one is. -/
def Carries : Option Config → Turn → List Exchange → Prop
  | some c, ⟨.connect, result⟩, calls =>
    ∃ opened, (openTarget c).Path calls opened ∧ result = opened.mapError OpenError.toBusError
  | some c, ⟨.attempt r, reply⟩, calls => (serve c.address r).Path calls reply
  | _, _, calls => calls = []

/-- The calls carry the turns, one after the other. -/
def Carried : Option Config → List Turn → List Exchange → Prop
  | _, [], calls => calls = []
  | current, turn :: rest, calls =>
    ∃ first others, calls = first ++ others ∧ Carries current turn first ∧
      Carried (selected current turn) rest others

section Carried
variable {current : Option Config} {turns first rest : List Turn} {calls : List Exchange}

theorem carried_append (h : Carried current (first ++ rest) calls) :
    ∃ front back, calls = front ++ back ∧ Carried current first front ∧
      Carried (first.foldl selected current) rest back := by
  induction first generalizing current calls with
  | nil => exact ⟨[], calls, rfl, rfl, h⟩
  | cons turn first ih =>
    obtain ⟨lead, others, rfl, hturn, h⟩ := h
    obtain ⟨front, back, rfl, hfirst, hrest⟩ := ih h
    exact ⟨lead ++ front, back, by rw [List.append_assoc], ⟨lead, front, rfl, hturn, hfirst⟩, hrest⟩

/-- Turns that select nothing leave the target as it is. -/
theorem foldl_selected (h : ∀ turn ∈ turns, turn.target? = none) :
    turns.foldl selected current = current := by
  induction turns generalizing current with
  | nil => rfl
  | cons turn turns ih =>
    rw [List.forall_mem_cons] at h
    rw [List.foldl_cons, ih h.2, selected, h.1]

/-- What the calls behind each turn satisfy, the calls behind turns that select nothing satisfy. -/
theorem carried_forall {P : Exchange → Prop}
    (hturns : ∀ turn ∈ turns, turn.target? = none ∧
      ∀ {calls}, Carries current turn calls → ∀ x ∈ calls, P x)
    (h : Carried current turns calls) : ∀ x ∈ calls, P x := by
  induction turns generalizing calls with
  | nil =>
    obtain rfl : calls = [] := h
    simp
  | cons turn turns ih =>
    rw [List.forall_mem_cons] at hturns
    obtain ⟨first, others, rfl, hturn, hrest⟩ := h
    rw [selected, hturns.1.1] at hrest
    exact List.forall_mem_append.2 ⟨hturns.1.2 hturn, ih hturns.2 hrest⟩

/-- Without a target on a system bus there are no calls. -/
theorem carried_none (hturns : ∀ turn ∈ turns, turn.target? = none) (h : Carried none turns calls) :
    calls = [] := by
  refine List.eq_nil_iff_forall_not_mem.2 (carried_forall (fun turn hturn => ⟨hturns turn hturn, ?_⟩) h)
  intro lead hlead
  obtain rfl : lead = [] := hlead
  simp

end Carried

section Moves
variable (kernel : Answering σ) (files : String → σ → Except IoError FileContent)

theorem carries_answer (a : Action) (bench : Bench (Endpoint × σ)) :
    Carries bench.state.1.config? ⟨a, ((site kernel files).answer a bench).1⟩
      (behind kernel a bench.state) := by
  obtain ⟨⟨endpoint, s⟩, events⟩ := bench
  cases a with
  | connect =>
    cases endpoint with
    | system c =>
      refine ⟨_, Dialogue.path_transcript kernel (openTarget c) s, ?_⟩
      change (connectOn kernel c s).value = _
      rw [connectOn, serveOn_eq]
    | _ => rfl
  | attempt r =>
    cases endpoint with
    | system c =>
      change (serve c.address r).Path _ (serveOn kernel (serve c.address r) s).value
      rw [serveOn_eq]
      exact Dialogue.path_transcript kernel (serve c.address r) s
    | _ => rfl
  | _ => cases endpoint <;> rfl

theorem selected_answer (a : Action) (bench : Bench (Endpoint × σ)) :
    ((site kernel files).answer a bench).2.state.1.config? =
      selected bench.state.1.config? ⟨a, ((site kernel files).answer a bench).1⟩ := by
  obtain ⟨⟨endpoint, s⟩, events⟩ := bench
  cases a with
  | attach target => cases target <;> rfl
  | connect => cases endpoint <;> rfl
  | attempt r => cases endpoint <;> rfl
  | delay us => cases endpoint <;> rfl
  | _ => rfl

/-- The turns of a run are carried by its calls. -/
theorem carried_moves (task : Task α) (bench : Bench (Endpoint × σ)) :
    Carried bench.state.1.config? ((site kernel files).moves task bench)
      (exchanges kernel files task bench) := by
  induction task generalizing bench with
  | done value => rfl
  | ask a next ih =>
    have hcarries := carries_answer kernel files a bench
    have hrest := ih ((site kernel files).answer a bench).1 ((site kernel files).answer a bench).2
    rw [selected_answer] at hrest
    simp only [Site.moves, Dialogue.transcript, List.filter_cons]
    cases hmove : Turn.isMove ⟨a, ((site kernel files).answer a bench).1⟩ with
    | true => exact ⟨_, _, rfl, hcarries, hrest⟩
    | false =>
      -- A log line needs no calls and selects nothing.
      cases a with
      | note n =>
        cases n with
        | log line => exact hrest
        | _ => cases hmove
      | _ => cases hmove

end Moves

end Linux
end Backplane
