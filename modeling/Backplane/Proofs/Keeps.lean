import Backplane.Driver.Channels
import Backplane.Proofs.Driver.Confirm

/-!
# What every run of a task leads to

A relation between the state in front of a run, its turns and the state behind it that every run of a task
is in, together with an invariant of the state, whatever is answered. Both pass from the parts of a task to
the whole where the relation composes, so a statement about everything an operation may do is put together
along the operation.

* `Leads`, `Keeps`: the second is the case where each turn has a property.
* `leads_bind`, `leadsTry_bind`: sequences, also those that can fail.
* `keeps_transact`, `keeps_exchange`: operations on a handle attempt one request.
* `leads_onDevice`, `leads_communicate`: what a driver does with its handle leaves the rest alone.
* `leads_checkChannel` to `leads_ifSupported`: steps on the way that make no turn of their own.
-/
namespace Backplane

variable {σ α β ε : Type} {I : σ → Prop} {P : Turn → Prop} {R : σ → List Turn → σ → Prop}

/-- A run that does nothing is in the relation, and so are two runs of which the second begins where the
first ended. -/
class Composes (R : σ → List Turn → σ → Prop) : Prop where
  nil (s : σ) : R s [] s
  append {s mid s' : σ} {first rest : List Turn} (h : R s first mid) (h' : R mid rest s') :
    R s (first ++ rest) s'

/-- Every run from a state with the invariant ends in one, and is in the relation. -/
def Leads (I : σ → Prop) (R : σ → List Turn → σ → Prop) (x : StateT σ Task α) : Prop :=
  ∀ ⦃s turns v s'⦄, I s → Runs x s turns v s' → I s' ∧ R s turns s'

/-- Each turn has the property. -/
def Each (P : Turn → Prop) (_ : σ) (turns : List Turn) (_ : σ) : Prop := ∀ turn ∈ turns, P turn

instance : Composes (Each P : σ → List Turn → σ → Prop) where
  nil _ := by simp [Each]
  append h h' := List.forall_mem_append.2 ⟨h, h'⟩

/-- Every run from a state with the invariant ends in one, and each of its turns has the property. -/
abbrev Keeps (I : σ → Prop) (P : Turn → Prop) (x : StateT σ Task α) : Prop := Leads I (Each P) x

/-- The relation may be weakened. -/
theorem Leads.mono {Q : σ → List Turn → σ → Prop} {x : StateT σ Task α} (h : Leads I R x)
    (hRQ : ∀ {s turns s'}, R s turns s' → Q s turns s') : Leads I Q x := by
  intro s turns v s' hs hrun
  obtain ⟨hend, hturns⟩ := h hs hrun
  exact ⟨hend, hRQ hturns⟩

/-! ## Tasks with a state -/

theorem leads_pure [Composes R] (a : α) : Leads I R (pure a) := by
  intro s turns v s' hs h
  obtain ⟨rfl, -, rfl⟩ := runs_pure.1 h
  exact ⟨hs, Composes.nil s⟩

theorem leads_bind [Composes R] {x : StateT σ Task α} {f : α → StateT σ Task β} (hx : Leads I R x)
    (hf : ∀ v, Leads I R (f v)) : Leads I R (x >>= f) := by
  intro s turns w s' hs h
  obtain ⟨first, v, mid, rest, rfl, h₁, h₂⟩ := runs_bind.1 h
  obtain ⟨hmid, hfirst⟩ := hx hs h₁
  obtain ⟨hend, hrest⟩ := hf v hmid h₂
  exact ⟨hend, Composes.append hfirst hrest⟩

/-- What follows may depend on the state, of which the invariant is known. -/
theorem leads_get_bind {f : σ → StateT σ Task α} (hf : ∀ s, I s → Leads I R (f s)) :
    Leads I R (get >>= f) :=
  fun s _ _ _ hs h => hf s hs hs (runs_get_bind.1 h)

theorem leads_modify {f : σ → σ} (hf : ∀ s, I s → I (f s) ∧ R s [] (f s)) :
    Leads I R (modify f : StateT σ Task PUnit) := by
  intro s turns v s' hs h
  obtain ⟨rfl, rfl⟩ := runs_modify.1 h
  exact hf s hs

theorem leads_forM [Composes R] {f : α → StateT σ Task PUnit} (l : List α) (hf : ∀ a ∈ l, Leads I R (f a)) :
    Leads I R (l.forM f) := by
  induction l with
  | nil => exact leads_pure _
  | cons a l ih =>
    rw [List.forall_mem_cons] at hf
    exact leads_bind hf.1 fun _ => ih hf.2

/-- A task that reaches nothing. -/
theorem leads_lift [Composes R] {task : Task α} (h : ∀ {turns v}, Course task turns v → turns = []) :
    Leads I R (liftM task) := by
  intro s turns v s' hs hrun
  obtain ⟨hcourse, rfl⟩ := runs_lift.1 hrun
  rw [h hcourse]
  exact ⟨hs, Composes.nil s⟩

/-! ## Tasks with a state that can fail -/

theorem leadsTry_pure [Composes R] (a : α) : Leads I R (pure a : ExceptT ε (StateT σ Task) α).run :=
  leads_pure _

theorem leadsTry_throw [Composes R] (e : ε) : Leads I R (throw e : ExceptT ε (StateT σ Task) α).run :=
  leads_pure _

theorem leadsTry_bind [Composes R] {x : ExceptT ε (StateT σ Task) α} {f : α → ExceptT ε (StateT σ Task) β}
    (hx : Leads I R x.run) (hf : ∀ v, Leads I R (f v).run) : Leads I R (x >>= f).run := by
  rw [ExceptT.run_bind]
  refine leads_bind hx ?_
  rintro (e | v)
  · exact leads_pure _
  · exact hf v

theorem leadsTry_get_bind {f : σ → ExceptT ε (StateT σ Task) α}
    (hf : ∀ s, I s → Leads I R (f s).run) : Leads I R (get >>= f).run :=
  fun s _ _ _ hs h => hf s hs hs (tries_get_bind.1 h)

theorem leadsTry_modify {f : σ → σ} (hf : ∀ s, I s → I (f s) ∧ R s [] (f s)) :
    Leads I R (modify f : ExceptT ε (StateT σ Task) PUnit).run := by
  intro s turns v s' hs h
  obtain ⟨rfl, -, rfl⟩ := tries_modify.1 h
  exact hf s hs

theorem leadsTry_lift {x : StateT σ Task α} (hx : Leads I R x) :
    Leads I R (liftM x : ExceptT ε (StateT σ Task) α).run := by
  intro s turns r s' hs h
  obtain ⟨v, -, hrun⟩ := tries_lift.1 h
  exact hx hs hrun

/-- Each element in turn, up to the first failure. -/
theorem leadsTry_mapM [Composes R] {f : α → ExceptT ε (StateT σ Task) β} (l : List α)
    (hf : ∀ a ∈ l, Leads I R (f a).run) : Leads I R (l.mapM f).run := by
  induction l with
  | nil => exact leads_pure _
  | cons a l ih =>
    rw [List.forall_mem_cons] at hf
    rw [List.mapM_cons]
    exact leadsTry_bind hf.1 fun b => leadsTry_bind (ih hf.2) fun bs => leadsTry_pure _

theorem leadsTry_forM [Composes R] {f : α → ExceptT ε (StateT σ Task) PUnit} (l : List α)
    (hf : ∀ a ∈ l, Leads I R (f a).run) : Leads I R (l.forM f).run := by
  induction l with
  | nil => exact leads_pure _
  | cons a l ih =>
    rw [List.forall_mem_cons] at hf
    exact leadsTry_bind hf.1 fun _ => ih hf.2

/-! ## Operations on a handle -/

namespace Device
variable {r : Request} {command : Option UInt8} {sent : Option (List UInt8)}

/-- A repeated request makes attempts of nothing else. -/
theorem keeps_retry {again : Nat} {buffer : List UInt8} {turns : List Turn}
    {p : Except BusError r.Value × List UInt8} (hr : ∀ reply, P (.attempted r reply))
    (h : Course (retry r again buffer) turns p) : ∀ turn ∈ turns, P turn := by
  obtain ⟨result, buffer'⟩ := p
  obtain ⟨replies, rfl, -, -⟩ := course_retry h
  intro turn hturn
  obtain ⟨reply, -, rfl⟩ := mem_tries.1 hturn
  exact hr reply

/-- A request that is repeated is all that its task attempts. -/
theorem keeps_lift_retry {again : Nat} {buffer : List UInt8} (hr : ∀ reply, P (.attempted r reply)) :
    Keeps I P (liftM (retry r again buffer)) := by
  intro d turns v d' hd hrun
  obtain ⟨hcourse, rfl⟩ := runs_lift.1 hrun
  exact ⟨hd, keeps_retry hr hcourse⟩

theorem keeps_logTransaction {received : Option (List UInt8)} {failure : Option BusError} :
    Keeps (fun _ => True) P (logTransaction command sent received failure) := by
  intro d turns v d' _ h
  obtain ⟨rfl, -⟩ := runs_logTransaction h
  exact ⟨trivial, List.forall_mem_nil P⟩

/-- An operation on a handle, whether that passed its check or not. -/
theorem keeps_transact {buffer : List UInt8} {received : r.Value → List UInt8 → Option (List UInt8)}
    (hr : ∀ reply, P (.attempted r reply)) :
    Keeps (fun _ => True) P (transact r buffer command sent received) := by
  refine leads_get_bind fun d _ => ?_
  dsimp only
  split
  · refine leads_bind (keeps_lift_retry hr) ?_
    rintro ⟨_ | _, buffer⟩ <;> exact leads_bind keeps_logTransaction fun _ => leads_pure _
  · refine leads_bind (leads_lift course_log.1) fun _ => leads_bind (leads_pure _) ?_
    rintro ⟨_ | _, buffer⟩ <;> exact leads_bind keeps_logTransaction fun _ => leads_pure _

theorem keeps_exchange {received : r.Value → Option (List UInt8)} (hr : ∀ reply, P (.attempted r reply)) :
    Keeps (fun _ => True) P (exchange r command sent received).run :=
  leads_bind (keeps_transact hr) fun _ => leads_pure _

theorem keeps_readBlock {register : UInt8} {buffer : List UInt8}
    (hr : ∀ reply, P (.attempted (.readBlock register buffer.length) reply)) :
    Keeps (fun _ => True) P (readBlock register buffer) := by
  rw [readBlock]
  split
  · exact leads_pure _
  · exact keeps_transact hr

end Device

/-! ## Operations of a driver -/

namespace Driver
variable {I : Driver → Prop}

/-- Whether a driver has the invariant does not depend on the handle. -/
def OffDevice (I : Driver → Prop) : Prop := ∀ d device, I d → I { d with device := device }

/-- What happens on the handle alone is in the relation. -/
def OnDevice (P : Turn → Prop) (R : Driver → List Turn → Driver → Prop) : Prop :=
  ∀ d turns device, (∀ turn ∈ turns, P turn) → R d turns { d with device := device }

theorem onDevice_each : OnDevice P (Each P) := fun _ _ _ h => h

variable {R : Driver → List Turn → Driver → Prop}

theorem leads_liftTask {task : Task α} (h : ∀ {d turns v}, Course task turns v → R d turns d) :
    Leads I R (liftM task : DriverM α) := by
  intro d turns v d' hd hrun
  obtain ⟨hcourse, rfl⟩ := runs_liftTask.1 hrun
  exact ⟨hd, h hcourse⟩

theorem leads_onDevice {operation : DeviceM α} (hI : OffDevice I) (hR : OnDevice P R)
    (h : Keeps (fun _ => True) P operation) : Leads I R (onDevice operation) := by
  intro d turns v d' hd hrun
  obtain ⟨device, hoperation, rfl⟩ := runs_onDevice.1 hrun
  exact ⟨hI d device hd, hR d turns device (h trivial hoperation).2⟩

theorem leads_communicate {op : Operation} {transactions : DeviceM.Try α} (hI : OffDevice I)
    (hR : OnDevice P R) (h : Keeps (fun _ => True) P transactions.run) :
    Leads I R (communicate op transactions).run := by
  intro d turns r d' hd hrun
  obtain ⟨result, device, htransactions, rfl, -⟩ := runs_communicate hrun
  exact ⟨hI d device hd, hR d turns device (h trivial htransactions).2⟩

theorem keeps_confirmed [BEq α] {what : String} {read : DeviceM.Try α}
    (h : Keeps (fun _ => True) P read.run) : Keeps (fun _ => True) P (confirmed what read).run := by
  intro d turns r d' _ hrun
  obtain ⟨results, hrepeats, -⟩ := runs_confirmed hrun
  exact hrepeats.all (I := fun _ => True) (fun hs hread => h hs hread) trivial

theorem leads_byProtocol {v0 v1 : DriverM α} (h0 : ∀ d, I d → d.protocol = .v0 → Leads I R v0)
    (h1 : ∀ d, I d → d.protocol = .v1 → Leads I R v1) : Leads I R (byProtocol v0 v1) := by
  refine leads_get_bind fun d hd => ?_
  cases hp : d.protocol with
  | v0 => exact h0 d hd hp
  | v1 => exact h1 d hd hp

variable {index : Nat} [Composes R]

theorem leads_onCache_bind {β : Type} {cache : ChangeCache} {x : DriverM.Try β}
    {steps : β → DriverM.Caching α} (hx : Leads I R x.run)
    (hsteps : ∀ v, Leads I R (onCache cache (steps v))) :
    Leads I R (onCache cache (liftM x >>= steps)) := by
  intro d turns p d' hd h
  obtain ⟨e, hfail, -⟩ | ⟨first, v, mid, rest, rfl, hfirst, hrest⟩ := runs_onCache_bind.1 h
  · exact hx hd hfail
  · obtain ⟨hmid, hbefore⟩ := hx hd hfirst
    obtain ⟨hend, hafter⟩ := hsteps v hmid hrest
    exact ⟨hend, Composes.append hbefore hafter⟩

theorem leads_log {level : Level} {text : String} : Leads I R (liftM (Task.log level text) : DriverM Unit) :=
  leads_liftTask fun h => course_log.1 h ▸ Composes.nil _

theorem leadsTry_log {level : Level} {text : String} :
    Leads I R (liftM (Task.log level text) : DriverM.Try Unit).run :=
  leadsTry_lift leads_log

theorem leads_communicationFailure {op : Operation} {source : BusError} :
    Leads I R (communicationFailure op source) := by
  intro d turns e d' hd h
  obtain ⟨rfl, -, rfl⟩ := runs_communicationFailure.1 h
  exact ⟨hd, Composes.nil d⟩

theorem leads_checkChannel : Leads I R (checkChannel index).run := by
  rw [checkChannel]
  split
  · exact leadsTry_pure _
  · exact leadsTry_throw _

theorem leads_warning {level : Level} (text : Driver → String) (v : α) :
    Leads I R (do
      let d ← get
      Task.log level (text d)
      pure v : DriverM α) :=
  leads_get_bind fun _ _ => leads_bind leads_log fun _ => leads_pure _

theorem leads_driveTypeOf {value : UInt8} : Leads I R (driveTypeOf index value) := by
  rw [driveTypeOf]
  cases DriveType.ofWire? value with
  | some t => exact leads_pure _
  | none => exact leads_warning _ _

theorem leads_reconcile {present : Bool} {reported : DriveType} :
    Leads I R (reconcile index present reported) := by
  rw [reconcile.eq_def]
  split
  · exact leads_warning _ _
  · exact leads_pure _
  · exact leads_pure _
  · exact leads_warning _ _

theorem leads_ifSupported {read : DriverM.Try α} (h : Leads I R read.run) :
    Leads I R (ifSupported read).run := by
  refine leads_bind h ?_
  rintro (e | value)
  · cases e <;> exact leads_pure _
  · exact leads_pure _

end Driver
end Backplane
