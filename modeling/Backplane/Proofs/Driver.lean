import Backplane.Driver.Operations
import Backplane.Proofs.Device

/-!
# Operations of a driver, on any bus

What the operations of a driver put on the bus and what they leave of the driver, whatever the bus
answers. A transaction leaves the driver as it was, but for the error streak of its handle
(`Driver.Like`); in particular the generation, the label and the flash offset stay.

* `runs_communicate`: transactions that make up an operation.
* `runs_onCache_bind`: steps that may write to a cache, and fail.
* `runs_ping`, `runs_reboot`, `runs_eraseFlash`: operations that are one request.
-/
namespace Backplane

variable {turns : List Turn} {α : Type}

/-- The byte that reboots a controller of the generation. -/
def Protocol.rebootCommand : Protocol → UInt8
  | .v0 => V0.rebootCommand
  | .v1 => V1.rebootCommand

/-- The byte that erases the update area of a controller of the generation. -/
def Protocol.eraseCommand : Protocol → UInt8
  | .v0 => V0.eraseCommand
  | .v1 => V1.eraseCommand

/-- The read that identifies a controller. -/
abbrev identRequest : Request := .readByteData Protocol.identRegister

namespace Driver

variable {d d' : Driver}

/-- Both drivers are the same, but for the error streak of the handle. -/
def Like (d d' : Driver) : Prop :=
  ∃ streak, d' = { d with device := { d.device with streak := streak } }

namespace Like

theorem refl (d : Driver) : d.Like d := ⟨d.device.streak, rfl⟩

theorem trans {d'' : Driver} (h : d.Like d') (h' : d'.Like d'') : d.Like d'' := by
  obtain ⟨_, rfl⟩ := h
  obtain ⟨streak, rfl⟩ := h'
  exact ⟨streak, rfl⟩

theorem noting (failed : Bool) : d.Like { d with device := d.device.noting failed } := ⟨_, rfl⟩

theorem at_offset (h : d.Like d') (offset : UInt32) :
    Like { d with flashOffset := offset } { d' with flashOffset := offset } := by
  obtain ⟨streak, rfl⟩ := h
  exact ⟨streak, rfl⟩

theorem label_eq (h : d.Like d') : d'.label = d.label := by
  obtain ⟨_, rfl⟩ := h
  rfl

theorem protocol_eq (h : d.Like d') : d'.protocol = d.protocol := by
  obtain ⟨_, rfl⟩ := h
  rfl

theorem operational_eq (h : d.Like d') : d'.device.operational = d.device.operational := by
  obtain ⟨_, rfl⟩ := h
  rfl

theorem flashOffset_eq (h : d.Like d') : d'.flashOffset = d.flashOffset := by
  obtain ⟨_, rfl⟩ := h
  rfl

end Like

/-! ## Transactions -/

theorem runs_onDevice {operation : DeviceM α} {v : α} :
    Runs (onDevice operation) d turns v d' ↔
      ∃ device, Runs operation d.device turns v device ∧ d' = { d with device := device } := by
  have hrun : (onDevice operation).run d =
      (operation.run d.device >>= fun p => pure (p.1, { d with device := p.2 })) := rfl
  simp only [Runs, hrun, course_bind, course_pure, Prod.mk.injEq]
  constructor
  · intro h
    obtain ⟨first, ⟨w, device⟩, _, rfl, h, rfl, rfl, rfl⟩ := h
    exact ⟨device, by simpa using h, rfl⟩
  · intro h
    obtain ⟨device, h, rfl⟩ := h
    exact ⟨turns, (v, device), [], by simp, h, rfl, rfl, rfl⟩

/-- What a driver asks for beside its bus leaves the driver alone. -/
theorem runs_liftTask {task : Task α} {v : α} :
    Runs (liftM task : DriverM α) d turns v d' ↔ Course task turns v ∧ d = d' := by
  change Runs (onDevice (liftM task : DeviceM α)) d turns v d' ↔ _
  rw [runs_onDevice]
  constructor
  · intro h
    obtain ⟨_, hlift, rfl⟩ := h
    obtain ⟨h, rfl⟩ := runs_lift.1 hlift
    exact ⟨h, rfl⟩
  · intro h
    obtain ⟨h, rfl⟩ := h
    exact ⟨d.device, runs_lift.2 ⟨h, rfl⟩, rfl⟩

theorem runs_log_bind {level : Level} {text : String} {f : Unit → DriverM α} {v : α} :
    Runs (liftM (Task.log level text) >>= f) d turns v d' ↔ Runs (f ()) d turns v d' :=
  runs_logging_bind runs_liftTask

theorem tries_liftTask_bind {β : Type} {task : Task β} {f : β → DriverM.Try α}
    {r : Except Error α} :
    Runs (liftM task >>= f).run d turns r d' ↔
      ∃ first v rest, turns = first ++ rest ∧ Course task first v ∧ Runs (f v).run d rest r d' := by
  change Runs ((liftM (liftM task : DriverM β) : DriverM.Try β) >>= f).run d turns r d' ↔ _
  rw [tries_lift_bind, ← runs_bind, runs_task_bind runs_liftTask]

theorem tries_log_bind {level : Level} {text : String} {f : Unit → DriverM.Try α}
    {r : Except Error α} :
    Runs (liftM (Task.log level text) >>= f).run d turns r d' ↔ Runs (f ()).run d turns r d' := by
  change Runs ((liftM (liftM (Task.log level text) : DriverM Unit) : DriverM.Try Unit) >>= f).run
    d turns r d' ↔ _
  rw [tries_lift_bind, ← runs_bind, runs_log_bind]

theorem runs_communicationFailure {op : Operation} {source : BusError} {e : Error} :
    Runs (communicationFailure op source) d turns e d' ↔
      turns = [] ∧ .communication d.label op source = e ∧ d = d' := by
  simp only [communicationFailure, runs_get_bind, runs_log_bind, runs_pure]

/-- Transactions that make up an operation: their failure is one of the operation. -/
theorem runs_communicate {op : Operation} {transactions : DeviceM.Try α} {r : Except Error α}
    (h : Runs (communicate op transactions).run d turns r d') :
    ∃ result device, Runs transactions.run d.device turns result device ∧
      d' = { d with device := device } ∧
      r = result.mapError (.communication device.label op) := by
  simp only [communicate, tries_lift_bind, runs_onDevice] at h
  obtain ⟨_, result, _, _, rfl, ⟨device, hrun, rfl⟩, hend⟩ := h
  refine ⟨result, device, ?_⟩
  cases result with
  | ok value =>
    obtain ⟨rfl, rfl, rfl⟩ := tries_pure.1 hend
    exact ⟨by simpa using hrun, rfl, rfl⟩
  | error e =>
    simp only [tries_lift_bind, runs_communicationFailure, tries_throw] at hend
    obtain ⟨_, _, _, _, rfl, ⟨rfl, rfl, rfl⟩, rfl, rfl, rfl⟩ := hend
    exact ⟨by simpa using hrun, rfl, rfl⟩

/-- An operation that is one request. -/
theorem runs_communicate_exchange {op : Operation} {r : Request} {command : Option UInt8}
    {sent : Option (List UInt8)} {received : r.Value → Option (List UInt8)}
    {outcome : Except Error r.Value} (hd : d.device.operational = true)
    (h : Runs (communicate op (Device.exchange r command sent received)).run d turns outcome d') :
    ∃ replies result, turns = tries r replies ∧ Settles Device.attemptsMax replies result ∧
      outcome = result.mapError (.communication d.label op) ∧ d.Like d' := by
  obtain ⟨result, device, hrun, rfl, rfl⟩ := runs_communicate h
  obtain ⟨replies, rfl, hsettles, rfl⟩ := Device.runs_exchange hd hrun
  exact ⟨replies, result, rfl, hsettles, rfl, .noting _⟩

/-- An operation that is one request, on any handle. -/
theorem puts_communicate {op : Operation} {r : Request} {command : Option UInt8} {sent : Option (List UInt8)}
    {received : r.Value → Option (List UInt8)} {outcome : Except Error r.Value}
    (h : Runs (communicate op (Device.exchange r command sent received)).run d turns outcome d') :
    ∃ result, d.device.Puts r turns result ∧ outcome = result.mapError (.communication d.label op) ∧
      d.Like d' := by
  obtain ⟨result, device, hrun, rfl, rfl⟩ := runs_communicate h
  obtain ⟨hputs, rfl⟩ := Device.puts_exchange hrun
  exact ⟨result, hputs, rfl, .noting _⟩

/-! ## Steps on a cache -/

section Cache
variable {β : Type} {cache : ChangeCache} {p : ChangeCache × Except Error α}

/-- A step that does not reach the cache: where it fails the cache is left as it is. -/
theorem runs_onCache_bind {x : DriverM.Try β} {steps : β → DriverM.Caching α} :
    Runs (onCache cache (liftM x >>= steps)) d turns p d' ↔
      (∃ e, Runs x.run d turns (.error e) d' ∧ p = (cache, .error e)) ∨
      ∃ first v mid rest, turns = first ++ rest ∧ Runs x.run d first (.ok v) mid ∧
        Runs (onCache cache (steps v)) mid rest p d' := by
  have hrun : onCache cache (liftM x >>= steps) =
      x.run >>= fun r => onCache cache (ExceptT.mk (pure r) >>= steps) := by
    simp only [onCache, ExceptT.run_bind, StateT.run_bind, liftM, monadLift, MonadLift.monadLift,
      ExceptT.run_mk, StateT.run_lift, bind_assoc, pure_bind]
  rw [hrun, runs_bind]
  constructor
  · intro h
    obtain ⟨first, e | v, mid, rest, rfl, hx, hrest⟩ := h
    · obtain ⟨rfl, rfl, rfl⟩ := runs_pure.1 hrest
      exact .inl ⟨e, by simpa using hx, rfl⟩
    · exact .inr ⟨first, v, mid, rest, rfl, hx, hrest⟩
  · intro h
    obtain ⟨e, hx, rfl⟩ | ⟨first, v, mid, rest, rfl, hx, hrest⟩ := h
    · exact ⟨turns, .error e, d', [], by simp, hx, runs_pure.2 ⟨rfl, rfl, rfl⟩⟩
    · exact ⟨first, .ok v, mid, rest, rfl, hx, hrest⟩

theorem runs_onCache_lift_bind {x : DriverM β} {steps : β → DriverM.Caching α} :
    Runs (onCache cache (liftM x >>= steps)) d turns p d' ↔
      ∃ first v mid rest, turns = first ++ rest ∧ Runs x d first v mid ∧
        Runs (onCache cache (steps v)) mid rest p d' := by
  change Runs (onCache cache (liftM (liftM x : DriverM.Try β) >>= steps)) d turns p d' ↔ _
  simp only [runs_onCache_bind, tries_lift]
  simp

theorem runs_onCache_pure {v : α} :
    Runs (onCache cache (pure v)) d turns p d' ↔ turns = [] ∧ (cache, .ok v) = p ∧ d = d' :=
  runs_pure

/-- What was put into the cache is there for the steps behind it. -/
theorem runs_onCache_update_bind {f : UInt32} {steps : Bool → DriverM.Caching α} :
    Runs (onCache cache (updateCache f >>= steps)) d turns p d' ↔
      Runs (onCache (.note f) (steps (cache.differs f))) d turns p d' := Iff.rfl

/-- Where a step failed, what the cache is left as is not told. -/
theorem runs_cached_error {operation : DriverM.Cached α} {e : Error} :
    Runs operation.run d turns (.error e) d' ↔ ∃ after, Runs operation d turns (after, .error e) d' := by
  constructor
  · intro h
    obtain ⟨⟨after, e | v⟩, hrun, ⟨⟩⟩ := runs_bind_pure.1 h
    exact ⟨after, hrun⟩
  · intro h
    obtain ⟨after, hrun⟩ := h
    exact runs_bind_pure.2 ⟨_, hrun, rfl⟩

end Cache

/-! ## Operations that are one request -/

/-- What an operation does is what the generation of the driver does. -/
theorem runs_byProtocol {v0 v1 : DriverM α} {v : α} :
    Runs (byProtocol v0 v1) d turns v d' ↔
      match d.protocol with
      | .v0 => Runs v0 d turns v d'
      | .v1 => Runs v1 d turns v d' := by
  simp only [byProtocol, runs_bind, runs_get]
  constructor
  · intro h
    obtain ⟨_, _, _, _, rfl, ⟨rfl, rfl, rfl⟩, h⟩ := h
    cases hp : d.protocol <;> simpa [hp] using h
  · intro h
    refine ⟨[], d, d, turns, rfl, ⟨rfl, rfl, rfl⟩, ?_⟩
    cases hp : d.protocol <;> simpa [hp] using h

/-- What an operation that can fail does is what the generation of the driver does. -/
theorem tries_byProtocol {v0 v1 : DriverM.Try α} {r : Except Error α} :
    Runs (tryByProtocol v0 v1).run d turns r d' ↔
      match d.protocol with
      | .v0 => Runs v0.run d turns r d'
      | .v1 => Runs v1.run d turns r d' :=
  runs_byProtocol

theorem tries_checkChannel_bind {index : Nat} {f : Unit → DriverM.Try α} {r : Except Error α} :
    Runs (checkChannel index >>= f).run d turns r d' ↔
      if index < channelCount then Runs (f ()).run d turns r d'
      else turns = [] ∧ r = .error (.invalidChannel index) ∧ d = d' :=
  tries_guard_bind

theorem runs_ping {answered : Bool} (hd : d.device.operational = true)
    (h : Runs ping d turns answered d') :
    ∃ replies result, turns = tries identRequest replies ∧
      Settles Device.attemptsMax replies result ∧ answered = result.isOk ∧ d.Like d' := by
  simp only [ping, runs_bind, runs_onDevice] at h
  obtain ⟨_, result, _, _, rfl, ⟨device, hread, rfl⟩, hend⟩ := h
  obtain ⟨replies, rfl, hsettles, rfl⟩ := Device.runs_exchange hd hread
  refine ⟨replies, result, ?_⟩
  cases result <;> obtain ⟨rfl, rfl, rfl⟩ := runs_pure.1 hend <;>
    exact ⟨by simp [identRequest], hsettles, rfl, .noting _⟩

/-- A logged operation that is one byte sent. -/
theorem runs_command (text : String → String) {op : Operation} {command : UInt8}
    {r : Except Error Unit} (hd : d.device.operational = true)
    (h : Runs (do
      let label := (← get).label
      Task.log .info (text label)
      communicate op (Device.writeByte command) : DriverM.Try Unit).run d turns r d') :
    ∃ replies result, turns = tries (.writeByte command) replies ∧
      Settles Device.attemptsMax replies result ∧
      r = result.mapError (.communication d.label op) ∧ d.Like d' := by
  rw [tries_get_bind, tries_log_bind] at h
  exact runs_communicate_exchange hd h

theorem runs_reboot {r : Except Error Unit} (hd : d.device.operational = true)
    (h : Runs reboot.run d turns r d') :
    ∃ replies result, turns = tries (.writeByte d.protocol.rebootCommand) replies ∧
      Settles Device.attemptsMax replies result ∧
      r = result.mapError (.communication d.label .reboot) ∧ d.Like d' := by
  rw [reboot, tryByProtocol, ExceptT.run_mk, runs_byProtocol] at h
  apply runs_command (fun label => s!"{label}: rebooting MCU") hd
  cases hp : d.protocol <;> rw [hp] at h <;> exact h

/-- Erasing is one request, and writing starts over where it succeeded. -/
theorem runs_eraseFlash {r : Except Error Unit} (hd : d.device.operational = true)
    (h : Runs eraseFlash.run d turns r d') :
    ∃ replies result, turns = tries (.writeByte d.protocol.eraseCommand) replies ∧
      Settles Device.attemptsMax replies result ∧
      r = result.mapError (.communication d.label .eraseFlash) ∧
      Like { d with flashOffset := if r.isOk then 0 else d.flashOffset } d' := by
  have hcommand : Runs (do
      let label := (← get).label
      Task.log .info s!"{label}: erasing MCU flash"
      communicate .eraseFlash (Device.writeByte d.protocol.eraseCommand)
      modify fun d => { d with flashOffset := 0 } : DriverM.Try Unit).run d turns r d' := by
    rw [eraseFlash, tryByProtocol, ExceptT.run_mk, runs_byProtocol] at h
    cases hp : d.protocol <;> rw [hp] at h <;> exact h
  rw [tries_get_bind, tries_log_bind, tries_bind] at hcommand
  obtain ⟨e, herase, rfl⟩ | ⟨first, _, mid, rest, rfl, herase, hrewind⟩ := hcommand
  · obtain ⟨replies, result, rfl, hsettles, hr, streak, rfl⟩ := runs_communicate_exchange hd herase
    exact ⟨replies, result, rfl, hsettles, hr, streak, rfl⟩
  · obtain ⟨replies, result, rfl, hsettles, hr, streak, rfl⟩ := runs_communicate_exchange hd herase
    obtain ⟨rfl, rfl, rfl⟩ := tries_modify.1 hrewind
    exact ⟨replies, result, by simp, hsettles, hr, streak, rfl⟩

end Driver
end Backplane
