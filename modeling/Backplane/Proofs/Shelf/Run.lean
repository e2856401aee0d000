import Backplane.Proofs.Shelf.Operations

/-!
# Drivers refine the shelf

A driver of either generation on the bus of a simulated controller without faults, over any run of
commands and changes: what is answered, and the shelf that driver and controller make up in the end, are
those of the shelf itself. So a host can not tell the generations apart.

* `refines_ask`: one command.
* `Link.step_refines`: one step, a command or a change.
* `Link.run_refines`: every run.
-/
namespace Backplane.Shelf

variable {d d' : Driver} {s s' : Simulator} {p : Protocol} {name : String} {α : Type}

/-! ## Commands -/

/-- An operation, and what is made of its value. -/
def responding (f : α → Response) (x : DriverM.Try α) : DriverM (Except Error Response) := do
  let r ← x.run
  pure (r.map f)

/-- What a driver does about a command. -/
def Command.ask : Command → DriverM (Except Error Response)
  | .channelPresent index => responding .flag (Driver.channelPresent index)
  | .channelFailed index => responding .flag (Driver.channelFailed index)
  | .channelDriveType index => responding .drive (Driver.channelDriveType index)
  | .setLocate index on => responding (fun _ => .done) (Driver.setLocate index on)
  | .resetLocate => responding (fun _ => .done) Driver.resetLocate
  | .setHostPower on => responding (fun _ => .done) (Driver.setHostPower on)
  | .eraseFlash => responding (fun _ => .done) Driver.eraseFlash
  | .writeChunk bytes => responding (fun _ => .done) (Driver.writeChunk bytes)
  | .reboot => responding (fun _ => .done) Driver.reboot
  | .ping => do
    let answered ← Driver.ping
    pure (.ok (.flag answered))
  | .refresh => do
    Driver.refresh
    pure (.ok .done)

theorem Refines.responding {x : DriverM.Try α} {spec : String → Shelf → Except Error α × Shelf}
    (f : α → Response) (h : Refines name p x.run spec) :
    Refines name p (responding f x) fun label s => ((spec label s).1.map f, (spec label s).2) := by
  intro d s turns r d' s' hp hc hrun hfollows
  obtain ⟨result, hx, rfl⟩ := runs_bind_pure.1 hrun
  exact (h hp hc hx hfollows).map f

theorem map_inChannel {β : Type} {index : Nat} (f : α → β) (say : Fin channelCount → α) :
    (inChannel index say).map f = inChannel index fun channel => f (say channel) := by
  unfold inChannel
  split <;> rfl

/-- A command to a channel. -/
theorem Refines.responding_channel {x : DriverM.Try α} {index : Nat} {say : Shelf → Fin channelCount → α}
    {next : Shelf → Shelf} (f : α → Response)
    (h : Refines name p x.run fun _ s => (inChannel index (say s), next s)) :
    Refines name p (Shelf.responding f x) fun _ s =>
      (inChannel index fun channel => f (say s channel), next s) := by
  have hmapped := h.responding f
  simp only [map_inChannel] at hmapped
  exact hmapped

/-- A look at what may have changed. -/
theorem conforms_look {turns : List Turn} {r : Except Error Response} (h : Ready d s)
    (hrun : Runs Command.refresh.ask d turns r d') (hfollows : (Simulator.bus name).Follows s turns s') :
    Conforms d (.ok .done, view d s) r d' s' := by
  obtain ⟨_, hrefresh, rfl⟩ := runs_bind_pure.1 hrun
  exact (conforms_refresh h hrefresh hfollows).map fun _ => Response.done

/-- A command is answered what the shelf answers. -/
theorem refines_ask (c : Command) : Refines name p c.ask fun label s => s.perform label c := by
  cases c with
  | channelPresent index => exact (refines_answer .presence).responding_channel .flag
  | channelFailed index => exact (refines_answer .failures).responding_channel .flag
  | channelDriveType index => exact refines_channelDriveType.responding_channel .drive
  | setLocate index on => exact refines_setLocate.responding_channel fun _ => .done
  | resetLocate => exact refines_resetLocate.responding fun _ => .done
  | setHostPower on => exact refines_setHostPower.responding fun _ => .done
  | eraseFlash => exact refines_eraseFlash.responding fun _ => .done
  | writeChunk bytes => exact refines_writeChunk.responding fun _ => .done
  | reboot => exact refines_reboot.responding fun _ => .done
  | ping =>
    intro d s turns r d' s' hp hc hrun hfollows
    obtain ⟨answered, hping, rfl⟩ := runs_bind_pure.1 hrun
    exact (conforms_ping hc hping hfollows).map Response.flag
  | refresh => exact fun d s turns r d' s' _ hc hrun hfollows => conforms_look hc.toReady hrun hfollows

/-! ## Changes -/

/-- The controller behind a change. -/
def Change.happen (s : Simulator) : Change → Simulator
  | .plugged channel value => s.hotPlug channel (value.map fun raw => .ofNat raw)
  | .failed mask => { s with config.failures := mask }

theorem get_set (types : Vector UInt8 channelCount) (channel other : Fin channelCount) (raw : UInt8) :
    (types.set channel raw channel.isLt).get other = if other = channel then raw else types.get other := by
  change (types.set channel raw channel.isLt)[other.val] = if other = channel then raw else types[other.val]
  rw [Vector.getElem_set]
  simp only [Fin.ext_iff, eq_comm]

theorem ready_happen (h : Ready d s) (c : Change) : Ready d (c.happen s) := by
  cases c with
  | failed mask => exact ⟨h.operational, h.running, h.faults, h.types⟩
  | plugged channel value =>
    have hset : ∀ raw : UInt8, raw < 4 → ∀ other, (s.config.driveTypes.set channel raw).get other < 4 := by
      intro raw hraw other
      rw [get_set]
      split
      · exact hraw
      · exact h.types other
    cases value with
    | none => exact ⟨h.operational, h.running, h.faults, hset 0 (by decide)⟩
    | some raw =>
      have hraw : ∀ raw : Fin 4, UInt8.ofNat raw < 4 := by decide
      exact ⟨h.operational, h.running, h.faults, hset _ (hraw raw)⟩

theorem hasChannel_seated (mask : UInt8) (channel other : Fin channelCount) :
    hasChannel (mask ||| channelBit channel) other =
      if other = channel then true else hasChannel mask other := by
  rw [hasChannel_or_channelBit mask channel.isLt other.isLt]
  by_cases h : other = channel
  · simp [h]
  · simp [h, Fin.val_ne_of_ne (Ne.symm h)]

theorem hasChannel_emptied (mask : UInt8) (channel other : Fin channelCount) :
    hasChannel (mask &&& ~~~channelBit channel) other =
      if other = channel then false else hasChannel mask other := by
  rw [hasChannel_and_not_channelBit mask channel.isLt other.isLt]
  by_cases h : other = channel
  · simp [h]
  · simp [h, Fin.val_ne_of_ne (Ne.symm h)]

theorem ofNat_toNat_ofNat : ∀ raw : Fin 4, Fin.ofNat 4 (UInt8.ofNat raw).toNat = raw := by
  decide

/-- The types that are seen behind a change of one of them. -/
theorem types_set (types : Vector UInt8 channelCount) (channel : Fin channelCount) (raw : Fin 4) :
    (fun other => Fin.ofNat 4 ((types.set channel (.ofNat raw) channel.isLt).get other).toNat) =
      fun other => if other = channel then raw else Fin.ofNat 4 (types.get other).toNat := by
  funext other
  rw [get_set]
  split
  · exact ofNat_toNat_ofNat raw
  · rfl

/-- The shelf shows what happens to the controller. -/
theorem view_happen (d : Driver) (s : Simulator) (c : Change) : view d (c.happen s) = (view d s).apply c := by
  cases c with
  | failed mask => rfl
  | plugged channel value =>
    cases value with
    | none =>
      exact Shelf.ext (funext (hasChannel_emptied _ channel)) rfl (types_set _ channel 0) rfl rfl rfl rfl
    | some raw =>
      exact Shelf.ext (funext (hasChannel_seated _ channel)) rfl (types_set _ channel raw) rfl rfl rfl rfl

/-! ## Runs -/

/-- Takes steps one after the other, and keeps what each comes to. -/
def runEach {σ ι ρ : Type} (step : σ → ι → ρ × σ) : σ → List ι → List ρ × σ
  | s, [] => ([], s)
  | s, i :: rest => ((step s i).1 :: (runEach step (step s i).2 rest).1, (runEach step (step s i).2 rest).2)

/-- A driver and the bench it works at. -/
structure Link where
  driver : Driver
  bench : Bench Simulator

namespace Link

/-- The shelf that they make up. -/
def shelf (l : Link) : Shelf := view l.driver l.bench.state

/-- Has the driver do what a command asks for. -/
def ask (name : String) (l : Link) (c : Command) : Except Error Response × Link :=
  match (Simulator.bus name).site.run (c.ask.run l.driver) l.bench with
  | ((r, driver), bench) => (r, ⟨driver, bench⟩)

/-- One step. A change is followed by a command to look again. -/
def step (name : String) (l : Link) : Step → Except Error Response × Link
  | .command c => l.ask name c
  | .change c => ask name { l with bench.state := c.happen l.bench.state } .refresh

/-- The driver speaks with a running controller without faults, and keeps what that would answer. -/
def Coherent (l : Link) : Prop := Shelf.Coherent l.driver l.bench.state

variable {l : Link}

/-- One step is answered what the shelf answers. -/
theorem step_refines (name : String) (h : l.Coherent) (i : Step) :
    Conforms l.driver (l.shelf.step l.driver.label i) (l.step name i).1 (l.step name i).2.driver
      (l.step name i).2.bench.state := by
  cases i with
  | command c =>
    have hruns := (Simulator.bus name).site.course_moves (c.ask.run l.driver) l.bench
    have hfollows := Bus.follows_moves (Simulator.bus name) (c.ask.run l.driver) l.bench
    exact refines_ask c rfl h hruns hfollows
  | change c =>
    let changed : Bench Simulator := { l.bench with state := c.happen l.bench.state }
    have hruns := (Simulator.bus name).site.course_moves (Command.refresh.ask.run l.driver) changed
    have hfollows := Bus.follows_moves (Simulator.bus name) (Command.refresh.ask.run l.driver) changed
    have hconforms := conforms_look (ready_happen h.toReady c) hruns hfollows
    rw [view_happen] at hconforms
    exact hconforms

/-- Every run of commands and changes: what is answered is what the shelf answers, in the end driver and
controller make up the shelf that it has become, and the driver keeps what the controller would answer. -/
theorem run_refines (name : String) (l : Link) (steps : List Step) (h : l.Coherent) :
    (runEach (step name) l steps).1 = (runEach (Shelf.step l.driver.label) l.shelf steps).1 ∧
      (runEach (step name) l steps).2.shelf = (runEach (Shelf.step l.driver.label) l.shelf steps).2 ∧
      (runEach (step name) l steps).2.Coherent := by
  induction steps generalizing l with
  | nil => exact ⟨rfl, rfl, h⟩
  | cons i rest ih =>
    have hstep := step_refines name h i
    obtain ⟨hanswers, hshelf, hcoherent⟩ := ih (l.step name i).2 hstep.coherent
    have hnext : (l.step name i).2.shelf = (l.shelf.step l.driver.label i).2 := hstep.shelf
    have hlabel : (l.step name i).2.driver.label = l.driver.label := hstep.label
    rw [hlabel, hnext] at hanswers hshelf
    refine ⟨?_, hshelf, hcoherent⟩
    rw [runEach, runEach, hanswers, hstep.result]

/-- A driver that was just made keeps nothing yet. -/
theorem coherent_fresh {device : Device} {s : Simulator} {events : Array Event}
    (hdevice : device.operational = true) (hbooting : s.booting = none) (hfaults : s.faults = {})
    (htypes : ∀ channel, s.config.driveTypes.get channel < 4) :
    Coherent ⟨.ofDevice device s.config.protocol, ⟨s, events⟩⟩ where
  toReady := ⟨hdevice, ⟨hbooting, rfl⟩, hfaults, htypes⟩
  presence := by simp [Driver.ofDevice]
  failures := by simp [Driver.ofDevice]
  word := by simp [Driver.ofDevice]

/-- A new driver for an equipped controller. -/
def fitted (p : Protocol) : Link :=
  ⟨.ofDevice ⟨"bp", true, .none⟩ p, ⟨.start (.equipped p) {}, #[]⟩⟩

theorem coherent_fitted (p : Protocol) : (fitted p).Coherent := by
  have hprotocol : (Simulator.start (.equipped p) {}).config.protocol = p := by cases p <;> rfl
  have htypes : ∀ channel, (Simulator.start (.equipped p) {}).config.driveTypes.get channel < 4 := by
    cases p <;> decide
  have hcoherent : Coherent ⟨.ofDevice ⟨"bp", true, .none⟩ (Simulator.start (.equipped p) {}).config.protocol,
      ⟨.start (.equipped p) {}, #[]⟩⟩ :=
    coherent_fresh rfl (by cases p <;> rfl) (by cases p <;> rfl) htypes
  rwa [hprotocol] at hcoherent

/-- A visit that both generations answer alike: a drive is seated, another one is seen to fail, LEDs are
set, and of three chunks the last one starts where none may start. -/
def visit : List Step :=
  [.change (.plugged ⟨5, by decide⟩ (some ⟨3, by decide⟩)), .command (.channelDriveType 5),
    .command (.channelDriveType 0), .change (.failed 8), .command (.channelFailed 3),
    .command (.channelPresent 8), .command (.setLocate 9 true), .command .eraseFlash,
    .command (.writeChunk [1, 2, 3, 4]), .command (.writeChunk [5]), .command (.writeChunk [6])]

/-- What is answered in the visit. -/
def answers : List (Except Error Response) :=
  [.ok .done, .ok (.drive .unknown), .ok (.drive .nvme), .ok .done, .ok (.flag true),
    .error (.invalidChannel 8), .error (.invalidChannel 9), .ok .done, .ok .done, .ok .done,
    .error (.invalidChunk 1)]

theorem run_refines_fitted :
    (runEach (step "bp") (fitted .v0) visit).1 = answers ∧
      (runEach (step "bp") (fitted .v1) visit).1 = answers :=
  ⟨(run_refines "bp" (fitted .v0) visit (coherent_fitted .v0)).1.trans (by decide +kernel),
    (run_refines "bp" (fitted .v1) visit (coherent_fitted .v1)).1.trans (by decide +kernel)⟩

end Link
end Backplane.Shelf
