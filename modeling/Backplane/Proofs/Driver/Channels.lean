import Backplane.Proofs.Driver.Masks
import Backplane.Proofs.Keeps

/-!
# Channels of a driver, on any bus

What a driver says of single channels once it has read both masks, and what its search for changes
leaves: the masks it has read, and a cache that holds their fingerprint.

* `carries_collectStates`: the state of every channel carries those masks.
* `V0.Searches`, `V1.Searches`: the reads of a search, one behind the other, and how each leaves the cache.
* `searched_hasStateChanged`: a search of either generation.
* `Polls`, `polls_poll`: a poll is such a search, and the read of every state where one is due.
-/
namespace Backplane

variable {turns : List Turn}

/-- The presence and the failures of every channel are those of the masks. -/
def Carries (presence failures : UInt8) (states : List ChannelState) : Prop :=
  states.map (fun st => (st.index, st.present, st.failed)) =
    (List.range channelCount).map fun i => (i, hasChannel presence i, hasChannel failures i)

/-- Only the fingerprint that a cache holds is no change. -/
theorem ChangeCache.differs_eq_false {cache : ChangeCache} {f : UInt32} :
    cache.differs f = false ↔ cache = .note f := by
  obtain ⟨seen⟩ := cache
  simp [ChangeCache.differs, ChangeCache.note]

namespace Driver

variable {d d' : Driver} {index : Nat} {mask presence failures : UInt8}

/-! ## Masks at hand -/

/-- Both masks were read in this poll cycle. -/
def Holds (presence failures : UInt8) (d : Driver) : Prop :=
  d.presence = some presence ∧ d.failures = some failures

theorem offDevice_holds : OffDevice (Holds presence failures) := fun _ _ h => h

/-! ## States from the masks at hand -/

/-- The masks at hand stay. -/
abbrev Holding (presence failures : UInt8) {α : Type} (x : DriverM α) : Prop :=
  Keeps (Holds presence failures) (fun _ => True) x

theorem keeps_any {σ α : Type} (x : StateT σ Task α) : Keeps (fun _ => True) (fun _ => True) x :=
  fun _ _ _ _ _ _ => ⟨trivial, fun _ _ => trivial⟩

theorem holding_communicate {α : Type} {op : Operation} {transactions : DeviceM.Try α} :
    Holding presence failures (communicate op transactions).run :=
  leads_communicate offDevice_holds onDevice_each (keeps_any _)

theorem holding_types : Holding presence failures V1.types.run := by
  refine leadsTry_get_bind fun d _ => ?_
  cases d.types with
  | some word => exact leadsTry_pure _
  | none =>
    exact leadsTry_bind holding_communicate fun _ =>
      leadsTry_bind (leadsTry_modify fun _ h => ⟨h, List.forall_mem_nil _⟩) fun _ => leadsTry_pure _

theorem holding_channelDriveType : Holding presence failures (channelDriveType index).run := by
  refine leads_byProtocol (fun _ _ _ => ?_) (fun _ _ _ => ?_)
  · exact leadsTry_bind leads_checkChannel fun _ => leadsTry_bind holding_communicate fun _ =>
      leadsTry_lift leads_driveTypeOf
  · exact leadsTry_bind leads_checkChannel fun _ => leadsTry_bind holding_types fun _ =>
      leadsTry_lift leads_driveTypeOf

theorem holding_locateMask : Holding presence failures (ifSupported locateMask).run :=
  leads_ifSupported (leads_byProtocol (fun _ _ _ => leadsTry_throw _) fun _ _ _ => holding_communicate)

/-- The state of one channel from the masks at hand. -/
theorem runs_buildState {locate : Option Bool} {r : Except Error ChannelState} (hi : index < channelCount)
    (hd : d.Holds presence failures) (h : Runs (buildState index locate).run d turns r d') :
    d'.Holds presence failures ∧ ∀ st, r = .ok st →
      (st.index, st.present, st.failed) = (index, hasChannel presence index, hasChannel failures index) := by
  obtain ⟨e, he, -⟩ | ⟨_, present, _, _, -, hpresent, h⟩ := tries_bind.1 h
  · obtain ⟨-, ⟨⟩, -⟩ := (tries_answer .presence hd.1 hi).1 he
  obtain ⟨-, ⟨⟩, rfl⟩ := (tries_answer .presence hd.1 hi).1 hpresent
  obtain ⟨e, he, -⟩ | ⟨_, failed, _, _, -, hfailed, h⟩ := tries_bind.1 h
  · obtain ⟨-, ⟨⟩, -⟩ := (tries_answer .failures hd.2 hi).1 he
  obtain ⟨-, ⟨⟩, rfl⟩ := (tries_answer .failures hd.2 hi).1 hfailed
  obtain ⟨e, he, rfl⟩ | ⟨_, reported, _, _, -, hreported, h⟩ := tries_bind.1 h
  · exact ⟨(holding_channelDriveType hd he).1, by simp⟩
  have hd := (holding_channelDriveType hd hreported).1
  obtain ⟨_, t, _, _, -, hreconcile, h⟩ := tries_lift_bind.1 h
  have hholding : Holding presence failures (reconcile index (hasChannel presence index) reported) :=
    leads_reconcile
  have hd := (hholding hd hreconcile).1
  obtain ⟨-, rfl, rfl⟩ := tries_pure.1 h
  refine ⟨hd, ?_⟩
  rintro _ ⟨⟩
  rfl

/-- The state of every channel carries the masks at hand. -/
theorem carries_collectStates {r : Except Error (List ChannelState)} (hd : d.Holds presence failures)
    (h : Runs collectStates.run d turns r d') :
    d'.Holds presence failures ∧ ∀ states, r = .ok states → Carries presence failures states := by
  obtain ⟨e, he, rfl⟩ | ⟨_, mask, _, _, -, hmask, h⟩ := tries_bind.1 h
  · exact ⟨(holding_locateMask hd he).1, by simp⟩
  refine tries_mapM ?_ h (holding_locateMask hd hmask).1
  intro i hi s turns r s' hs hbuild
  exact runs_buildState (List.mem_range.1 hi) hs hbuild

/-! ## The search for changes -/

/-- A search for changes that failed leaves the cache as it was. One that came to an end has read both
masks, and the cache holds their fingerprint. -/
def Searched (cache : ChangeCache) (d' : Driver) (p : ChangeCache × Except Error Bool) : Prop :=
  (∃ e, p = (cache, .error e)) ∨ ∃ presence failures changed,
    p = (.note (fingerprint presence failures), .ok changed) ∧ d'.Holds presence failures ∧
      (changed = false → cache = .note (fingerprint presence failures))

end Driver

namespace V0
open Driver
variable {d d' : Driver} {cache : ChangeCache}

/-- The ways a search for changes ends: with one of its two reads that failed, or with both. -/
inductive Searches (cache : ChangeCache) (d : Driver) :
    List Turn → ChangeCache × Except Error Bool → Driver → Prop
  | presence {e : BusError} {turns : List Turn} {device : Device}
      (h : Runs (confirmed "presence" (Device.readByteData presenceRegister)).run
        d.device turns (.error e) device) :
      Searches cache d turns (cache, .error (.communication device.label .readPresence e))
        { d with device := device }
  | failures {e : BusError} {first second : List Turn} {mid device : Device} {p : UInt8}
      (hpresence : Runs (confirmed "presence" (Device.readByteData presenceRegister)).run
        d.device first (.ok p) mid)
      (h : Runs (confirmed "failures" (Device.readByteData failuresRegister)).run
        mid second (.error e) device) :
      Searches cache d (first ++ second) (cache, .error (.communication device.label .readFailures e))
        { d with device := device, presence := some p }
  | searched {first second : List Turn} {mid device : Device} {p f : UInt8}
      (hpresence : Runs (confirmed "presence" (Device.readByteData presenceRegister)).run
        d.device first (.ok p) mid)
      (hfailures : Runs (confirmed "failures" (Device.readByteData failuresRegister)).run
        mid second (.ok f) device) :
      Searches cache d (first ++ second) (.note (fingerprint p f), .ok (cache.differs (fingerprint p f)))
        { d with device := device, presence := some p, failures := some f }

theorem searches_hasStateChanged {p : ChangeCache × Except Error Bool}
    (h : Runs (hasStateChanged cache) d turns p d') : Searches cache d turns p d' := by
  obtain ⟨e, hread, rfl⟩ | ⟨first, presence, mid, _, rfl, hread, h⟩ := runs_onCache_bind.1 h
  · obtain ⟨result, device, hrun, hr, rfl⟩ := tries_fetch hread
    cases result <;> cases hr
    exact .presence hrun
  obtain ⟨result, device, hpresence, hr, rfl⟩ := tries_fetch hread
  cases result <;> cases hr
  obtain ⟨e, hread, rfl⟩ | ⟨second, failures, mid, _, rfl, hread, h⟩ := runs_onCache_bind.1 h
  · obtain ⟨result, device, hrun, hr, rfl⟩ := tries_fetch hread
    cases result <;> cases hr
    exact .failures hpresence hrun
  obtain ⟨result, device, hfailures, hr, rfl⟩ := tries_fetch hread
  cases result <;> cases hr
  obtain ⟨rfl, rfl, rfl⟩ := runs_pure.1 h
  rw [List.append_nil]
  exact .searched hpresence hfailures

end V0

namespace V1
open Driver
variable {d d' : Driver} {cache : ChangeCache}

/-- The driver after a new poll cycle came this far. -/
def fetched (d : Driver) (device : Device) (presence failures : Option UInt8) : Driver :=
  { d with device := device, presence := presence, failures := failures, types := none }

/-- The ways a search for changes ends: with one of its three reads that failed, or with all of them. -/
inductive Searches (cache : ChangeCache) (d : Driver) :
    List Turn → ChangeCache × Except Error Bool → Driver → Prop
  | presence {e : BusError} {turns : List Turn} {device : Device}
      (h : Runs (Device.readByteData presenceRegister).run d.device turns (.error e) device) :
      Searches cache d turns (cache, .error (.communication device.label .readPresence e))
        (fetched d device none none)
  | failures {e : BusError} {first second : List Turn} {mid device : Device} {p : UInt8}
      (hpresence : Runs (Device.readByteData presenceRegister).run d.device first (.ok p) mid)
      (h : Runs (Device.readByteData failuresRegister).run mid second (.error e) device) :
      Searches cache d (first ++ second) (cache, .error (.communication device.label .readFailures e))
        (fetched d device (some p) none)
  | latch {e : BusError} {first second third : List Turn} {mid mid' device : Device} {p f : UInt8}
      (hpresence : Runs (Device.readByteData presenceRegister).run d.device first (.ok p) mid)
      (hfailures : Runs (Device.readByteData failuresRegister).run mid second (.ok f) mid')
      (h : Runs (Device.readByteData latchRegister).run mid' third (.error e) device) :
      Searches cache d (first ++ second ++ third) (cache, .error (.communication device.label .readLatch e))
        (fetched d device (some p) (some f))
  | searched {first second third : List Turn} {mid mid' device : Device} {p f latch : UInt8}
      (hpresence : Runs (Device.readByteData presenceRegister).run d.device first (.ok p) mid)
      (hfailures : Runs (Device.readByteData failuresRegister).run mid second (.ok f) mid')
      (hlatch : Runs (Device.readByteData latchRegister).run mid' third (.ok latch) device) :
      Searches cache d (first ++ second ++ third)
        (.note (fingerprint p f), .ok (cache.differs (fingerprint p f) || latch != 0))
        (fetched d device (some p) (some f))

theorem Searches.protocol_eq {p : ChangeCache × Except Error Bool} (h : Searches cache d turns p d') :
    d'.protocol = d.protocol := by
  cases h <;> rfl

theorem searches_hasStateChanged {p : ChangeCache × Except Error Bool}
    (h : Runs (hasStateChanged cache) d turns p d') : Searches cache d turns p d' := by
  rw [hasStateChanged, runs_onCache_lift_bind] at h
  obtain ⟨_, _, _, _, rfl, hrefresh, h⟩ := h
  obtain ⟨rfl, rfl⟩ := runs_modify.1 hrefresh
  rw [List.nil_append]
  obtain ⟨e, hread, rfl⟩ | ⟨first, p, mid, _, rfl, hread, h⟩ := runs_onCache_bind.1 h
  · obtain ⟨result, device, hrun, hr, rfl⟩ := tries_heldOrRead_none .presence rfl hread
    cases result <;> cases hr
    exact .presence hrun
  obtain ⟨result, device, hpresence, hr, rfl⟩ := tries_heldOrRead_none .presence rfl hread
  cases result <;> cases hr
  obtain ⟨e, hread, rfl⟩ | ⟨second, f, mid, _, rfl, hread, h⟩ := runs_onCache_bind.1 h
  · obtain ⟨result, device, hrun, hr, rfl⟩ := tries_heldOrRead_none .failures rfl hread
    cases result <;> cases hr
    exact .failures hpresence hrun
  obtain ⟨result, device, hfailures, hr, rfl⟩ := tries_heldOrRead_none .failures rfl hread
  cases result <;> cases hr
  rw [← List.append_assoc]
  obtain ⟨e, hread, rfl⟩ | ⟨third, latch, mid, _, rfl, hread, h⟩ := runs_onCache_bind.1 h
  · obtain ⟨result, device, hrun, rfl, hr⟩ := runs_communicate hread
    cases result <;> cases hr
    exact .latch hpresence hfailures hrun
  obtain ⟨result, device, hlatch, rfl, hr⟩ := runs_communicate hread
  cases result <;> cases hr
  rw [runs_onCache_update_bind, runs_onCache_pure] at h
  obtain ⟨rfl, rfl, rfl⟩ := h
  rw [List.append_nil]
  exact .searched hpresence hfailures hlatch

end V1

namespace Driver
variable {d d' : Driver}

theorem searched_v0 {cache : ChangeCache} {p : ChangeCache × Except Error Bool}
    (h : V0.Searches cache d turns p d') : Searched cache d' p := by
  cases h with
  | searched => exact .inr ⟨_, _, _, rfl, ⟨rfl, rfl⟩, ChangeCache.differs_eq_false.1⟩
  | _ => exact .inl ⟨_, rfl⟩

theorem searched_v1 {cache : ChangeCache} {p : ChangeCache × Except Error Bool}
    (h : V1.Searches cache d turns p d') : Searched cache d' p := by
  cases h with
  | searched =>
    refine .inr ⟨_, _, _, rfl, ⟨rfl, rfl⟩, fun hunchanged => ?_⟩
    exact ChangeCache.differs_eq_false.1 (Bool.or_eq_false_iff.1 hunchanged).1
  | _ => exact .inl ⟨_, rfl⟩

theorem searched_hasStateChanged {cache : ChangeCache} {p : ChangeCache × Except Error Bool}
    (h : Runs (hasStateChanged cache) d turns p d') : Searched cache d' p := by
  rw [hasStateChanged, runs_byProtocol] at h
  cases hp : d.protocol with
  | v0 =>
    rw [hp] at h
    exact searched_v0 (V0.searches_hasStateChanged h)
  | v1 =>
    rw [hp] at h
    exact searched_v1 (V1.searches_hasStateChanged h)

/-- A search of either generation, or of the one that the driver speaks. -/
theorem searched_of_mem {cache : ChangeCache} {search : DriverM.Cached Bool}
    {p : ChangeCache × Except Error Bool}
    (hmem : search ∈ [hasStateChanged cache, V0.hasStateChanged cache, V1.hasStateChanged cache])
    (h : Runs search d turns p d') : Searched cache d' p := by
  simp only [List.mem_cons, List.not_mem_nil, or_false] at hmem
  obtain rfl | rfl | rfl := hmem
  · exact searched_hasStateChanged h
  · exact searched_v0 (V0.searches_hasStateChanged h)
  · exact searched_v1 (V1.searches_hasStateChanged h)

/-- A search that failed leaves the cache as it was. -/
theorem Searched.cache_eq {cache after : ChangeCache} {e : Error} (h : Searched cache d (after, .error e)) :
    after = cache := by
  obtain ⟨_, ⟨⟩⟩ | ⟨_, _, _, ⟨⟩, -⟩ := h
  rfl

/-! ## Polls -/

/-- The ways of a poll. -/
inductive Polls (cache : ChangeCache) (force : Bool) (d : Driver) :
    List Turn → ChangeCache × Except Error (Option (List ChannelState)) → Driver → Prop
  /-- The search for changes failed. -/
  | unsearched {turns : List Turn} {after : ChangeCache} {e : Error} {d' : Driver}
      (hsearch : Runs (hasStateChanged cache) d turns (after, .error e) d') :
      Polls cache force d turns (after, .error e) d'
  /-- Nothing has changed, and no one asked for the states. -/
  | unchanged {turns : List Turn} {after : ChangeCache} {d' : Driver} (hforce : force = false)
      (hsearch : Runs (hasStateChanged cache) d turns (after, .ok false) d') :
      Polls cache force d turns (after, .ok none) d'
  /-- Every state was read, or one of them could not be. -/
  | collected {first rest : List Turn} {changed : Bool} {after : ChangeCache} {mid d' : Driver}
      {states : Except Error (List ChannelState)}
      (hsearch : Runs (hasStateChanged cache) d first (after, .ok changed) mid)
      (hcollect : Runs collectStates.run mid rest states d') :
      Polls cache force d (first ++ rest) (after, states.map some) d'

theorem polls_poll {cache : ChangeCache} {force : Bool}
    {p : ChangeCache × Except Error (Option (List ChannelState))}
    (h : Runs (poll cache force) d turns p d') : Polls cache force d turns p d' := by
  obtain ⟨first, ⟨after, r⟩, mid, rest, rfl, hsearch, h⟩ := runs_bind.1 h
  cases r with
  | error e =>
    obtain ⟨rfl, rfl, rfl⟩ := runs_pure.1 h
    rw [List.append_nil]
    exact .unsearched hsearch
  | ok changed =>
    have hcollect : ∀ {rest p}, Runs (do
        let states ← collectStates.run
        pure (after, states.map some)) mid rest p d' → Polls cache force d (first ++ rest) p d' := by
      intro rest p h
      obtain ⟨states, hstates, rfl⟩ := runs_bind_pure.1 h
      exact .collected hsearch hstates
    cases changed with
    | true => exact hcollect (by simpa only [Bool.true_or, if_true, runs_get_bind, runs_log_bind] using h)
    | false =>
      cases force with
      | true => exact hcollect h
      | false =>
        obtain ⟨rfl, rfl, rfl⟩ := runs_pure.1 h
        rw [List.append_nil]
        exact .unchanged rfl hsearch

end Driver
end Backplane
