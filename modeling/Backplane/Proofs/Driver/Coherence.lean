import Backplane.Proofs.Drive
import Backplane.Proofs.Driver.Channels
import Backplane.Proofs.Driver.Confirm

/-!
# Polls and their cache

A poll builds the states from masks that the driver keeps, and the cache takes a fingerprint of masks
that the search for changes read. Both are the masks on the bus in this call, whatever the driver kept
before and whatever the bus answers.

* `channelMask_eq`: the masks that the states of all channels carry, put together again.
* `Surveys`: what a search for changes reads on the bus, in each generation.
* `surveys_hasStateChanged`: the fingerprint of a search, and when it reports a change.
* `poll_coherent`: what a poll and a search return against what the cache holds behind them.
-/
namespace Backplane

/-! ## Masks of states -/

/-- The mask of the channels whose state has a property. -/
def channelMask (property : ChannelState → Bool) (states : List ChannelState) : UInt8 :=
  states.foldr (fun st mask => if property st then mask ||| channelBit st.index else mask) 0

theorem hasChannel_channelMask {property : ChannelState → Bool} {states : List ChannelState} {i : Nat}
    (hstates : ∀ st ∈ states, st.index < channelCount) (hi : i < channelCount) :
    hasChannel (channelMask property states) i =
      states.any fun st => property st && decide (st.index = i) := by
  induction states with
  | nil => simp [channelMask, hasChannel_eq _ hi]
  | cons st states ih =>
    rw [List.forall_mem_cons] at hstates
    rw [List.any_cons, ← ih hstates.2, channelMask, List.foldr_cons, ← channelMask]
    cases property st with
    | true => rw [if_pos rfl, hasChannel_or_channelBit _ hstates.1 hi, Bool.true_and, Bool.or_comm]
    | false => simp

variable {presence failures : UInt8} {states : List ChannelState}

/-- A mask that every state is read off is the mask of the states. -/
theorem channelMask_eq {mask : UInt8} {property : ChannelState → Bool}
    (h : states.map (fun st => (st.index, property st)) =
      (List.range channelCount).map fun i => (i, hasChannel mask i)) :
    channelMask property states = mask := by
  have hread : ∀ st ∈ states, st.index < channelCount ∧ property st = hasChannel mask st.index := by
    intro st hst
    have hmem := List.mem_map_of_mem (f := fun st => (st.index, property st)) hst
    rw [h] at hmem
    obtain ⟨i, hi, heq⟩ := List.mem_map.1 hmem
    obtain ⟨rfl, hproperty⟩ := Prod.mk.inj heq
    exact ⟨List.mem_range.1 hi, hproperty.symm⟩
  have hlisted : ∀ i < channelCount, ∃ st ∈ states, st.index = i := by
    intro i hi
    have hmem := List.mem_map_of_mem (f := fun i => (i, hasChannel mask i)) (List.mem_range.2 hi)
    rw [← h] at hmem
    obtain ⟨st, hst, heq⟩ := List.mem_map.1 hmem
    exact ⟨st, hst, (Prod.mk.inj heq).1⟩
  refine eq_of_hasChannel fun i hi => ?_
  rw [hasChannel_channelMask (fun st hst => (hread st hst).1) hi, Bool.eq_iff_iff, List.any_eq_true]
  constructor
  · intro hany
    obtain ⟨st, hst, hboth⟩ := hany
    obtain ⟨hproperty, hindex⟩ := Bool.and_eq_true_iff.1 hboth
    rw [← of_decide_eq_true hindex, ← (hread st hst).2]
    exact hproperty
  · intro hmask
    obtain ⟨st, hst, rfl⟩ := hlisted i hi
    exact ⟨st, hst, by simp [(hread st hst).2, hmask]⟩

theorem Carries.channelMask_present (h : Carries presence failures states) :
    channelMask (·.present) states = presence := by
  have hpairs := congrArg (List.map fun p : Nat × Bool × Bool => (p.1, p.2.1)) h
  rw [List.map_map, List.map_map] at hpairs
  exact channelMask_eq hpairs

theorem Carries.channelMask_failed (h : Carries presence failures states) :
    channelMask (·.failed) states = failures := by
  have hpairs := congrArg (List.map fun p : Nat × Bool × Bool => (p.1, p.2.2)) h
  rw [List.map_map, List.map_map] at hpairs
  exact channelMask_eq hpairs

namespace Driver
variable {d d' : Driver} {turns : List Turn} {cache after : ChangeCache} {changed : Bool}
  {states : List ChannelState}

/-! ## The search for changes -/

/-- What a search for changes that succeeded read in these turns: both masks, and the latch where the
generation has one. -/
inductive Surveys : Protocol → List Turn → (presence failures : UInt8) → (latch : Option UInt8) → Prop
  | v0 {first second : List Turn} {presence failures : UInt8}
      (hpresence : ReadsConfirmed V0.presenceRegister first presence)
      (hfailures : ReadsConfirmed V0.failuresRegister second failures) :
      Surveys .v0 (first ++ second) presence failures none
  | v1 {first second third : List Turn} {presence failures latch : UInt8}
      (hpresence : Asks (.readByteData V1.presenceRegister) first [.ok presence])
      (hfailures : Asks (.readByteData V1.failuresRegister) second [.ok failures])
      (hlatch : Asks (.readByteData V1.latchRegister) third [.ok latch]) :
      Surveys .v1 (first ++ second ++ third) presence failures (some latch)

/-- Anything but the fingerprint that a cache holds is a change. -/
theorem ChangeCache.differs_iff {f : UInt32} : cache.differs f = true ↔ cache ≠ .note f := by
  rw [← Bool.not_eq_false, ChangeCache.differs_eq_false]

/-- A search has noted the fingerprint of the masks it read, and reports a change where the cache held
another one or where the latch is not zero. -/
theorem surveys_hasStateChanged (h : Runs (hasStateChanged cache) d turns (after, .ok changed) d') :
    ∃ presence failures latch, Surveys d.protocol turns presence failures latch ∧
      after = .note (fingerprint presence failures) ∧ d'.Holds presence failures ∧
      (changed = true ↔ cache ≠ .note (fingerprint presence failures) ∨ ∃ l ∈ latch, l ≠ 0) := by
  rw [hasStateChanged, runs_byProtocol] at h
  cases hp : d.protocol with
  | v0 =>
    rw [hp] at h
    cases V0.searches_hasStateChanged h with
    | @searched _ _ _ _ presence failures hpresence hfailures =>
      refine ⟨presence, failures, none, ?_, rfl, ⟨rfl, rfl⟩, by simp [ChangeCache.differs_iff]⟩
      exact .v0 (readsConfirmed_confirmed hpresence) (readsConfirmed_confirmed hfailures)
  | v1 =>
    rw [hp] at h
    cases V1.searches_hasStateChanged h with
    | @searched _ _ _ _ _ _ presence failures latch hpresence hfailures hlatch =>
      refine ⟨presence, failures, some latch, ?_, rfl, ⟨rfl, rfl⟩, by simp [ChangeCache.differs_iff]⟩
      exact .v1 (Device.runs_exchange_ok hpresence).2 (Device.runs_exchange_ok hfailures).2
        (Device.runs_exchange_ok hlatch).2

/-! ## Polls -/

variable {force : Bool} {p : ChangeCache × Except Error (Option (List ChannelState))}

/-- A poll that returned states: they carry the masks that its search read. -/
theorem reported_poll (h : Runs (poll cache force) d turns p d') (hp : p = (after, .ok (some states))) :
    ∃ first rest presence failures latch, turns = first ++ rest ∧
      Surveys d.protocol first presence failures latch ∧
      after = .note (fingerprint presence failures) ∧ Carries presence failures states := by
  cases polls_poll h with
  | unsearched => cases hp
  | unchanged => cases hp
  | @collected first rest _ _ _ _ collected hsearch hcollect =>
    obtain ⟨presence, failures, latch, hsurveys, hafter, hd, -⟩ := surveys_hasStateChanged hsearch
    cases collected <;> cases hp
    exact ⟨first, rest, presence, failures, latch, rfl, hsurveys, hafter,
      (carries_collectStates hd hcollect).2 _ rfl⟩

/-- A poll that returned no states was not forced, and read what the cache says. -/
theorem unchanged_poll (h : Runs (poll cache force) d turns p d') (hp : p = (after, .ok none)) :
    force = false ∧ after = cache ∧ ∃ presence failures latch,
      Surveys d.protocol turns presence failures latch ∧ cache = .note (fingerprint presence failures) := by
  cases polls_poll h with
  | unsearched => cases hp
  | @collected _ _ _ _ _ _ collected => cases collected <;> cases hp
  | unchanged hforce hsearch =>
    cases hp
    obtain ⟨presence, failures, latch, hsurveys, rfl, -, hchanged⟩ := surveys_hasStateChanged hsearch
    have hcache : cache = .note (fingerprint presence failures) := by
      by_contra hother
      exact Bool.false_ne_true (hchanged.2 (.inl hother))
    exact ⟨hforce, hcache.symm, presence, failures, latch, hsurveys, hcache⟩

/-- What a poll and a search return, at any site and whatever driver and cache hold before, against
what the cache holds behind them. The fingerprint is that of the returned states; where nothing is
returned it is the one the cache had, and that of the masks on the bus. A search of either generation that
fails leaves the cache as it was, and so does the poll around it. -/
theorem poll_coherent {σ : Type} (site : Site σ) (bench : Bench σ) (d : Driver) (cache : ChangeCache)
    (force : Bool) :
    (∀ after states, (site.run ((poll cache force).run d) bench).1.1 = (after, .ok (some states)) →
      after = .note (fingerprint (channelMask (·.present) states) (channelMask (·.failed) states)) ∧
      ∃ first rest presence failures latch,
        site.moves ((poll cache force).run d) bench = first ++ rest ∧
        Surveys d.protocol first presence failures latch ∧ Carries presence failures states) ∧
    (∀ after, (site.run ((poll cache force).run d) bench).1.1 = (after, .ok none) →
      force = false ∧ after = cache ∧ ∃ presence failures latch,
        Surveys d.protocol (site.moves ((poll cache force).run d) bench) presence failures latch ∧
        cache = .note (fingerprint presence failures)) ∧
    (∀ changed after,
      (site.run (StateT.run (hasStateChanged cache) d) bench).1.1 = (after, .ok changed) →
      ∃ presence failures latch,
        Surveys d.protocol (site.moves (StateT.run (hasStateChanged cache) d) bench) presence failures latch ∧
        after = .note (fingerprint presence failures) ∧
        (changed = true ↔ cache ≠ .note (fingerprint presence failures) ∨ ∃ l ∈ latch, l ≠ 0) ∧
        (cache = .empty → changed = true)) ∧
    (∀ search ∈ [hasStateChanged cache, V0.hasStateChanged cache, V1.hasStateChanged cache], ∀ e after,
      (site.run (StateT.run search d) bench).1.1 = (after, .error e) → after = cache) ∧
    (∀ e after, (site.run (StateT.run (hasStateChanged cache) d) bench).1.1 = (after, .error e) →
      (site.run ((poll cache force).run d) bench).1.1 = (cache, .error e)) := by
  have hpoll := site.course_moves ((poll cache force).run d) bench
  have hsearch := site.course_moves (StateT.run (hasStateChanged cache) d) bench
  refine ⟨?_, ?_, ?_, ?_, ?_⟩
  · intro after states hstates
    obtain ⟨first, rest, presence, failures, latch, hturns, hsurveys, hafter, hcarries⟩ :=
      reported_poll hpoll hstates
    rw [hcarries.channelMask_present, hcarries.channelMask_failed]
    exact ⟨hafter, first, rest, presence, failures, latch, hturns, hsurveys, hcarries⟩
  · intro after hnone
    exact unchanged_poll hpoll hnone
  · intro changed after hfound
    rw [← Prod.eta (site.run _ bench).1, hfound] at hsearch
    obtain ⟨presence, failures, latch, hsurveys, hafter, -, hchanged⟩ := surveys_hasStateChanged hsearch
    refine ⟨presence, failures, latch, hsurveys, hafter, hchanged, ?_⟩
    rintro rfl
    exact hchanged.2 (.inl (by simp [ChangeCache.empty, ChangeCache.note]))
  · intro search hmem e after hfailed
    have hfails := site.course_moves (StateT.run search d) bench
    rw [← Prod.eta (site.run _ bench).1, hfailed] at hfails
    exact (searched_of_mem hmem hfails).cache_eq
  · intro e after hfailed
    have hfails := hsearch
    rw [← Prod.eta (site.run _ bench).1, hfailed] at hfails
    obtain rfl := (searched_hasStateChanged hfails).cache_eq
    rw [poll, StateT.run_bind, Site.run_bind, hfailed]
    rfl

end Driver
end Backplane
