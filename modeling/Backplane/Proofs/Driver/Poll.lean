import Backplane.Bus.Playback
import Backplane.Proofs.Drive
import Backplane.Proofs.Driver.Channels
import Backplane.Proofs.Driver.Requests

/-!
# Polls that share a cache

What a poller knows of the drives behind polls that share one cache, whatever the bus answers. A poll
that reports no change has read the masks whose fingerprint the cache holds. They are those of the
states that were returned last, or a poll that failed has put them into the cache since: it had seen
the change, and no later poll sees it again.

* `Polled.Ends`: the ways a poll ends.
* `Explained.step`, `pollEach_chain`: what one poll does to what is known, and that polls do nothing else.
* `pollEach_unchanged`: every poll that reports no change.
* `pollEach_swallows`: a change that is lost this way.
-/
namespace Backplane.Driver

/-- One poll: the cache in front of it and behind it, what it returned, and the masks that the driver
had then read. -/
structure Polled where
  before : ChangeCache
  after : ChangeCache
  result : Except Error (Option (List ChannelState))
  presence : Option UInt8
  failures : Option UInt8

/-- Polls that share a cache. Each may be forced, and other calls may come before it. -/
def pollEach : ChangeCache → List (List Call × Bool) → DriverM (List Polled)
  | _, [] => pure []
  | cache, (calls, force) :: rest => do
    calls.forM perform
    let (after, result) ← poll cache force
    let d ← get
    let polls ← pollEach after rest
    pure (⟨cache, after, result, d.presence, d.failures⟩ :: polls)

namespace Polled

/-- The states that a poll returned. -/
def reported? (p : Polled) : Option (List ChannelState) :=
  match p.result with
  | .ok states => states
  | .error _ => none

/-- Whether a poll reported that nothing changed. -/
def isUnchanged (p : Polled) : Bool :=
  match p.result with
  | .ok none => true
  | _ => false

theorem isUnchanged_iff {p : Polled} : p.isUnchanged = true ↔ p.result = .ok none := by
  unfold isUnchanged
  split <;> simp_all

/-- A poll that failed behind its check for changes and left another cache. -/
def Swallows (p : Polled) : Prop := (∃ e, p.result = .error e) ∧ p.after ≠ p.before

/-- The ways a poll ends. -/
inductive Ends : Polled → Prop
  /-- The check for changes failed. -/
  | unchecked {cache : ChangeCache} {e : Error} {presence failures : Option UInt8} :
      Ends ⟨cache, cache, .error e, presence, failures⟩
  /-- The masks are those that the cache holds. -/
  | unchanged {presence failures : UInt8} :
      Ends ⟨.note (fingerprint presence failures), .note (fingerprint presence failures), .ok none,
        some presence, some failures⟩
  | reported {cache : ChangeCache} {presence failures : UInt8} {states : List ChannelState}
      (h : Carries presence failures states) :
      Ends ⟨cache, .note (fingerprint presence failures), .ok (some states), some presence, some failures⟩
  /-- The check succeeded, and a later read failed. -/
  | unread {cache : ChangeCache} {presence failures : UInt8} {e : Error} :
      Ends ⟨cache, .note (fingerprint presence failures), .error e, some presence, some failures⟩

end Polled

/-- The states that were returned last. -/
def lastReported (past : List Polled) : Option (List ChannelState) :=
  (past.filterMap Polled.reported?).getLast?

/-- The states that were returned last carry these masks. -/
def Told (past : List Polled) (presence failures : UInt8) : Prop :=
  ∃ states, lastReported past = some states ∧ Carries presence failures states

/-- A poll that failed has left this cache, and no states were returned since. -/
def Swallowed (past : List Polled) (cache : ChangeCache) : Prop :=
  ∃ front p rest, past = front ++ p :: rest ∧ p.Swallows ∧ p.after = cache ∧
    ∀ q ∈ rest, q.reported? = none

/-- Why a cache holds what it holds. -/
def Explained (past : List Polled) (cache : ChangeCache) : Prop :=
  ∀ presence failures, cache = .note (fingerprint presence failures) →
    Told past presence failures ∨ Swallowed past cache

/-! ## One poll -/

variable {d d' : Driver} {turns : List Turn} {cache : ChangeCache} {force : Bool}

theorem ends_poll {p : ChangeCache × Except Error (Option (List ChannelState))}
    (h : Runs (poll cache force) d turns p d') :
    Polled.Ends ⟨cache, p.1, p.2, d'.presence, d'.failures⟩ := by
  cases polls_poll h with
  | unsearched hsearch =>
    rw [(searched_hasStateChanged hsearch).cache_eq]
    exact .unchecked
  | unchanged hforce hsearch =>
    obtain ⟨_, ⟨⟩⟩ | ⟨presence, failures, _, ⟨⟩, hd, hunchanged⟩ := searched_hasStateChanged hsearch
    rw [hunchanged rfl, hd.1, hd.2]
    exact .unchanged
  | @collected _ _ _ _ _ _ states hsearch hcollect =>
    obtain ⟨_, ⟨⟩⟩ | ⟨presence, failures, _, ⟨⟩, hd, -⟩ := searched_hasStateChanged hsearch
    obtain ⟨⟨hpresence, hfailures⟩, hcarries⟩ := carries_collectStates hd hcollect
    rw [hpresence, hfailures]
    cases states with
    | error e => exact .unread
    | ok states => exact .reported (hcarries states rfl)

/-! ## Polls one behind the other -/

section
variable {past rest : List Polled} {p : Polled}

theorem lastReported_append_none (past : List Polled) (h : p.reported? = none) :
    lastReported (past ++ [p]) = lastReported past := by
  simp [lastReported, List.filterMap_append, h]

theorem lastReported_append_some {states : List ChannelState} (h : p.reported? = some states) :
    lastReported (past ++ [p]) = some states := by
  simp [lastReported, List.filterMap_append, h]

/-- A poll that returned nothing and left the cache alone. -/
theorem Explained.idle (h : Explained past cache) (hp : p.reported? = none) :
    Explained (past ++ [p]) cache := by
  intro presence failures hcache
  obtain ⟨states, hlast, hcarries⟩ | ⟨front, q, rest, rfl, hq, hafter, hrest⟩ := h presence failures hcache
  · exact .inl ⟨states, (lastReported_append_none _ hp).trans hlast, hcarries⟩
  · refine .inr ⟨front, q, rest ++ [p], by simp, hq, hafter, ?_⟩
    exact List.forall_mem_append.2 ⟨hrest, List.forall_mem_singleton.2 hp⟩

/-- What is known behind one more poll. -/
theorem Explained.step (h : Explained past p.before) (hp : p.Ends) : Explained (past ++ [p]) p.after := by
  cases hp with
  | unchecked => exact h.idle rfl
  | unchanged => exact h.idle rfl
  | reported hcarries =>
    intro presence failures hcache
    obtain ⟨rfl, rfl⟩ := fingerprint_inj (Option.some.inj (congrArg ChangeCache.seen hcache))
    exact .inl ⟨_, lastReported_append_some rfl, hcarries⟩
  | @unread cache presence failures e =>
    by_cases hsame : ChangeCache.note (fingerprint presence failures) = cache
    · subst hsame
      exact h.idle rfl
    · exact fun _ _ _ => .inr ⟨past, _, [], rfl, ⟨⟨e, rfl⟩, hsame⟩, rfl, by simp⟩

/-- Polls of which each takes the cache from the one before. -/
inductive Chain : ChangeCache → List Polled → Prop
  | nil {cache : ChangeCache} : Chain cache []
  | cons {p : Polled} {polls : List Polled} (hp : p.Ends) (hrest : Chain p.after polls) :
      Chain p.before (p :: polls)

/-- What is known in front of each poll. -/
theorem Chain.explained {before after : List Polled} (h : Chain cache (before ++ p :: after))
    (hpast : Explained past cache) : Explained (past ++ before) p.before ∧ p.Ends := by
  induction before generalizing cache past with
  | nil =>
    cases h with
    | cons hp => exact ⟨by simpa using hpast, hp⟩
  | cons q before ih =>
    cases h with
    | cons hq hrest => simpa using ih hrest (hpast.step hq)

end

theorem pollEach_chain {steps : List (List Call × Bool)} {polls : List Polled}
    (h : Runs (pollEach cache steps) d turns polls d') : Chain cache polls := by
  induction steps generalizing cache d turns polls d' with
  | nil =>
    obtain ⟨-, rfl, -⟩ := runs_pure.1 h
    exact .nil
  | cons step rest ih =>
    obtain ⟨calls, force⟩ := step
    obtain ⟨_, _, _, _, -, -, h⟩ := runs_bind.1 h
    obtain ⟨_, ⟨after, result⟩, mid, _, -, hpoll, h⟩ := runs_bind.1 h
    dsimp only at h
    rw [runs_get_bind] at h
    obtain ⟨others, hothers, rfl⟩ := runs_bind_pure.1 h
    exact .cons (ends_poll hpoll) (ih hothers)

/-- A poll that reports no change, at any site: the states returned last carry exactly the masks it
has read, or a poll that failed has put their fingerprint into the cache and nothing was returned
since. -/
theorem pollEach_unchanged {σ : Type} (site : Site σ) (bench : Bench σ) (d : Driver)
    (steps : List (List Call × Bool)) (before after : List Polled) (p : Polled)
    (hpolls : (site.run ((pollEach .empty steps).run d) bench).1.1 = before ++ p :: after)
    (hunchanged : p.result = .ok none) :
    ∃ presence failures, p.presence = some presence ∧ p.failures = some failures ∧
      p.before = .note (fingerprint presence failures) ∧
      (Told before presence failures ∨ Swallowed before p.before) := by
  have hruns := site.course_moves ((pollEach .empty steps).run d) bench
  have hchain : Chain .empty (before ++ p :: after) := hpolls ▸ pollEach_chain hruns
  have hempty : Explained [] .empty := fun _ _ h => by cases h
  obtain ⟨hexplained, hends⟩ := hchain.explained hempty
  cases hends with
  | unchanged => exact ⟨_, _, rfl, rfl, rfl, hexplained _ _ rfl⟩
  | _ => cases hunchanged

/-- A driver of the newer generation that has read nothing yet. -/
def freshV1 : Driver := .ofDevice ⟨"bp", true, .none⟩ .v1

/-- A bus that answers three times: with presence of the first channel, no failures, a latch that is
clear. Then come other replies, and the same three once more. -/
def answering (between : List Playback.Cue) : Bench Playback where
  state := {
    connects := []
    functionality := .ok .required
    tape := {
      cues := [.ofValue 1, .ofValue 0, .ofValue 0] ++ between ++ [.ofValue 1, .ofValue 0, .ofValue 0]
      last := ⟨some (.os Errno.noAnswer), []⟩ } }
  events := #[]

/-- What two polls that are not forced come to on such a bus: whether they report no change, the
presence they have read, and the states they return. -/
def outcomes (between : List Playback.Cue) : List (Bool × Option UInt8 × Option (List ChannelState)) :=
  (Playback.bus.site.run ((pollEach .empty [([], false), ([], false)]).run freshV1)
    (answering between)).1.1.map fun p => (p.isUnchanged, p.presence, p.reported?)

theorem outcomes_two {between : List Playback.Cue}
    {first second : Bool × Option UInt8 × Option (List ChannelState)}
    (h : outcomes between = [first, second]) :
    ∃ p q, (Playback.bus.site.run ((pollEach .empty [([], false), ([], false)]).run freshV1)
        (answering between)).1.1 = [p] ++ q :: [] ∧
      (p.isUnchanged, p.presence, p.reported?) = first ∧
        (q.isUnchanged, q.presence, q.reported?) = second := by
  simp only [outcomes, List.map_eq_cons_iff, List.map_eq_nil_iff] at h
  obtain ⟨p, _, hpolls, hp, q, _, rfl, hq, rfl⟩ := h
  exact ⟨p, q, hpolls, hp, hq⟩

theorem outcomes_reported : outcomes [.ofValue 0, .ofValue 2] = [(false, some 1, some [
    ⟨0, true, false, .nvme, some false⟩, ⟨1, false, false, .noDisk, some false⟩,
    ⟨2, false, false, .noDisk, some false⟩, ⟨3, false, false, .noDisk, some false⟩,
    ⟨4, false, false, .noDisk, some false⟩, ⟨5, false, false, .noDisk, some false⟩,
    ⟨6, false, false, .noDisk, some false⟩, ⟨7, false, false, .noDisk, some false⟩]),
    (true, some 1, none)] := by
  decide +kernel

/-- A poll that returned states explains the one behind it. -/
theorem pollEach_unchanged_told :
    ∃ p q, (Playback.bus.site.run ((pollEach .empty [([], false), ([], false)]).run freshV1)
        (answering [.ofValue 0, .ofValue 2])).1.1 = [p] ++ q :: [] ∧ q.result = .ok none ∧
      ∃ presence failures, q.presence = some presence ∧ q.failures = some failures ∧
        q.before = .note (fingerprint presence failures) ∧
        (Told [p] presence failures ∨ Swallowed [p] q.before) := by
  obtain ⟨p, q, hpolls, -, hq⟩ := outcomes_two outcomes_reported
  have hunchanged : q.result = .ok none := Polled.isUnchanged_iff.1 (congrArg Prod.fst hq)
  exact ⟨p, q, hpolls, hunchanged, pollEach_unchanged _ _ _ _ _ _ _ hpolls hunchanged⟩

/-- Where the locate LEDs can not be read behind the first check for changes, that poll fails, the next
one reports no change, and the drive was never reported. -/
theorem pollEach_swallows :
    ∃ p q, (Playback.bus.site.run ((pollEach .empty [([], false), ([], false)]).run freshV1)
        (answering (.replicate 3 ⟨some (.os Errno.noAnswer), []⟩))).1.1 = [p] ++ q :: [] ∧
      q.result = .ok none ∧ q.presence = some 1 ∧ lastReported [p] = none := by
  have hcomputed : outcomes (.replicate 3 ⟨some (.os Errno.noAnswer), []⟩) =
      [(false, some 1, none), (true, some 1, none)] := by
    decide +kernel
  obtain ⟨p, q, hpolls, hp, hq⟩ := outcomes_two hcomputed
  obtain ⟨hfirst, hrest⟩ := Prod.mk.inj hq
  obtain ⟨hpresence, -⟩ := Prod.mk.inj hrest
  have hnothing : p.reported? = none := congrArg (·.2.2) hp
  refine ⟨p, q, hpolls, Polled.isUnchanged_iff.1 hfirst, hpresence, ?_⟩
  exact lastReported_append_none [] hnothing

end Backplane.Driver
