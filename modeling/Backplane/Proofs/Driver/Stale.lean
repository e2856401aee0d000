import Backplane.Bus.Playback
import Backplane.Proofs.Drive
import Backplane.Proofs.Driver.Channels
import Backplane.Proofs.Driver.Methods

/-!
# Masks behind a search for changes that failed

A search for changes reads the masks again. What a driver of the newer generation answers behind a search
that failed it has read in that search or later, since the search begins with nothing at hand. In the older
generation a mask that the search did not come to read stays at hand, and is answered from until a poll
cycle is begun or the mask is read after all.

* `held_search`: what is at hand behind a search that failed.
* `Method.refreshes`, `held_refreshes`: methods behind which nothing older is at hand.
* `answer_behind_search`: where every later answer comes from.
* `answer_stale`: presence as it is now beside failures as they were before.
-/
namespace Backplane

variable {mask : Mask} {p : Protocol} {turns : List Turn} {value : UInt8}

/-- The search for changes that came to this failure has not read the mask: presence is read first. -/
def Mask.Missed (e : Error) : Mask → Prop
  | presence => ∃ label source, e = .communication label .readPresence source
  | failures => True

theorem Protocol.ReadsMask.asks {register : UInt8} (h : p.ReadsMask register turns value) :
    ∃ first rest, Asks (.readByteData register) turns (.ok first :: rest) := by
  cases p with
  | v0 =>
    obtain ⟨results, hasks, hconfirmed⟩ := h
    obtain ⟨first, rest, rfl⟩ := hconfirmed.head_ok
    exact ⟨first, rest, hasks⟩
  | v1 => exact ⟨value, [], h⟩

/-- A mask that was read was asked for, and the answer came. -/
theorem Mask.ReadIn.turn (h : mask.ReadIn p turns value) :
    ∃ turn ∈ turns, turn.request? = some (.readByteData (mask.register p)) ∧ ¬ turn.Fails := by
  obtain ⟨before, reading, after, rfl, hread⟩ := h
  obtain ⟨first, rest, hasks⟩ := hread.asks
  cases hasks with
  | cons hsettles =>
    obtain ⟨failed, last, rfl, -, hlast, -⟩ := hsettles
    refine ⟨.attempted _ last, by simp [tries], rfl, ?_⟩
    rintro ⟨e, he⟩
    cases hlast.symm.trans he

namespace Driver

variable {d d' : Driver} {cache after : ChangeCache} {e : Error} {index : Nat}

/-! ## Searches that failed -/

/-- In the older generation a mask that was not read stays at hand. -/
theorem V0.held_search (h : Runs (V0.hasStateChanged cache) d turns (after, .error e) d')
    (hheld : mask.held d' = some value) :
    mask.ReadIn .v0 turns value ∨ mask.held d = some value ∧ mask.Missed e := by
  -- Each mask is replaced when its own read succeeds, so the cases are the read that failed.
  cases V0.searches_hasStateChanged h with
  | presence =>
    cases mask with
    | presence => exact .inr ⟨hheld, _, _, rfl⟩
    | failures => exact .inr ⟨hheld, trivial⟩
  | @failures _ first _ _ _ shown hpresence =>
    have hin : Mask.presence.ReadIn .v0 first shown := .of_reads (readsConfirmed_confirmed hpresence)
    cases mask with
    | presence =>
      cases hheld
      exact .inl hin.append_left
    | failures => exact .inr ⟨hheld, trivial⟩

/-- In the newer generation nothing is at hand that the search has not read. -/
theorem V1.held_search (h : Runs (V1.hasStateChanged cache) d turns (after, .error e) d')
    (hheld : mask.held d' = some value) : mask.ReadIn .v1 turns value := by
  -- Both masks are forgotten in front of the first read: what is there was read in front of the failure.
  cases V1.searches_hasStateChanged h with
  | presence => cases mask <;> cases hheld
  | @failures _ first _ _ _ presence hpresence =>
    have hin : Mask.presence.ReadIn .v1 first presence := .of_reads (Device.runs_exchange_ok hpresence).2
    cases mask <;> cases hheld
    exact hin.append_left
  | @latch _ first second _ _ _ _ presence failures hpresence hfailures =>
    have hin : Mask.presence.ReadIn .v1 first presence := .of_reads (Device.runs_exchange_ok hpresence).2
    have hin' : Mask.failures.ReadIn .v1 second failures := .of_reads (Device.runs_exchange_ok hfailures).2
    cases mask <;> cases hheld
    · exact hin.append_left.append_left
    · exact hin'.append_right.append_left

/-- What is at hand behind a search that failed. -/
theorem held_search (h : Runs (hasStateChanged cache) d turns (after, .error e) d')
    (hheld : mask.held d' = some value) :
    mask.ReadIn d.protocol turns value ∨ d.protocol = .v0 ∧ mask.held d = some value ∧ mask.Missed e := by
  rw [hasStateChanged, runs_byProtocol] at h
  cases hp : d.protocol with
  | v0 =>
    rw [hp] at h
    exact (V0.held_search h hheld).imp_right fun hmissed => ⟨rfl, hmissed⟩
  | v1 =>
    rw [hp] at h
    exact .inl (V1.held_search h hheld)

/-! ## Whatever comes behind them -/

/-- The method begins a poll cycle in either generation. -/
def Method.refreshes : Method → Bool
  | .call .refresh => true
  | .call .channelStates => true
  | _ => false

/-- Behind such a method nothing is at hand that it has not read. -/
theorem held_refreshes {m : Method} (hm : m.refreshes = true) (h : Runs m.perform d turns () d')
    (hheld : mask.held d' = some value) : mask.ReadIn d.protocol turns value := by
  have hforgotten : ∀ {d d' : Driver} {turns}, Runs refresh d turns () d' →
      d'.protocol = d.protocol ∧ mask.held d' = none := by
    intro d d' turns h
    obtain ⟨-, -, hprotocol, hpresence, hfailures, -⟩ := runs_refresh h
    exact ⟨hprotocol, by cases mask <;> assumption⟩
  match m, hm with
  | .call .refresh, _ =>
    rw [(hforgotten h).2] at hheld
    cases hheld
  | .call .channelStates, _ =>
    have hrun : Runs (channelStates.run >>= fun _ => pure ()) d turns () d' := h
    obtain ⟨_, hstates, -⟩ := runs_bind_pure.1 hrun
    obtain ⟨_, _, fresh, _, rfl, hrefresh, hcollect⟩ := tries_lift_bind.1 hstates
    obtain ⟨hprotocol, hnone⟩ := hforgotten hrefresh
    obtain hold | hread := (sparing_collectStates hprotocol hcollect).2.held hheld
    · rw [hnone] at hold
      cases hold
    · exact hread.append_right

theorem held_performEach {later : List Method} (h : Runs (performEach later) d turns () d')
    (hheld : mask.held d' = some value) :
    mask.ReadIn d.protocol turns value ∨
      mask.held d = some value ∧ ∀ m ∈ later, m.refreshes = false := by
  -- From the last method back to the first: a mask that is still there behind one was there in front of it,
  -- unless that read it.
  induction later generalizing d turns with
  | nil =>
    obtain ⟨rfl, -, rfl⟩ := runs_pure.1 h
    exact .inr ⟨hheld, by simp⟩
  | cons m later ih =>
    obtain ⟨first, _, mid, rest, rfl, hfirst, hrest⟩ := runs_bind.1 h
    obtain ⟨hprotocol, hacts⟩ := speaks_method m rfl hfirst
    obtain hread | ⟨hmid, hlater⟩ := ih hrest
    · rw [hprotocol] at hread
      exact .inl hread.append_right
    cases hm : m.refreshes with
    | true => exact .inl (held_refreshes hm hfirst hmid).append_left
    | false =>
      refine (hacts.held hmid).symm.imp (·.append_left) fun hold => ⟨hold, ?_⟩
      exact List.forall_mem_cons.2 ⟨hm, hlater⟩

/-! ## Answers -/

/-- What is answered about a channel is at hand behind the answer. -/
theorem held_answer {b : Bool} (h : Runs (mask.answer index).run d turns (.ok b) d') :
    ∃ value, mask.held d' = some value ∧ b = hasChannel value index := by
  obtain ⟨e | value, hobtains, hr⟩ := runs_answer mask (lt_of_answer h) h <;> cases hr
  exact ⟨value, hobtains.at_hand mask.held mask.held_keep, rfl⟩

/-- A search for changes, whatever comes behind it, and then an answer about a channel. -/
def searchThenAnswer (cache : ChangeCache) (later : List Method) (mask : Mask) (index : Nat) :
    DriverM (Except Error (Bool × ChangeCache) × Except Error Bool) := do
  let found ← (hasStateChanged cache).run
  performEach later
  let answer ← (mask.answer index).run
  pure (found, answer)

theorem runs_searchThenAnswer {later : List Method} {b : Bool}
    (h : Runs (searchThenAnswer cache later mask index) d turns (.error e, .ok b) d') :
    ∃ value, b = hasChannel value index ∧
      (mask.ReadIn d.protocol turns value ∨
        d.protocol = .v0 ∧ mask.held d = some value ∧ mask.Missed e ∧ ∀ m ∈ later, m.refreshes = false) := by
  obtain ⟨first, found, searched, _, rfl, hsearch, h⟩ := runs_bind.1 h
  obtain ⟨between, _, asked, _, rfl, hlater, h⟩ := runs_bind.1 h
  obtain ⟨answer, hanswer, hpair⟩ := runs_bind_pure.1 h
  obtain ⟨rfl, rfl⟩ := Prod.mk.inj hpair
  obtain ⟨after, hsearch⟩ := runs_cached_error.1 hsearch
  have hsearched : searched.protocol = d.protocol := (speaks_hasStateChanged rfl hsearch).1
  have hasked : asked.protocol = d.protocol :=
    ((speaks_performEach later) rfl hlater).1.trans hsearched
  obtain ⟨value, hheld, rfl⟩ := held_answer hanswer
  refine ⟨value, rfl, ?_⟩
  obtain hheld | hread := (sparing_answer mask hasked hanswer).2.held hheld
  swap
  · exact .inl hread.append_right.append_right
  obtain hread | ⟨hheld, hlater⟩ := held_performEach hlater hheld
  · rw [hsearched] at hread
    exact .inl hread.append_left.append_right
  obtain hread | ⟨hp, hheld, hmissed⟩ := held_search hsearch hheld
  · exact .inl hread.append_left
  · exact .inr ⟨hp, hheld, hmissed, hlater⟩

/-- Behind a search for changes that failed, whatever is asked of the driver in between: an answer about a
channel comes from a mask that was read in the search or since. Only in the older generation it may also come
from the mask at hand before, if the search has not come to read that and no poll cycle was begun since. -/
theorem answer_behind_search {σ : Type} (site : Site σ) (bench : Bench σ) (d : Driver) (cache : ChangeCache)
    (later : List Method) (mask : Mask) (index : Nat) (e : Error) (b : Bool)
    (hfailed : (site.run ((searchThenAnswer cache later mask index).run d) bench).1.1.1 = .error e)
    (hanswer : (site.run ((searchThenAnswer cache later mask index).run d) bench).1.1.2 = .ok b) :
    let turns := site.moves ((searchThenAnswer cache later mask index).run d) bench
    ∃ value, b = hasChannel value index ∧
      (mask.ReadIn d.protocol turns value ∨
        d.protocol = .v0 ∧ mask.held d = some value ∧ mask.Missed e ∧ ∀ m ∈ later, m.refreshes = false) := by
  have hruns := site.course_moves ((searchThenAnswer cache later mask index).run d) bench
  generalize (site.run ((searchThenAnswer cache later mask index).run d) bench).1 = outcome at *
  obtain ⟨⟨found, answer⟩, d'⟩ := outcome
  obtain rfl : found = .error e := hfailed
  obtain rfl : answer = .ok b := hanswer
  exact runs_searchThenAnswer hruns

/-- A driver of the older generation that has seen a drive in the first channel, and that it had failed. -/
def seenV0 : Driver :=
  { Driver.ofDevice ⟨"bp", true, .none⟩ .v0 with presence := some 1, failures := some 1 }

/-- A bus that tells twice that no drive is present and then does not answer once. Behind that it tells of
no failures. -/
def interrupted : Bench Playback where
  state := {
    connects := []
    functionality := .ok .required
    tape := {
      cues := [.ofValue 0, .ofValue 0] ++ .replicate Device.attemptsMax ⟨some (.os Errno.noAnswer), []⟩
      last := .ofValue 0 } }
  events := #[]

/-- What a search for changes on that bus comes to, and behind it an answer about the first channel. -/
def interruptedRun (later : List Method) (mask : Mask) :
    Except Error (Bool × ChangeCache) × Except Error Bool :=
  (Playback.bus.site.run ((searchThenAnswer .empty later mask 0).run seenV0) interrupted).1.1

/-- Where a poll cycle is begun, the failures are read after all. -/
theorem answer_behind_search_refreshed :
    let turns := Playback.bus.site.moves ((searchThenAnswer .empty [.call .refresh] .failures 0).run seenV0)
      interrupted
    interruptedRun [.call .refresh] .failures =
        (.error (.communication "bp" .readFailures (.os Errno.noAnswer)), .ok false) ∧
      ∃ value, false = hasChannel value 0 ∧ Mask.failures.ReadIn .v0 turns value := by
  intro turns
  have hrun : interruptedRun [.call .refresh] .failures =
      (.error (.communication "bp" .readFailures (.os Errno.noAnswer)), .ok false) := by
    decide +kernel
  refine ⟨hrun, ?_⟩
  obtain ⟨value, hvalue, hread | ⟨-, -, -, hlater⟩⟩ := answer_behind_search Playback.bus.site interrupted
    seenV0 .empty [.call .refresh] .failures 0 _ _ (congrArg Prod.fst hrun) (congrArg Prod.snd hrun)
  · exact ⟨value, hvalue, hread⟩
  · exact absurd (hlater _ (List.mem_singleton.2 rfl)) (by decide)

/-- Where none is begun, the first channel is said to have failed, though no failures were read; presence of
the same channel is said to be as it was read. -/
theorem answer_stale :
    interruptedRun [] .presence =
        (.error (.communication "bp" .readFailures (.os Errno.noAnswer)), .ok false) ∧
      interruptedRun [] .failures =
        (.error (.communication "bp" .readFailures (.os Errno.noAnswer)), .ok true) ∧
      ∀ value, ¬ Mask.failures.ReadIn .v0
        (Playback.bus.site.moves ((searchThenAnswer .empty [] .failures 0).run seenV0) interrupted) value := by
  refine ⟨by decide +kernel, by decide +kernel, fun value hread => ?_⟩
  obtain ⟨turn, hturn, hrequest, hanswered⟩ := hread.turn
  have hunanswered : ∀ turn ∈ Playback.bus.site.moves ((searchThenAnswer .empty [] .failures 0).run seenV0)
      interrupted, turn.request? = some (.readByteData V0.failuresRegister) → turn.Fails := by
    decide +kernel
  exact hanswered (hunanswered turn hturn hrequest)

end Driver
end Backplane
