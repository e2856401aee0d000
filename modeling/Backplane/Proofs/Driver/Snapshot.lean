import Backplane.Bus.Playback
import Backplane.Proofs.Drive
import Backplane.Proofs.Driver.Channels

/-!
# One snapshot of all channels

The states of all channels are put together channel by channel, out of masks and a word that are read
when they are first needed. They are one snapshot all the same: whatever the driver kept before, each
register is read once, in this call, and every channel is shown from what that read came to.

* `Snapshot`, `Snapshot.states`: what a controller was read, and what is shown of it.
* `Captures`: the turns in which each generation reads a snapshot.
* `channelStates_snapshot`: the states of all channels are those of one snapshot.
-/
namespace Backplane

variable {turns : List Turn}

/-! ## Types of the older generation -/

namespace V0

/-- The type of a channel is asked for over and over: the channel is selected, then the byte is read. -/
inductive AsksType (index : Nat) : List Turn → List (Except BusError UInt8) → Prop
  | nil : AsksType index [] []
  | cons {select read rest : List Turn} {raw : UInt8} {results : List (Except BusError UInt8)}
      (hselect : Asks (.writeByteData driveTypeCommand (.ofNat index)) select [.ok ()])
      (hread : Asks .readByte read [.ok raw]) (hrest : AsksType index rest results) :
      AsksType index (select ++ read ++ rest) (.ok raw :: results)

/-- The types of channels are read, channel by channel, each until it comes twice in a row. -/
inductive ReadsTypes : List Nat → List Turn → List UInt8 → Prop
  | nil : ReadsTypes [] [] []
  | cons {index : Nat} {indices : List Nat} {first rest : List Turn} {raw : UInt8} {types : List UInt8}
      {results : List (Except BusError UInt8)} (hasks : AsksType index first results)
      (hconfirmed : Driver.Confirmed results (.ok raw)) (hrest : ReadsTypes indices rest types) :
      ReadsTypes (index :: indices) (first ++ rest) (raw :: types)

end V0

/-! ## Snapshots -/

/-- What a controller was read of all channels: the masks, the raw type of each channel, and the locate
LEDs where they can be read back. -/
structure Snapshot where
  presence : UInt8
  failures : UInt8
  types : List UInt8
  locate : Option UInt8
  deriving DecidableEq, Repr

namespace Snapshot

/-- What a snapshot shows of a channel whose raw type it is. -/
def state (s : Snapshot) (index : Nat) (raw : UInt8) : ChannelState where
  index := index
  present := hasChannel s.presence index
  failed := hasChannel s.failures index
  driveType := Driver.shownType (hasChannel s.presence index) raw
  locate := s.locate.map (hasChannel · index)

/-- What a snapshot shows of all channels. -/
def states (s : Snapshot) : List ChannelState :=
  List.zipWith s.state (List.range channelCount) s.types

end Snapshot

/-- A controller of the generation is read in these turns, each register once and nothing else. -/
inductive Captures : Protocol → List Turn → Snapshot → Prop
  | v0 {first second third : List Turn} {presence failures : UInt8} {types : List UInt8}
      (hpresence : Driver.ReadsConfirmed V0.presenceRegister first presence)
      (hfailures : Driver.ReadsConfirmed V0.failuresRegister second failures)
      (htypes : V0.ReadsTypes (List.range channelCount) third types) :
      Captures .v0 (first ++ second ++ third) ⟨presence, failures, types, none⟩
  | v1 {first second third fourth : List Turn} {locate presence failures : UInt8} {word : UInt16}
      (hlocate : Asks (.readByteData V1.locateRegister) first [.ok locate])
      (hpresence : Asks (.readByteData V1.presenceRegister) second [.ok presence])
      (hfailures : Asks (.readByteData V1.failuresRegister) third [.ok failures])
      (htypes : Asks (.readWordData V1.driveTypesRegister) fourth [.ok word]) :
      Captures .v1 (first ++ second ++ third ++ fourth)
        ⟨presence, failures, (List.range channelCount).map (unpackType word), some locate⟩

theorem V0.ReadsTypes.length_eq {indices : List Nat} {types : List UInt8}
    (h : V0.ReadsTypes indices turns types) : types.length = indices.length := by
  induction h with
  | nil => rfl
  | cons _ _ _ ih => simp [ih]

theorem Captures.length_types {p : Protocol} {s : Snapshot} (h : Captures p turns s) :
    s.types.length = channelCount := by
  cases h with
  | v0 _ _ htypes => exact htypes.length_eq
  | v1 => rfl

theorem Captures.locate_isSome {p : Protocol} {s : Snapshot} (h : Captures p turns s) :
    s.locate.isSome = true ↔ p = .v1 := by
  cases h <;> simp

namespace Snapshot
variable {s : Snapshot}

theorem length_states (h : s.types.length = channelCount) : s.states.length = channelCount := by
  rw [states, List.length_zipWith, List.length_range, h, Nat.min_self]

theorem getElem_states {i : Nat} (hi : i < s.states.length) : ∃ raw, s.states[i] = s.state i raw := by
  simp only [states, List.getElem_zipWith, List.getElem_range]
  exact ⟨_, rfl⟩

theorem map_index_states (h : s.types.length = channelCount) :
    s.states.map (·.index) = List.range channelCount := by
  refine List.ext_getElem (by rw [List.length_map, List.length_range, length_states h]) ?_
  intro i hi _
  obtain ⟨raw, hraw⟩ := getElem_states (by simpa using hi)
  rw [List.getElem_map, hraw, List.getElem_range]
  rfl

theorem mem_states {st : ChannelState} (hst : st ∈ s.states) : ∃ index raw, st = s.state index raw := by
  obtain ⟨i, hi, rfl⟩ := List.mem_iff_getElem.1 hst
  exact ⟨i, getElem_states hi⟩

end Snapshot

/-! ## Reads of types -/

namespace V0
open Driver

theorem asksType_repeats {index : Nat} {d d' : Device} {results : List (Except BusError UInt8)}
    (h : Repeats (readDriveType index).run d turns results d') (hok : ∀ r ∈ results, ∃ v, r = .ok v) :
    AsksType index turns results := by
  induction h with
  | nil => exact .nil
  | cons hrun _ ih =>
    rw [List.forall_mem_cons] at hok
    obtain ⟨⟨raw, rfl⟩, hok⟩ := hok
    obtain ⟨_, -, ⟨⟩⟩ | ⟨select, _, mid, read, rfl, hselect, hread⟩ := tries_bind.1 hrun
    exact .cons (Device.runs_exchange_ok hselect).2 (Device.runs_exchange_ok hread).2 (ih hok)

end V0

namespace Driver
variable {d d' : Driver} {index : Nat} {indices : List Nat} {types : List UInt8}

/-- How a driver comes by the raw types of channels, one after the other. -/
inductive ObtainsTypes : List Nat → Driver → List Turn → List UInt8 → Driver → Prop
  | nil {d : Driver} : ObtainsTypes [] d [] [] d
  | cons {index : Nat} {indices : List Nat} {first rest : List Turn} {raw : UInt8} {types : List UInt8}
      {d mid d' : Driver} (hfirst : d.ObtainsType index first (.ok raw) mid)
      (hrest : ObtainsTypes indices mid rest types d') :
      ObtainsTypes (index :: indices) d (first ++ rest) (raw :: types) d'

namespace ObtainsTypes

/-- The older generation reads every type. -/
theorem readsTypes (hp : d.protocol = .v0) (h : ObtainsTypes indices d turns types d') :
    V0.ReadsTypes indices turns types := by
  induction h with
  | nil => exact .nil
  | cons hfirst _ ih =>
    obtain ⟨device, hrun, rfl⟩ := hfirst.ok_v0 hp
    obtain ⟨results, hrepeats, hconfirmed⟩ := runs_confirmed hrun
    exact .cons (V0.asksType_repeats hrepeats hconfirmed.all_ok) hconfirmed (ih hp)

/-- The newer generation has them at hand in a word. -/
theorem of_word {word : UInt16} (hp : d.protocol = .v1) (hword : d.types = some word)
    (h : ObtainsTypes indices d turns types d') : turns = [] ∧ types = indices.map (unpackType word) := by
  induction h with
  | nil => exact ⟨rfl, rfl⟩
  | cons hfirst _ ih =>
    obtain ⟨_, hobtains, rfl⟩ := hfirst.ok_v1 hp
    rw [hword] at hobtains
    obtain ⟨rfl, hr, rfl⟩ := hobtains.of_held
    obtain rfl := Except.ok.inj hr
    obtain ⟨rfl, rfl⟩ := ih hp hword
    exact ⟨rfl, rfl⟩

/-- The newer generation reads one word where it has none. -/
theorem asks (hp : d.protocol = .v1) (hword : d.types = none)
    (h : ObtainsTypes (index :: indices) d turns types d') :
    ∃ word, Asks (.readWordData V1.driveTypesRegister) turns [.ok word] ∧
      types = (index :: indices).map (unpackType word) := by
  cases h with
  | cons hfirst hrest =>
    have hmid := hfirst.frame.1.trans hp
    obtain ⟨word, hobtains, rfl⟩ := hfirst.ok_v1 hp
    have hkept := hobtains.at_hand Driver.types fun _ _ => rfl
    rw [hword] at hobtains
    obtain ⟨device, hrun⟩ := hobtains.of_none
    obtain ⟨rfl, rfl⟩ := hrest.of_word hmid hkept
    rw [List.append_nil]
    exact ⟨word, (Device.runs_exchange_ok hrun).2, rfl⟩

end ObtainsTypes

/-! ## States -/

variable {locate : Option Bool} {st : ChannelState} {presence failures : UInt8}

/-- How the state of one channel is put together. -/
inductive Builds (index : Nat) (locate : Option Bool) (d : Driver) :
    List Turn → ChannelState → Driver → Prop
  | mk {first second third : List Turn} {presence failures raw : UInt8} {mid mid' d' : Driver}
      (hpresence : ObtainsMask .presence d first (.ok presence) mid)
      (hfailures : ObtainsMask .failures mid second (.ok failures) mid')
      (htype : mid'.ObtainsType index third (.ok raw) d') :
      Builds index locate d (first ++ second ++ third)
        ⟨index, hasChannel presence index, hasChannel failures index,
          shownType (hasChannel presence index) raw, locate⟩ d'

theorem builds_buildState (hi : index < channelCount)
    (h : Runs (buildState index locate).run d turns (.ok st) d') : Builds index locate d turns st d' := by
  obtain ⟨_, -, ⟨⟩⟩ | ⟨first, present, mid, _, rfl, hpresent, h⟩ := tries_bind.1 h
  obtain ⟨presence, hpresence, hr⟩ := runs_answer .presence hi hpresent
  cases presence <;> cases hr
  obtain ⟨_, -, ⟨⟩⟩ | ⟨second, failed, mid', _, rfl, hfailed, h⟩ := tries_bind.1 h
  obtain ⟨failures, hfailures, hr⟩ := runs_answer .failures hi hfailed
  cases failures <;> cases hr
  obtain ⟨_, -, ⟨⟩⟩ | ⟨third, reported, mid'', _, rfl, hreported, h⟩ := tries_bind.1 h
  obtain ⟨raw, htype, hr⟩ := runs_channelDriveType hi hreported
  cases raw <;> cases hr
  obtain ⟨_, shown, _, _, rfl, hreconcile, h⟩ := tries_lift_bind.1 h
  obtain ⟨rfl, rfl, rfl⟩ := runs_reconcile hreconcile
  obtain ⟨rfl, ⟨⟩, rfl⟩ := tries_pure.1 h
  rw [List.nil_append, List.append_nil, ← List.append_assoc, ← shownType_eq]
  exact .mk hpresence hfailures htype

/-- With the masks at hand only the type is read. -/
theorem Builds.of_holds (hd : d.Holds presence failures) (h : Builds index locate d turns st d') :
    ∃ raw, d.ObtainsType index turns (.ok raw) d' ∧
      st = ⟨index, hasChannel presence index, hasChannel failures index,
        shownType (hasChannel presence index) raw, locate⟩ := by
  cases h with
  | @mk first second third p f raw mid mid' _ hpresence hfailures htype =>
    have hpresent : Mask.presence.held d = some presence := hd.1
    have hfailed : Mask.failures.held d = some failures := hd.2
    rw [ObtainsMask, hpresent] at hpresence
    obtain ⟨rfl, hr, rfl⟩ := hpresence.of_held
    obtain rfl := Except.ok.inj hr
    rw [ObtainsMask, hfailed] at hfailures
    obtain ⟨rfl, hr, rfl⟩ := hfailures.of_held
    obtain rfl := Except.ok.inj hr
    exact ⟨raw, htype, rfl⟩

variable {s : Snapshot} {states : List ChannelState}

/-- The states of the channels that follow, from masks at hand. -/
theorem states_of_holds (hindices : ∀ i ∈ indices, i < channelCount) (hd : d.Holds s.presence s.failures)
    (h : Runs (indices.mapM fun i => buildState i (s.locate.map (hasChannel · i))).run d turns
      (.ok states) d') :
    ∃ types, ObtainsTypes indices d turns types d' ∧ states = List.zipWith s.state indices types := by
  -- Both masks stay at hand from one channel to the next, since reading a type touches neither.
  induction indices generalizing d turns states with
  | nil =>
    obtain ⟨rfl, ⟨⟩, rfl⟩ := tries_pure.1 h
    exact ⟨[], .nil, rfl⟩
  | cons i indices ih =>
    rw [List.forall_mem_cons] at hindices
    obtain ⟨first, st, mid, rest, sts, rfl, rfl, hfirst, hrest⟩ := tries_mapM_cons h
    obtain ⟨raw, htype, rfl⟩ := (builds_buildState hindices.1 hfirst).of_holds hd
    obtain ⟨-, hpresence, hfailures⟩ := htype.frame
    have hmid : mid.Holds s.presence s.failures := ⟨hpresence.trans hd.1, hfailures.trans hd.2⟩
    obtain ⟨types, htypes, rfl⟩ := ih hindices.2 hmid hrest
    exact ⟨raw :: types, .cons htype htypes, rfl⟩

/-- The states of channels of a driver that has no mask at hand: the masks are read for the first of
them. -/
theorem states_of_none {locate : Option UInt8} (hindices : ∀ i ∈ index :: indices, i < channelCount)
    (hpresence : d.presence = none) (hfailures : d.failures = none)
    (h : Runs ((index :: indices).mapM fun i => buildState i (locate.map (hasChannel · i))).run d turns
      (.ok states) d') :
    ∃ (s : Snapshot) (first second third : List Turn) (mid : Driver),
      turns = first ++ second ++ third ∧ s.locate = locate ∧
      d.protocol.ReadsMask d.protocol.presenceRegister first s.presence ∧
      d.protocol.ReadsMask d.protocol.failuresRegister second s.failures ∧
      mid.protocol = d.protocol ∧ mid.types = d.types ∧
      ObtainsTypes (index :: indices) mid third s.types d' ∧
      states = List.zipWith s.state (index :: indices) s.types := by
  rw [List.forall_mem_cons] at hindices
  obtain ⟨_, st, next, rest, sts, rfl, rfl, hfirst, hrest⟩ := tries_mapM_cons h
  cases builds_buildState hindices.1 hfirst with
  | @mk first second third presence failures raw mid mid' _ hpresent hfailed htype =>
    -- The first channel reads both masks, and they are at hand for all that follow.
    have hkept : mid.presence = some presence := hpresent.at_hand Driver.presence fun _ _ => rfl
    have hkept' : mid'.failures = some failures := hfailed.at_hand Driver.failures fun _ _ => rfl
    obtain ⟨hprotocol, htypes, hother⟩ := obtainsMask_frame hpresent
    obtain ⟨hprotocol', htypes', hother'⟩ := obtainsMask_frame hfailed
    have hnone : Mask.failures.held mid = none := (hother .failures (by decide)).trans hfailures
    have hstays : mid'.presence = some presence := (hother' .presence (by decide)).trans hkept
    obtain ⟨-, hstays', hstays''⟩ := htype.frame
    rw [ObtainsMask, show Mask.presence.held d = none from hpresence] at hpresent
    obtain ⟨_, hreads⟩ := hpresent.of_none
    rw [ObtainsMask, hnone, hprotocol] at hfailed
    obtain ⟨_, hreads'⟩ := hfailed.of_none
    have hholds : next.Holds presence failures := ⟨hstays'.trans hstays, hstays''.trans hkept'⟩
    obtain ⟨types, hall, rfl⟩ :=
      states_of_holds (s := ⟨presence, failures, raw :: [], locate⟩) hindices.2 hholds hrest
    refine ⟨⟨presence, failures, raw :: types, locate⟩, first, second, third ++ rest, mid', by simp, rfl,
      Protocol.readsMask_readMask hreads, Protocol.readsMask_readMask hreads', hprotocol'.trans hprotocol,
      htypes'.trans htypes, .cons htype hall, rfl⟩

/-- The states of all channels are what a snapshot shows that was read meanwhile. -/
theorem captures_channelStates (h : Runs channelStates.run d turns (.ok states) d') :
    ∃ s : Snapshot, Captures d.protocol turns s ∧ states = s.states := by
  have hindices : ∀ i ∈ List.range channelCount, i < channelCount := fun i => List.mem_range.1
  obtain ⟨_, _, fresh, _, rfl, hrefresh, hcollect⟩ := tries_lift_bind.1 h
  obtain ⟨rfl, -, hprotocol, hpresence, hfailures, hword⟩ := runs_refresh hrefresh
  obtain ⟨_, -, ⟨⟩⟩ | ⟨front, locate, next, rest, rfl, hsupported, hstates⟩ := tries_bind.1 hcollect
  obtain ⟨outcome, hlocate, hr⟩ := runs_ifSupported.1 hsupported
  rw [List.nil_append]
  obtain ⟨hp, rfl, rfl, rfl⟩ | ⟨hp, result, device, hread, rfl, hnext⟩ := runs_locateMask hlocate
  · rw [hprotocol] at hp
    cases hr
    obtain ⟨⟨presence, failures, types, _⟩, first, second, third, mid, rfl, rfl, hreads, hreads', hmid, -,
      htypes, rfl⟩ := states_of_none hindices hpresence hfailures hstates
    rw [hprotocol, hp] at hreads hreads' hmid
    rw [hp]
    exact ⟨_, .v0 hreads hreads' (htypes.readsTypes hmid), rfl⟩
  · rw [hprotocol] at hp
    cases result <;> cases hr
    have hnone : next.presence = none ∧ next.failures = none ∧ next.types = none ∧ next.protocol = .v1 :=
      hnext ▸ ⟨hpresence, hfailures, hword hp, hprotocol.trans hp⟩
    obtain ⟨hpresence, hfailures, hword, hprotocol⟩ := hnone
    obtain ⟨⟨presence, failures, types, _⟩, first, second, third, mid, rfl, rfl, hreads, hreads', hmid, htype,
      htypes, rfl⟩ := states_of_none hindices hpresence hfailures hstates
    rw [hprotocol] at hreads hreads' hmid
    obtain ⟨word, hasks, rfl⟩ := htypes.asks hmid (htype.trans hword)
    rw [hp, ← List.append_assoc, ← List.append_assoc]
    exact ⟨_, .v1 (Device.runs_exchange_ok hread).2 hreads hreads' hasks, rfl⟩

/-- The states of all channels, at any site and whatever the driver kept before, are one snapshot that is
read in this call. There is one for each channel, in order; a bay shows no type exactly if it is empty,
and the locate LEDs are there exactly if the generation can read them back. -/
theorem channelStates_snapshot {σ : Type} (site : Site σ) (bench : Bench σ) (d : Driver)
    {states : List ChannelState} (h : (site.run (channelStates.run.run d) bench).1.1 = .ok states) :
    ∃ s : Snapshot, Captures d.protocol (site.moves (channelStates.run.run d) bench) s ∧
      states = s.states ∧ states.map (·.index) = List.range channelCount ∧
      ∀ st ∈ states, (st.driveType = .noDisk ↔ st.present = false) ∧
        (st.locate.isSome = true ↔ d.protocol = .v1) := by
  have hcourse := site.course_moves (channelStates.run.run d) bench
  rw [← Prod.eta (site.run _ bench).1, h] at hcourse
  obtain ⟨s, hcaptures, rfl⟩ := captures_channelStates hcourse
  have hlength := hcaptures.length_types
  refine ⟨s, hcaptures, rfl, Snapshot.map_index_states hlength, fun st hst => ?_⟩
  obtain ⟨index, raw, rfl⟩ := Snapshot.mem_states hst
  refine ⟨?_, ?_⟩
  · rw [Snapshot.state, shownType_eq]
    exact reconciled_eq_noDisk
  · rw [Snapshot.state, Option.isSome_map]
    exact hcaptures.locate_isSome

/-- A driver of the newer generation that kept other masks and other types. -/
def staleV1 : Driver :=
  { Driver.ofDevice ⟨"bp", true, .none⟩ .v1 with
    presence := some 0x00
    failures := some 0xFF
    types := some 0x0000 }

/-- A bus that fails once and then answers four reads: two drives, one of them failed and of a type
without a meaning, and a type where there is no drive. -/
def twoDrives : Bench Playback where
  state := {
    connects := []
    functionality := .ok .required
    tape := {
      cues := [⟨some (.os Errno.noAnswer), []⟩, .ofValue 1, .ofValue 3, .ofValue 2, .ofValue 0x1E]
      last := ⟨some (.os Errno.noAnswer), []⟩ } }
  events := #[]

/-- What the driver is to show of them. -/
def twoDrivesShown : List ChannelState :=
  ⟨0, true, false, .nvme, some true⟩ :: ⟨1, true, true, .unknown, some false⟩ ::
    [2, 3, 4, 5, 6, 7].map fun index => ⟨index, false, false, .noDisk, some false⟩

/-- Nothing that the driver kept shows in the states. -/
theorem channelStates_snapshot_stale :
    (Playback.bus.site.run (channelStates.run.run staleV1) twoDrives).1.1 = .ok twoDrivesShown ∧
      ∃ s : Snapshot, Captures .v1 (Playback.bus.site.moves (channelStates.run.run staleV1) twoDrives) s ∧
        twoDrivesShown = s.states := by
  have hcomputed : (Playback.bus.site.run (channelStates.run.run staleV1) twoDrives).1.1 =
      .ok twoDrivesShown := by
    decide +kernel
  obtain ⟨s, hcaptures, hstates, -, -⟩ :=
    channelStates_snapshot Playback.bus.site twoDrives staleV1 hcomputed
  exact ⟨hcomputed, s, hcaptures, hstates⟩

end Driver
end Backplane
