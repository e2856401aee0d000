import Backplane.Proofs.Drive
import Backplane.Proofs.Driver.Channels
import Backplane.Proofs.Driver.Requests
import Backplane.Proofs.Simulator.Bus

/-!
# Drives that are plugged while a driver looks for changes

A bay is a simulated controller together with somebody who plugs drives. Drives may be plugged in front
of every turn of the bus, so also between the reads of one check for changes, and while the controller
boots. The bay remembers in which order drives were plugged and the latch was read.

Nothing but a read of the latch clears it, and a check for changes reads it last. So a drive that was
plugged stays in the latch up to the first check that comes to an end behind it.

* `Bay.Passes`: what turns do that do not read the latch.
* `Bay.Checks`: the ways a check for changes ends.
* `Watch.Keen.step`: one step, and the invariant between two steps.
* `Watch.check_informs`: every check, behind every run of checks and other calls.
-/
namespace Backplane

/-- A drive of a raw type that is seated in a channel, or a channel that is emptied. -/
abbrev Plug := Fin channelCount × Option UInt8

/-- What a bay remembers. -/
inductive Incident where
  | plugged (plug : Plug)
  /-- The latch was read, and the presence mask was this. -/
  | latched (presence : UInt8)
  deriving DecidableEq, Repr

/-- A drive was plugged, and the latch has not been read since. -/
def Pending (past : List Incident) : Prop :=
  ∃ first plug rest, past = first ++ .plugged plug :: rest ∧ ∀ presence, .latched presence ∉ rest

section
variable {past : List Incident} {presence : UInt8}

theorem pending_plugged (plug : Plug) : Pending (past ++ [.plugged plug]) :=
  ⟨past, plug, [], rfl, by simp⟩

theorem not_pending_latched : ¬ Pending (past ++ [.latched presence]) := by
  rintro ⟨first, plug, rest, heq, hrest⟩
  obtain rfl | ⟨rest, last, rfl⟩ := List.eq_nil_or_concat rest
  · simpa using (List.append_inj' heq rfl).2
  · rw [List.concat_eq_append, ← List.cons_append, ← List.append_assoc] at heq
    obtain ⟨-, hlast⟩ := List.append_inj' heq rfl
    exact hrest presence (by simp_all)

/-- Where something has happened and nothing is pending, the latch was read last. -/
theorem exists_latched (hpast : past ≠ []) (h : ¬ Pending past) :
    ∃ first presence, past = first ++ [.latched presence] := by
  obtain rfl | ⟨first, last, rfl⟩ := List.eq_nil_or_concat past
  · exact absurd rfl hpast
  rw [List.concat_eq_append] at h ⊢
  cases last with
  | plugged plug => exact absurd (pending_plugged plug) h
  | latched presence => exact ⟨first, presence, rfl⟩

end

/-! ## One request of the controller -/

namespace Simulator
variable {s s' : Simulator} {r : Request} {α : Type}

/-- The controller keeps its latch and its drives, and presence is told as it is. -/
structure Leaves (s s' : Simulator) : Prop where
  latch : s'.latch = s.latch
  presence : s'.config.presence = s.config.presence
  glitch : s.faults.glitchPresence = 0 → s'.faults.glitchPresence = 0

theorem Leaves.refl (s : Simulator) : s.Leaves s := ⟨rfl, rfl, id⟩

theorem leaves_settleBoot (h : s.Leaves s') : s.Leaves s'.settleBoot.2 := by
  unfold settleBoot
  cases s'.booting with
  | none => exact h
  | some elapsed =>
    dsimp only
    split <;> exact ⟨h.latch, h.presence, h.glitch⟩

theorem leaves_reboot (s : Simulator) : s.Leaves s.reboot.2 := by
  unfold reboot
  exact leaves_settleBoot ⟨rfl, rfl, id⟩

theorem leaves_elapse (s : Simulator) (us : UInt32) : s.Leaves (s.elapse us).2 := by
  unfold elapse
  exact leaves_settleBoot ⟨rfl, rfl, id⟩

theorem answerBoot_next {value : r.Value} {outcome : Bool × Simulator} :
    (answerBoot value outcome).next = outcome.2 := by
  obtain ⟨_ | _, _⟩ := outcome <;> rfl

theorem leaves_serveWriteByte (value : UInt8) : s.Leaves (s.serveWriteByte value).next := by
  unfold serveWriteByte
  cases s.config.protocol <;>
  · dsimp only
    repeat' split
    all_goals
      first
      | exact answerBoot_next ▸ leaves_reboot s
      | exact ⟨rfl, rfl, id⟩

theorem leaves_serveReadByteData {command : UInt8} (h : command ≠ V1.latchRegister) :
    s.Leaves (s.serveReadByteData command).next := by
  have hpresence : s.Leaves (s.servePresence command).next := by
    unfold servePresence
    split
    · exact .refl s
    · exact ⟨rfl, rfl, fun hglitch => absurd hglitch ‹_›⟩
  unfold serveReadByteData
  split
  · unfold serveIdent
    split <;> exact ⟨rfl, rfl, id⟩
  · cases s.config.protocol <;>
    · dsimp only
      repeat' split
      all_goals
        first
        | exact hpresence
        | exact absurd ‹_› h
        | exact .refl s

theorem leaves_serveWriteByteData (command value : UInt8) :
    s.Leaves (s.serveWriteByteData command value).next := by
  unfold serveWriteByteData
  cases s.config.protocol <;>
  · dsimp only
    repeat' split
    all_goals exact ⟨rfl, rfl, id⟩

theorem leaves_serveTransfer (messages : List Message) : s.Leaves (s.serveTransfer messages).next := by
  unfold serveTransfer
  split
  · next frame _ =>
    split
    · cases frame <;> exact ⟨rfl, rfl, id⟩
    · exact .refl s
  · exact .refl s

/-- Only a read of the latch changes it, and no request changes which drives are present. -/
theorem leaves_attempt (hr : r ≠ latchRequest) : s.Leaves (attempt r s).next := by
  by_cases hf : r = .functionality
  · subst hf
    exact .refl s
  rw [attempt_eq hf]
  split
  · exact ⟨rfl, rfl, id⟩
  refine (fun h : (s.count r).Leaves _ => ⟨h.latch, h.presence, h.glitch⟩) ?_
  generalize s.count r = s
  cases r with
  | functionality => exact .refl s
  | readByte => rw [serve]; split <;> exact .refl s
  | writeByte value => exact leaves_serveWriteByte value
  | readByteData command => exact leaves_serveReadByteData fun h => hr (h ▸ rfl)
  | writeByteData command value => exact leaves_serveWriteByteData command value
  | readWordData command => rw [serve]; split <;> exact .refl s
  | writeWordData command value => exact .refl s
  | readBlock command length => rw [serve]; split <;> exact .refl s
  | transfer messages => exact leaves_serveTransfer messages

theorem leaves_alike (h : s.Alike s') : s.Leaves s' := by
  have hlatch : s'.latch = s.latch := congrArg (·.latch) h.1
  have hglitch : s'.faults.glitchPresence = s.faults.glitchPresence :=
    congrArg (·.faults.glitchPresence) h.1
  exact ⟨hlatch, congrArg Config.presence h.config_eq, hglitch.trans⟩

/-- A read of the latch that is answered tells it and clears it. -/
theorem attempt_latch {latch : UInt8} (h : (attempt latchRequest s).value.result = .ok latch) :
    latch = s.latch ∧ (attempt latchRequest s).next = { s.count latchRequest with latch := 0 } := by
  rw [attempt_eq (by decide)] at h ⊢
  split at h
  · cases h
  · next hboot =>
    rw [if_neg hboot]
    rw [serve, serveReadByteData, if_neg (by decide)] at h ⊢
    cases hp : (s.count latchRequest).config.protocol with
    | v0 =>
      rw [hp] at h
      cases h
    | v1 =>
      rw [hp] at h
      cases h
      exact ⟨rfl, rfl⟩

/-- A read of the presence mask that is answered tells it as it is, where it is not to be garbled. -/
theorem attempt_presence {presence : UInt8} (hglitch : s.faults.glitchPresence = 0)
    (h : (attempt (.readByteData V1.presenceRegister) s).value.result = .ok presence) :
    presence = s.config.presence := by
  rw [attempt_eq (by decide)] at h
  split at h
  · cases h
  · rw [serve, serveReadByteData, if_neg (by decide)] at h
    cases hp : (s.count (.readByteData V1.presenceRegister)).config.protocol with
    | v0 =>
      rw [hp] at h
      cases h
    | v1 =>
      rw [hp] at h
      dsimp only at h
      rw [if_pos rfl, servePresence, if_pos (by exact hglitch)] at h
      cases h
      rfl

end Simulator

/-! ## Turns of the bay -/

/-- A controller whose drives come and go. `plan` lists what is plugged in front of each turn of the bus. -/
structure Bay where
  controller : Simulator
  plan : List (List Plug)
  past : List Incident

namespace Bay

/-- Plugs one drive. -/
def plug (b : Bay) (p : Plug) : Bay :=
  { b with
    controller := b.controller.hotPlug p.1 p.2
    past := b.past ++ [.plugged p] }

/-- Plugs what comes next. -/
def advance (b : Bay) : Bay :=
  match b.plan with
  | [] => b
  | plugs :: rest => plugs.foldl plug { b with plan := rest }

/-- The bay after its controller served. -/
def serve {α : Type} (b : Bay) (served : Served α Simulator) : Served α Bay :=
  ⟨served.value, { b with controller := served.next }, served.events⟩

/-- What the bay remembers of an attempt: an answered read of the latch. -/
def notes (b : Bay) (r : Request) (reply : Reply r) : List Incident :=
  if r = latchRequest ∧ reply.result.isOk then [.latched b.controller.config.presence] else []

def attempt (r : Request) (b : Bay) : Served (Reply r) Bay :=
  serve { b with past := b.past ++ b.notes r (Simulator.attempt r b.controller).value }
    (Simulator.attempt r b.controller)

/-- The bus of a bay. -/
def bus (label : String) : Bus Bay where
  connect b := b.advance.serve (Simulator.connect label b.advance.controller)
  attempt r b := attempt r b.advance
  delay us b := b.advance.serve (Simulator.delay us b.advance.controller)

/-- These drives were plugged, and the latch was not read. -/
structure Passes (b : Bay) (plugs : List Plug) (b' : Bay) : Prop where
  past : b'.past = b.past ++ plugs.map .plugged
  latch : b.controller.latch ≠ 0 ∨ plugs ≠ [] → b'.controller.latch ≠ 0
  presence : plugs = [] → b'.controller.config.presence = b.controller.config.presence
  glitch : b.controller.faults.glitchPresence = 0 → b'.controller.faults.glitchPresence = 0

variable {b b' : Bay} {label : String} {r : Request} {turn : Turn} {turns : List Turn}

theorem Passes.refl (b : Bay) : b.Passes [] b := ⟨by simp, by simp, fun _ => rfl, id⟩

theorem Passes.trans {mid : Bay} {first second : List Plug} (h : b.Passes first mid)
    (h' : mid.Passes second b') : b.Passes (first ++ second) b' where
  past := by rw [h'.past, h.past, List.map_append, List.append_assoc]
  latch := by
    rintro (hlatch | hplugs)
    · exact h'.latch (.inl (h.latch (.inl hlatch)))
    · by_cases hfirst : first = []
      · exact h'.latch (.inr fun hsecond => hplugs (by rw [hfirst, hsecond, List.append_nil]))
      · exact h'.latch (.inl (h.latch (.inr hfirst)))
  presence := by
    intro hplugs
    obtain ⟨hfirst, hsecond⟩ := List.append_eq_nil_iff.1 hplugs
    exact (h'.presence hsecond).trans (h.presence hfirst)
  glitch := fun hglitch => h'.glitch (h.glitch hglitch)

theorem passes_plug (b : Bay) (p : Plug) : b.Passes [p] (b.plug p) where
  past := rfl
  latch := fun _ => or_channelBit_ne_zero _ p.1.isLt
  presence := by simp
  glitch := by
    obtain ⟨channel, _ | value⟩ := p <;> exact id

theorem passes_plugs (b : Bay) (plugs : List Plug) : b.Passes plugs (plugs.foldl plug b) := by
  induction plugs generalizing b with
  | nil => exact .refl b
  | cons p plugs ih => exact (passes_plug b p).trans (ih (b.plug p))

theorem passes_advance (b : Bay) : ∃ plugs, b.Passes plugs b.advance := by
  unfold advance
  cases b.plan with
  | nil => exact ⟨[], .refl b⟩
  | cons plugs rest =>
    have h := passes_plugs { b with plan := rest } plugs
    exact ⟨plugs, h.past, h.latch, h.presence, h.glitch⟩

theorem passes_serve {α : Type} {served : Served α Simulator} (h : b.controller.Leaves served.next) :
    b.Passes [] (b.serve served).next where
  past := by simp [serve]
  latch := by
    rintro (hlatch | hplugs)
    · exact h.latch ▸ hlatch
    · exact absurd rfl hplugs
  presence := fun _ => h.presence
  glitch := h.glitch

/-- An attempt that does not read the latch, or that fails. -/
theorem passes_attempt (h : r ≠ latchRequest ∨ ∃ e, (attempt r b).value.result = .error e) :
    b.Passes [] (attempt r b).next := by
  have hleaves : b.controller.Leaves (Simulator.attempt r b.controller).next := by
    obtain hr | ⟨e, he⟩ := h
    · exact Simulator.leaves_attempt hr
    · exact Simulator.leaves_alike (Simulator.attempt_error he).2
  have hnotes : b.notes r (Simulator.attempt r b.controller).value = [] := by
    refine if_neg ?_
    rintro ⟨hr, hok⟩
    obtain hne | ⟨e, he⟩ := h
    · exact hne hr
    · change (Simulator.attempt r b.controller).value.result = _ at he
      simp [he, Except.isOk, Except.toBool] at hok
  rw [attempt, hnotes, List.append_nil]
  exact passes_serve hleaves

/-- A read of the latch that is answered. -/
theorem attempt_latch {latch : UInt8} (h : (attempt latchRequest b).value.result = .ok latch) :
    latch = b.controller.latch ∧ (attempt latchRequest b).next =
      { b with
        controller := { b.controller.count latchRequest with latch := 0 }
        past := b.past ++ [.latched b.controller.config.presence] } := by
  change (Simulator.attempt latchRequest b.controller).value.result = _ at h
  obtain ⟨hlatch, hnext⟩ := Simulator.attempt_latch h
  have hnotes : b.notes latchRequest (Simulator.attempt latchRequest b.controller).value =
      [.latched b.controller.config.presence] :=
    if_pos ⟨rfl, by rw [h]; rfl⟩
  exact ⟨hlatch, by rw [attempt, hnotes, serve, hnext]⟩

/-- What a turn does that does not read the latch, or that fails. -/
theorem passes_serves (h : (bus label).Serves b turn b')
    (hturn : turn.request? ≠ some latchRequest ∨ turn.Fails) : ∃ plugs, b.Passes plugs b' := by
  obtain ⟨plugs, hadvance⟩ := passes_advance b
  obtain ⟨a, answer⟩ := turn
  cases a with
  | connect =>
    obtain ⟨-, rfl⟩ := h
    have hleaves : b.advance.controller.Leaves (Simulator.connect label b.advance.controller).next := by
      unfold Simulator.connect
      split <;> exact ⟨rfl, rfl, id⟩
    exact ⟨_, hadvance.trans (passes_serve hleaves)⟩
  | attempt r =>
    obtain ⟨rfl, rfl⟩ := h
    refine ⟨_, hadvance.trans (passes_attempt ?_)⟩
    exact hturn.imp_left fun hne hr => hne (congrArg some hr)
  | delay us =>
    obtain rfl := h
    have hleaves : b.advance.controller.Leaves (Simulator.delay us b.advance.controller).next := by
      change Simulator.Leaves _ ((Simulator.bus label).delay us _).next
      rw [Simulator.delay_next]
      exact Simulator.leaves_elapse _ us
    exact ⟨_, hadvance.trans (passes_serve hleaves)⟩
  | _ => exact ⟨[], h ▸ .refl b⟩

theorem passes_follows (h : (bus label).Follows b turns b')
    (hturns : ∀ turn ∈ turns, turn.request? ≠ some latchRequest ∨ turn.Fails) :
    ∃ plugs, b.Passes plugs b' := by
  induction turns generalizing b with
  | nil => exact ⟨[], h ▸ .refl b⟩
  | cons turn turns ih =>
    obtain ⟨mid, hserves, hrest⟩ := h
    rw [List.forall_mem_cons] at hturns
    obtain ⟨first, hfirst⟩ := passes_serves hserves hturns.1
    obtain ⟨second, hsecond⟩ := ih hrest hturns.2
    exact ⟨_, hfirst.trans hsecond⟩

variable {d d' : Device} {register : UInt8} {e : BusError}

/-- A register that could not be read. -/
theorem passes_unread (hrun : Runs (Device.readByteData register).run d turns (.error e) d')
    (h : (bus label).Follows b turns b') : ∃ plugs, b.Passes plugs b' := by
  refine passes_follows h fun turn hturn => .inr ?_
  cases hd : d.operational with
  | true =>
    obtain ⟨replies, rfl, hsettles, -⟩ := Device.runs_exchange hd hrun
    exact hsettles.fails turn hturn
  | false =>
    obtain ⟨rfl, -⟩ := Device.runs_exchange_refused hd hrun
    cases hturn

/-- A register that was read, in the last attempt. -/
theorem passes_read {value : UInt8} (hrun : Runs (Device.readByteData register).run d turns (.ok value) d')
    (h : (bus label).Follows b turns b') :
    ∃ plugs mid, b.Passes plugs mid ∧ (attempt (.readByteData register) mid).value.result = .ok value ∧
      b' = (attempt (.readByteData register) mid).next := by
  cases hd : d.operational with
  | true =>
    obtain ⟨_, rfl, ⟨failed, last, rfl, hfailed, hlast, -⟩, -⟩ := Device.runs_exchange hd hrun
    rw [tries_append, Bus.follows_append] at h
    obtain ⟨t, hfirst, _, ⟨rfl, rfl⟩, rfl⟩ := h
    obtain ⟨first, hpasses⟩ := passes_follows hfirst fun turn hturn => by
      obtain ⟨reply, hreply, rfl⟩ := mem_tries.1 hturn
      exact .inr (hfailed reply hreply)
    obtain ⟨second, hadvance⟩ := passes_advance t
    exact ⟨_, _, hpasses.trans hadvance, hlast, rfl⟩
  | false =>
    obtain ⟨-, hrefused, -⟩ := Device.runs_exchange_refused hd hrun
    cases hrefused

/-- The bay behind a read of the latch. -/
def latched (b : Bay) : Bay :=
  { b with
    controller := { b.controller.count latchRequest with latch := 0 }
    past := b.past ++ [.latched b.controller.config.presence] }

/-- The ways a check for changes ends: without a read of the latch, or with one behind everything else. -/
inductive Checks (b : Bay) (cache : ChangeCache) : ChangeCache × Except Error Bool → Bay → Prop
  | failed {e : Error} {plugs : List Plug} {b' : Bay} (h : b.Passes plugs b') :
      Checks b cache (cache, .error e) b'
  | ended {plugs : List Plug} {mid : Bay} {seen failures : UInt8} (h : b.Passes plugs mid)
      (hseen : plugs = [] → seen = mid.controller.config.presence) :
      Checks b cache
        (.note (fingerprint seen failures),
          .ok (cache.differs (fingerprint seen failures) || mid.controller.latch != 0))
        mid.latched

/-- A check on the bus of a bay whose controller tells presence as it is. -/
theorem checks_follows {d d' : Driver} {cache : ChangeCache} {p : ChangeCache × Except Error Bool}
    (hglitch : b.controller.faults.glitchPresence = 0) (hsearch : V1.Searches cache d turns p d')
    (h : (bus label).Follows b turns b') : b.Checks cache p b' := by
  -- In front of the second and the third read the drives were plugged that came meanwhile.
  have hread : ∀ {b₁ b₂ turns register value d₁ d₂}, register ≠ V1.latchRegister →
      Runs (Device.readByteData register).run d₁ turns (.ok value) d₂ →
      (bus label).Follows b₁ turns b₂ → ∃ plugs, b₁.Passes plugs b₂ := by
    intro b₁ b₂ turns register value d₁ d₂ hne hrun hfollows
    obtain ⟨plugs, mid, hpasses, -, rfl⟩ := passes_read hrun hfollows
    exact ⟨_, hpasses.trans (passes_attempt (.inl fun heq => hne (Request.readByteData.inj heq)))⟩
  cases hsearch with
  | presence hrun =>
    obtain ⟨plugs, hpasses⟩ := passes_unread hrun h
    exact .failed hpasses
  | failures hpresence hrun =>
    obtain ⟨b₁, hfirst, hsecond⟩ := Bus.follows_append.1 h
    obtain ⟨first, hfirst⟩ := hread (by decide) hpresence hfirst
    obtain ⟨second, hsecond⟩ := passes_unread hrun hsecond
    exact .failed (hfirst.trans hsecond)
  | latch hpresence hfailures hrun =>
    obtain ⟨b₂, h, hthird⟩ := Bus.follows_append.1 h
    obtain ⟨b₁, hfirst, hsecond⟩ := Bus.follows_append.1 h
    obtain ⟨first, hfirst⟩ := hread (by decide) hpresence hfirst
    obtain ⟨second, hsecond⟩ := hread (by decide) hfailures hsecond
    obtain ⟨third, hthird⟩ := passes_unread hrun hthird
    exact .failed ((hfirst.trans hsecond).trans hthird)
  | searched hpresence hfailures hlatch =>
    obtain ⟨b₂, h, hthird⟩ := Bus.follows_append.1 h
    obtain ⟨b₁, hfirst, hsecond⟩ := Bus.follows_append.1 h
    obtain ⟨first, asked, hasking, hpresence, rfl⟩ := passes_read hpresence hfirst
    have hasked : asked.Passes [] (attempt (.readByteData V1.presenceRegister) asked).next :=
      passes_attempt (.inl (by decide))
    obtain ⟨second, hsecond⟩ := hread (by decide) hfailures hsecond
    obtain ⟨third, mid, hmid, hlatch, rfl⟩ := passes_read hlatch hthird
    obtain ⟨rfl, hnext⟩ := attempt_latch hlatch
    have hrest := (hasked.trans hsecond).trans hmid
    rw [hnext]
    refine .ended (hasking.trans hrest) fun hplugs => ?_
    rw [hrest.presence (List.append_eq_nil_iff.1 hplugs).2]
    exact Simulator.attempt_presence (hasking.glitch hglitch) hpresence

end Bay

/-! ## Checks and other calls, one after the other -/

/-- What somebody does who watches a bay. -/
inductive Watch.Step where
  | check
  /-- Anything else that a driver does, a poll apart. -/
  | call (c : Driver.Call)
  deriving DecidableEq, Repr

/-- A driver that watches a bay, with one cache for all its checks. -/
structure Watch where
  driver : Driver
  cache : ChangeCache
  bench : Bench Bay

namespace Watch

/-- What happened in the bay. -/
def past (w : Watch) : List Incident := w.bench.state.past

/-- One step, and what it said if it was a check. -/
def step (label : String) (w : Watch) : Step → Option (Except Error Bool) × Watch
  | .check =>
    match (Bay.bus label).site.run (StateT.run (Driver.hasStateChanged w.cache) w.driver) w.bench with
    | (((cache, said), driver), bench) => (some said, ⟨driver, cache, bench⟩)
  | .call c =>
    match (Bay.bus label).site.run ((Driver.perform c).run w.driver) w.bench with
    | ((_, driver), bench) => (none, ⟨driver, w.cache, bench⟩)

/-- Steps, one after the other. -/
def run (label : String) (w : Watch) (steps : List Step) : Watch :=
  steps.foldl (fun w s => (w.step label s).2) w

/-- What a check says that came to an end: `plugs` came since the step in front of it, and presence was
`presence` when it read the latch. -/
structure Informs (past : List Incident) (plugs : List Plug) (presence : UInt8) (cache : ChangeCache)
    (changed : Bool) : Prop where
  /-- What is pending is told. -/
  pending : Pending (past ++ plugs.map .plugged) → changed = true
  /-- Where nothing is told, nothing was plugged since the latch was read last. -/
  quiet : changed = false → plugs = [] ∧ ∃ first before, past = first ++ [.latched before]
  /-- Then the cache holds what is present. -/
  holds : changed = false → ∃ failures, cache = .note (fingerprint presence failures)

/-- What a step comes to. -/
inductive Comes (w : Watch) : Option (Except Error Bool) × Watch → Prop
  /-- No check came to an end: nothing is told, and the latch was not read. -/
  | silent {said : Option (Except Error Bool)} {w' : Watch} {plugs : List Plug}
      (hsaid : ∀ changed, said ≠ some (.ok changed)) (hpast : w'.past = w.past ++ plugs.map .plugged)
      (hcache : w'.cache = w.cache) : Comes w (said, w')
  | informed {changed : Bool} {w' : Watch} {plugs : List Plug} {presence : UInt8}
      (hpast : w'.past = w.past ++ plugs.map .plugged ++ [.latched presence])
      (hinforms : Informs w.past plugs presence w'.cache changed) : Comes w (some (.ok changed), w')

/-- What holds between two steps. -/
structure Keen (w : Watch) : Prop where
  protocol : w.driver.protocol = .v1
  glitch : w.bench.state.controller.faults.glitchPresence = 0
  latch : Pending w.past → w.bench.state.controller.latch ≠ 0
  cache : w.cache = .empty ∨ ∃ presence, .latched presence ∈ w.past

variable {w : Watch} {label : String}

theorem pending_passes {b b' : Bay} {plugs : List Plug} (h : b.Passes plugs b')
    (hlatch : Pending b.past → b.controller.latch ≠ 0) : Pending b'.past → b'.controller.latch ≠ 0 := by
  intro hpending
  by_cases hplugs : plugs = []
  · rw [h.past, hplugs, List.map_nil, List.append_nil] at hpending
    exact h.latch (.inl (hlatch hpending))
  · exact h.latch (.inr hplugs)

/-- A step in which the latch is not read. -/
theorem Keen.passes {driver : Driver} {bench : Bench Bay} {plugs : List Plug} (hw : w.Keen)
    (hdriver : driver.protocol = .v1) (h : w.bench.state.Passes plugs bench.state) :
    Keen ⟨driver, w.cache, bench⟩ where
  protocol := hdriver
  glitch := h.glitch hw.glitch
  latch := pending_passes h hw.latch
  cache := by
    refine hw.cache.imp_right fun ⟨presence, hmem⟩ => ⟨presence, ?_⟩
    change _ ∈ bench.state.past
    rw [h.past]
    exact List.mem_append_left _ hmem

theorem past_latched {b mid : Bay} {plugs : List Plug} (h : b.Passes plugs mid) :
    mid.latched.past = b.past ++ plugs.map .plugged ++ [.latched mid.controller.config.presence] := by
  rw [Bay.latched, h.past]

/-- A step that ends with a read of the latch. -/
theorem Keen.latched {driver : Driver} {cache : ChangeCache} {bench : Bench Bay} {mid : Bay}
    {plugs : List Plug} (hw : w.Keen) (hdriver : driver.protocol = .v1)
    (h : w.bench.state.Passes plugs mid) (hstate : bench.state = mid.latched) :
    Keen ⟨driver, cache, bench⟩ where
  protocol := hdriver
  glitch := hstate ▸ h.glitch hw.glitch
  latch := by
    change Pending bench.state.past → _
    rw [hstate]
    exact fun hpending => absurd hpending not_pending_latched
  cache := by
    refine .inr ⟨mid.controller.config.presence, ?_⟩
    change _ ∈ bench.state.past
    rw [hstate]
    exact List.mem_append_right _ (List.mem_singleton.2 rfl)

/-- A check that says what is in the latch. -/
theorem Keen.informs {mid : Bay} {plugs : List Plug} {seen failures : UInt8} (hw : w.Keen)
    (h : w.bench.state.Passes plugs mid) (hseen : plugs = [] → seen = mid.controller.config.presence) :
    Informs w.past plugs mid.controller.config.presence (.note (fingerprint seen failures))
      (w.cache.differs (fingerprint seen failures) || mid.controller.latch != 0) := by
  have hlatch : Pending (w.past ++ plugs.map .plugged) → mid.controller.latch ≠ 0 := by
    have hmid := pending_passes h hw.latch
    rwa [h.past] at hmid
  have hquiet : (w.cache.differs (fingerprint seen failures) || mid.controller.latch != 0) = false →
      plugs = [] ∧ ∃ first before, w.past = first ++ [.latched before] := by
    intro hchanged
    obtain ⟨hdiffers, hzero⟩ := Bool.or_eq_false_iff.1 hchanged
    have hnot : ¬ Pending (w.past ++ plugs.map .plugged) := fun hpending => by
      simp [hlatch hpending] at hzero
    -- An empty cache differs from everything, so the latch has been read before.
    have hpast : w.past ≠ [] := by
      intro hnil
      obtain hempty | ⟨presence, hmem⟩ := hw.cache
      · rw [hempty] at hdiffers
        cases hdiffers
      · rw [hnil] at hmem
        cases hmem
    obtain rfl | ⟨front, last, rfl⟩ := List.eq_nil_or_concat plugs
    · rw [List.map_nil, List.append_nil] at hnot
      exact ⟨rfl, exists_latched hpast hnot⟩
    · rw [List.concat_eq_append, List.map_append, ← List.append_assoc] at hnot
      exact absurd (pending_plugged last) hnot
  refine ⟨fun hpending => ?_, hquiet, fun hchanged => ⟨failures, ?_⟩⟩
  · rw [Bool.or_eq_true, bne_iff_ne]
    exact .inr (hlatch hpending)
  · rw [hseen (hquiet hchanged).1]

/-- What one step does. -/
theorem Keen.step (hw : w.Keen) (s : Step) :
    (w.step label s).2.Keen ∧ w.Comes (w.step label s) := by
  cases s with
  | check =>
    have hruns := (Bay.bus label).site.course_moves
      (StateT.run (Driver.hasStateChanged w.cache) w.driver) w.bench
    have hfollows := Bus.follows_moves (Bay.bus label)
      (StateT.run (Driver.hasStateChanged w.cache) w.driver) w.bench
    rw [Watch.step]
    generalize (Bay.bus label).site.run _ w.bench = outcome at hruns hfollows ⊢
    obtain ⟨⟨⟨after, said⟩, driver⟩, bench⟩ := outcome
    have hsearch := Driver.runs_byProtocol.1 hruns
    rw [hw.protocol] at hsearch
    replace hsearch := V1.searches_hasStateChanged hsearch
    have hdriver : driver.protocol = .v1 := hsearch.protocol_eq.trans hw.protocol
    have hchecks := Bay.checks_follows hw.glitch hsearch hfollows
    clear hruns hfollows hsearch
    dsimp only at hchecks
    generalize hstate : bench.state = b at hchecks
    cases hchecks with
    | failed hpasses =>
      rw [← hstate] at hpasses
      exact ⟨hw.passes hdriver hpasses, .silent (by simp) hpasses.past rfl⟩
    | ended hpasses hseen =>
      have hpast := (congrArg Bay.past hstate).trans (past_latched hpasses)
      exact ⟨hw.latched hdriver hpasses hstate, .informed hpast (hw.informs hpasses hseen)⟩
  | call c =>
    have hruns := (Bay.bus label).site.course_moves ((Driver.perform c).run w.driver) w.bench
    have hfollows := Bus.follows_moves (Bay.bus label) ((Driver.perform c).run w.driver) w.bench
    rw [Watch.step]
    generalize (Bay.bus label).site.run _ w.bench = outcome at hruns hfollows ⊢
    obtain ⟨⟨v, driver⟩, bench⟩ := outcome
    obtain ⟨hdriver, hacts⟩ := Driver.sparing_perform c hw.protocol hruns
    obtain ⟨plugs, hpasses⟩ := Bay.passes_follows hfollows fun turn hturn => .inl (hacts.each turn hturn).2
    exact ⟨hw.passes hdriver hpasses, .silent (by simp) hpasses.past rfl⟩

theorem Keen.run (hw : w.Keen) (steps : List Step) : (w.run label steps).Keen := by
  induction steps generalizing w with
  | nil => exact hw
  | cons s steps ih => exact ih (hw.step s).1

/-- Behind every run of checks and other calls, with drives plugged at any time: a step either says
nothing and leaves the latch alone, or it is a check that tells what is pending. Where a check tells
nothing, nothing was plugged since the latch was read last, and the cache holds what is present. -/
theorem check_informs (label : String) (start : Watch) (steps : List Step) (s : Step)
    (hprotocol : start.driver.protocol = .v1)
    (hglitch : start.bench.state.controller.faults.glitchPresence = 0)
    (hcache : start.cache = .empty) (hpast : start.past = []) :
    (start.run label steps).Comes ((start.run label steps).step label s) := by
  have hstart : start.Keen := by
    refine ⟨hprotocol, hglitch, ?_, .inl hcache⟩
    rw [hpast]
    rintro ⟨first, plug, rest, heq, -⟩
    simp at heq
  exact ((hstart.run steps).step s).2

/-- A watch of an equipped controller. -/
def watching (plan : List (List Plug)) : Watch where
  driver := .ofDevice ⟨"bp", true, .none⟩ .v1
  cache := .empty
  bench := ⟨⟨.start (.equipped .v1) { bootTime := 100 }, plan, []⟩, #[]⟩

/-- A drive is seated and taken out again between two reads of a check that fails, since the controller
boots. The next check tells that something was plugged. -/
theorem check_informs_booting :
    let start := watching [[], [], [], [], [(1, some 2)], [(1, none)]]
    let steps : List Step := [.check, .call .reboot, .check, .call (.delay 100)]
    ((start.run "bp" (steps.take 2)).step "bp" .check).1 =
        some (.error (.communication "bp" .readPresence (.os Errno.noAnswer))) ∧
      ((start.run "bp" steps).step "bp" .check).1 = some (.ok true) ∧
      (start.run "bp" steps).Comes ((start.run "bp" steps).step "bp" .check) := by
  refine ⟨by decide +kernel, by decide +kernel, ?_⟩
  exact check_informs "bp" (watching _) _ .check rfl rfl rfl rfl

end Watch
end Backplane
