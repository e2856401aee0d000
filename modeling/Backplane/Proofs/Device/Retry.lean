import Backplane.Proofs.Device.Transactions
import Backplane.Proofs.Stream

/-!
# The retry law

What a bus would answer to one attempt after another is a stream of replies. An operation on a handle
that passed its check takes a prefix of it: the first success ends it, the third attempt ends it in any
case, and what the last attempt came to is what the operation comes to. The handle keeps all but its
count of failures.

* `ErrorStreak.toNat_record`: the count of failures behind one more outcome.
* `settles_retry`: a request that is repeated while it fails, at any site.
* `settled_transact`: an operation with a buffer.
* `alike_perform`, `settled_perform`: every operation.
-/
namespace Backplane

/-- The count of failures ends with a success, and stops at its largest value. -/
theorem ErrorStreak.toNat_record (s : ErrorStreak) (failed : Bool) :
    (s.record failed).2.count.toNat = if failed then min (s.count.toNat + 1) (UInt32.size - 1) else 0 := by
  cases failed with
  | false => rfl
  | true =>
    show s.extend.count.toNat = min (s.count.toNat + 1) (UInt32.size - 1)
    have hlt : s.count.toNat < UInt32.size := s.count.toNat_lt
    have hsize : UInt32.size = 4294967296 := rfl
    unfold ErrorStreak.extend
    split
    · next hfull =>
      rw [hfull]
      rfl
    · next hfull =>
      have hne : s.count.toNat ≠ UInt32.size - 1 := fun h => hfull (UInt32.toNat_inj.1 h)
      have hnext : (s.count + 1).toNat = s.count.toNat + 1 := by
        rw [UInt32.toNat_add]
        exact Nat.mod_eq_of_lt (show s.count.toNat + 1 < UInt32.size by omega)
      rw [hnext]
      omega

variable {σ : Type} {r : Request}

/-- What a site answers to the attempts at a request, one after the other. -/
def Site.replies (site : Site σ) (r : Request) (bench : Bench σ) : Nat → Reply r :=
  nth (site.run (Task.attempt r)) bench

/-- The bench behind so many attempts at a request. -/
def Site.behind (site : Site σ) (r : Request) (bench : Bench σ) : Nat → Bench σ :=
  stateAfter (site.run (Task.attempt r)) bench

/-- The replies up to the index `last`. -/
def Site.upTo (site : Site σ) (r : Request) (bench : Bench σ) (last : Nat) : List (Reply r) :=
  (List.range (last + 1)).map (site.replies r bench)

namespace Site
variable (site : Site σ) (bench : Bench σ)

theorem run_attempt :
    site.run (Task.attempt r) bench = (site.replies r bench 0, site.behind r bench 1) := rfl

theorem moves_attempt :
    site.moves (Task.attempt r) bench = [Turn.attempted r (site.replies r bench 0)] := rfl

theorem replies_succ (n : Nat) :
    site.replies r bench (n + 1) = site.replies r (site.behind r bench 1) n :=
  nth_succ_front ..

theorem behind_succ (n : Nat) :
    site.behind r bench (n + 1) = site.behind r (site.behind r bench 1) n :=
  stateAfter_succ_front ..

theorem upTo_succ (last : Nat) :
    site.upTo r bench (last + 1) =
      site.replies r bench 0 :: site.upTo r (site.behind r bench 1) last := by
  rw [upTo, List.range_succ_eq_map, List.map_cons, List.map_map, upTo]
  exact congrArg _ (List.map_congr_left fun n _ => site.replies_succ bench n)

end Site

namespace Device
variable {site : Site σ} {bench : Bench σ}

/-- The attempt at the index `last` settles the request: those before it failed, and it succeeded or
is the last of `most`. -/
structure SettlesAt (site : Site σ) (r : Request) (bench : Bench σ) (most last : Nat) : Prop where
  lt : last < most
  failed : ∀ i < last, ∃ e, (site.replies r bench i).result = .error e
  settled : last + 1 < most → ∃ v, (site.replies r bench last).result = .ok v

/-- A failure in front of the attempts. -/
theorem SettlesAt.behind_failure {e : BusError} {most last : Nat}
    (he : (site.replies r bench 0).result = .error e)
    (h : SettlesAt site r (site.behind r bench 1) most last) :
    SettlesAt site r bench (most + 1) (last + 1) := by
  refine ⟨Nat.succ_lt_succ h.lt, ?_, ?_⟩
  · intro i hi
    cases i with
    | zero => exact ⟨e, he⟩
    | succ i => exact site.replies_succ bench i ▸ h.failed i (Nat.lt_of_succ_lt_succ hi)
  · intro hlast
    exact site.replies_succ bench last ▸ h.settled (Nat.lt_of_succ_lt_succ hlast)

/-- The attempts up to the one that settles a request. -/
theorem SettlesAt.settles {most last : Nat} (h : SettlesAt site r bench most last) :
    Settles most (site.upTo r bench last) (site.replies r bench last).result := by
  refine ⟨(List.range last).map (site.replies r bench), site.replies r bench last, ?_, ?_, rfl, ?_, ?_⟩
  · rw [Site.upTo, List.range_succ, List.map_append, List.map_singleton]
  · intro reply hreply
    obtain ⟨i, hi, rfl⟩ := List.mem_map.1 hreply
    exact h.failed i (List.mem_range.1 hi)
  · simpa using h.lt
  · intro e he
    rw [List.length_map, List.length_range]
    refine Nat.le_antisymm h.lt (Nat.le_of_not_lt fun hlast => ?_)
    obtain ⟨v, hv⟩ := h.settled hlast
    cases hv.symm.trans he

/-- A request fails in the end where every attempt that it has fails. -/
theorem SettlesAt.error_iff {most last : Nat} (h : SettlesAt site r bench most last) :
    (∃ e, (site.replies r bench last).result = .error e) ↔
      ∀ i < most, ∃ e, (site.replies r bench i).result = .error e := by
  constructor
  · rintro ⟨e, he⟩ i hi
    rcases Nat.lt_or_ge i last with hlt | hge
    · exact h.failed i hlt
    · have hlast : ¬ last + 1 < most := fun hlast => by
        obtain ⟨v, hv⟩ := h.settled hlast
        cases hv.symm.trans he
      obtain rfl : i = last := by omega
      exact ⟨e, he⟩
  · intro hall
    exact hall last h.lt

/-- A request that is repeated while it fails, at any site. -/
theorem settles_retry (site : Site σ) (r : Request) (again : Nat) (lent : List UInt8)
    (bench : Bench σ) :
    ∃ last, SettlesAt site r bench (again + 1) last ∧
      site.run (retry r again lent) bench =
        (((site.replies r bench last).result, delivered lent (site.upTo r bench last)),
          site.behind r bench (last + 1)) ∧
      site.moves (retry r again lent) bench = tries r (site.upTo r bench last) := by
  induction again generalizing lent bench with
  | zero => exact ⟨0, ⟨by omega, fun i hi => by omega, fun h => by omega⟩, rfl, rfl⟩
  | succ again ih =>
    cases hfirst : (site.replies r bench 0).result with
    | ok v =>
      refine ⟨0, ⟨by omega, fun i hi => by omega, fun _ => ⟨v, hfirst⟩⟩, ?_, ?_⟩
      · rw [retry, Site.run_bind, Site.run_attempt, hfirst]
        rfl
      · rw [retry, Site.moves_bind, Site.run_attempt, hfirst]
        rfl
    | error e =>
      obtain ⟨last, hsettles, hrun, hmoves⟩ :=
        ih (overlay lent (site.replies r bench 0).data) (site.behind r bench 1)
      refine ⟨last + 1, hsettles.behind_failure hfirst, ?_, ?_⟩
      · rw [retry, Site.run_bind, Site.run_attempt, hfirst, site.replies_succ bench last,
          site.behind_succ bench (last + 1), Site.upTo_succ, delivered_cons]
        exact hrun
      · rw [retry, Site.moves_bind, Site.run_attempt, hfirst, Site.upTo_succ, tries_cons,
          Site.moves_attempt]
        exact congrArg (List.cons _) hmoves

/-! ## Operations -/

variable {d : Device} {lent : List UInt8} {command : Option UInt8}
  {sent received : Option (List UInt8)}

/-- Writing the line about a transaction takes note of the outcome and leaves the bus alone. -/
theorem play_logTransaction (site : Site σ) (command : Option UInt8)
    (sent received : Option (List UInt8)) (failure : Option BusError) (d : Device) (bench : Bench σ) :
    ∃ lines : Array Event, site.play (logTransaction command sent received failure) (d, bench) =
      ((), d.noting failure.isSome, ⟨bench.state, bench.events ++ lines⟩) := by
  rw [logTransaction, Site.play_get_bind, Site.play_set_bind]
  cases hdecision : (d.streak.record failure.isSome).1 with
  | silent => exact ⟨#[], by rw [Array.append_empty]; rfl⟩
  | summary => exact ⟨#[_], rfl⟩
  | full => cases failure <;> exact ⟨#[_], rfl⟩

/-- The line about bytes that came from a register. -/
def receivedLine (label : String) (register : UInt8) (shown : List UInt8) : String :=
  let line := s!"{label} <ok>"
  Text.pushPayload s!"{line} CMD: {Text.hexByte register}" "RX" shown

theorem play_logTransaction_received {register : UInt8} {shown : List UInt8} :
    site.play (logTransaction (some register) none (some shown) none) (d, bench) =
      ((), d.noting false, ⟨bench.state, bench.events.push
        (.noted (.log ⟨.library, .debug, receivedLine d.label register shown⟩))⟩) := rfl

theorem trail_logTransaction (failure : Option BusError) :
    site.trail (logTransaction command sent received failure) (d, bench) = [] :=
  (runs_logTransaction (site.runs_trail _ _)).1

/-- At a site an operation comes to what the attempt at the index `last` comes to, and that attempt
settles its request. -/
structure Settled (site : Site σ) (r : Request) (lent : List UInt8)
    (operation : DeviceM (Except BusError r.Value × List UInt8)) (d : Device) (bench : Bench σ)
    (last : Nat) : Prop where
  settles : SettlesAt site r bench attemptsMax last
  /-- The bus is asked the same each time, and nothing else. -/
  trail : site.trail operation (d, bench) = tries r (site.upTo r bench last)
  result : (site.play operation (d, bench)).1.1 = (site.replies r bench last).result
  /-- The buffer is the one that the attempts leave. -/
  buffer : (site.play operation (d, bench)).1.2 = delivered lent (site.upTo r bench last)
  label : (site.play operation (d, bench)).2.1.label = d.label
  operational : (site.play operation (d, bench)).2.1.operational = d.operational
  count : (site.play operation (d, bench)).2.1.streak.count.toNat =
    if (site.replies r bench last).result.isOk then 0 else min (d.streak.count.toNat + 1) (UInt32.size - 1)
  /-- The bus is left as the attempts leave it. -/
  state : (site.play operation (d, bench)).2.2.state = (site.behind r bench (last + 1)).state

variable {received : r.Value → List UInt8 → Option (List UInt8)}

/-- An operation with a buffer is the repeated request, and the line about it. -/
theorem play_transact (command : Option UInt8) (sent : Option (List UInt8))
    (received : r.Value → List UInt8 → Option (List UInt8)) (hd : d.operational = true) {bench' : Bench σ}
    {result : Except BusError r.Value} {buffer : List UInt8}
    (hrun : site.run (retry r (attemptsMax - 1) lent) bench = ((result, buffer), bench')) :
    site.play (transact r lent command sent received) (d, bench) =
      ((result, buffer), (site.play (match result with
        | .ok value => logTransaction command sent (received value buffer) none
        | .error e => logTransaction command sent none (some e)) (d, bench')).2) := by
  rw [transact, Site.play_get_bind, if_pos hd, Site.play_bind, Site.play_lift, hrun]
  cases result with
  | ok value => exact Site.play_bind site (logTransaction command sent _ none) _ _
  | error e => exact Site.play_bind site (logTransaction command sent none (some e)) _ _

theorem trail_transact (hd : d.operational = true) :
    site.trail (transact r lent command sent received) (d, bench) =
      site.moves (retry r (attemptsMax - 1) lent) bench := by
  rw [transact, Site.trail_get_bind, if_pos hd, Site.trail_bind, Site.play_lift, Site.trail_lift]
  obtain ⟨⟨result, buffer⟩, bench'⟩ := site.run (retry r (attemptsMax - 1) lent) bench
  have hquiet : ∀ {sent received : Option (List UInt8)} {failure : Option BusError}
      {v : Except BusError r.Value × List UInt8},
      site.trail (logTransaction command sent received failure >>= fun _ => pure v) (d, bench') = [] := by
    intro sent received failure v
    rw [Site.trail_bind, trail_logTransaction, Site.trail_pure, List.append_nil]
  cases result with
  | ok value => exact (congrArg _ hquiet).trans (List.append_nil _)
  | error e => exact (congrArg _ hquiet).trans (List.append_nil _)

/-- Behind the repeated request only the handle has changed, and what was written about it. -/
theorem play_transact_noting (command : Option UInt8) (sent : Option (List UInt8))
    (received : r.Value → List UInt8 → Option (List UInt8)) (hd : d.operational = true) {bench' : Bench σ}
    {result : Except BusError r.Value} {buffer : List UInt8}
    (hrun : site.run (retry r (attemptsMax - 1) lent) bench = ((result, buffer), bench')) :
    ∃ lines : Array Event, site.play (transact r lent command sent received) (d, bench) =
      ((result, buffer), d.noting !result.isOk, ⟨bench'.state, bench'.events ++ lines⟩) := by
  rw [play_transact command sent received hd hrun]
  cases result with
  | ok value =>
    obtain ⟨lines, hlog⟩ :=
      play_logTransaction site command sent (received value buffer) none d bench'
    exact ⟨lines, congrArg (Prod.mk _) (congrArg Prod.snd hlog)⟩
  | error e =>
    obtain ⟨lines, hlog⟩ := play_logTransaction site command sent none (some e) d bench'
    exact ⟨lines, congrArg (Prod.mk _) (congrArg Prod.snd hlog)⟩

/-- An operation with a buffer. -/
theorem settled_transact (hd : d.operational = true) :
    ∃ last, Settled site r lent (transact r lent command sent received) d bench last := by
  obtain ⟨last, hsettles, hrun, hmoves⟩ := settles_retry site r (attemptsMax - 1) lent bench
  obtain ⟨lines, hplay⟩ := play_transact_noting command sent received hd hrun
  have hcount : (d.noting !(site.replies r bench last).result.isOk).streak.count.toNat =
      if (site.replies r bench last).result.isOk then 0
      else min (d.streak.count.toNat + 1) (UInt32.size - 1) := by
    rw [noting, ErrorStreak.toNat_record]
    cases (site.replies r bench last).result.isOk <;> rfl
  refine ⟨last, hsettles, (trail_transact hd).trans hmoves, ?_, ?_, ?_, ?_, ?_, ?_⟩
  all_goals rw [hplay]
  · rfl
  · rfl
  · exact hcount

/-- What one operation with a buffer leaves: the handle took note of the outcome, and the buffer is as
long as it was. -/
theorem play_transact_leaves (site : Site σ) (lent : List UInt8) (command : Option UInt8)
    (sent : Option (List UInt8)) (received : r.Value → List UInt8 → Option (List UInt8))
    (s : Device × Bench σ) :
    (site.play (transact r lent command sent received) s).2.1 =
        s.1.noting !(site.play (transact r lent command sent received) s).1.1.isOk ∧
      (site.play (transact r lent command sent received) s).1.2.length = lent.length := by
  have hruns := site.runs_trail (transact r lent command sent received) s
  generalize site.play (transact r lent command sent received) s = ran at hruns ⊢
  obtain ⟨⟨result, buffer⟩, d', bench'⟩ := ran
  cases hd : s.1.operational with
  | true =>
    obtain ⟨replies, -, -, rfl, rfl⟩ := runs_transact hd hruns
    exact ⟨rfl, length_delivered lent replies⟩
  | false =>
    obtain ⟨-, rfl, rfl, rfl⟩ := runs_transact_refused hd hruns
    exact ⟨rfl, rfl⟩

/-- An operation without a buffer does on the bus what one with an empty buffer does. -/
theorem trail_exchange {received : r.Value → Option (List UInt8)} (s : Device × Bench σ) :
    site.trail (exchange r command sent received).run s =
      site.trail (transact r [] command sent fun value _ => received value) s := by
  rw [exchange, ExceptT.run_mk, Site.trail_bind]
  simp only [Site.trail_pure, List.append_nil]

/-- An operation without a buffer is one with an empty buffer. -/
theorem alike_unbuffered (site : Site σ) (command : Option UInt8) (sent : Option (List UInt8))
    (received : r.Value → Option (List UInt8)) (s : Device × Bench σ) :
    site.Alike (unbuffered (exchange r command sent received))
      (transact r [] command sent fun value _ => received value) s := by
  constructor
  · have hnil := List.eq_nil_of_length_eq_zero
      (play_transact_leaves site [] command sent (fun value _ => received value) s).2
    rw [unbuffered, exchange, ExceptT.run_mk, Site.play_bind, Site.play_bind]
    exact Prod.ext (Prod.ext rfl hnil.symm) rfl
  · rw [unbuffered, exchange, ExceptT.run_mk, StateT.run_bind, StateT.run_bind, Dialogue.transcript_bind,
      Dialogue.transcript_bind]
    exact (List.append_nil _).trans (List.append_nil _)

/-- An operation is the one with its request and its buffer, unless that is longer than a block. -/
theorem alike_perform (site : Site σ) {t : Transaction} (hfits : t.Fits) (s : Device × Bench σ) :
    site.Alike (perform t) (transact t.request t.buffer t.command t.sent t.received) s := by
  cases t with
  | readBlock register lent =>
    rw [perform, readBlock, if_neg (Nat.not_lt_of_le hfits)]
    exact .refl _ s
  | readRaw lent => exact .refl _ s
  | readRawAt command lent => exact .refl _ s
  | readAfterWrite bytes lent => exact .refl _ s
  | readByte => exact alike_unbuffered site _ _ _ s
  | writeByte value => exact alike_unbuffered site _ _ _ s
  | readByteData register => exact alike_unbuffered site _ _ _ s
  | writeByteData register value => exact alike_unbuffered site _ _ _ s
  | readWordData register => exact alike_unbuffered site _ _ _ s
  | writeWordData register value => exact alike_unbuffered site _ _ _ s
  | writeRaw bytes => exact alike_unbuffered site _ _ _ s
  | writeRawAt command bytes => exact alike_unbuffered site _ _ _ s

/-- Every operation, unless its buffer is longer than a block. -/
theorem settled_perform {t : Transaction} (hfits : t.Fits) (hd : d.operational = true) :
    ∃ last, Settled site t.request t.buffer (perform t) d bench last := by
  have halike := alike_perform site hfits (d, bench)
  obtain ⟨last, h⟩ : ∃ last, Settled site t.request t.buffer
      (transact t.request t.buffer t.command t.sent t.received) d bench last := settled_transact hd
  refine ⟨last, h.settles, halike.trail.trans h.trail, ?_, ?_, ?_, ?_, ?_, ?_⟩
  all_goals rw [halike.play]
  · exact h.result
  · exact h.buffer
  · exact h.label
  · exact h.operational
  · exact h.count
  · exact h.state

/-- A block that does not fit is refused before the handle is looked at. -/
theorem play_perform_oversized {t : Transaction} (hfits : ¬ t.Fits) (s : Device × Bench σ) :
    site.play (perform t) s = ((.error (.blockTooLong t.buffer.length), t.buffer), s) ∧
      site.trail (perform t) s = [] := by
  cases t with
  | readBlock register lent =>
    rw [perform, readBlock, if_pos (Nat.lt_of_not_le hfits)]
    exact ⟨rfl, rfl⟩
  | _ => exact absurd trivial hfits

/-- The line about a block that came: as many bytes as the device sent and the buffer holds. -/
theorem play_readBlock_shown {register : UInt8} {count : Nat} (hd : d.operational = true)
    (hfits : lent.length ≤ blockMax)
    (hok : (site.play (readBlock register lent) (d, bench)).1.1 = .ok count) :
    ∃ shown, shown <+: (site.play (readBlock register lent) (d, bench)).1.2 ∧
      shown.length = min count lent.length ∧
      (site.play (readBlock register lent) (d, bench)).2.2.events.back? =
        some (.noted (.log ⟨.library, .debug, receivedLine d.label register shown⟩)) := by
  obtain ⟨last, -, hrun, -⟩ :=
    settles_retry site (.readBlock register lent.length) (attemptsMax - 1) lent bench
  have hplay := play_transact (some register) none (fun count buffer => some (buffer.take count))
    hd hrun
  have hread : readBlock register lent = transact (.readBlock register lent.length) lent
      (some register) none fun count buffer => some (buffer.take count) :=
    if_neg (Nat.not_lt_of_le hfits)
  rw [hread, hplay] at hok ⊢
  have hresult : (site.replies (.readBlock register lent.length) bench last).result = .ok count := hok
  rw [hresult]
  refine ⟨_, List.take_prefix count _, ?_, ?_⟩
  · rw [List.length_take, length_delivered]
  · dsimp only
    rw [play_logTransaction_received]
    exact Array.back?_push

/-- The operations of a handle at any site: the retry law. A block read that does not fit a block does
nothing at all, and the line about a block that came shows no byte beyond the buffer, whatever number
the device sent. -/
theorem play_perform (site : Site σ) (t : Transaction) (d : Device) (bench : Bench σ) :
    (t.Fits → d.operational = true →
        ∃ last, Settled site t.request t.buffer (perform t) d bench last) ∧
      (¬ t.Fits →
        site.play (perform t) (d, bench) =
            ((.error (.blockTooLong t.buffer.length), t.buffer), d, bench) ∧
          site.trail (perform t) (d, bench) = []) ∧
      ∀ register lent count, d.operational = true → lent.length ≤ blockMax →
        (site.play (readBlock register lent) (d, bench)).1.1 = .ok count →
        ∃ shown, shown <+: (site.play (readBlock register lent) (d, bench)).1.2 ∧
          shown.length = min count lent.length ∧
          (site.play (readBlock register lent) (d, bench)).2.2.events.back? =
            some (.noted (.log ⟨.library, .debug, receivedLine d.label register shown⟩)) := by
  refine ⟨?law, ?oversized, ?shown⟩
  case law =>
    intro hfits hd
    exact settled_perform hfits hd
  case oversized =>
    intro hfits
    exact play_perform_oversized hfits (d, bench)
  case shown =>
    intro register lent count hd hfits hok
    exact play_readBlock_shown hd hfits hok

/-- A bus that fails twice, leaving one byte behind, and then sends more than is asked for. -/
def flaky : Bench Playback where
  state :=
    { connects := []
      functionality := .ok .required
      tape := ⟨[⟨some (.os Errno.io), [7]⟩, ⟨some (.os Errno.io), []⟩], ⟨none, [1, 2, 3]⟩⟩ }
  events := #[]

/-- Three bytes come into a buffer for two at the third attempt, and a longer buffer is refused. -/
theorem play_perform_flaky :
    let d : Device := ⟨"bp", true, ⟨4⟩⟩
    let read := readBlock 3 [0, 0]
    (Transaction.readBlock 3 [0, 0]).Fits ∧
      (∃ last, Settled Playback.bus.site (.readBlock 3 2) [0, 0] read d flaky last) ∧
      (Playback.bus.site.play read (d, flaky)).1 = (.ok 3, [1, 2]) ∧
      (∃ shown, shown <+: [1, 2] ∧ shown.length = 2 ∧
        (Playback.bus.site.play read (d, flaky)).2.2.events.back? =
          some (.noted (.log ⟨.library, .debug, receivedLine "bp" 3 shown⟩))) ∧
      ¬ (Transaction.readBlock 3 (.replicate 33 0)).Fits ∧
      (Playback.bus.site.play (readBlock 3 (.replicate 33 0)) (d, flaky)).1.1 =
        .error (.blockTooLong 33) := by
  intro d read
  have hfits : (Transaction.readBlock 3 [0, 0]).Fits := by decide
  have hlong : ¬ (Transaction.readBlock 3 (.replicate 33 0)).Fits := by decide
  have hread : (Playback.bus.site.play read (d, flaky)).1 = (.ok 3, [1, 2]) := rfl
  obtain ⟨hlaw, -, hshown⟩ := play_perform Playback.bus.site (.readBlock 3 [0, 0]) d flaky
  obtain ⟨-, hoversized, -⟩ := play_perform Playback.bus.site (.readBlock 3 (.replicate 33 0)) d flaky
  obtain ⟨shown, hprefix, hlength, hline⟩ :=
    hshown 3 [0, 0] 3 rfl (by decide) (congrArg Prod.fst hread)
  rw [show (Playback.bus.site.play (readBlock 3 [0, 0]) (d, flaky)).1 = _ from hread] at hprefix
  exact ⟨hfits, hlaw hfits rfl, hread, ⟨shown, hprefix, hlength, hline⟩, hlong,
    congrArg (fun ran => ran.1.1) (hoversized hlong).1⟩

end Device
end Backplane
