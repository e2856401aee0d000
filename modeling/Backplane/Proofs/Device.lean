import Backplane.Device
import Backplane.Proofs.Course

/-!
# Operations on a handle, on any bus

An operation on a handle that passed its capability check puts one request on the bus and repeats
it while it fails. What is left of it is the replies: all but the last are failures, the last is
the outcome, and there are three of them at most, exactly three where the operation failed.

* `course_retry`: the replies of a repeated request.
* `runs_transact`, `runs_exchange`: an operation on a handle.
* `Puts`, `puts_exchange`: an operation without a buffer, whether the handle passed its check or not.
* `Asks`: a request that is made over and over.
-/
namespace Backplane

variable {r : Request} {turns : List Turn}

/-- A request is attempted once for each of these replies. -/
def tries (r : Request) (replies : List (Reply r)) : List Turn := replies.map (Turn.attempted r)

/-- The replies to a request that is repeated while it fails, `most` times at most, and how it
ended. -/
def Settles (most : Nat) (replies : List (Reply r)) (result : Except BusError r.Value) : Prop :=
  ∃ failed last, replies = failed ++ [last] ∧ (∀ reply ∈ failed, ∃ e, reply.result = .error e) ∧
    last.result = result ∧ failed.length < most ∧ ∀ e, result = .error e → failed.length + 1 = most

/-- A buffer after the bytes of these replies were delivered to it. -/
def delivered (buffer : List UInt8) (replies : List (Reply r)) : List UInt8 :=
  replies.foldl (fun buffer reply => overlay buffer reply.data) buffer

@[simp] theorem tries_nil : tries r [] = [] := rfl

@[simp] theorem tries_cons {reply : Reply r} {replies : List (Reply r)} :
    tries r (reply :: replies) = .attempted r reply :: tries r replies := rfl

@[simp] theorem tries_append {first rest : List (Reply r)} :
    tries r (first ++ rest) = tries r first ++ tries r rest :=
  List.map_append

@[simp] theorem mem_tries {turn : Turn} {replies : List (Reply r)} :
    turn ∈ tries r replies ↔ ∃ reply ∈ replies, Turn.attempted r reply = turn :=
  List.mem_map

theorem tries_inj {replies replies' : List (Reply r)} :
    tries r replies = tries r replies' ↔ replies = replies' :=
  List.map_inj_right fun _ _ h => eq_of_heq (Sigma.mk.inj h).2

@[simp] theorem overlay_nil (buffer : List UInt8) : overlay buffer [] = buffer := by
  simp [overlay]

theorem overlay_eq {buffer data : List UInt8} (h : data.length = buffer.length) :
    overlay buffer data = data := by
  rw [overlay, ← h, List.take_length, h, List.drop_length, List.append_nil]

theorem delivered_cons (buffer : List UInt8) (reply : Reply r) (replies : List (Reply r)) :
    delivered buffer (reply :: replies) = delivered (overlay buffer reply.data) replies := rfl

theorem delivered_append (buffer : List UInt8) (first rest : List (Reply r)) :
    delivered buffer (first ++ rest) = delivered (delivered buffer first) rest :=
  List.foldl_append ..

@[simp] theorem length_delivered (buffer : List UInt8) (replies : List (Reply r)) :
    (delivered buffer replies).length = buffer.length := by
  induction replies generalizing buffer with
  | nil => rfl
  | cons reply replies ih => simp only [delivered, List.foldl_cons] at ih ⊢; rw [ih, length_overlay]

namespace Settles
variable {most : Nat} {reply : Reply r} {replies : List (Reply r)}
  {result : Except BusError r.Value}

theorem ne_nil (h : Settles most replies result) : replies ≠ [] := by
  obtain ⟨failed, last, rfl, -⟩ := h
  simp

theorem length_le (h : Settles most replies result) : replies.length ≤ most := by
  obtain ⟨failed, last, rfl, -, -, hlt, -⟩ := h
  simpa using Nat.succ_le_of_lt hlt

/-- The last attempt came to the outcome. -/
theorem getLast?_tries (h : Settles most replies result) :
    ∃ last, (tries r replies).getLast? = some (.attempted r last) ∧ last.result = result := by
  obtain ⟨failed, last, rfl, -, hlast, -⟩ := h
  exact ⟨last, by simp, hlast⟩

/-- Where a request failed in the end, every attempt did. -/
theorem fails {e : BusError} (h : Settles most replies (.error e)) :
    ∀ turn ∈ tries r replies, turn.Fails := by
  obtain ⟨failed, last, rfl, hfailed, hlast, -, -⟩ := h
  intro turn hturn
  obtain ⟨reply, hreply, rfl⟩ := mem_tries.1 hturn
  rcases List.mem_append.1 hreply with hreply | hreply
  · exact hfailed reply hreply
  · exact ⟨e, List.mem_singleton.1 hreply ▸ hlast⟩

/-- A request that is not repeated. -/
theorem single (h : ∀ e, reply.result = .error e → most = 0) :
    Settles (most + 1) [reply] reply.result :=
  ⟨[], reply, rfl, by simp, rfl, Nat.succ_pos _, fun e he => by simp [h e he]⟩

/-- A failure in front of the replies. -/
theorem cons {e : BusError} (he : reply.result = .error e) (h : Settles most replies result) :
    Settles (most + 1) (reply :: replies) result := by
  obtain ⟨failed, last, rfl, hfailed, hlast, hlt, hmost⟩ := h
  refine ⟨reply :: failed, last, rfl, ?_, hlast, by simpa using hlt, ?_⟩
  · intro x hx
    rcases List.mem_cons.1 hx with rfl | hx
    · exact ⟨e, he⟩
    · exact hfailed x hx
  · intro e' he'
    simpa using hmost e' he'

variable {replies' more : List (Reply r)} {result' : Except BusError r.Value}

/-- A request is not repeated behind the reply that settled it. -/
theorem eq_nil_of_append (h : Settles most replies result) (h' : Settles most (replies ++ more) result') :
    more = [] := by
  obtain ⟨failed, last, rfl, -, hlast, -, hmost⟩ := h
  obtain ⟨failed', last', heq, hfailed', -, hlt', -⟩ := h'
  rcases List.eq_nil_or_concat more with rfl | ⟨front, final, rfl⟩
  · rfl
  rw [List.concat_eq_append, ← List.append_assoc] at heq
  obtain ⟨rfl, -⟩ := List.append_inj' heq rfl
  -- The reply that settled the request would be one of those that were followed by another.
  obtain ⟨e, he⟩ := hfailed' last (by simp)
  have := hmost e (hlast ▸ he)
  simp only [List.length_append, List.length_singleton] at hlt'
  omega

/-- What the bus answers decides how often a request is repeated, and the outcome. -/
theorem unique {rest rest' : List Turn} (h : Settles most replies result)
    (h' : Settles most replies' result') (heq : tries r replies ++ rest = tries r replies' ++ rest') :
    replies = replies' ∧ result = result' := by
  have hsame : replies = replies' := by
    obtain ⟨more, hmore, -⟩ | ⟨more, hmore, -⟩ := List.append_eq_append_iff.1 heq
    · obtain ⟨first, later, rfl, hfirst, -⟩ := List.map_eq_append_iff.1 hmore
      obtain rfl := tries_inj.1 hfirst
      rw [h.eq_nil_of_append h', List.append_nil]
    · obtain ⟨first, later, rfl, hfirst, -⟩ := List.map_eq_append_iff.1 hmore
      obtain rfl := tries_inj.1 hfirst
      rw [h'.eq_nil_of_append h, List.append_nil]
  subst hsame
  obtain ⟨failed, last, rfl, -, hlast, -⟩ := h
  obtain ⟨failed', last', heq', -, hlast', -⟩ := h'
  obtain ⟨-, hsame⟩ := List.append_inj' heq' rfl
  obtain rfl := List.singleton_inj.1 hsame
  exact ⟨rfl, hlast.symm.trans hlast'⟩

end Settles

/-- A request that is made over and over, each time with its attempts, and what it came to each time. -/
inductive Asks (r : Request) : List Turn → List (Except BusError r.Value) → Prop
  | nil : Asks r [] []
  | cons {replies : List (Reply r)} {rest : List Turn} {result : Except BusError r.Value}
      {results : List (Except BusError r.Value)} (h : Settles Device.attemptsMax replies result)
      (hrest : Asks r rest results) : Asks r (tries r replies ++ rest) (result :: results)

namespace Asks
variable {replies : List (Reply r)} {result : Except BusError r.Value}
  {results : List (Except BusError r.Value)}

theorem single (h : Settles Device.attemptsMax replies result) : Asks r (tries r replies) [result] := by
  simpa using cons h .nil

theorem request (h : Asks r turns results) : ∀ turn ∈ turns, turn.request? = some r := by
  induction h with
  | nil => simp
  | cons _ _ ih =>
    refine List.forall_mem_append.2 ⟨fun turn hturn => ?_, ih⟩
    obtain ⟨reply, -, rfl⟩ := mem_tries.1 hturn
    rfl

end Asks

namespace Device

theorem course_retry {again : Nat} {buffer buffer' : List UInt8}
    {result : Except BusError r.Value} (h : Course (retry r again buffer) turns (result, buffer')) :
    ∃ replies, turns = tries r replies ∧ Settles (again + 1) replies result ∧
      buffer' = delivered buffer replies := by
  induction again generalizing buffer turns with
  | zero =>
    simp only [retry, course_bind, course_attempt, course_pure] at h
    obtain ⟨_, reply, _, rfl, rfl, rfl, hpair⟩ := h
    obtain ⟨rfl, rfl⟩ := Prod.mk.inj hpair
    exact ⟨[reply], by simp, .single fun _ _ => rfl, rfl⟩
  | succ again ih =>
    simp only [retry, course_bind, course_attempt] at h
    obtain ⟨_, reply, rest, rfl, rfl, h⟩ := h
    cases hr : reply.result with
    | ok value =>
      rw [hr] at h
      obtain ⟨rfl, hpair⟩ := course_pure.1 h
      obtain ⟨rfl, rfl⟩ := Prod.mk.inj hpair
      exact ⟨[reply], by simp, hr ▸ .single (by simp [hr]), rfl⟩
    | error e =>
      rw [hr] at h
      obtain ⟨replies, rfl, hsettles, rfl⟩ := ih h
      exact ⟨reply :: replies, by simp, hsettles.cons hr, rfl⟩

/-- The handle after one operation was logged. -/
def noting (d : Device) (failed : Bool) : Device := { d with streak := (d.streak.record failed).2 }

variable {d d' : Device} {command : Option UInt8} {sent : Option (List UInt8)}

theorem runs_logTransaction {received : Option (List UInt8)} {failure : Option BusError} {v : Unit}
    (h : Runs (logTransaction command sent received failure) d turns v d') :
    turns = [] ∧ d' = d.noting failure.isSome := by
  rw [logTransaction, runs_get_bind, runs_bind] at h
  obtain ⟨_, _, _, _, rfl, hset, h⟩ := h
  obtain ⟨rfl, rfl⟩ := runs_set.1 hset
  have hquiet : ∀ (level : Level) (text : String) {rest : List Turn} {s s' : Device} {v : Unit},
      Runs (liftM (Task.log level text) : DeviceM Unit) s rest v s' → rest = [] ∧ s' = s := by
    intro level text rest s s' v h
    simpa [eq_comm] using h
  cases hdecision : (d.streak.record failure.isSome).1 with
  | silent =>
    rw [hdecision] at h
    simpa [noting, eq_comm] using h
  | summary =>
    rw [hdecision] at h
    simpa [noting] using hquiet _ _ h
  | full =>
    rw [hdecision] at h
    cases failure <;> simpa [noting] using hquiet _ _ h

/-- An operation on a handle that passed its check. -/
theorem runs_transact {buffer buffer' : List UInt8}
    {received : r.Value → List UInt8 → Option (List UInt8)} {result : Except BusError r.Value}
    (hd : d.operational = true)
    (h : Runs (transact r buffer command sent received) d turns (result, buffer') d') :
    ∃ replies, turns = tries r replies ∧ Settles attemptsMax replies result ∧
      buffer' = delivered buffer replies ∧ d' = d.noting !result.isOk := by
  rw [transact, runs_get_bind, if_pos hd, runs_bind] at h
  obtain ⟨_, ⟨res, buf⟩, _, _, rfl, hlift, h⟩ := h
  obtain ⟨hretry, rfl⟩ := runs_lift.1 hlift
  obtain ⟨replies, rfl, hsettles, rfl⟩ := course_retry hretry
  cases res <;>
  · simp only [runs_bind, runs_pure] at h
    obtain ⟨_, _, _, _, rfl, hlog, rfl, hpair, rfl⟩ := h
    obtain ⟨rfl, rfl⟩ := Prod.mk.inj hpair
    obtain ⟨rfl, rfl⟩ := runs_logTransaction hlog
    exact ⟨replies, by simp, hsettles, rfl, by simp [Except.isOk, Except.toBool]⟩

/-- An operation without a buffer. -/
theorem runs_exchange {received : r.Value → Option (List UInt8)}
    {result : Except BusError r.Value} (hd : d.operational = true)
    (h : Runs (exchange r command sent received).run d turns result d') :
    ∃ replies, turns = tries r replies ∧ Settles attemptsMax replies result ∧
      d' = d.noting !result.isOk := by
  obtain ⟨⟨outcome, buffer⟩, htransact, rfl⟩ := runs_bind_pure.1 h
  obtain ⟨replies, rfl, hsettles, -, rfl⟩ := runs_transact hd htransact
  exact ⟨replies, rfl, hsettles, rfl⟩

/-- A handle that failed its check refuses every operation and does not touch the bus. -/
theorem runs_transact_refused {buffer buffer' : List UInt8}
    {received : r.Value → List UInt8 → Option (List UInt8)} {result : Except BusError r.Value}
    (hd : d.operational = false)
    (h : Runs (transact r buffer command sent received) d turns (result, buffer') d') :
    turns = [] ∧ result = .error .notOperational ∧ buffer' = buffer ∧ d' = d.noting true := by
  rw [transact, runs_get_bind, if_neg (by simp [hd]), runs_log_bind, pure_bind, runs_bind] at h
  obtain ⟨_, _, mid, _, rfl, hlog, h⟩ := h
  obtain ⟨rfl, rfl⟩ := runs_logTransaction hlog
  obtain ⟨rfl, hpair, rfl⟩ := runs_pure.1 h
  obtain ⟨rfl, rfl⟩ := Prod.mk.inj hpair
  exact ⟨rfl, rfl, rfl, rfl⟩

theorem runs_exchange_refused {received : r.Value → Option (List UInt8)}
    {result : Except BusError r.Value} (hd : d.operational = false)
    (h : Runs (exchange r command sent received).run d turns result d') :
    turns = [] ∧ result = .error .notOperational ∧ d' = d.noting true := by
  obtain ⟨⟨outcome, buffer⟩, htransact, rfl⟩ := runs_bind_pure.1 h
  obtain ⟨rfl, rfl, -, rfl⟩ := runs_transact_refused hd htransact
  exact ⟨rfl, rfl, rfl⟩

/-- Only a handle that passed its check comes to a value. -/
theorem runs_exchange_ok {received : r.Value → Option (List UInt8)} {value : r.Value}
    (h : Runs (exchange r command sent received).run d turns (.ok value) d') :
    d.operational = true ∧ Asks r turns [.ok value] := by
  cases hd : d.operational with
  | false =>
    obtain ⟨-, ⟨⟩, -⟩ := runs_exchange_refused hd h
  | true =>
    obtain ⟨replies, rfl, hsettles, -⟩ := runs_exchange hd h
    exact ⟨rfl, .single hsettles⟩

/-! ## Any handle -/

/-- What one operation on a handle puts on the bus, and what it comes to: attempts at its request until that
is settled, and nothing where the handle failed its check. -/
inductive Puts (d : Device) (r : Request) : List Turn → Except BusError r.Value → Prop
  | attempted {replies : List (Reply r)} {result : Except BusError r.Value} (hd : d.operational = true)
      (hsettles : Settles attemptsMax replies result) : Puts d r (tries r replies) result
  | refused (hd : d.operational = false) : Puts d r [] (.error .notOperational)

variable {received : r.Value → Option (List UInt8)} {result : Except BusError r.Value}

theorem puts_exchange (h : Runs (exchange r command sent received).run d turns result d') :
    Puts d r turns result ∧ d' = d.noting !result.isOk := by
  cases hd : d.operational with
  | true =>
    obtain ⟨replies, rfl, hsettles, rfl⟩ := runs_exchange hd h
    exact ⟨.attempted hd hsettles, rfl⟩
  | false =>
    obtain ⟨rfl, rfl, rfl⟩ := runs_exchange_refused hd h
    exact ⟨.refused hd, rfl⟩

/-- What an operation puts on the bus depends on the check of the handle only. -/
theorem Puts.congr (hd : d'.operational = d.operational) (h : Puts d' r turns result) :
    Puts d r turns result := by
  cases h with
  | attempted hd' hsettles => exact .attempted (hd ▸ hd') hsettles
  | refused hd' => exact .refused (hd ▸ hd')

end Device
end Backplane
