import Backplane.Driver.Detect
import Backplane.Proofs.Driver

/-!
# Making a driver, on any bus

A driver is made in one of five ways, and each leaves its own turns: the bus can not be opened, the
adapter lacks what is needed, nothing answers the identification read, the answer is not known, or
it names a generation. Nothing but the identification read is asked of the device.

* `creates_create`: there are no other ways.
* `Creates.failureClass_eq`: a driver that can not be made says that there is no controller.
-/
namespace Backplane.Driver

/-- The bus was opened and its adapter asked what it can do. -/
def opened (reply : Reply .functionality) : List Turn :=
  [.connected (.ok ()), .attempted .functionality reply]

/-- The adapter said that it can carry the controller protocols. -/
def Suffices (reply : Reply .functionality) : Prop :=
  ∃ funcs, reply.result = .ok funcs ∧ funcs.isSufficient = true

/-- What is made of a target that can be used, by what its identification comes to. -/
def outcome (label : String) (answer : Except BusError UInt8) : Except Error Driver :=
  match answer.toOption.bind Protocol.ofIdent? with
  | some p => .ok (.ofDevice ⟨label, true, .none⟩ p)
  | none => .error (.deviceAbsent label answer.toOption)

/-- The ways a driver is made for the target called `label`. -/
inductive Creates (label : String) : List Turn → Except Error Driver → Prop
  | closed {e : BusError} : Creates label [.connected (.error e)] (.error (.notOperational label))
  | insufficient {reply : Reply .functionality} (hreply : ¬ Suffices reply) :
      Creates label (opened reply) (.error (.notOperational label))
  | silent {reply : Reply .functionality} {replies : List (Reply identRequest)} {e : BusError}
      (hreply : Suffices reply) (hread : Settles Device.attemptsMax replies (.error e)) :
      Creates label (opened reply ++ tries identRequest replies) (.error (.deviceAbsent label none))
  | unknown {reply : Reply .functionality} {replies : List (Reply identRequest)} {byte : UInt8}
      (hreply : Suffices reply) (hread : Settles Device.attemptsMax replies (.ok byte))
      (hident : Protocol.ofIdent? byte = none) :
      Creates label (opened reply ++ tries identRequest replies)
        (.error (.deviceAbsent label (some byte)))
  | identified {reply : Reply .functionality} {replies : List (Reply identRequest)} {byte : UInt8}
      {p : Protocol} (hreply : Suffices reply)
      (hread : Settles Device.attemptsMax replies (.ok byte))
      (hident : Protocol.ofIdent? byte = some p) :
      Creates label (opened reply ++ tries identRequest replies)
        (.ok (.ofDevice ⟨label, true, .none⟩ p))

variable {label : String} {turns : List Turn} {r : Except Error Driver}

theorem course_wrap {d : Device} (h : Course (Device.wrap label) turns d) :
    ∃ reply, turns = [.attempted .functionality reply] ∧
      (Suffices reply ∧ d = ⟨label, true, .none⟩ ∨
        ¬ Suffices reply ∧ d = ⟨label, false, .none⟩) := by
  simp only [Device.wrap, course_bind, course_attempt] at h
  obtain ⟨_, reply, rest, rfl, rfl, h⟩ := h
  refine ⟨reply, ?_⟩
  cases hr : reply.result with
  | error e =>
    simp only [hr, course_bind, course_log, course_pure] at h
    obtain ⟨_, _, _, rfl, rfl, rfl, rfl⟩ := h
    exact ⟨rfl, .inr ⟨by simp [Suffices, hr], rfl⟩⟩
  | ok funcs =>
    simp only [hr] at h
    split at h
    · next hsuff =>
      obtain ⟨rfl, rfl⟩ := course_pure.1 h
      exact ⟨rfl, .inl ⟨⟨funcs, hr, hsuff⟩, rfl⟩⟩
    · next hsuff =>
      simp only [course_bind, course_log, course_pure] at h
      obtain ⟨_, _, _, rfl, rfl, rfl, rfl⟩ := h
      exact ⟨rfl, .inr ⟨by simpa [Suffices, hr] using hsuff, rfl⟩⟩

/-- A handle that passed its check is identified by one read. -/
theorem course_probe (h : Course (probe ⟨label, true, .none⟩) turns r) :
    ∃ replies answer, turns = tries identRequest replies ∧
      Settles Device.attemptsMax replies answer ∧
      r = outcome label answer := by
  simp only [probe, if_true, course_bind] at h
  obtain ⟨_, ⟨answer, device⟩, _, rfl, hread, h⟩ := h
  obtain ⟨replies, rfl, hsettles, rfl⟩ := Device.runs_exchange rfl hread
  refine ⟨replies, answer, ?_⟩
  cases answer with
  | error e =>
    simp only [course_bind, course_log, course_pure] at h
    obtain ⟨_, _, _, rfl, rfl, _, _, _, rfl, ⟨rfl, rfl⟩, h⟩ := h
    simp only [Option.bind_none, course_bind, course_log, course_pure] at h
    obtain ⟨_, _, _, rfl, rfl, rfl, rfl⟩ := h
    exact ⟨by simp, hsettles, rfl⟩
  | ok byte =>
    simp only [course_bind, course_pure] at h
    obtain ⟨_, _, _, rfl, ⟨rfl, rfl⟩, h⟩ := h
    simp only [outcome, Except.toOption, Option.bind_some] at h ⊢
    cases hident : Protocol.ofIdent? byte <;>
    · simp only [hident, course_bind, course_log, course_pure] at h
      obtain ⟨_, _, _, rfl, rfl, rfl, rfl⟩ := h
      exact ⟨by simp, hsettles, rfl⟩

theorem creates_create (h : Course (create label) turns r) : Creates label turns r := by
  simp only [create, course_bind, course_connect] at h
  obtain ⟨_, opening, rest, rfl, rfl, h⟩ := h
  cases opening with
  | error e =>
    simp only [course_bind, course_log, course_pure] at h
    obtain ⟨_, _, _, rfl, rfl, rfl, rfl⟩ := h
    exact .closed
  | ok _ =>
    obtain ⟨_, device, _, rfl, hwrap, h⟩ := course_bind.1 h
    obtain ⟨reply, rfl, ⟨hreply, rfl⟩ | ⟨hreply, rfl⟩⟩ := course_wrap hwrap
    · obtain ⟨replies, answer, rfl, hread, rfl⟩ := course_probe h
      cases answer with
      | error e => exact .silent hreply hread
      | ok byte =>
        cases hident : Protocol.ofIdent? byte with
        | none =>
          simp only [outcome, Except.toOption, Option.bind_some, hident]
          exact .unknown hreply hread hident
        | some p =>
          simp only [outcome, Except.toOption, Option.bind_some, hident]
          exact .identified hreply hread hident
    · simp only [probe, Bool.false_eq_true, if_false, course_pure] at h
      obtain ⟨rfl, rfl⟩ := h
      exact .insufficient hreply

namespace Creates
variable {d : Driver}

/-- A driver that was made: its handle passed the check, and it starts at the beginning of flash. -/
theorem ok_inv (h : Creates label turns (.ok d)) :
    ∃ reply replies byte p, turns = opened reply ++ tries identRequest replies ∧ Suffices reply ∧
      Settles Device.attemptsMax replies (.ok byte) ∧ Protocol.ofIdent? byte = some p ∧
      d = .ofDevice ⟨label, true, .none⟩ p := by
  cases h with
  | identified hreply hread hident => exact ⟨_, _, _, _, rfl, hreply, hread, hident, rfl⟩

theorem error_inv {e : Error} (h : Creates label turns (.error e)) :
    e = .notOperational label ∨ ∃ answer, e = .deviceAbsent label answer := by
  cases h with
  | closed | insufficient => exact .inl rfl
  | silent | unknown => exact .inr ⟨_, rfl⟩

/-- Both failures say that there is no controller. -/
theorem failureClass_eq {e : Error} (h : Creates label turns (.error e)) : e.failureClass = .mcuAbsent := by
  obtain rfl | ⟨answer, rfl⟩ := h.error_inv <;> rfl

/-- The bus is opened once, and what follows is asked of the adapter or reads the identification
register. -/
theorem turns_eq (h : Creates label turns r) :
    ∃ result rest, turns = .connected result :: rest ∧
      ∀ turn ∈ rest, turn.request? = some .functionality ∨ turn.request? = some identRequest := by
  cases h with
  | closed => exact ⟨_, [], rfl, by simp⟩
  | insufficient => exact ⟨_, _, rfl, by simp [Turn.request?]⟩
  | silent | unknown | identified => exact ⟨_, _, rfl, by simp [Turn.request?]⟩

/-- A bus that could not be opened. -/
theorem of_closed {e : BusError} {rest : List Turn} (h : Creates label turns r)
    (heq : turns = .connected (.error e) :: rest) : r = .error (.notOperational label) ∧ rest = [] := by
  cases h with
  | closed => exact ⟨rfl, (List.cons.inj heq).2.symm⟩
  | insufficient | silent | unknown | identified => simp [opened] at heq

/-- A bus that was opened: the adapter lacks what is needed, or what is made is what the identification
comes to. -/
theorem of_opened {reply : Reply .functionality} {rest : List Turn} (h : Creates label turns r)
    (heq : turns = opened reply ++ rest) :
    ¬ Suffices reply ∧ r = .error (.notOperational label) ∧ rest = [] ∨
      Suffices reply ∧ ∃ replies answer, rest = tries identRequest replies ∧
        Settles Device.attemptsMax replies answer ∧ r = outcome label answer := by
  cases h with
  | closed => simp [opened] at heq
  | @insufficient reply' hreply =>
    obtain ⟨rfl, rfl⟩ : reply' = reply ∧ rest = [] := by simpa [opened, eq_comm] using heq
    exact .inl ⟨hreply, rfl, rfl⟩
  | @silent reply' replies e hreply hread =>
    obtain ⟨rfl, rfl⟩ : reply' = reply ∧ _ := by simpa [opened] using heq
    exact .inr ⟨hreply, replies, _, rfl, hread, rfl⟩
  | @unknown reply' replies byte hreply hread hident =>
    obtain ⟨rfl, rfl⟩ : reply' = reply ∧ _ := by simpa [opened] using heq
    exact .inr ⟨hreply, replies, _, rfl, hread, by simp [outcome, Except.toOption, hident]⟩
  | @identified reply' replies byte p hreply hread hident =>
    obtain ⟨rfl, rfl⟩ : reply' = reply ∧ _ := by simpa [opened] using heq
    exact .inr ⟨hreply, replies, _, rfl, hread, by simp [outcome, Except.toOption, hident]⟩

/-- What the bus answers decides whether a driver is made. -/
theorem ok_of_append {first second rest rest' : List Turn} {r : Except Error Driver}
    (h : Creates label first (.ok d))
    (h' : Creates label second r) (heq : first ++ rest = second ++ rest') : r.isOk = true := by
  obtain ⟨reply, replies, byte, p, rfl, hreply, hread, hident, -⟩ := h.ok_inv
  cases h' with
  | closed => simp [opened] at heq
  | @insufficient reply' hreply' =>
    obtain ⟨rfl, -⟩ : reply = reply' ∧ _ := by simpa [opened] using heq
    exact absurd hreply hreply'
  | @silent reply' replies' e hreply' hread' =>
    obtain ⟨-, htries⟩ : reply = reply' ∧ _ := by simpa [opened] using heq
    obtain ⟨-, hresult⟩ := hread.unique hread' htries
    cases hresult
  | @unknown reply' replies' byte' hreply' hread' hident' =>
    obtain ⟨-, htries⟩ : reply = reply' ∧ _ := by simpa [opened] using heq
    obtain ⟨-, hresult⟩ := hread.unique hread' htries
    cases hresult
    rw [hident] at hident'
    cases hident'
  | identified => rfl

end Creates
end Backplane.Driver
