import Backplane.Bus.Playback
import Backplane.Proofs.Driver.Detect

/-!
# Refused transactions

A handle that failed its capability check is of no use for good: whatever it is asked for, with
whatever arguments, it asks nothing of the bus, gives the buffers back as it got them, and never
becomes operational. What it answers is always a refusal, and not always the same one. A block read
into a buffer that is longer than a block is refused for the buffer, before the handle is looked at.

* `runs_perform_refused`: one operation.
* `runs_performEach_refused`: operations one after the other.
* `run_refuses`: a handle from the check onwards, at any site.
* `run_refuses_oversized`: a refusal that does not say that the handle is of no use.
-/
namespace Backplane.Device

/-- An operation on a handle with its arguments. -/
inductive Transaction where
  | readByte
  | writeByte (value : UInt8)
  | readByteData (register : UInt8)
  | writeByteData (register value : UInt8)
  | readWordData (register : UInt8)
  | writeWordData (register : UInt8) (value : UInt16)
  | readBlock (register : UInt8) (buffer : List UInt8)
  | readRaw (buffer : List UInt8)
  | readRawAt (command : UInt8) (buffer : List UInt8)
  | writeRaw (bytes : List UInt8)
  | writeRawAt (command : UInt8) (bytes : List UInt8)
  | readAfterWrite (bytes buffer : List UInt8)
  deriving DecidableEq, Repr

namespace Transaction

/-- What an operation repeats on the bus. -/
@[reducible]
def request : Transaction → Request
  | .readByte => .readByte
  | .writeByte value => .writeByte value
  | .readByteData register => .readByteData register
  | .writeByteData register value => .writeByteData register value
  | .readWordData register => .readWordData register
  | .writeWordData register value => .writeWordData register value
  | .readBlock register buffer => .readBlock register buffer.length
  | .readRaw buffer => .transfer [.read buffer.length]
  | .readRawAt command buffer => .transfer [.write [command], .read buffer.length]
  | .writeRaw bytes => .transfer [.write bytes]
  | .writeRawAt command bytes => .transfer [.write (command :: bytes)]
  | .readAfterWrite bytes buffer => .transfer [.write bytes, .read buffer.length]

/-- The buffer that an operation reads into. -/
def buffer : Transaction → List UInt8
  | .readBlock _ buffer | .readRaw buffer | .readRawAt _ buffer | .readAfterWrite _ buffer => buffer
  | _ => []

/-- The command byte that the line shows. -/
def command : Transaction → Option UInt8
  | .readByteData register | .writeByteData register _ | .readWordData register
  | .writeWordData register _ | .readBlock register _ => some register
  | .readRawAt command _ | .writeRawAt command _ => some command
  | .readByte | .writeByte _ | .readRaw _ | .writeRaw _ | .readAfterWrite _ _ => none

/-- The bytes that the line shows as sent. -/
def sent : Transaction → Option (List UInt8)
  | .writeByte value | .writeByteData _ value => some [value]
  | .writeWordData _ value => some (wordBytes value)
  | .writeRaw bytes | .writeRawAt _ bytes | .readAfterWrite bytes _ => some bytes
  | .readByte | .readByteData _ | .readWordData _ | .readBlock _ _ | .readRaw _ | .readRawAt _ _ => none

/-- The bytes that the line shows as received. -/
def received : (t : Transaction) → t.request.Value → List UInt8 → Option (List UInt8)
  | .readByte, value, _ | .readByteData _, value, _ => some [value]
  | .readWordData _, value, _ => some (wordBytes value)
  | .readBlock _ _, count, buffer => some (buffer.take count)
  | .readRaw _, _, buffer | .readRawAt _ _, _, buffer | .readAfterWrite _ _, _, buffer => some buffer
  | .writeByte _, _, _ | .writeByteData _ _, _, _ | .writeWordData _ _, _, _ | .writeRaw _, _, _
  | .writeRawAt _ _, _, _ => none

/-- A block read has to fit a block. -/
def Fits : Transaction → Prop
  | .readBlock _ buffer => buffer.length ≤ blockMax
  | _ => True

instance (t : Transaction) : Decidable t.Fits := by
  cases t <;> (simp only [Fits]; infer_instance)

/-- How a handle that failed its check refuses an operation. -/
def refusal (t : Transaction) : BusError :=
  if t.Fits then .notOperational else .blockTooLong t.buffer.length

end Transaction

/-- An operation that returns no buffer. -/
def unbuffered {α : Type} (x : DeviceM.Try α) : DeviceM (Except BusError α × List UInt8) := do
  let result ← x.run
  pure (result, [])

/-- Does an operation, and returns its result and the buffer. -/
def perform : (t : Transaction) → DeviceM (Except BusError t.request.Value × List UInt8)
  | .readByte => unbuffered readByte
  | .writeByte value => unbuffered (writeByte value)
  | .readByteData register => unbuffered (readByteData register)
  | .writeByteData register value => unbuffered (writeByteData register value)
  | .readWordData register => unbuffered (readWordData register)
  | .writeWordData register value => unbuffered (writeWordData register value)
  | .readBlock register buffer => readBlock register buffer
  | .readRaw buffer => readRaw buffer
  | .readRawAt command buffer => readRawAt command buffer
  | .writeRaw bytes => unbuffered (writeRaw bytes)
  | .writeRawAt command bytes => unbuffered (writeRawAt command bytes)
  | .readAfterWrite bytes buffer => readAfterWrite bytes buffer

/-- An operation that was done. -/
structure Performed where
  transaction : Transaction
  result : Except BusError transaction.request.Value
  buffer : List UInt8

/-- The record of an operation that a handle refused: its buffer is the one it was given. -/
def Transaction.refused (t : Transaction) : Performed := ⟨t, .error t.refusal, t.buffer⟩

/-- Does operations one after the other. -/
def performEach : List Transaction → DeviceM (List Performed)
  | [] => pure []
  | t :: rest => do
    let (result, buffer) ← perform t
    let later ← performEach rest
    pure (⟨t, result, buffer⟩ :: later)

/-- Wraps an opened bus and does operations on the handle. -/
def session (label : String) (ts : List Transaction) : Task (List Performed × Device) := do
  let d ← wrap label
  (performEach ts).run d

variable {d d' : Device} {turns : List Turn}

theorem runs_unbuffered {α : Type} {x : DeviceM.Try α} {result : Except BusError α}
    {buffer : List UInt8} (h : Runs (unbuffered x) d turns (result, buffer) d') :
    Runs x.run d turns result d' ∧ buffer = [] := by
  obtain ⟨_, hx, hpair⟩ := runs_bind_pure.1 h
  obtain ⟨rfl, rfl⟩ := Prod.mk.inj hpair
  exact ⟨hx, rfl⟩

theorem runs_unbuffered_refused {r : Request} {command : Option UInt8} {sent : Option (List UInt8)}
    {received : r.Value → Option (List UInt8)} {result : Except BusError r.Value}
    {buffer : List UInt8} (hd : d.operational = false)
    (h : Runs (unbuffered (exchange r command sent received)) d turns (result, buffer) d') :
    turns = [] ∧ result = .error .notOperational ∧ buffer = [] ∧ d'.operational = false := by
  obtain ⟨hexchange, rfl⟩ := runs_unbuffered h
  obtain ⟨rfl, rfl, rfl⟩ := runs_exchange_refused hd hexchange
  exact ⟨rfl, rfl, rfl, hd⟩

/-- One operation on a handle that failed its check. -/
theorem runs_perform_refused {t : Transaction} {result : Except BusError t.request.Value}
    {buffer : List UInt8} (hd : d.operational = false)
    (h : Runs (perform t) d turns (result, buffer) d') :
    turns = [] ∧ result = .error t.refusal ∧ buffer = t.buffer ∧ d'.operational = false := by
  -- An operation with a buffer is a bare transaction of the handle.
  have htransact : ∀ {r : Request} {command : Option UInt8} {sent : Option (List UInt8)}
      {received : r.Value → List UInt8 → Option (List UInt8)} {result : Except BusError r.Value}
      {lent buffer : List UInt8},
      Runs (transact r lent command sent received) d turns (result, buffer) d' →
      turns = [] ∧ result = .error .notOperational ∧ buffer = lent ∧ d'.operational = false := by
    intro r command sent received result lent buffer h
    obtain ⟨rfl, rfl, rfl, rfl⟩ := runs_transact_refused hd h
    exact ⟨rfl, rfl, rfl, hd⟩
  cases t with
  | readBlock register lent =>
    rw [perform, readBlock] at h
    by_cases hlong : lent.length > blockMax
    · rw [if_pos hlong] at h
      obtain ⟨rfl, hpair, rfl⟩ := runs_pure.1 h
      obtain ⟨rfl, rfl⟩ := Prod.mk.inj hpair
      have hfits : ¬ (Transaction.readBlock register lent).Fits := Nat.not_le_of_lt hlong
      exact ⟨rfl, by rw [Transaction.refusal, if_neg hfits]; rfl, rfl, hd⟩
    · rw [if_neg hlong] at h
      have hfits : (Transaction.readBlock register lent).Fits := Nat.le_of_not_lt hlong
      rw [Transaction.refusal, if_pos hfits]
      exact htransact h
  | readRaw lent => exact htransact h
  | readRawAt command lent => exact htransact h
  | readAfterWrite bytes lent => exact htransact h
  | readByte => exact runs_unbuffered_refused hd h
  | writeByte value => exact runs_unbuffered_refused hd h
  | readByteData register => exact runs_unbuffered_refused hd h
  | writeByteData register value => exact runs_unbuffered_refused hd h
  | readWordData register => exact runs_unbuffered_refused hd h
  | writeWordData register value => exact runs_unbuffered_refused hd h
  | writeRaw bytes => exact runs_unbuffered_refused hd h
  | writeRawAt command bytes => exact runs_unbuffered_refused hd h

theorem runs_performEach_refused {ts : List Transaction} {done : List Performed}
    (hd : d.operational = false) (h : Runs (performEach ts) d turns done d') :
    turns = [] ∧ done = ts.map Transaction.refused ∧ d'.operational = false := by
  induction ts generalizing d turns done with
  | nil =>
    obtain ⟨rfl, rfl, rfl⟩ := runs_pure.1 h
    exact ⟨rfl, rfl, hd⟩
  | cons t rest ih =>
    obtain ⟨_, ⟨result, buffer⟩, _, _, rfl, hfirst, h⟩ := runs_bind.1 h
    obtain ⟨rfl, rfl, rfl, hmid⟩ := runs_perform_refused hd hfirst
    obtain ⟨later, hlater, rfl⟩ := runs_bind_pure.1 h
    obtain ⟨rfl, rfl, hlast⟩ := ih hmid hlater
    exact ⟨rfl, rfl, hlast⟩

/-- A handle on a bus whose adapter can not do what is needed, or did not say what it can do, at any
site: nothing but the question what the adapter can do reaches the bus. -/
theorem run_refuses {σ : Type} (site : Site σ) (bench : Bench σ) (label : String)
    (ts : List Transaction)
    (hfuncs : ¬ Driver.Suffices (site.attempt .functionality bench.state).value) :
    site.moves (session label ts) bench =
        [.attempted .functionality (site.attempt .functionality bench.state).value] ∧
      (site.run (session label ts) bench).1.1 = ts.map Transaction.refused ∧
      (site.run (session label ts) bench).1.2.operational = false := by
  have hcourse := site.course_moves (session label ts) bench
  -- What the check is answered with is the first thing that happens.
  have hhead : (site.moves (session label ts) bench).head? =
      some (.attempted .functionality (site.attempt .functionality bench.state).value) := rfl
  obtain ⟨_, d, _, hmoves, hwrap, hperform⟩ := course_bind.1 hcourse
  obtain ⟨reply, rfl, hreply⟩ := Driver.course_wrap hwrap
  obtain rfl : reply = (site.attempt .functionality bench.state).value := by
    simpa [hmoves] using hhead
  obtain ⟨hsuffices, -⟩ | ⟨-, rfl⟩ := hreply
  · exact absurd hsuffices hfuncs
  · obtain ⟨rfl, hdone, hd⟩ := runs_performEach_refused rfl hperform
    exact ⟨by simpa using hmoves, hdone, hd⟩

/-- A bus whose adapter can do nothing. -/
def incapable : Bench Playback where
  state := { connects := [], functionality := .ok .empty, tape := ⟨[], ⟨none, []⟩⟩ }
  events := #[]

theorem run_refuses_incapable :
    let ts := [.readByte, .writeWordData 1 2, .readBlock 3 (.replicate 32 4), .readRaw [5, 6]]
    Playback.bus.site.moves (session "bp" ts) incapable =
        [.attempted .functionality (.ok .empty)] ∧
      (Playback.bus.site.run (session "bp" ts) incapable).1.1 = ts.map Transaction.refused ∧
      (Playback.bus.site.run (session "bp" ts) incapable).1.2.operational = false := by
  refine run_refuses Playback.bus.site incapable "bp" _ ?_
  rintro ⟨funcs, ⟨⟩, hsufficient⟩
  exact absurd hsufficient (by decide)

/-- A buffer of 33 bytes is refused for its length, not for the handle. -/
theorem run_refuses_oversized :
    (Playback.bus.site.run (session "bp" [.readBlock 0 (.replicate 33 0xEE)]) incapable).1.1 =
        [⟨.readBlock 0 (.replicate 33 0xEE), .error (.blockTooLong 33), .replicate 33 0xEE⟩] ∧
      BusError.blockTooLong 33 ≠ .notOperational :=
  ⟨rfl, by decide⟩

end Backplane.Device
