import Backplane.Proofs.Driver.Chunk
import Backplane.Proofs.Driver.Detect
import Backplane.Proofs.Driver.Identity

/-!
# Traffic of a driver

What the operations of a driver do on the bus, turn by turn, as a classification of turns. The
commands of both generations are told apart from everything else, so a statement that an operation
does not reboot says that it sends the reboot command of neither.

* `Creates.activity`, `deviceInfo_activity`, `writeChunk_activity`: operations of a driver.
-/
namespace Backplane

/-- What a turn does. -/
inductive Activity where
  /-- Opens the bus. -/
  | opening
  /-- Asks what the adapter can do. -/
  | adapter
  /-- Reads the identification register. -/
  | identification
  | erase
  | flashWrite
  | flashRead
  | reboot
  | pause
  /-- Any other attempt on the bus. -/
  | other
  /-- Nothing that reaches the bus. -/
  | notice
  deriving DecidableEq

/-- The commands that write flash, of either generation. -/
def flashWriteCommands : List UInt8 :=
  [V0.flashWriteCommand, V1.flashAddressCommand, V1.flashDataCommand]

/-- The commands that address flash, of either generation. -/
def flashCommands : List UInt8 := V0.flashReadCommand :: flashWriteCommands

def Request.activity : Request → Activity
  | .functionality => .adapter
  | .readByteData command => if command = Protocol.identRegister then .identification else .other
  | .writeByte value =>
    if value = V0.rebootCommand ∨ value = V1.rebootCommand then .reboot
    else if value = V0.eraseCommand ∨ value = V1.eraseCommand then .erase
    else .other
  | .transfer (.write (command :: _) :: rest) =>
    if rest = [] ∧ command ∈ flashWriteCommands then .flashWrite
    else if command ∈ flashCommands then .flashRead
    else .other
  | _ => .other

def Turn.activity : Turn → Activity
  | ⟨.connect, _⟩ => .opening
  | ⟨.attempt r, _⟩ => r.activity
  | ⟨.delay _, _⟩ => .pause
  | _ => .notice

variable {turns : List Turn}

theorem activity_tries {r : Request} {replies : List (Reply r)} {turn : Turn}
    (h : turn ∈ tries r replies) : turn.activity = r.activity := by
  obtain ⟨reply, -, rfl⟩ := mem_tries.1 h
  rfl

@[simp] theorem activity_identRequest : identRequest.activity = .identification := rfl

@[simp] theorem activity_rebootCommand (p : Protocol) :
    (Request.writeByte p.rebootCommand).activity = .reboot := by
  cases p <;> rfl

@[simp] theorem activity_eraseCommand (p : Protocol) :
    (Request.writeByte p.eraseCommand).activity = .erase := by
  cases p <;> rfl

theorem Protocol.AsksIdentity.activity {p : Protocol} {turn : Turn} (h : p.AsksIdentity turn) :
    turn.activity = .other := by
  obtain ⟨a, answer⟩ := turn
  cases a with
  | attempt r =>
    obtain h | h := h <;> cases h <;> cases p <;> rfl
  | _ => rcases h with h | h <;> cases h

theorem readBack_activity {us : UInt32} {r : Request} {replies : List (Reply r)}
    (hr : r.activity = .flashRead) : ∀ turn ∈ Turn.delayed us :: tries r replies,
      turn.activity = .flashRead ∨ turn.activity = .pause := by
  intro turn hturn
  rcases List.mem_cons.1 hturn with rfl | hturn
  · exact .inr rfl
  · exact .inl ((activity_tries hturn).trans hr)

theorem V0.Verifies.activity {label : String} {offset : UInt32} {bytes buffer : List UInt8} {left : Nat}
    {last : Option BusError} {r : Except Error Unit}
    (h : V0.Verifies label offset bytes left last buffer turns r) :
    ∀ turn ∈ turns, turn.activity = .flashRead ∨ turn.activity = .pause := by
  induction h with
  | unread => simp
  | different => simp
  | failed _ _ ih => exact List.forall_mem_append.2 ⟨readBack_activity rfl, ih⟩
  | mismatched _ _ _ ih => exact List.forall_mem_append.2 ⟨readBack_activity rfl, ih⟩
  | verified => exact readBack_activity rfl

namespace Driver
variable {d d' : Driver} {label : String}

theorem Creates.activity {r : Except Error Driver} (h : Creates label turns r) :
    ∃ result rest, turns = .connected result :: rest ∧
      ∀ turn ∈ rest, turn.activity = .adapter ∨ turn.activity = .identification := by
  obtain ⟨result, rest, rfl, hrest⟩ := h.turns_eq
  refine ⟨result, rest, rfl, ?_⟩
  rintro ⟨a, answer⟩ hturn
  cases a with
  | attempt r =>
    obtain h | h := hrest _ hturn <;> cases h
    · exact .inl rfl
    · exact .inr rfl
  | _ => rcases hrest _ hturn with h | h <;> cases h

/-- Every turn opens the bus or asks who is there. -/
theorem Creates.each_activity {r : Except Error Driver} (h : Creates label turns r) : ∀ turn ∈ turns,
    turn.activity = .opening ∨ turn.activity = .adapter ∨ turn.activity = .identification := by
  obtain ⟨result, rest, rfl, hrest⟩ := h.activity
  exact List.forall_mem_cons.2 ⟨.inl rfl, fun turn hturn => .inr (hrest turn hturn)⟩

theorem deviceInfo_activity {info : DeviceInfo} (hd : d.device.operational = true)
    (h : Runs deviceInfo d turns info d') : ∀ turn ∈ turns, turn.activity = .other :=
  fun turn hturn => ((deviceInfo_turns hd h).2.2 turn hturn).activity

/-- What a chunk does on the bus. -/
def ChunkActivity (turn : Turn) : Prop :=
  turn.activity = .flashWrite ∨ turn.activity = .flashRead ∨ turn.activity = .pause

theorem writeChunk_activity {bytes : List UInt8} {r : Except Error Unit}
    (hd : d.device.operational = true) (h : Runs (writeChunk bytes).run d turns r d') :
    ∀ turn ∈ turns, ChunkActivity turn := by
  obtain ⟨hwrites, -⟩ := writes_writeChunk hd h
  have hflash : ∀ {r : Request} {replies : List (Reply r)}, r.activity = .flashWrite →
      ∀ turn ∈ tries r replies, ChunkActivity turn :=
    fun hr _ hturn => .inl ((activity_tries hturn).trans hr)
  unfold Writes at hwrites
  cases hp : d.protocol with
  | v0 =>
    rw [hp] at hwrites
    cases hwrites with
    | refused => simp
    | unwritten => exact hflash rfl
    | written _ _ hverify =>
      refine List.forall_mem_append.2 ⟨hflash rfl, ?_⟩
      exact fun turn hturn => .inr (V0.Verifies.activity hverify turn hturn)
  | v1 =>
    rw [hp] at hwrites
    cases hwrites with
    | refused => simp
    | unaddressed => exact hflash rfl
    | unwritten => exact List.forall_mem_append.2 ⟨hflash rfl, hflash rfl⟩
    | readBack =>
      refine List.forall_mem_append.2 ⟨List.forall_mem_append.2 ⟨hflash rfl, hflash rfl⟩, ?_⟩
      exact fun turn hturn => .inr (readBack_activity rfl turn hturn)

end Driver

end Backplane
