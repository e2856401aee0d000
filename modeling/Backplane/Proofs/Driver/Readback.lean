import Backplane.Bus.Playback
import Backplane.Proofs.Driver.Chunk
import Backplane.Proofs.Stream

/-!
# What a written chunk comes to

Both generations write a chunk in the same way: a few transfers one after the other, and then
readbacks into one buffer until one of them agrees with what was written. They differ in the
transfers, in the pause before a readback and in the number of readbacks. A chunk counts as written
where a readback agreed, and only there does the flash offset move on.

* `Readback`, `Readback.Share`: readbacks that share a buffer.
* `Driver.Sends`, `Driver.Written`: the ways a chunk that is not refused comes to an end.
* `V0.Verifies.readbacks`: the readbacks of the older generation, laid out in a row.
* `Driver.Writes.outcome`, `Driver.runs_writeChunk_idle`: a handle that passed its check, and one that
  did not.
* `Driver.play_writeChunk`: a chunk at any site.
-/
namespace Backplane

/-! ## Readbacks -/

/-- One readback: its attempts, what it came to, and what the buffer held behind it. -/
structure Readback (messages : List Message) where
  replies : List (Reply (.transfer messages))
  result : Except BusError Unit
  contents : List UInt8

namespace Readback
variable {messages : List Message}

/-- The readback succeeded, with the bytes that were written. -/
def Agrees (back : Readback messages) (bytes : List UInt8) : Prop :=
  back.result = .ok () ∧ back.contents = bytes

/-- A readback on the bus: a pause, then its attempts. -/
def turns (delay : UInt32) (back : Readback messages) : List Turn :=
  .delayed delay :: tries _ back.replies

/-- The failure of a readback, if it failed. -/
def failure? (back : Readback messages) : Option BusError :=
  match back.result with
  | .ok () => none
  | .error e => some e

/-- Readbacks one after the other, each into the buffer that the one before it left. -/
inductive Share : (buffer : List UInt8) → List (Readback messages) → Prop
  | nil {buffer : List UInt8} : Share buffer []
  | cons {buffer : List UInt8} {back : Readback messages} {rest : List (Readback messages)}
      (hread : Settles Device.attemptsMax back.replies back.result)
      (hcontents : back.contents = delivered buffer back.replies) (hrest : Share back.contents rest) :
      Share buffer (back :: rest)

end Readback

/-! ## What a chunk is made of -/

/-- The transfers that write a chunk, and the operation that each of them makes up. -/
def Protocol.chunkWrites (p : Protocol) (offset : UInt32) (bytes : List UInt8) :
    List (Operation × List Message) :=
  match p with
  | .v0 => [(.writeFlash,
      [.write (Flash.header V0.flashWriteCommand offset (.ofNat bytes.length) ++ bytes)])]
  | .v1 => [(.setFlashAddress,
      [.write (V1.flashAddressCommand :: Flash.location offset (.ofNat bytes.length))]),
    (.writeFlash, [.write (V1.flashDataCommand :: bytes)])]

/-- The transfer that reads a chunk back. -/
def Protocol.chunkRead (p : Protocol) (offset : UInt32) (length : Nat) : List Message :=
  match p with
  | .v0 => [.write (Flash.header V0.flashReadCommand offset (.ofNat length)), .read length]
  | .v1 => [.write [V1.flashDataCommand], .read length]

/-- The operation that writing a chunk begins with. -/
def Protocol.chunkOperation : Protocol → Operation
  | .v0 => .writeFlash
  | .v1 => .setFlashAddress

/-- The number of readbacks of a chunk. -/
def Protocol.readbacks : Protocol → Nat
  | .v0 => 5
  | .v1 => 1

/-- The pause before a readback, in microseconds. -/
def Protocol.readbackDelay : Protocol → UInt32
  | .v0 => 100000
  | .v1 => 50000

namespace Driver

/-- Transfers one after the other until one fails, and that failure. -/
inductive Sends : List (Operation × List Message) → List Turn → Option (Operation × BusError) → Prop
  | nil : Sends [] [] none
  | failed {op : Operation} {messages : List Message} {rest : List (Operation × List Message)}
      {replies : List (Reply (.transfer messages))} {e : BusError}
      (h : Settles Device.attemptsMax replies (.error e)) :
      Sends ((op, messages) :: rest) (tries _ replies) (some (op, e))
  | sent {op : Operation} {messages : List Message} {rest : List (Operation × List Message)}
      {replies : List (Reply (.transfer messages))} {turns : List Turn}
      {failure : Option (Operation × BusError)} (h : Settles Device.attemptsMax replies (.ok ()))
      (hrest : Sends rest turns failure) :
      Sends ((op, messages) :: rest) (tries _ replies ++ turns) failure

/-- The ways a chunk that is not refused comes to an end. -/
inductive Written (p : Protocol) (label : String) (offset : UInt32) (bytes : List UInt8) :
    List Turn → Except Error Unit → Prop
  | unwritten {turns : List Turn} {op : Operation} {e : BusError}
      (hsends : Sends (p.chunkWrites offset bytes) turns (some (op, e))) :
      Written p label offset bytes turns (.error (.communication label op e))
  /-- A readback agreed, and none before it did. -/
  | verified {turns : List Turn} {front : List (Readback (p.chunkRead offset bytes.length))}
      {final : Readback (p.chunkRead offset bytes.length)}
      (hsends : Sends (p.chunkWrites offset bytes) turns none)
      (hshare : Readback.Share (.replicate bytes.length 0) (front ++ [final]))
      (hfew : front.length < p.readbacks) (hfront : ∀ back ∈ front, ¬ back.Agrees bytes)
      (hfinal : final.Agrees bytes) :
      Written p label offset bytes
        (turns ++ (front ++ [final]).flatMap (Readback.turns p.readbackDelay)) (.ok ())
  /-- No readback agreed, and the last of them failed. -/
  | unread {turns : List Turn} {front : List (Readback (p.chunkRead offset bytes.length))}
      {final : Readback (p.chunkRead offset bytes.length)} {e : BusError}
      (hsends : Sends (p.chunkWrites offset bytes) turns none)
      (hshare : Readback.Share (.replicate bytes.length 0) (front ++ [final]))
      (hall : front.length + 1 = p.readbacks) (hfront : ∀ back ∈ front, ¬ back.Agrees bytes)
      (hfinal : final.result = .error e) :
      Written p label offset bytes
        (turns ++ (front ++ [final]).flatMap (Readback.turns p.readbackDelay))
        (.error (.communication label .readBackFlash e))
  /-- No readback agreed, and the last of them brought other bytes. -/
  | different {turns : List Turn} {front : List (Readback (p.chunkRead offset bytes.length))}
      {final : Readback (p.chunkRead offset bytes.length)}
      (hsends : Sends (p.chunkWrites offset bytes) turns none)
      (hshare : Readback.Share (.replicate bytes.length 0) (front ++ [final]))
      (hall : front.length + 1 = p.readbacks) (hfront : ∀ back ∈ front, ¬ back.Agrees bytes)
      (hfinal : final.result = .ok ()) (hne : final.contents ≠ bytes) :
      Written p label offset bytes
        (turns ++ (front ++ [final]).flatMap (Readback.turns p.readbackDelay))
        (.error (.verifyFailed label offset))

end Driver

open Driver

variable {label : String} {offset : UInt32} {bytes : List UInt8} {turns : List Turn}
  {r : Except Error Unit}

/-! ## The older generation -/

/-- The outcome of readbacks of which none agreed, by the failure of the last. -/
def V0.disagreed (label : String) (offset : UInt32) : Option BusError → Error
  | some e => .communication label .readBackFlash e
  | none => .verifyFailed label offset

/-- The outcome of readbacks in a row, `left` of them at most, behind one that failed with `last`: one
of them agreed at last, or none did. -/
inductive V0.Decide (label : String) (offset : UInt32) (bytes : List UInt8) (left : Nat)
    (last : Option BusError) :
    List (Readback (Protocol.v0.chunkRead offset bytes.length)) → Except Error Unit → Prop
  | agreed {front : List (Readback (Protocol.v0.chunkRead offset bytes.length))}
      {final : Readback (Protocol.v0.chunkRead offset bytes.length)} (hfew : front.length < left)
      (hfront : ∀ back ∈ front, ¬ back.Agrees bytes) (hfinal : final.Agrees bytes) :
      Decide label offset bytes left last (front ++ [final]) (.ok ())
  | disagreed {rounds : List (Readback (Protocol.v0.chunkRead offset bytes.length))}
      (hall : rounds.length = left) (hrounds : ∀ back ∈ rounds, ¬ back.Agrees bytes) :
      Decide label offset bytes left last rounds
        (.error (V0.disagreed label offset (rounds.foldl (fun _ back => back.failure?) last)))

/-- A readback that did not agree stands in front of the others. -/
theorem V0.Decide.cons {left : Nat} {last : Option BusError}
    {back : Readback (Protocol.v0.chunkRead offset bytes.length)}
    {rounds : List (Readback (Protocol.v0.chunkRead offset bytes.length))}
    (hback : ¬ back.Agrees bytes) (h : V0.Decide label offset bytes left back.failure? rounds r) :
    V0.Decide label offset bytes (left + 1) last (back :: rounds) r := by
  cases h with
  | @agreed front final hfew hfront hfinal =>
    rw [← List.cons_append]
    exact .agreed (Nat.succ_lt_succ hfew) (List.forall_mem_cons.2 ⟨hback, hfront⟩) hfinal
  | disagreed hall hrounds =>
    exact .disagreed (congrArg Nat.succ hall)
      (List.forall_mem_cons.2 ⟨hback, hrounds⟩)

/-- The readbacks of a chunk, laid out in a row. -/
theorem V0.Verifies.readbacks {left : Nat} {last : Option BusError} {buffer : List UInt8}
    (h : V0.Verifies label offset bytes left last buffer turns r) :
    ∃ rounds, Readback.Share buffer rounds ∧
      turns = rounds.flatMap (Readback.turns V0.verifyDelay) ∧
      V0.Decide label offset bytes left last rounds r := by
  induction h with
  | unread => exact ⟨[], .nil, rfl, .disagreed rfl (by simp)⟩
  | different => exact ⟨[], .nil, rfl, .disagreed rfl (by simp)⟩
  | @failed _ _ buffer e replies _ _ hread _ ih =>
    obtain ⟨rounds, hshare, rfl, hdecide⟩ := ih
    let back : Readback (Protocol.v0.chunkRead offset bytes.length) :=
      ⟨replies, .error e, delivered buffer replies⟩
    exact ⟨back :: rounds, .cons hread rfl hshare, rfl, hdecide.cons (by rintro ⟨⟨⟩, -⟩)⟩
  | @mismatched _ _ buffer replies _ _ hread hne _ ih =>
    obtain ⟨rounds, hshare, rfl, hdecide⟩ := ih
    let back : Readback (Protocol.v0.chunkRead offset bytes.length) :=
      ⟨replies, .ok (), delivered buffer replies⟩
    exact ⟨back :: rounds, .cons hread rfl hshare, rfl, hdecide.cons fun hagrees => hne hagrees.2⟩
  | @verified left _ buffer replies hread heq =>
    let back : Readback (Protocol.v0.chunkRead offset bytes.length) :=
      ⟨replies, .ok (), delivered buffer replies⟩
    have hagrees : back.Agrees bytes := ⟨rfl, heq⟩
    exact ⟨[] ++ [back], .cons hread rfl .nil, (List.append_nil _).symm,
      .agreed (Nat.succ_pos left) (by simp) hagrees⟩

theorem V0.Writes.outcome (hchunk : IsChunk offset bytes)
    (h : V0.Writes label offset bytes turns r) : Written .v0 label offset bytes turns r := by
  cases h with
  | refused hrefused => exact absurd hchunk hrefused
  | unwritten _ hwrite => exact .unwritten (.failed hwrite)
  | @written replies turns _ _ hwrite hverify =>
    obtain ⟨rounds, hshare, rfl, hdecide⟩ := hverify.readbacks
    have hsends : Sends (Protocol.v0.chunkWrites offset bytes) (tries _ replies) none := by
      rw [← List.append_nil (tries _ replies)]
      exact .sent hwrite .nil
    cases hdecide with
    | agreed hfew hfront hfinal => exact .verified hsends hshare hfew hfront hfinal
    | disagreed hall hrounds =>
      rcases List.eq_nil_or_concat rounds with rfl | ⟨front, final, rfl⟩
      · cases hall
      rw [List.concat_eq_append] at *
      rw [List.length_append] at hall
      have hlength : front.length + 1 = Protocol.v0.readbacks := hall
      obtain ⟨hfront, hfinal⟩ := List.forall_mem_append.1 hrounds
      rw [List.foldl_append]
      show Written .v0 label offset bytes _ (.error (V0.disagreed label offset final.failure?))
      cases hresult : final.result with
      | error e =>
        rw [show final.failure? = some e by rw [Readback.failure?, hresult]]
        exact .unread hsends hshare hlength hfront hresult
      | ok _ =>
        have hne : final.contents ≠ bytes := fun heq => hfinal final (by simp) ⟨hresult, heq⟩
        rw [show final.failure? = none by rw [Readback.failure?, hresult]]
        exact .different hsends hshare hlength hfront hresult hne

/-! ## The newer generation -/

theorem V1.Writes.outcome (hchunk : IsChunk offset bytes)
    (h : V1.Writes label offset bytes turns r) : Written .v1 label offset bytes turns r := by
  cases h with
  | refused hrefused => exact absurd hchunk hrefused
  | unaddressed _ haddress => exact .unwritten (.failed haddress)
  | unwritten _ haddress hwrite => exact .unwritten (.sent haddress (.failed hwrite))
  | @readBack addresses replies reads result r _ haddress hwrite hread hr =>
    have hsends : Sends (Protocol.v1.chunkWrites offset bytes)
        (tries _ addresses ++ tries _ replies) none := by
      rw [← List.append_nil (tries _ replies)]
      exact .sent haddress (.sent hwrite .nil)
    let back : Readback (Protocol.v1.chunkRead offset bytes.length) :=
      ⟨reads, result, delivered (.replicate bytes.length 0) reads⟩
    have hshare : Readback.Share (.replicate bytes.length 0) ([] ++ [back]) := .cons hread rfl .nil
    have hturns : tries _ addresses ++ tries _ replies ++ .delayed V1.settleDelay :: tries _ reads =
        tries _ addresses ++ tries _ replies ++
          ([] ++ [back]).flatMap (Readback.turns Protocol.v1.readbackDelay) := by
      rw [List.nil_append, List.flatMap_singleton]
      rfl
    rw [hturns]
    subst hr
    cases result with
    | error e => exact .unread hsends hshare rfl (by simp) rfl
    | ok _ =>
      dsimp only
      split
      · next heq => exact .verified hsends hshare Nat.one_pos (by simp) ⟨rfl, heq⟩
      · next hne => exact .different hsends hshare rfl (by simp) rfl hne

namespace Driver
variable {d d' : Driver}

/-! ## Both generations -/

theorem Writes.outcome (hchunk : IsChunk d.flashOffset bytes) (h : d.Writes bytes turns r) :
    Written d.protocol d.label d.flashOffset bytes turns r := by
  unfold Writes at h
  cases hp : d.protocol with
  | v0 =>
    rw [hp] at h
    exact V0.Writes.outcome hchunk h
  | v1 =>
    rw [hp] at h
    exact V1.Writes.outcome hchunk h

theorem Written.ne_invalidChunk {n : Nat} {p : Protocol}
    (h : Written p label offset bytes turns r) : r ≠ .error (.invalidChunk n) := by
  cases h <;> simp

/-- A chunk that a driver does not take is refused before anything else. -/
theorem runs_writeChunk_refused (hchunk : ¬ IsChunk d.flashOffset bytes)
    (h : Runs (writeChunk bytes).run d turns r d') :
    turns = [] ∧ r = .error (.invalidChunk bytes.length) ∧ d = d' := by
  rw [writeChunk, tryByProtocol, ExceptT.run_mk, runs_byProtocol] at h
  cases hp : d.protocol with
  | v0 =>
    simp only [hp, V0.writeChunk] at h
    rwa [tries_get_bind, tries_checkChunk_bind, if_neg hchunk] at h
  | v1 =>
    simp only [hp, V1.writeChunk] at h
    rwa [tries_get_bind, tries_checkChunk_bind, if_neg hchunk] at h

/-- On a handle that failed its check an operation that is one request is refused. -/
theorem runs_communicate_idle {α : Type} {op : Operation} {r : Request} {command : Option UInt8}
    {sent : Option (List UInt8)} {received : r.Value → Option (List UInt8)}
    {f : r.Value → DriverM.Try α} {outcome : Except Error α} (hd : d.device.operational = false)
    (h : Runs (communicate op (Device.exchange r command sent received) >>= f).run d turns outcome d') :
    turns = [] ∧ outcome = .error (.communication d.label op .notOperational) ∧ d.Like d' := by
  obtain ⟨e, hrun, rfl⟩ | ⟨_, _, _, _, rfl, hrun, -⟩ := tries_bind.1 h
  all_goals
    obtain ⟨result, device, hexchange, rfl, hresult⟩ := runs_communicate hrun
    obtain ⟨rfl, rfl, rfl⟩ := Device.runs_exchange_refused hd hexchange
    cases hresult
  exact ⟨rfl, rfl, .noting _⟩

/-- On a handle that failed its check a chunk does not get past its first transfer. -/
theorem runs_writeChunk_idle (hd : d.device.operational = false)
    (hchunk : IsChunk d.flashOffset bytes) (h : Runs (writeChunk bytes).run d turns r d') :
    turns = [] ∧ r = .error (.communication d.label d.protocol.chunkOperation .notOperational) ∧
      d.Like d' := by
  rw [writeChunk, tryByProtocol, ExceptT.run_mk, runs_byProtocol] at h
  cases hp : d.protocol with
  | v0 =>
    simp only [hp, V0.writeChunk] at h
    rw [tries_get_bind, tries_checkChunk_bind, if_pos hchunk] at h
    exact runs_communicate_idle hd h
  | v1 =>
    simp only [hp, V1.writeChunk] at h
    rw [tries_get_bind, tries_checkChunk_bind, if_pos hchunk] at h
    exact runs_communicate_idle hd h

/-- Where the offset and the length stay below 2^32 the offset moves on by the length. -/
theorem toNat_flashOffset_past (hroom : d.flashOffset.toNat + bytes.length < UInt32.size) :
    (d.past bytes r).flashOffset.toNat =
      d.flashOffset.toNat + if r.isOk then bytes.length else 0 := by
  cases r with
  | error e => rfl
  | ok _ =>
    have hlength : (UInt32.ofNat bytes.length).toNat = bytes.length :=
      UInt32.toNat_ofNat_of_lt' (by omega)
    show (d.flashOffset + .ofNat bytes.length).toNat = d.flashOffset.toNat + bytes.length
    rw [UInt32.toNat_add, hlength]
    exact Nat.mod_eq_of_lt hroom

theorem not_isChunk_iff : ¬ IsChunk offset bytes ↔
    bytes = [] ∨ 128 < bytes.length ∨ offset.toNat % 4 ≠ 0 := by
  have hoffset : offset % 4 = 0 ↔ offset.toNat % 4 = 0 := by
    rw [← UInt32.toNat_inj, UInt32.toNat_mod]
    rfl
  unfold IsChunk
  rw [hoffset, Decidable.not_and_iff_not_or_not, Decidable.not_and_iff_not_or_not, Nat.not_le,
    Decidable.not_not]
  rfl

/-- What writing a chunk comes to, on any bus. -/
theorem ends_writeChunk (h : Runs (writeChunk bytes).run d turns r d') :
    (¬ IsChunk d.flashOffset bytes → turns = [] ∧ r = .error (.invalidChunk bytes.length)) ∧
      (IsChunk d.flashOffset bytes → d.device.operational = true →
        Written d.protocol d.label d.flashOffset bytes turns r) ∧
      (IsChunk d.flashOffset bytes → d.device.operational = false → turns = [] ∧
        r = .error (.communication d.label d.protocol.chunkOperation .notOperational)) ∧
      (d.past bytes r).Like d' := by
  by_cases hchunk : IsChunk d.flashOffset bytes
  · cases hd : d.device.operational with
    | true =>
      obtain ⟨hwrites, hlike⟩ := writes_writeChunk hd h
      exact ⟨absurd hchunk, fun _ _ => hwrites.outcome hchunk, nofun, hlike⟩
    | false =>
      obtain ⟨hturns, rfl, hlike⟩ := runs_writeChunk_idle hd hchunk h
      exact ⟨absurd hchunk, nofun, fun _ _ => ⟨hturns, rfl⟩, hlike⟩
  · obtain ⟨hturns, rfl, rfl⟩ := runs_writeChunk_refused hchunk h
    exact ⟨fun _ => ⟨hturns, rfl⟩, fun h => absurd h hchunk, fun h => absurd h hchunk, .refl _⟩

/-- A chunk that is written at any site, by a driver of either generation. It is refused for its length
or for the offset, and then nothing happens; else it comes to one of the ends of `Written`. The flash
offset moves on by its length where it was written, and stays where it was not. -/
theorem play_writeChunk {σ : Type} (site : Site σ) (d : Driver) (bench : Bench σ) (bytes : List UInt8)
    (hroom : d.flashOffset.toNat + bytes.length < UInt32.size) :
    let ran := site.play (writeChunk bytes).run (d, bench)
    let turns := site.trail (writeChunk bytes).run (d, bench)
    let refused := bytes = [] ∨ 128 < bytes.length ∨ d.flashOffset.toNat % 4 ≠ 0
    (∀ n, ran.1 = .error (.invalidChunk n) ↔ refused ∧ n = bytes.length) ∧
      (refused → turns = []) ∧
      ran.2.1.flashOffset.toNat =
        d.flashOffset.toNat + (if ran.1.isOk then bytes.length else 0) ∧
      (¬ refused → d.device.operational = true →
        Written d.protocol d.label d.flashOffset bytes turns ran.1) ∧
      (¬ refused → d.device.operational = false → turns = [] ∧
        ran.1 = .error (.communication d.label d.protocol.chunkOperation .notOperational)) := by
  intro ran turns refused
  have hrun : Runs (writeChunk bytes).run d turns ran.1 ran.2.1 :=
    site.runs_trail (writeChunk bytes).run (d, bench)
  have hrefused : refused ↔ ¬ IsChunk d.flashOffset bytes := not_isChunk_iff.symm
  obtain ⟨hinvalid, hwritten, hidle, hlike⟩ := ends_writeChunk hrun
  rw [hrefused, Decidable.not_not]
  refine ⟨fun n => ⟨?_, ?_⟩, fun h => (hinvalid h).1, ?_, hwritten, hidle⟩
  · intro hresult
    by_cases hchunk : IsChunk d.flashOffset bytes
    · cases hd : d.device.operational with
      | true => exact absurd hresult (hwritten hchunk hd).ne_invalidChunk
      | false => cases hresult.symm.trans (hidle hchunk hd).2
    · cases hresult.symm.trans (hinvalid hchunk).2
      exact ⟨hchunk, rfl⟩
  · rintro ⟨hchunk, rfl⟩
    exact (hinvalid hchunk).2
  · rw [hlike.flashOffset_eq, toNat_flashOffset_past hroom]

/-- A driver that has come past eight bytes. -/
def halfway (p : Protocol) : Driver := { ofDevice ⟨"bp", true, .none⟩ p with flashOffset := 8 }

/-- A bus that takes a transfer, fails three attempts at a readback, and then brings wrong bytes and at
last the right ones. -/
def hesitant : Bench Playback :=
  let failure : Playback.Cue := ⟨some (.os Errno.io), []⟩
  let tape := ⟨[⟨none, []⟩, failure, failure, failure, ⟨none, [9, 9, 9, 9]⟩], ⟨none, [1, 2, 3, 4]⟩⟩
  ⟨⟨[], .ok .required, tape⟩, #[]⟩

/-- A bus that takes everything and brings wrong bytes. -/
def mistaken : Bench Playback := ⟨⟨[], .ok .required, ⟨[], ⟨none, [9, 9, 9, 9]⟩⟩⟩, #[]⟩

theorem writeChunk_hesitant :
    (Playback.bus.site.play (writeChunk [1, 2, 3, 4]).run (halfway .v0, hesitant)).1 = .ok () := rfl

theorem writeChunk_mistaken :
    (Playback.bus.site.play (writeChunk [1, 2, 3, 4]).run (halfway .v1, mistaken)).1 =
      .error (.verifyFailed "bp" 8) := rfl

/-- The older generation sees the chunk at the third readback; the newer one does not see it at its
only one. -/
theorem play_writeChunk_halfway :
    let write := (writeChunk [1, 2, 3, 4]).run
    let older := Playback.bus.site.play write (halfway .v0, hesitant)
    let newer := Playback.bus.site.play write (halfway .v1, mistaken)
    older.1 = .ok () ∧ older.2.1.flashOffset.toNat = 12 ∧
      Written .v0 "bp" 8 [1, 2, 3, 4]
        (Playback.bus.site.trail write (halfway .v0, hesitant)) (.ok ()) ∧
      newer.1 = .error (.verifyFailed "bp" 8) ∧ newer.2.1.flashOffset.toNat = 8 ∧
      Written .v1 "bp" 8 [1, 2, 3, 4]
        (Playback.bus.site.trail write (halfway .v1, mistaken)) (.error (.verifyFailed "bp" 8)) := by
  intro write older newer
  have hrefused : ¬ (([1, 2, 3, 4] : List UInt8) = [] ∨ 128 < [1, 2, 3, 4].length ∨
      (8 : UInt32).toNat % 4 ≠ 0) := by decide
  obtain ⟨-, -, hmoved, hwritten, -⟩ :=
    play_writeChunk Playback.bus.site (halfway .v0) hesitant [1, 2, 3, 4] (by decide)
  obtain ⟨-, -, hstayed, hlost, -⟩ :=
    play_writeChunk Playback.bus.site (halfway .v1) mistaken [1, 2, 3, 4] (by decide)
  have hseen := hwritten hrefused rfl
  have hunseen := hlost hrefused rfl
  rw [writeChunk_hesitant] at hmoved hseen
  rw [writeChunk_mistaken] at hstayed hunseen
  exact ⟨writeChunk_hesitant, hmoved, hseen, writeChunk_mistaken, hstayed, hunseen⟩

end Driver
end Backplane
