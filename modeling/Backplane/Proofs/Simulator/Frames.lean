import Backplane.Proofs.Simulator.Chunk

/-!
# Flash frames between encoder and controller

The encoders of the drivers and the readers of a simulated controller agree, whatever is encoded: a
header or a place comes back as it was, and a frame is the encoding of what is read from it. So a
write at any offset means that write to a controller that runs, whatever its length. Without faults it
is taken exactly if it ends within flash; then flash holds the data there and is as it was elsewhere,
and the readback of the same place gives the data.

* `Flash.header_parseHeader`: what was read encodes to the start of the frame.
* `attempt_address`: an address frame sets the place it encodes.
* `expects_placed`: behind it, writes and readbacks mean the place.
* `sends_place`: a write and its readback.
* `frames_agree`: all of it.
-/
namespace Backplane.Flash

theorem bigEndian16_word16 (a b : UInt8) : bigEndian16 (word16 a b) = [a, b] := by
  have ha := a.toNat_lt
  have hb := b.toNat_lt
  simp only [bigEndian16, word16, UInt16.toNat_ofNat', List.cons.injEq, and_true]
  constructor <;> (apply UInt8.toNat_inj.1; rw [UInt8.toNat_ofNat']; omega)

theorem bigEndian32_word32 (a b c d : UInt8) : bigEndian32 (word32 a b c d) = [a, b, c, d] := by
  have ha := a.toNat_lt
  have hb := b.toNat_lt
  have hc := c.toNat_lt
  have hd := d.toNat_lt
  simp only [bigEndian32, word32, UInt32.toNat_ofNat', List.cons.injEq, and_true]
  refine ⟨?_, ?_, ?_, ?_⟩ <;> (apply UInt8.toNat_inj.1; rw [UInt8.toNat_ofNat']; omega)

/-- A frame that is long enough starts with the header that is read from it. -/
theorem header_parseHeader {frame : List UInt8} (h : headerLength ≤ frame.length) :
    ∃ op offset length, parseHeader frame = some (op, offset, length) ∧
      header op offset length = frame.take headerLength := by
  match frame, h with
  | op :: a :: b :: c :: d :: x :: y :: rest, _ =>
    refine ⟨op, word32 a b c d, word16 x y, rfl, ?_⟩
    rw [header, bigEndian32_word32, bigEndian16_word16]
    rfl

end Backplane.Flash

namespace Backplane

/-- The longest data whose length a flash frame can name. -/
def Protocol.lengthMax : Protocol → Nat
  | .v0 => 0xFFFF
  | .v1 => 0xFF

/-- The transfer that writes data to a place. The newer generation has been told the place. -/
def Protocol.writeMessages (offset : UInt32) (bytes : List UInt8) : Protocol → List Message
  | .v0 => [.write (Flash.header V0.flashWriteCommand offset (.ofNat bytes.length) ++ bytes)]
  | .v1 => [.write (V1.flashDataCommand :: bytes)]

/-- The transfer that reads a place back. -/
def Protocol.readMessages (offset : UInt32) (length : Nat) : Protocol → List Message
  | .v0 => [.write (Flash.header V0.flashReadCommand offset (.ofNat length)), .read length]
  | .v1 => [.write [V1.flashDataCommand], .read length]

namespace Simulator

variable {s t : Simulator} {p : Protocol} {offset : UInt32} {length : Nat} {bytes : List UInt8}

/-- An address frame sets the place that it encodes, and nothing else. -/
theorem attempt_address (hs : s.Running .v1) (offset : UInt32) (length : UInt8) :
    attempt (.transfer [.write (V1.flashAddressCommand :: Flash.location offset length)]) s =
      answer () { s.count (.transfer [.write (V1.flashAddressCommand :: Flash.location offset length)])
        with flashAddress := some (offset, length.toNat) } := by
  have hframe : s.frame? [.write (V1.flashAddressCommand :: Flash.location offset (.ofNat length.toNat))] =
      some (.address offset length.toNat) := frame?_address hs.2 length.toNat_lt
  rw [UInt8.ofNat_toNat] at hframe
  rw [attempt_transfer hs hframe]
  rfl

/-- Tells a controller the place of the next data, where its generation has a frame for that. -/
def placed (offset : UInt32) (length : Nat) (s : Simulator) : Simulator :=
  match s.config.protocol with
  | .v0 => s
  | .v1 => (attempt (V1.addressRequest offset length) s).next

/-- Writes and readbacks mean a place to a running controller. -/
structure Expects (p : Protocol) (offset : UInt32) (length : Nat) (s : Simulator) : Prop where
  running : s.Running p
  store : ∀ bytes, bytes.length = length →
    s.frame? (p.writeMessages offset bytes) = some (.store offset bytes)
  load : s.frame? (p.readMessages offset length) = some (.load offset length)

/-- Behind the announcement writes and readbacks mean the place, and that is all it has changed. -/
theorem expects_placed (hs : s.Running p) (offset : UInt32) (hlength : length ≤ p.lengthMax) :
    Expects p offset length (s.placed offset length) ∧ ∃ counters address,
      s.placed offset length = { s with counters := counters, flashAddress := address } := by
  unfold placed
  rw [hs.2]
  cases p with
  | v0 =>
    have hless : length < 0x10000 := Nat.lt_succ_of_le hlength
    refine ⟨⟨hs, ?_, frame?_readV0 hs.2 hless⟩, s.counters, s.flashAddress, rfl⟩
    rintro bytes rfl
    exact frame?_writeV0 offset hs.2 hless
  | v1 =>
    have hless : length < 0x100 := Nat.lt_succ_of_le hlength
    have hnext : (attempt (V1.addressRequest offset length) s).next =
        { s.count (V1.addressRequest offset length) with flashAddress := some (offset, length) } := by
      rw [attempt_address hs, UInt8.toNat_ofNat', Nat.mod_eq_of_lt hless]
      rfl
    refine ⟨?_, _, _, hnext⟩
    rw [hnext]
    refine ⟨hs, ?_, frame?_readV1 hs.2 rfl⟩
    rintro bytes rfl
    exact frame?_writeV1 hs.2 rfl

theorem Expects.stored {r : Request} (h : Expects p offset length s) :
    Expects p offset length ((s.count r).store offset bytes) :=
  ⟨h.running, h.store, h.load⟩

/-- Without faults data are stored exactly where they end within flash. -/
theorem attempt_store (h : Expects p offset bytes.length s) (hfaults : s.faults.Harmless) :
    attempt (.transfer (p.writeMessages offset bytes)) s =
      if offset.toNat + bytes.length ≤ imageMax then
        answer () ((s.count (.transfer (p.writeMessages offset bytes))).store offset bytes)
      else refuse (s.count (.transfer (p.writeMessages offset bytes))) := by
  rw [attempt_transfer h.running (h.store bytes rfl)]
  by_cases hle : offset.toNat + bytes.length ≤ imageMax
  · rw [if_pos hle, if_pos (accepts_store hfaults hle)]
    rfl
  · rw [if_neg hle, accepts_store_beyond (Nat.lt_of_not_le hle)]
    rfl

/-- Without faults a readback gives what flash holds. -/
theorem attempt_load (h : Expects p offset length s) (hfaults : s.faults.Harmless)
    (hle : offset.toNat + length ≤ imageMax) :
    (attempt (.transfer (p.readMessages offset length)) s).value =
      ⟨.ok (), readBytes s.flash offset.toNat length⟩ := by
  have haccepts : s.accepts (.load offset length) = true := decide_eq_true hle
  rw [attempt_transfer h.running h.load, if_pos haccepts, ← load_eq hfaults]
  rfl

/-- What comes of data that were sent to a place of a controller. -/
structure Sends (offset : UInt32) (bytes : List UInt8) (p : Protocol) (s : Simulator)
    (served : Served (Reply (.transfer (p.writeMessages offset bytes))) Simulator) : Prop where
  accepted_iff : served.value.result = .ok () ↔ offset.toNat + bytes.length ≤ imageMax
  refused : imageMax < offset.toNat + bytes.length →
    served.value = .fail nak ∧ served.next.flash = s.flash
  inside : offset.toNat + bytes.length ≤ imageMax →
    ∀ k < bytes.length, served.next.flash[offset.toNat + k]? = bytes[k]?
  outside : ∀ i, i < offset.toNat ∨ offset.toNat + bytes.length ≤ i →
    served.next.flash[i]? = s.flash[i]?
  /-- Beside flash nothing changes but the counts, and the place the controller was told. -/
  rest_eq : served.next = { s with
    flash := served.next.flash
    counters := served.next.counters
    flashAddress := served.next.flashAddress }
  readBack : offset.toNat + bytes.length ≤ imageMax →
    (attempt (.transfer (p.readMessages offset bytes.length)) served.next).value = ⟨.ok (), bytes⟩

theorem sends_place (hs : s.Running p) (hfaults : s.faults.Harmless) (hlength : bytes.length ≤ p.lengthMax) :
    Sends offset bytes p s
      (attempt (.transfer (p.writeMessages offset bytes)) (s.placed offset bytes.length)) := by
  obtain ⟨hexpects, counters, address, hplaced⟩ := expects_placed hs offset hlength
  rw [hplaced] at hexpects ⊢
  rw [attempt_store hexpects hfaults]
  by_cases hle : offset.toNat + bytes.length ≤ imageMax
  · rw [if_pos hle]
    have hbeyond := Nat.not_lt.2 hle
    refine ⟨iff_of_true rfl hle, fun h => absurd h hbeyond, fun _ k hk => ?_, fun i hi => ?_, rfl,
      fun _ => ?_⟩
    · exact getElem?_writeBytes_inside hk hle
    · exact getElem?_writeBytes_outside hi
    · exact (attempt_load hexpects.stored hfaults hle).trans
        (congrArg _ (readBytes_writeBytes s.flash offset.toNat bytes hle))
  · rw [if_neg hle]
    exact ⟨iff_of_false nofun hle, fun _ => ⟨rfl, rfl⟩, fun h => absurd h hle, fun _ _ => rfl, rfl,
      fun h => absurd h hle⟩

/-- Encoders and readers agree on every header and every place, and so a write means the same to both
ends: a controller without faults takes it exactly if it ends within flash, and reads it back. -/
theorem frames_agree :
    (∀ op offset length data, Flash.parseHeader (Flash.header op offset length ++ data) =
      some (op, offset, length)) ∧
    (∀ frame : List UInt8, Flash.headerLength ≤ frame.length → ∃ op offset length,
      Flash.parseHeader frame = some (op, offset, length) ∧
        Flash.header op offset length = frame.take Flash.headerLength) ∧
    (∀ s : Simulator, s.Running .v1 → ∀ offset length,
      let served := attempt (.transfer [.write (V1.flashAddressCommand :: Flash.location offset length)]) s
      served.value.result = .ok () ∧ served.next.flashAddress = some (offset, length.toNat)) ∧
    ∀ (p : Protocol) (s : Simulator), s.Running p → s.faults.Harmless → ∀ offset bytes,
      bytes.length ≤ p.lengthMax → Sends offset bytes p s
        (attempt (.transfer (p.writeMessages offset bytes)) (s.placed offset bytes.length)) := by
  refine ⟨Flash.parseHeader_header, fun _ => Flash.header_parseHeader, fun s hs offset length => ?_,
    fun _ _ hs hfaults _ _ => sends_place hs hfaults⟩
  rw [attempt_address hs]
  exact ⟨rfl, rfl⟩

/-- The last byte of flash takes one byte of data, the place behind it takes none. -/
theorem frames_agree_at_the_end :
    let s := Simulator.start (.equipped .v1) {}
    let served := fun offset : UInt32 =>
      attempt (.transfer (Protocol.writeMessages offset [0x5A] .v1)) (s.placed offset 1)
    s.Running .v1 ∧ s.faults.Harmless ∧ [0x5A].length ≤ Protocol.v1.lengthMax ∧
      (served 131071).value.result = .ok () ∧
      (attempt (.transfer (Protocol.readMessages 131071 1 .v1)) (served 131071).next).value =
        ⟨.ok (), [0x5A]⟩ ∧
      (served 131072).value = .fail nak := by
  intro s served
  have hs : s.Running .v1 := ⟨rfl, rfl⟩
  have hfaults : s.faults.Harmless := ⟨rfl, rfl, rfl, rfl, rfl⟩
  have hlength : [0x5A].length ≤ Protocol.v1.lengthMax := by decide
  have hsends := frames_agree.2.2.2 .v1 s hs hfaults
  have hfits : (131071 : UInt32).toNat + 1 ≤ imageMax := by decide
  have hbeyond : imageMax < (131072 : UInt32).toNat + 1 := by decide
  exact ⟨hs, hfaults, hlength, (hsends 131071 [0x5A] hlength).accepted_iff.2 hfits,
    (hsends 131071 [0x5A] hlength).readBack hfits, ((hsends 131072 [0x5A] hlength).refused hbeyond).1⟩

end Simulator
end Backplane
