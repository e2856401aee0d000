import Backplane.Proofs.Flash.Cursor
import Backplane.Proofs.Flash.Pieces
import Backplane.Proofs.Update.Traffic

/-!
# The loop over the chunks, on any bus

Two places move through an image side by side: the cursor of the update and the flash offset of the
driver. `Tracks` says that they agree; a chunk that was verified preserves it, so it holds wherever
the loop comes to. From it follow the alignment and the bounds of every chunk, and with them what the
chunks put on the wire.

* `Reaches.tracks`: the invariant, by induction on the chunks.
* `Tracks.isChunk`, `Tracks.bounds`: no chunk of an accepted image is refused or truncated.
* `Reaches.pieces`, `writes_frames`: the frames of the loop are those of consecutive pieces.
-/
namespace Backplane

variable {turns : List Turn}

/-- The frame of a flash write. -/
def Turn.flashFrame? : Turn → Option (List UInt8)
  | ⟨.attempt (.transfer [.write frame]), _⟩ =>
    if (Request.transfer [.write frame]).activity = .flashWrite then some frame else none
  | _ => none

/-- The frames of the flash writes that were attempted, in order. -/
def flashFrames (turns : List Turn) : List (List UInt8) := turns.filterMap Turn.flashFrame?

@[simp] theorem flashFrames_append {rest : List Turn} :
    flashFrames (turns ++ rest) = flashFrames turns ++ flashFrames rest :=
  List.filterMap_append ..

theorem flashFrames_eq_nil (h : ∀ turn ∈ turns, turn.activity ≠ .flashWrite) :
    flashFrames turns = [] := by
  refine List.filterMap_eq_nil_iff.2 ?_
  intro turn hturn
  unfold Turn.flashFrame?
  split
  · exact if_neg (h _ hturn)
  · rfl

theorem flashFrames_tries {frame : List UInt8} (replies : List (Reply (.transfer [.write frame])))
    (hframe : (Request.transfer [.write frame]).activity = .flashWrite) :
    flashFrames (tries _ replies) = .replicate replies.length frame := by
  induction replies with
  | nil => rfl
  | cons reply replies ih =>
    rw [tries_cons, flashFrames, List.filterMap_cons, Turn.flashFrame?, if_pos hframe]
    exact congrArg (frame :: ·) ih

/-- The attempts of one flash write repeat one frame. -/
theorem stutters_tries {frame : List UInt8} {replies : List (Reply (.transfer [.write frame]))}
    {most : Nat} {result : Except BusError Unit}
    (hframe : (Request.transfer [.write frame]).activity = .flashWrite)
    (hsettles : Settles most replies result) :
    Piece.Stutters (flashFrames (tries _ replies)) [frame] := by
  have hpos := List.length_pos_iff.2 hsettles.ne_nil
  obtain ⟨n, hn⟩ := Nat.exists_eq_succ_of_ne_zero hpos.ne'
  rw [flashFrames_tries replies hframe, hn]
  exact .replicate frame n

theorem flashFrames_readBack {turns : List Turn}
    (h : ∀ turn ∈ turns, turn.activity = .flashRead ∨ turn.activity = .pause) :
    flashFrames turns = [] := by
  refine flashFrames_eq_nil ?_
  intro turn hturn
  rcases h turn hturn with h | h <;> simp [h]

/-- What a chunk puts on the wire: the frames of a piece, or the announcement alone where the newer
generation did not acknowledge it. -/
theorem Driver.writes_frames {d : Driver} {bytes : List UInt8} {r : Except Error Unit}
    (hchunk : IsChunk d.flashOffset bytes) (h : d.Writes bytes turns r) :
    Piece.Stutters (flashFrames turns) (Piece.frames ⟨d.flashOffset.toNat, bytes⟩ d.protocol) ∨
      d.protocol = .v1 ∧ r ≠ .ok () ∧
        Piece.Stutters (flashFrames turns)
          (Piece.announcement ⟨d.flashOffset.toNat, bytes⟩ d.protocol) := by
  unfold Writes at h
  cases hp : d.protocol with
  | v0 =>
    rw [hp] at h
    simp only [Piece.frames, Piece.announcement, Piece.dataFrame, UInt32.ofNat_toNat,
      List.nil_append]
    cases h with
    | refused hrefused => exact absurd hchunk hrefused
    | unwritten _ hwrite => exact .inl (stutters_tries rfl hwrite)
    | written _ hwrite hverify =>
      rw [flashFrames_append, flashFrames_readBack hverify.activity, List.append_nil]
      exact .inl (stutters_tries rfl hwrite)
  | v1 =>
    rw [hp] at h
    simp only [Piece.frames, Piece.announcement, Piece.dataFrame, UInt32.ofNat_toNat]
    cases h with
    | refused hrefused => exact absurd hchunk hrefused
    | unaddressed _ haddress => exact .inr ⟨trivial, by simp, stutters_tries rfl haddress⟩
    | unwritten _ haddress hwrite =>
      rw [flashFrames_append]
      exact .inl ((stutters_tries rfl haddress).append (stutters_tries rfl hwrite))
    | readBack _ haddress hwrite =>
      rw [flashFrames_append, flashFrames_append, flashFrames_readBack (readBack_activity rfl),
        List.append_nil]
      exact .inl ((stutters_tries rfl haddress).append (stutters_tries rfl hwrite))

namespace Update
variable {image : List UInt8} {chunkSize : Nat} {c c' : Flash.Cursor} {d d' : Driver}
  {chunk : List UInt8}

/-- The cursor stands at a place of the image, and the driver at the same place of flash. -/
structure Tracks (image : List UInt8) (chunkSize : Nat) (c : Flash.Cursor) (d : Driver) : Prop where
  operational : d.device.operational = true
  size_eq : c.chunkSize = chunkSize
  offset_eq : d.flashOffset.toNat = c.offset
  offset_le : c.offset ≤ image.length
  rest_eq : c.rest = image.drop c.offset
  /-- Only the last chunk of an image may leave an offset that is no multiple of four. -/
  aligned : c.rest ≠ [] → c.offset % 4 = 0

namespace Tracks

/-- Nothing is left of the image exactly at its end. -/
theorem offset_eq_length (h : Tracks image chunkSize c d) :
    c.offset = image.length ↔ c.pending = none := by
  have hlength := congrArg List.length h.rest_eq
  have hle := h.offset_le
  rw [List.length_drop] at hlength
  rw [Flash.Cursor.pending_eq_none, ← List.length_eq_zero_iff]
  omega

theorem bounds (hsize : IsChunkSize chunkSize) (h : Tracks image chunkSize c d)
    (hpending : c.pending = some chunk) :
    chunk ≠ [] ∧ chunk.length ≤ chunkSize ∧ c.offset % 4 = 0 ∧
      c.offset + chunk.length ≤ image.length := by
  obtain ⟨hrest, rfl⟩ := Flash.Cursor.pending_eq hpending
  have hpos := List.length_pos_iff.2 hrest
  have hlength := congrArg List.length h.rest_eq
  rw [List.length_drop] at hlength
  refine ⟨?_, ?_, h.aligned hrest, ?_⟩
  · rw [← List.length_pos_iff, List.length_take, h.size_eq]
    have := hsize.1
    omega
  · rw [List.length_take, h.size_eq]
    omega
  · rw [List.length_take]
    omega

/-- A chunk is the part of the image at its place. -/
theorem chunk_eq (h : Tracks image chunkSize c d) (hpending : c.pending = some chunk) :
    chunk = (image.drop c.offset).take chunkSize := by
  obtain ⟨-, rfl⟩ := Flash.Cursor.pending_eq hpending
  rw [h.rest_eq, h.size_eq]

/-- A driver takes every chunk of an accepted image. -/
theorem isChunk (hsize : IsChunkSize chunkSize) (h : Tracks image chunkSize c d)
    (hpending : c.pending = some chunk) : IsChunk d.flashOffset chunk := by
  obtain ⟨hne, hlength, haligned, -⟩ := h.bounds hsize hpending
  refine ⟨hne, hlength.trans hsize.2.1, ?_⟩
  apply UInt32.toNat_inj.1
  rw [UInt32.toNat_mod, h.offset_eq]
  exact haligned

/-- The offset of the driver does not wrap. -/
theorem offset_add (hsize : IsChunkSize chunkSize) (himage : image.length ≤ imageMax)
    (h : Tracks image chunkSize c d) (hpending : c.pending = some chunk) :
    (d.flashOffset + .ofNat chunk.length).toNat = c.offset + chunk.length := by
  obtain ⟨-, -, -, hle⟩ := h.bounds hsize hpending
  have hmax : imageMax = 131072 := rfl
  rw [UInt32.toNat_add, UInt32.toNat_ofNat', h.offset_eq]
  omega

theorem advance (hsize : IsChunkSize chunkSize) (himage : image.length ≤ imageMax)
    (h : Tracks image chunkSize c d) (hpending : c.pending = some chunk)
    (hlike : (d.past chunk (.ok ())).Like d') : Tracks image chunkSize c.advance d' := by
  obtain ⟨-, -, haligned, hle⟩ := h.bounds hsize hpending
  have hoffset := h.offset_add hsize himage hpending
  obtain ⟨-, rfl⟩ := Flash.Cursor.pending_eq hpending
  have hlength := congrArg List.length h.rest_eq
  rw [List.length_drop] at hlength
  refine ⟨hlike.operational_eq.trans h.operational, h.size_eq, ?_, hle, ?_, ?_⟩
  · rw [hlike.flashOffset_eq]
    exact hoffset
  · -- The last chunk may be shorter than the chunk size; behind it nothing is left either way.
    simp only [Flash.Cursor.advance, h.rest_eq, List.drop_drop, List.length_take, List.length_drop]
    rcases Nat.le_total c.chunkSize (image.length - c.offset) with hle | hle
    · rw [Nat.min_eq_left hle]
    · rw [Nat.min_eq_right hle, List.drop_eq_nil_of_le (by omega), List.drop_eq_nil_of_le (by omega)]
  · intro hrest
    have hlt : c.chunkSize < c.rest.length := by
      simpa [Flash.Cursor.advance] using hrest
    have hfour := hsize.2.2
    rw [← h.size_eq] at hfour
    simp only [Flash.Cursor.advance, List.length_take]
    omega

theorem start (hd : d.device.operational = true) (hoffset : d.flashOffset = 0) :
    Tracks image chunkSize (.start image chunkSize) d :=
  ⟨hd, rfl, by rw [hoffset]; rfl, Nat.zero_le _, rfl, fun _ => rfl⟩

end Tracks

variable (hsize : IsChunkSize chunkSize) (himage : image.length ≤ imageMax)
include hsize himage

/-- The loop keeps the cursor and the driver at one place. -/
theorem Reaches.tracks (h : Reaches c d turns c' d') (htracks : Tracks image chunkSize c d) :
    Tracks image chunkSize c' d' := by
  induction h with
  | here => exact htracks
  | step hpending hwrite _ ih =>
    obtain ⟨-, hlike⟩ := Driver.writes_writeChunk htracks.operational hwrite
    exact ih (htracks.advance hsize himage hpending hlike)

omit hsize himage

/-- A piece that is the part of the image at its place, within the bounds of the image. -/
structure IsPieceOf (image : List UInt8) (chunkSize : Nat) (piece : Piece) : Prop where
  aligned : piece.offset % 4 = 0
  bytes_eq : piece.bytes = (image.drop piece.offset).take chunkSize
  le : piece.offset + piece.bytes.length ≤ image.length

include hsize himage in
theorem IsPieceOf.fits {piece : Piece} (h : IsPieceOf image chunkSize piece) : piece.Fits := by
  have hmax : imageMax = 131072 := rfl
  have hchunk : chunkSize ≤ 128 := hsize.2.1
  have hle := h.le
  refine ⟨by omega, ?_⟩
  rw [h.bytes_eq, List.length_take]
  omega

include hsize in
theorem Tracks.isPieceOf (h : Tracks image chunkSize c d) (hpending : c.pending = some chunk) :
    IsPieceOf image chunkSize ⟨c.offset, chunk⟩ :=
  ⟨(h.bounds hsize hpending).2.2.1, h.chunk_eq hpending, (h.bounds hsize hpending).2.2.2⟩

include hsize himage in
/-- The loop writes consecutive pieces, from the place where it starts to the place it comes to. -/
theorem Reaches.pieces (h : Reaches c d turns c' d') (htracks : Tracks image chunkSize c d) :
    ∃ pieces : List Piece,
      Piece.Stutters (flashFrames turns) (pieces.flatMap (·.frames d.protocol)) ∧
      Piece.Consecutive c.offset pieces ∧ (∀ piece ∈ pieces, IsPieceOf image chunkSize piece) ∧
      c'.offset = c.offset + (pieces.flatMap Piece.bytes).length ∧
      c.rest = pieces.flatMap Piece.bytes ++ c'.rest := by
  induction h with
  | here => exact ⟨[], .nil, trivial, by simp, rfl, rfl⟩
  | @step c c' d mid d' chunk first rest hpending hwrite _ ih =>
    obtain ⟨hwrites, hlike⟩ := Driver.writes_writeChunk htracks.operational hwrite
    obtain ⟨pieces, hframes, hconsecutive, hpieces, hoffset, hrest⟩ :=
      ih (htracks.advance hsize himage hpending hlike)
    have hfirst : Piece.Stutters (flashFrames first) (Piece.frames ⟨c.offset, chunk⟩ d.protocol) := by
      obtain h | ⟨-, hr, -⟩ := Driver.writes_frames (htracks.isChunk hsize hpending) hwrites
      · rwa [htracks.offset_eq] at h
      · exact absurd rfl hr
    have hp : mid.protocol = d.protocol := hlike.protocol_eq
    obtain ⟨hne, -⟩ := htracks.bounds hsize hpending
    have hpiece := htracks.isPieceOf hsize hpending
    obtain ⟨-, rfl⟩ := Flash.Cursor.pending_eq hpending
    refine ⟨⟨c.offset, c.rest.take c.chunkSize⟩ :: pieces, ?_, ⟨rfl, hne, hconsecutive⟩,
      List.forall_mem_cons.2 ⟨hpiece, hpieces⟩, ?_, ?_⟩
    · rw [flashFrames_append, List.flatMap_cons, ← hp]
      rw [← hp] at hfirst
      exact hfirst.append hframes
    · rw [hoffset, List.flatMap_cons, List.length_append]
      exact Nat.add_assoc ..
    · rw [List.flatMap_cons, List.append_assoc, ← hrest]
      exact (List.take_append_drop ..).symm

end Update
end Backplane
