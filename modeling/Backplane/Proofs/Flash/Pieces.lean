import Mathlib.Data.List.Destutter
import Backplane.Driver.V0
import Backplane.Driver.V1

/-!
# Pieces of an image on the wire

The frames that write flash are read back into pieces of an image. The older generation writes a
piece with one frame; the newer one announces its place in an address frame and sends its bytes in a
data frame, so a place can be announced whose bytes never follow.

* `decode_frames`: the frames of pieces decode to these pieces.
* `isChain_frames`: frames that are repeated are told from frames that follow each other, so
  dropping repetitions from consecutive pieces leaves each frame once.
-/
namespace Backplane

/-- A piece of an image: where it belongs, and its bytes. -/
structure Piece where
  offset : Nat
  bytes : List UInt8
  deriving DecidableEq, Repr

/-! ## Reading frames -/

/-- The piece that a frame of the older generation writes. -/
def V0.piece? (frame : List UInt8) : Option Piece :=
  match Flash.parseHeader frame with
  | some (command, offset, length) =>
    if command = flashWriteCommand ∧ (frame.drop Flash.headerLength).length = length.toNat then
      some ⟨offset.toNat, frame.drop Flash.headerLength⟩
    else none
  | none => none

/-- The place that an address frame announces: offset and length. -/
def V1.place? : List UInt8 → Option (Nat × Nat)
  | [] => none
  | command :: payload =>
    if command = flashAddressCommand then
      (Flash.parseLocation payload).map fun (offset, length) => (offset.toNat, length.toNat)
    else none

/-- The bytes that a data frame sends to a place of the given length. -/
def V1.data? (length : Nat) : List UInt8 → Option (List UInt8)
  | [] => none
  | command :: bytes =>
    if command = flashDataCommand ∧ bytes.length = length then some bytes else none

/-- The pieces that frames write, and the place of one whose bytes are missing at the end. -/
def V1.decode : List (List UInt8) → Option (List Piece × Option (Nat × Nat))
  | [] => some ([], none)
  | [address] => (place? address).map fun place => ([], some place)
  | address :: data :: rest => do
    let (offset, length) ← place? address
    let bytes ← data? length data
    let (pieces, last) ← decode rest
    some (⟨offset, bytes⟩ :: pieces, last)

/-- The pieces that frames of a generation write, and the place of one whose bytes are missing. -/
def decodeFrames : Protocol → List (List UInt8) → Option (List Piece × Option (Nat × Nat))
  | .v0, frames => (frames.mapM V0.piece?).map (·, none)
  | .v1, frames => V1.decode frames

/-! ## Frames of pieces -/

namespace Piece

/-- The piece keeps its offset and its length on the wire. -/
def Fits (piece : Piece) : Prop := piece.offset < 0x100000000 ∧ piece.bytes.length < 0x100

/-- The pieces stand one behind the other from an offset on, and none is empty. -/
def Consecutive : Nat → List Piece → Prop
  | _, [] => True
  | offset, piece :: rest =>
    piece.offset = offset ∧ piece.bytes ≠ [] ∧ Consecutive (offset + piece.bytes.length) rest

theorem Consecutive.append {offset : Nat} {pieces more : List Piece} (h : Consecutive offset pieces)
    (hmore : Consecutive (offset + (pieces.flatMap Piece.bytes).length) more) :
    Consecutive offset (pieces ++ more) := by
  induction pieces generalizing offset with
  | nil => exact hmore
  | cons piece pieces ih =>
    obtain ⟨hoffset, hne, hrest⟩ := h
    refine ⟨hoffset, hne, ih hrest ?_⟩
    rwa [List.flatMap_cons, List.length_append, ← Nat.add_assoc] at hmore

/-- The address frame of a piece, which only the newer generation sends. -/
def announcement (piece : Piece) : Protocol → List (List UInt8)
  | .v0 => []
  | .v1 => [V1.flashAddressCommand ::
      Flash.location (.ofNat piece.offset) (.ofNat piece.bytes.length)]

/-- The frame with the bytes of a piece. -/
def dataFrame (piece : Piece) : Protocol → List UInt8
  | .v0 => Flash.header V0.flashWriteCommand (.ofNat piece.offset) (.ofNat piece.bytes.length) ++
      piece.bytes
  | .v1 => V1.flashDataCommand :: piece.bytes

/-- The frames that write a piece. -/
def frames (piece : Piece) (p : Protocol) : List (List UInt8) :=
  piece.announcement p ++ [piece.dataFrame p]

/-- The place of a piece, as an address frame announces it. -/
def place (piece : Piece) : Nat × Nat := (piece.offset, piece.bytes.length)

variable {piece : Piece} {pieces : List Piece}

theorem piece?_dataFrame (h : piece.Fits) : V0.piece? (piece.dataFrame .v0) = some piece := by
  obtain ⟨hoffset, hlength⟩ := h
  have hdrop : (piece.dataFrame .v0).drop Flash.headerLength = piece.bytes := rfl
  have ho : (UInt32.ofNat piece.offset).toNat = piece.offset := by
    rw [UInt32.toNat_ofNat']; omega
  have hl : (UInt16.ofNat piece.bytes.length).toNat = piece.bytes.length := by
    rw [UInt16.toNat_ofNat']; omega
  unfold V0.piece?
  rw [hdrop, dataFrame, Flash.parseHeader_header]
  simp only [hl, ho, and_self, if_true]

theorem place?_announcement (h : piece.Fits) :
    V1.place? (V1.flashAddressCommand ::
      Flash.location (.ofNat piece.offset) (.ofNat piece.bytes.length)) = some piece.place := by
  obtain ⟨hoffset, hlength⟩ := h
  have ho : (UInt32.ofNat piece.offset).toNat = piece.offset := by
    rw [UInt32.toNat_ofNat']; omega
  have hl : (UInt8.ofNat piece.bytes.length).toNat = piece.bytes.length := by
    rw [UInt8.toNat_ofNat']; omega
  simp only [V1.place?, if_true, Flash.parseLocation_location, Option.map_some, ho, hl, place]

theorem data?_dataFrame : V1.data? piece.bytes.length (piece.dataFrame .v1) = some piece.bytes :=
  if_pos ⟨rfl, rfl⟩

/-- The frames of pieces, with the announcement of a last one whose bytes are missing. -/
def framesOf (p : Protocol) (pieces : List Piece) (last : Option Piece) : List (List UInt8) :=
  pieces.flatMap (·.frames p) ++ last.toList.flatMap (·.announcement p)

theorem decode_v0 (hfits : ∀ piece ∈ pieces, piece.Fits) :
    (pieces.flatMap (·.frames .v0)).mapM V0.piece? = some pieces := by
  induction pieces with
  | nil => rfl
  | cons piece pieces ih =>
    obtain ⟨hfit, hfits⟩ := List.forall_mem_cons.1 hfits
    rw [List.flatMap_cons, frames, announcement, List.nil_append, List.singleton_append,
      List.mapM_cons, piece?_dataFrame hfit, ih hfits]
    rfl

theorem decode_v1 {rest : List (List UInt8)} (hfits : ∀ piece ∈ pieces, piece.Fits) :
    V1.decode (pieces.flatMap (·.frames .v1) ++ rest) =
      (V1.decode rest).map fun (more, last) => (pieces ++ more, last) := by
  induction pieces with
  | nil => simp
  | cons piece pieces ih =>
    obtain ⟨hfit, hfits⟩ := List.forall_mem_cons.1 hfits
    rw [List.flatMap_cons, List.append_assoc]
    change V1.decode (_ :: piece.dataFrame .v1 :: (pieces.flatMap (·.frames .v1) ++ rest)) = _
    rw [V1.decode, place?_announcement hfit, ih hfits]
    simp only [place, Option.bind_eq_bind, Option.bind_some, data?_dataFrame]
    cases V1.decode rest <;> rfl

/-- Frames decode to the pieces that they write. -/
theorem decode_frames {p : Protocol} {last : Option Piece} (hfits : ∀ piece ∈ pieces, piece.Fits)
    (hlast : ∀ piece ∈ last, piece.Fits ∧ p = .v1) :
    decodeFrames p (framesOf p pieces last) = some (pieces, last.map place) := by
  cases p with
  | v0 =>
    cases last with
    | none => simp [framesOf, decodeFrames, decode_v0 hfits]
    | some piece => exact absurd (hlast piece rfl).2 (by decide)
  | v1 =>
    rw [decodeFrames, framesOf, decode_v1 hfits]
    cases last with
    | none => simp [V1.decode]
    | some piece => simp [announcement, V1.decode, place?_announcement (hlast piece rfl).1]

/-! ## Frames that are repeated -/

/-- The raw list is the frames, each as often in a row as it likes. -/
inductive Stutters {α : Type} : (raw frames : List α) → Prop
  | nil : Stutters [] []
  | once {a : α} {raw frames : List α} (h : Stutters raw frames) : Stutters (a :: raw) (a :: frames)
  | again {a : α} {raw frames : List α} (h : Stutters raw (a :: frames)) :
      Stutters (a :: raw) (a :: frames)

namespace Stutters
variable {α : Type} {raw raw' fs fs' : List α}

theorem append (h : Stutters raw fs) (h' : Stutters raw' fs') : Stutters (raw ++ raw') (fs ++ fs') := by
  induction h with
  | nil => exact h'
  | once _ ih => exact .once ih
  | again _ ih => exact .again ih

theorem replicate (a : α) (n : Nat) : Stutters (List.replicate (n + 1) a) [a] := by
  induction n with
  | zero => exact .once .nil
  | succ n ih => exact .again ih

theorem nil_inv (h : Stutters raw []) : raw = [] := by
  cases h
  rfl

theorem cons_inv {a : α} (h : Stutters raw (a :: fs)) : ∃ rest, raw = a :: rest := by
  cases h with
  | once => exact ⟨_, rfl⟩
  | again => exact ⟨_, rfl⟩

theorem destutter_eq [DecidableEq α] (h : Stutters raw fs) (hchain : fs.IsChain (· ≠ ·)) :
    raw.destutter (· ≠ ·) = fs := by
  induction h with
  | nil => rfl
  | @once a raw fs h ih =>
    cases fs with
    | nil =>
      rw [h.nil_inv]
      rfl
    | cons b fs =>
      obtain ⟨hab, hchain⟩ := List.isChain_cons_cons.1 hchain
      obtain ⟨rest, rfl⟩ := h.cons_inv
      rw [List.destutter_cons_cons, if_pos hab, ← List.destutter_cons', ih hchain]
  | @again a raw fs h ih =>
    obtain ⟨rest, rfl⟩ := h.cons_inv
    rw [List.destutter_cons_cons, if_neg (not_not_intro rfl), ← List.destutter_cons', ih hchain]

end Stutters

theorem dataFrame_ne_of_offset {piece' : Piece} (h : piece.Fits) (h' : piece'.Fits)
    (hne : piece.offset ≠ piece'.offset) : piece.dataFrame .v0 ≠ piece'.dataFrame .v0 := by
  intro heq
  have hsome : some piece = some piece' := by
    rw [← piece?_dataFrame h, heq, piece?_dataFrame h']
  exact hne (congrArg offset (Option.some.inj hsome))

/-- No frame of consecutive pieces equals the one before it. -/
theorem isChain_frames {p : Protocol} {last : Option Piece} {offset : Nat}
    (hfits : ∀ piece ∈ pieces, piece.Fits) (hconsecutive : Consecutive offset pieces) :
    (framesOf p pieces last).IsChain (· ≠ ·) := by
  induction pieces generalizing offset with
  | nil =>
    cases last with
    | none => simp [framesOf]
    | some piece => cases p <;> simp [framesOf, announcement]
  | cons piece pieces ih =>
    obtain ⟨hfit, hfits⟩ := List.forall_mem_cons.1 hfits
    obtain ⟨rfl, hne, hrest⟩ := hconsecutive
    have hchain := ih hfits hrest
    rw [framesOf, List.flatMap_cons, List.append_assoc]
    change (piece.frames p ++ framesOf p pieces last).IsChain _
    cases p with
    | v0 =>
      refine List.isChain_cons.2 ⟨?_, hchain⟩
      intro frame hframe
      cases pieces with
      | nil => cases last <;> cases hframe
      | cons next pieces =>
        cases hframe
        have hlength := List.length_pos_iff.2 hne
        exact dataFrame_ne_of_offset hfit (hfits _ List.mem_cons_self) (by rw [hrest.1]; omega)
    | v1 =>
      refine List.isChain_cons_cons.2 ⟨by simp [dataFrame, V1.flashAddressCommand, V1.flashDataCommand], ?_⟩
      refine List.isChain_cons.2 ⟨?_, hchain⟩
      intro frame hframe
      cases pieces with
      | nil =>
        cases last <;> cases hframe
        simp [dataFrame, V1.flashAddressCommand, V1.flashDataCommand]
      | cons next pieces =>
        cases hframe
        simp [dataFrame, V1.flashAddressCommand, V1.flashDataCommand]

end Piece
end Backplane
