import Mathlib.Algebra.GroupWithZero.Nat
import Backplane.Flash.Cursor
import Backplane.Proofs.Stream

/-!
# The walk of a cursor over an image

Looking at the pending chunk and stepping over it, again and again: `Cursor.step`. The place a walk
comes to has a closed form, so what it hands out is known chunk by chunk: the image is cut into
windows of the chunk size, the last one as long as what is left.

* `Cursor.chunks_advance`: the number of chunks that are left.
* `Cursor.stateAfter_step`: the place behind any number of chunks, by induction on them.
* `Cursor.flatten_windows`: nothing is lost and nothing doubled between the windows.
* `Cursor.walk_cuts`: a walk hands out the cut of the image, then nothing for ever; where it stands
  in front of each chunk; and that the end of a chunk is computed within a machine word.
-/
namespace Backplane.Flash.Cursor

/-- The number of chunks from a place of an image on. -/
def chunks (c : Cursor) : Nat := (c.rest.length + c.chunkSize - 1) / c.chunkSize

/-- A chunk makes one chunk less. -/
theorem chunks_advance {c : Cursor} (hsize : 0 < c.chunkSize) (hrest : c.rest ≠ []) :
    c.chunks = c.advance.chunks + 1 := by
  have hpos := List.length_pos_iff.2 hrest
  have hadvance : c.advance.rest.length = c.rest.length - c.chunkSize := by
    rw [advance, List.length_drop]
  have hthis : c.chunks = (c.rest.length - 1) / c.chunkSize + 1 := by
    rw [chunks, ← Nat.add_div_right _ hsize]
    congr 1
    omega
  have hnext : c.advance.chunks = (c.rest.length - 1) / c.chunkSize := by
    rw [chunks, hadvance]
    change (c.rest.length - c.chunkSize + c.chunkSize - 1) / c.chunkSize = _
    rcases Nat.le_total c.chunkSize c.rest.length with hle | hle
    · rw [Nat.sub_add_cancel hle]
    · rw [Nat.div_eq_of_lt (by omega), Nat.div_eq_of_lt (by omega)]
  rw [hthis, hnext]

theorem chunks_nil {c : Cursor} (hsize : 0 < c.chunkSize) (hrest : c.rest = []) : c.chunks = 0 := by
  rw [chunks, hrest]
  exact Nat.div_eq_of_lt (by simp only [List.length_nil]; omega)

theorem pending_eq {c : Cursor} {chunk : List UInt8} (h : c.pending = some chunk) :
    c.rest ≠ [] ∧ chunk = c.rest.take c.chunkSize := by
  unfold pending at h
  split at h
  · cases h
  · next hrest => exact ⟨by simpa using hrest, (Option.some.inj h).symm⟩

theorem pending_eq_none {c : Cursor} : c.pending = none ↔ c.rest = [] := by
  simp [pending]

/-- A step at the end of an image stays there. -/
theorem advance_of_pending_eq_none {c : Cursor} (h : c.pending = none) : c.advance = c := by
  have hrest := pending_eq_none.1 h
  obtain ⟨offset, rest, chunkSize⟩ := c
  cases hrest
  simp [advance]

variable {image chunk : List UInt8} {size k : Nat}

/-- Looks at the pending chunk and steps over it. -/
def step (c : Cursor) : Option (List UInt8) × Cursor := (c.pending, c.advance)

/-- The place behind `k` chunks of an image. -/
def place (image : List UInt8) (size k : Nat) : Cursor :=
  ⟨min (k * size) image.length, image.drop (k * size), size⟩

theorem total_place : (place image size k).total = image.length := by
  simp only [total, place, List.length_drop]
  omega

theorem offset_place (hmore : k * size < image.length) : (place image size k).offset = k * size :=
  Nat.min_eq_left (Nat.le_of_lt hmore)

theorem advance_place : (place image size k).advance = place image size (k + 1) := by
  simp only [advance, place, List.length_take, List.length_drop, List.drop_drop, Nat.succ_mul,
    Cursor.mk.injEq, and_true]
  omega

/-- A walk from the start of an image stands behind as many chunks as it took steps. -/
theorem stateAfter_step (image : List UInt8) (size k : Nat) :
    stateAfter step (start image size) k = place image size k := by
  induction k with
  | zero => simp [start, place]
  | succ k ih => rw [stateAfter_succ, ih, step, advance_place]

/-- A place has a chunk exactly if the image goes on there. -/
theorem lt_chunks (hsize : 0 < size) : k < (start image size).chunks ↔ k * size < image.length := by
  change k < (image.length + size - 1) / size ↔ _
  rw [Nat.lt_iff_add_one_le, Nat.le_div_iff_mul_le hsize, Nat.succ_mul]
  omega

/-- The part of an image that chunk `k` covers. -/
def window (image : List UInt8) (size k : Nat) : List UInt8 := (image.drop (k * size)).take size

theorem length_window : (window image size k).length = min size (image.length - k * size) := by
  rw [window, List.length_take, List.length_drop]

/-- Windows of an image, one behind the other, are its beginning. -/
theorem flatten_windows (image : List UInt8) (size k : Nat) :
    ((List.range k).map (window image size)).flatten = image.take (k * size) := by
  induction k with
  | zero => simp
  | succ k ih =>
    rw [List.range_succ, List.map_append, List.flatten_append, ih, Nat.succ_mul, List.take_add]
    simp [window]

/-- An image, cut into its windows. -/
def pieces (image : List UInt8) (size : Nat) : List (List UInt8) :=
  (List.range (start image size).chunks).map (window image size)

@[simp] theorem length_pieces : (pieces image size).length = (start image size).chunks := by
  simp [pieces]

theorem pending_place (hsize : 0 < size) : (place image size k).pending = (pieces image size)[k]? := by
  have hrest : (place image size k).rest.isEmpty = true ↔ ¬k < (start image size).chunks := by
    rw [lt_chunks hsize, place, List.isEmpty_iff, List.drop_eq_nil_iff, Nat.not_lt]
  rw [pending, pieces, List.getElem?_map]
  by_cases hk : k < (start image size).chunks
  · rw [if_neg fun h => hrest.1 h hk, List.getElem?_range hk]
    rfl
  · rw [if_pos (hrest.2 hk), List.getElem?_eq_none (by simpa using hk)]
    rfl

theorem pending_place_eq (h : (place image size k).pending = some chunk) :
    k * size < image.length ∧ chunk = window image size k := by
  obtain ⟨hrest, rfl⟩ := pending_eq h
  exact ⟨by simpa [place] using hrest, rfl⟩

/-- Parts that make up an image: as many as it needs, each of the chunk size but for the last. -/
structure Cuts (image : List UInt8) (size : Nat) (parts : List (List UInt8)) : Prop where
  length_eq : parts.length = (image.length + size - 1) / size
  flatten_eq : parts.flatten = image
  full : ∀ part ∈ parts.dropLast, part.length = size
  bounds : ∀ part ∈ parts, 0 < part.length ∧ part.length ≤ size

theorem cuts_pieces (hsize : 0 < size) : Cuts image size (pieces image size) where
  length_eq := length_pieces
  flatten_eq := by
    rw [pieces, flatten_windows, List.take_of_length_le]
    exact Nat.le_of_not_lt fun h => Nat.lt_irrefl _ ((lt_chunks hsize).2 h)
  full part hpart := by
    obtain ⟨k, hk, rfl⟩ := List.mem_iff_getElem.1 hpart
    rw [List.length_dropLast, length_pieces] at hk
    -- There is a chunk behind this one, so the image goes on behind it.
    have hnext : (k + 1) * size < image.length := (lt_chunks hsize).1 (by omega)
    simp only [List.getElem_dropLast, pieces, List.getElem_map, List.getElem_range, length_window]
    rw [Nat.succ_mul] at hnext
    omega
  bounds part hpart := by
    obtain ⟨k, hk, rfl⟩ := List.mem_map.1 hpart
    have hmore := (lt_chunks hsize).1 (List.mem_range.1 hk)
    rw [length_window]
    omega

/-- A place in front of part `k` of an image that is cut into parts. -/
structure Stands (image : List UInt8) (size : Nat) (parts : List (List UInt8)) (k : Nat) (c : Cursor) :
    Prop where
  /-- Behind the last part nothing is pending. -/
  pending_eq : c.pending = parts[k]?
  total_eq : c.total = image.length
  offset_le : c.offset ≤ c.total
  offset_eq : k < parts.length → c.offset = k * size
  /-- The pending chunk is the slice of the image from the offset to the end of the chunk. -/
  slice : ∀ chunk, c.pending = some chunk →
    chunk = (image.take (min (c.offset + size) c.total)).drop c.offset
  advance_eq : c.pending = none → c.advance = c
  /-- The end of the pending chunk fits in a word that holds the chunk size, if the sign bit of the
  word is more than the image needs. -/
  end_lt : c.pending ≠ none → ∀ width, image.length < 2 ^ (width - 1) → size < 2 ^ width →
    c.offset + size < 2 ^ width

theorem stands_place (hsize : 0 < size) :
    Stands image size (pieces image size) k (place image size k) where
  pending_eq := pending_place hsize
  total_eq := total_place
  offset_le := Nat.le_add_right ..
  offset_eq h := offset_place ((lt_chunks hsize).1 (length_pieces ▸ h))
  slice chunk h := by
    obtain ⟨hmore, rfl⟩ := pending_place_eq h
    rw [total_place, ← List.take_eq_take_min, offset_place hmore, List.drop_take, Nat.add_sub_cancel_left]
    rfl
  advance_eq h := advance_of_pending_eq_none h
  end_lt h width himage hwidth := by
    obtain ⟨chunk, hchunk⟩ := Option.ne_none_iff_exists'.1 h
    obtain ⟨hmore, -⟩ := pending_place_eq hchunk
    rw [offset_place hmore]
    cases k with
    | zero => rwa [Nat.zero_mul, Nat.zero_add]
    | succ k =>
      -- Behind the first chunk the image is longer than a chunk, so both summands are below its length.
      have hle : size ≤ (k + 1) * size := Nat.le_mul_of_pos_left size k.succ_pos
      cases width with
      | zero => omega
      | succ width =>
        rw [Nat.add_sub_cancel] at himage
        rw [Nat.pow_succ]
        omega

/-- Whatever the image, and whatever the chunk size but zero: looking at the pending chunk and stepping
over it yields the parts of the image in order, and then nothing for ever. -/
theorem walk_cuts (hsize : 0 < size) (image : List UInt8) :
    ∃ parts, Cuts image size parts ∧
      ∀ k, Stands image size parts k (stateAfter step (start image size) k) := by
  refine ⟨pieces image size, cuts_pieces hsize, fun k => ?_⟩
  rw [stateAfter_step]
  exact stands_place hsize

/-- Three hundred bytes in chunks of 128: three parts, and the end of the last is within 64 bits. -/
theorem walk_cuts_three :
    let image : List UInt8 := .replicate 300 0x5A
    0 < 128 ∧ ∃ parts, Cuts image 128 parts ∧ parts.length = 3 ∧
      (∀ k, Stands image 128 parts k (stateAfter step (start image 128) k)) ∧
      (stateAfter step (start image 128) 2).offset = 256 ∧
      (stateAfter step (start image 128) 2).offset + 128 < 2 ^ 64 := by
  intro image
  have hlength : image.length = 300 := List.length_replicate
  obtain ⟨parts, hcuts, hstands⟩ := walk_cuts (show 0 < 128 by decide) image
  have hthree : parts.length = 3 := by rw [hcuts.length_eq, hlength]
  have hoffset := (hstands 2).offset_eq (by rw [hthree]; decide)
  have hpending : (stateAfter step (start image 128) 2).pending ≠ none := by
    rw [(hstands 2).pending_eq, ne_eq, List.getElem?_eq_none_iff, hthree]
    decide
  exact ⟨by decide, parts, hcuts, hthree, hstands, hoffset,
    (hstands 2).end_lt hpending 64 (by rw [hlength]; decide) (by decide)⟩

example : (List.range 4).map (nth step (start [1, 2, 3, 4, 5] 2)) =
    [some [1, 2], some [3, 4], some [5], none] := by decide

end Backplane.Flash.Cursor
