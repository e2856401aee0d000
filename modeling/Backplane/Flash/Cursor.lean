/-!
# Chunks of an image

A cursor walks over an image in chunks: every chunk but the last has the chunk size, and the last
holds what is left. It goes forward only.
-/
namespace Backplane.Flash

/-- A place between two chunks of an image. Follows `bpmcu-core/update/mod:200-204`. -/
structure Cursor where
  /-- Bytes before the place. -/
  offset : Nat
  /-- Bytes from the place on. -/
  rest : List UInt8
  chunkSize : Nat
  deriving DecidableEq, Repr

namespace Cursor

/-- The start of an image. Follows `bpmcu-core/update/mod:207-213`. -/
def start (image : List UInt8) (chunkSize : Nat) : Cursor := ⟨0, image, chunkSize⟩

/-- The size of the image. Follows `bpmcu-core/update/mod:235-237`. -/
def total (c : Cursor) : Nat := c.offset + c.rest.length

/-- The next chunk, nothing at the end of the image. Follows `bpmcu-core/update/mod:216-222`. -/
def pending (c : Cursor) : Option (List UInt8) :=
  if c.rest.isEmpty then none else some (c.rest.take c.chunkSize)

/-- Steps over the pending chunk. Follows `bpmcu-core/update/mod:225-229`. -/
def advance (c : Cursor) : Cursor :=
  { c with
    offset := c.offset + (c.rest.take c.chunkSize).length
    rest := c.rest.drop c.chunkSize }

/-- A step over a chunk leaves less of the image. -/
theorem length_rest_advance_lt {c : Cursor} {chunk : List UInt8} (hsize : 0 < c.chunkSize)
    (hpending : c.pending = some chunk) : c.advance.rest.length < c.rest.length := by
  simp only [pending] at hpending
  split at hpending
  · simp at hpending
  · next hrest =>
    have : 0 < c.rest.length := List.length_pos_iff.2 (by simpa using hrest)
    simp only [advance, List.length_drop]
    omega

end Cursor
end Backplane.Flash
