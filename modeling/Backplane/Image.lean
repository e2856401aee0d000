import Backplane.Action
import Backplane.Error
import Backplane.Text.Quoted

/-!
# Firmware images

An image is a file that is mapped for reading. A directory can be opened but not mapped, and
neither can an empty file.
-/
namespace Backplane.Image

/-- Maps the file under a path and gives its bytes. Follows `bpmcu-core/image:28-74`. -/
def openReadOnly (path : String) : Task (Except ImageError (List UInt8)) := do
  match ← Task.readFile path with
  | .error e => pure (.error ⟨.opening, path, e⟩)
  | .ok .directory => pure (.error ⟨.mapping, path, .os Errno.noDevice⟩)
  | .ok (.file []) => pure (.error ⟨.mapping, path, .os Errno.invalid⟩)
  | .ok (.file bytes) =>
    Task.log .debug s!"Mapped {path} ({bytes.length} bytes)"
    pure (.ok bytes)

/-- A mapped image as one line of text. Follows `bpmcu-core/image:112-119`. -/
def describe (path : String) (length : Nat) : String :=
  s!"MappedImage \x7b path: {Text.quoted path}, len: {length} \x7d"

end Backplane.Image
