import Backplane.Bus.Playback
import Backplane.Linux.Codec

/-!
# A kernel with prepared answers

The requests on an open device file are answered from a tape. Of what a simple transaction reads,
the prepared bytes replace the start of the union and the rest of it stays.
-/
namespace Backplane.Linux

/-- A kernel with prepared answers. -/
structure Kernel where
  /-- The error number that binding the file to an address fails with. -/
  selectFailure : Option Int
  /-- The error number that switching error checking fails with. -/
  pecFailure : Option Int
  functionality : Except Int UInt64
  tape : Playback.Tape

namespace Kernel

/-- A result that fails with an error number, if there is one. -/
def resultOf : Option Int → Except Int Unit
  | none => .ok ()
  | some errno => .error errno

/-- The error number of a failed reply. -/
def errnoOf (e : BusError) : Int := -e.code

/-- A union whose start was replaced. -/
def fill (u : Union) (data : List UInt8) : Union :=
  .ofFn fun i => (data[i.val]?).getD u[i]

/-- A reply to a simple transaction. -/
def smbusAnswer (cue : Playback.Cue) (direction : Direction) (u : Union) : Except Int Union :=
  match cue.failure, direction with
  | some e, _ => .error (errnoOf e)
  | none, .read => .ok (fill u cue.data)
  | none, .write => .ok u

/-- Answers a call on the open file; `files` says whether a path can be opened. -/
def answer (files : String → Except IoError Unit) : (c : Call) → Kernel → c.Answer × Kernel
  | .openDevice path, k => (files path, k)
  | .selectAddress _, k => (resultOf k.selectFailure, k)
  | .setPec _, k => (resultOf k.pecFailure, k)
  | .functionality, k => (k.functionality, k)
  | .smbus direction _ _ data, k =>
    match k.tape.next with
    | (cue, tape) =>
      (smbusAnswer cue direction (data.getD Union.blank), { k with tape := tape })
  | .transfer _, k =>
    match k.tape.next with
    | (cue, tape) => ((resultOf (cue.failure.map errnoOf), cue.data), { k with tape := tape })

end Kernel
end Backplane.Linux
