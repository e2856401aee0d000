import Backplane.Site

/-!
# Playback

A bus that answers from a tape of prepared replies, whatever it is asked, and goes on with one
last reply when the tape is used up. A reply carries bytes, a failure, or both; a value is read
from the first two bytes, the low byte first, and missing bytes are zero.
-/
namespace Backplane.Playback

/-- One prepared reply. -/
structure Cue where
  failure : Option BusError
  data : List UInt8
  deriving DecidableEq, Repr

namespace Cue

/-- A reply that carries a value. -/
def ofValue (value : UInt16) : Cue := ⟨none, [value.toUInt8, (value >>> 8).toUInt8]⟩

/-- The value of a reply. -/
def value (c : Cue) : UInt16 :=
  (c.data.getD 0 0).toUInt16 ||| ((c.data.getD 1 0).toUInt16 <<< 8)

end Cue

/-- Prepared replies, and the one that follows them. -/
structure Tape where
  cues : List Cue
  last : Cue
  deriving DecidableEq, Repr

/-- Takes the next reply. -/
def Tape.next (t : Tape) : Cue × Tape :=
  match t.cues with
  | [] => (t.last, t)
  | cue :: rest => (cue, { t with cues := rest })

/-- A prepared reply as the answer to a request. -/
def Cue.reply (c : Cue) (r : Request) : Reply r :=
  match c.failure with
  | some e => ⟨.error e, c.data⟩
  | none =>
    match r with
    | .functionality => .ok .empty
    | .readByte => .ok c.value.toUInt8
    | .writeByte _ => .ok ()
    | .readByteData _ => .ok c.value.toUInt8
    | .writeByteData _ _ => .ok ()
    | .readWordData _ => .ok c.value
    | .writeWordData _ _ => .ok ()
    | .readBlock _ _ => ⟨.ok c.data.length, c.data⟩
    | .transfer _ => ⟨.ok (), c.data⟩

end Playback

/-- A bus that plays back. -/
structure Playback where
  /-- What opening a handle does, one after the other; afterwards it succeeds. -/
  connects : List (Except BusError Unit)
  functionality : Except BusError Functionality
  tape : Playback.Tape

namespace Playback

/-- Opens a handle. -/
def connect (p : Playback) : Served (Except BusError Unit) Playback :=
  match p.connects with
  | [] => ⟨.ok (), p, []⟩
  | result :: rest => ⟨result, { p with connects := rest }, []⟩

/-- One attempt; the functionality is not on the tape. -/
def attempt (r : Request) (p : Playback) : Served (Reply r) Playback :=
  match r with
  | .functionality => ⟨⟨p.functionality, []⟩, p, []⟩
  | r =>
    match p.tape.next with
    | (cue, tape) => ⟨cue.reply r, { p with tape := tape }, []⟩

/-- The bus as one that serves requests out of a state. -/
def bus : Bus Playback where
  connect := connect
  attempt := attempt
  delay _ p := ⟨(), p, []⟩

end Playback
end Backplane
