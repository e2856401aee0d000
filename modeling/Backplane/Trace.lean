import Backplane.Event
import Backplane.Text.Hex

/-!
# Traces

Events as lines of text. A line about an attempt names the request and how it ended; a failure is
an exclamation mark and its status code. The calls into the kernel have lines of their own.
-/
namespace Backplane.Trace
open Text

/-- A result: the value, or the status code of the failure. -/
def outcome {α : Type} (shown : α → String) : Except BusError α → String
  | .ok value => shown value
  | .error e => s!"!{e.code}"

/-- A success without a value. -/
def okText (_ : Unit) : String := "ok"

/-- A message of a transfer: its direction, its length, and what was sent. -/
def messageText : Message → String
  | .write bytes => s!" W{bytes.length}:{hexBytes bytes}"
  | .read n => s!" R{n}"

/-- The line about an attempt. -/
def attemptText : (r : Request) → Reply r → String
  | .functionality, a => s!"funcs = {outcome (fun f => hex 8 f.bits.toNat) a.result}"
  | .readByte, a => s!"rb = {outcome hexByte a.result}"
  | .writeByte v, a => s!"wb {hexByte v} = {outcome okText a.result}"
  | .readByteData c, a => s!"rbd {hexByte c} = {outcome hexByte a.result}"
  | .writeByteData c v, a => s!"wbd {hexByte c} {hexByte v} = {outcome okText a.result}"
  | .readWordData c, a => s!"rwd {hexByte c} = {outcome (fun w => hex 4 w.toNat) a.result}"
  | .writeWordData c v, a => s!"wwd {hexByte c} {hex 4 v.toNat} = {outcome okText a.result}"
  | .readBlock c n, a => s!"blk {hexByte c} {n} = {outcome toString a.result}"
  | .transfer messages, a =>
    s!"xfer{String.join (messages.map messageText)} = {outcome okText a.result}"

/-- A message as the kernel takes it: address, flags, length, and what was sent. -/
def kernelMessageText (m : Linux.KernelMessage) : String :=
  let sent := match m.sent with
    | some bytes => " " ++ hexBytes bytes
    | none => ""
  s!" [{hex 2 m.address.toNat} {m.flags} {m.length.toNat}{sent}]"

/-- The name of a request on an open device file and what it carries; opening has no line. -/
def callText? : Linux.Call → Option String
  | .openDevice _ => none
  | .selectAddress address => some s!"I2C_SLAVE {hexByte address}"
  | .setPec value => some s!"I2C_PEC {value}"
  | .functionality => some "I2C_FUNCS"
  | .smbus direction command shape data =>
    let union := (data.map fun u => hexBytes u.toList).getD "null"
    some s!"I2C_SMBUS {direction.code} {hexByte command} {shape.code} {union}"
  | .transfer messages => some s!"I2C_RDWR{String.join (messages.map kernelMessageText)}"

/-- How a call ended. -/
def failureText : Option Int → String
  | none => "ok"
  | some errno => s!"!{-errno}"

/-- The line about a call into the kernel. -/
def callLine? : Event → Option String
  | .called c failure => (callText? c).map fun text => s!"{text} = {failureText failure}"
  | _ => none

/-- The line about an attempt or a delay. -/
def attemptLine? : Event → Option String
  | .attempted r reply => some (attemptText r reply)
  | .delayed us => some s!"delay {us.toNat}"
  | _ => none

/-- The line about anything that happened on a bus, without the calls into the kernel. -/
def busLine? : Event → Option String
  | .connected result => some s!"connect = {outcome okText result}"
  | e => attemptLine? e

/-- The line about anything that happened on a bus or in the kernel. -/
def line? (e : Event) : Option String := (callLine? e).or (busLine? e)

/-- The log lines that are shown: none more verbose than `limit`, and those of the commands only
if asked for. -/
def logLines (limit : Level) (commands : Bool) (events : List Event) : List String :=
  (events.filterMap Event.logLine?).filterMap fun l =>
    if l.level.shownAt limit && (commands || l.origin == .library) then some l.render else none

end Backplane.Trace
