import Backplane.Bus.Request

/-!
# Kernel requests on a bus device

A device file is opened, bound to a target address, and then carries simple transactions through
a shared union of 34 bytes or whole messages. Opening aside, each call is one request on the open
file.
-/
namespace Backplane.Linux

/-- The union a simple transaction passes its data in: a length byte, 32 bytes, one spare. Follows
`bpmcu-linux-i2c/device:53-55`. -/
abbrev Union := Vector UInt8 (blockMax + 2)

/-- Which way a simple transaction goes. Follows `bpmcu-linux-i2c/device:34-35`. -/
inductive Direction where
  | write
  | read
  deriving DecidableEq, Repr

def Direction.code : Direction → Nat
  | .write => 0
  | .read => 1

/-- The shape of a simple transaction. Follows `bpmcu-linux-i2c/device:38-41`. -/
inductive Shape where
  | byte
  | byteData
  | wordData
  | block
  deriving DecidableEq, Repr

def Shape.code : Shape → Nat
  | .byte => 1
  | .byteData => 2
  | .wordData => 3
  | .block => 8

/-- A message as the kernel takes it: bound to an address, its length in 16 bits. Follows
`bpmcu-linux-i2c/device:84-89`. -/
structure KernelMessage where
  address : UInt16
  /-- Bytes to send; nothing for a message that reads. -/
  sent : Option (List UInt8)
  length : UInt16
  deriving DecidableEq, Repr

/-- The flag word of a message: 1 for a read. -/
def KernelMessage.flags (m : KernelMessage) : Nat := if m.sent.isSome then 0 else 1

/-- One call into the kernel. Follows `bpmcu-linux-i2c/device:15-31`. -/
inductive Call where
  | openDevice (path : String)
  | selectAddress (address : UInt8)
  | setPec (value : Nat)
  | functionality
  | smbus (direction : Direction) (command : UInt8) (shape : Shape) (data : Option Union)
  | transfer (messages : List KernelMessage)
  deriving DecidableEq

/-- What the kernel answers besides success or an error number. -/
@[reducible]
def Call.Answer : Call → Type
  | .openDevice _ => Except IoError Unit
  | .selectAddress _ => Except Int Unit
  | .setPec _ => Except Int Unit
  | .functionality => Except Int UInt64
  /- The union as the kernel leaves it. -/
  | .smbus _ _ _ _ => Except Int Union
  /- The bytes of the read messages are filled on success and on failure. -/
  | .transfer _ => Except Int Unit × List UInt8

/-- The error number of a failure. -/
def errorOf {α : Type} : Except Int α → Option Int
  | .error errno => some errno
  | .ok _ => none

/-- The error number of a failed call on the open file, nothing after success. -/
def Call.failure : (c : Call) → c.Answer → Option Int
  | .openDevice _, _ => none
  | .selectAddress _, answer => errorOf answer
  | .setPec _, answer => errorOf answer
  | .functionality, answer => errorOf answer
  | .smbus _ _ _ _, answer => errorOf answer
  | .transfer _, answer => errorOf answer.1

end Backplane.Linux
