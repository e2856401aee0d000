/-!
# Protocol generations and device identity

Two generations of the wire protocol are in the field. All they share is the identification
register, which each answers with a byte of its own.
-/
namespace Backplane

/-- A generation of the wire protocol. Follows `bpmcu-core/mcu/mod:46-51`. -/
inductive Protocol where
  | v0
  | v1
  deriving DecidableEq, Repr

namespace Protocol

def name : Protocol → String
  | .v0 => "v0"
  | .v1 => "v1"

instance : ToString Protocol := ⟨name⟩

/-- The register both generations answer with their identification byte. Follows
`bpmcu-core/mcu/factory:9`. -/
def identRegister : UInt8 := 0x00

/-- The identification byte of a generation. Follows `bpmcu-core/mcu/mod:58-63`. -/
def ident : Protocol → UInt8
  | .v0 => 0xBC
  | .v1 => 0xA8

/-- The generation that answers with the given byte. Follows `bpmcu-core/mcu/mod:66-68`. -/
def ofIdent? (byte : UInt8) : Option Protocol :=
  [Protocol.v0, Protocol.v1].find? fun p => p.ident == byte

theorem ofIdent?_ident (p : Protocol) : ofIdent? p.ident = some p := by
  cases p <;> rfl

end Protocol

/-- What a running controller says it is. A string that could not be read is empty. Follows
`bpmcu-core/mcu/mod:119-126`. -/
structure DeviceInfo where
  protocol : Protocol
  firmwareVersion : String
  boardType : String
  deriving DecidableEq, Repr

/-- Both strings could be read. Follows `bpmcu-core/mcu/mod:130-132`. -/
def DeviceInfo.isComplete (info : DeviceInfo) : Bool :=
  !info.firmwareVersion.isEmpty && !info.boardType.isEmpty

end Backplane
