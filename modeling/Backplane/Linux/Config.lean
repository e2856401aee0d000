import Backplane.Text.Hex

/-!
# Targets on a system bus

A target is a device file, a seven-bit address on its bus, and whether transfers carry an error
check.
-/
namespace Backplane.Linux

/-- Follows `bpmcu-linux-i2c/device:100-107`. -/
structure Config where
  device : String
  address : UInt8
  pec : Bool
  deriving DecidableEq, Repr

/-- The label of a target in log lines and errors. Follows `bpmcu-linux-i2c/device:126-128`. -/
def Config.label (c : Config) : String := s!"{c.device}, 0x{Text.hexByte c.address}"

/-- Whether an address can be a target: `0x01` to `0x7f`. Follows `bpmcu-linux-i2c/device:47-48`. -/
def isTarget (address : UInt8) : Bool := 0x01 ≤ address && address ≤ 0x7F

end Backplane.Linux
