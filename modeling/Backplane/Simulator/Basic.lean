import Backplane.Simulator.Config
import Backplane.Update.Options

/-!
# The simulated controller

The state of a simulated controller: its configuration, its update area, and what earlier requests
left behind. While it boots it is deaf; time passes for it only in requested delays.
-/
namespace Backplane

/-- A simulated controller. Follows `bpmcu-dummy/sim:121-132`. -/
structure Simulator where
  config : Simulator.Config
  faults : Simulator.Faults
  counters : Simulator.Counters
  /-- The update area. -/
  flash : Vector UInt8 imageMax
  /-- The host power state it was told last. -/
  hostPower : Option Bool
  /-- Channels whose presence changed since the latch was read. -/
  latch : UInt8
  /-- The channel whose type is read next. -/
  selected : Fin channelCount
  /-- Where the next flash data belongs. -/
  flashAddress : Option (UInt32 × Nat)
  /-- The time spent booting. -/
  booting : Option Nat

namespace Simulator

/-- A controller that is running and was never written to. Follows `bpmcu-dummy/sim:139-151`. -/
def start (config : Config) (faults : Faults) : Simulator where
  config := config
  faults := faults
  counters := {}
  flash := .replicate imageMax 0xFF
  hostPower := none
  latch := 0
  selected := ⟨0, channelCount_pos⟩
  flashAddress := none
  booting := none

/-- Seats or removes a drive while the controller runs, which the latch remembers. Follows
`bpmcu-dummy/sim:185-198`. -/
def hotPlug (s : Simulator) (channel : Fin channelCount) (value : Option UInt8) : Simulator :=
  { s with
    config := match value with
      | some v => s.config.withDrive channel v
      | none => s.config.withoutDrive channel
    latch := s.latch ||| channelBit channel }

/-! ## Flash -/

/-- Bytes of a memory from an offset on, as many as there are. -/
def readBytes {n : Nat} (memory : Vector UInt8 n) (offset length : Nat) : List UInt8 :=
  (memory.toArray.extract offset (offset + length)).toList

/-- Writes bytes to a memory from an offset on. -/
def writeBytes {n : Nat} (memory : Vector UInt8 n) (offset : Nat) : List UInt8 → Vector UInt8 n
  | [] => memory
  | b :: rest => writeBytes (memory.setIfInBounds offset b) (offset + 1) rest

/-- Stores a chunk and counts it. Follows `bpmcu-dummy/sim:273-281`. -/
def store (s : Simulator) (offset : UInt32) (bytes : List UInt8) : Simulator :=
  { s with
    flash := writeBytes s.flash offset.toNat bytes
    counters.flashChunks := s.counters.flashChunks + 1 }

/-- Flips the lowest bit of the first byte. -/
def corrupted : List UInt8 → List UInt8
  | [] => []
  | b :: rest => (b ^^^ 1) :: rest

/-- Whether the chunk stored last reads back wrong. -/
def isCorrupting (s : Simulator) : Bool :=
  s.counters.flashChunks != 0 && s.faults.corruptChunk == some (s.counters.flashChunks - 1)

/-- The bytes of a chunk as they read back. Follows `bpmcu-dummy/sim:283-294`. -/
def load (s : Simulator) (offset : UInt32) (length : Nat) : List UInt8 :=
  let bytes := readBytes s.flash offset.toNat length
  if s.isCorrupting then corrupted bytes else bytes

/-- Erases the update area. Follows `bpmcu-dummy/sim:246-249`. -/
def erase (s : Simulator) : Simulator :=
  { s with
    flash := .replicate imageMax 0xFF
    counters.erases := s.counters.erases + 1 }

/-! ## Booting -/

/-- The line about a boot that ended. -/
def bootLine (s : Simulator) : LogLine :=
  ⟨.library, .debug,
    s!"dummy: MCU back up, protocol {s.config.protocol.name}, firmware '{s.config.firmwareVersion}'"⟩

/-- Ends a boot: a version or generation set for the next reboot takes effect. Follows
`bpmcu-dummy/sim:222-235`. -/
def finishBoot (s : Simulator) : Simulator :=
  { s with
    booting := none
    config := { s.config with
      firmwareVersion := s.faults.versionAfterReboot.getD s.config.firmwareVersion
      protocol := s.faults.protocolAfterReboot.getD s.config.protocol }
    faults := { s.faults with versionAfterReboot := none, protocolAfterReboot := none } }

/-- Ends a boot that has lasted long enough; says whether it did. Follows
`bpmcu-dummy/sim:216-218,241-243`. -/
def settleBoot (s : Simulator) : Bool × Simulator :=
  match s.booting with
  | some elapsed =>
    if s.faults.bootTime ≤ elapsed && !s.faults.neverReturn then (true, s.finishBoot)
    else (false, s)
  | none => (false, s)

/-- Starts a reboot, which is over at once if booting takes no time. Follows
`bpmcu-dummy/sim:237-244`. -/
def reboot (s : Simulator) : Bool × Simulator :=
  settleBoot { s with
    flashAddress := none
    booting := some 0
    counters.reboots := s.counters.reboots + 1 }

/-- Lets time pass. Follows `bpmcu-dummy/sim:212-220`. -/
def elapse (s : Simulator) (us : UInt32) : Bool × Simulator :=
  settleBoot { s with
    booting := s.booting.map (· + us.toNat)
    counters.delay := s.counters.delay + us.toNat }

end Simulator
end Backplane
