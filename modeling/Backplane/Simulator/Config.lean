import Backplane.Drive
import Backplane.Identity

/-!
# Configuration and faults of a simulated controller

What a simulated controller is equipped with, how it misbehaves, and what it counts.
-/
namespace Backplane.Simulator

/-- What a simulated controller reports. Follows `bpmcu-dummy/sim:13-28`. -/
structure Config where
  /-- The generation the firmware speaks. -/
  protocol : Protocol
  firmwareVersion : String
  boardType : String
  presence : UInt8
  failures : UInt8
  /-- The raw type of each channel. -/
  driveTypes : Vector UInt8 channelCount
  locate : UInt8
  deriving DecidableEq, Repr

namespace Config

/-- A backplane without drives. Follows `bpmcu-dummy/sim:32-45`. -/
def blank (protocol : Protocol) : Config where
  protocol := protocol
  firmwareVersion := "1.0.0"
  boardType := match protocol with
    | .v0 => "BP-8SFF"
    | .v1 => "BP-8NVME"
  presence := 0
  failures := 0
  driveTypes := .replicate channelCount 0
  locate := 0

/-- Puts a drive of a raw type into a channel. Follows `bpmcu-dummy/sim:48-52`. -/
def withDrive (c : Config) (channel : Fin channelCount) (value : UInt8) : Config :=
  { c with
    presence := c.presence ||| channelBit channel
    driveTypes := c.driveTypes.set channel value }

/-- Takes the drive out of a channel. Follows `bpmcu-dummy/sim:192-195`. -/
def withoutDrive (c : Config) (channel : Fin channelCount) : Config :=
  { c with
    presence := c.presence &&& ~~~channelBit channel
    driveTypes := c.driveTypes.set channel 0 }

/-- Gives raw types to the channels from the first one on. The channels behind them keep theirs, and
a type behind the last channel is left out. Which drives are present does not change. -/
def withTypes (c : Config) (types : List UInt8) : Config :=
  { c with driveTypes := c.driveTypes.mapIdx fun i old => types[i]?.getD old }

/-- Marks the drive of a channel as failed. Follows `bpmcu-dummy/sim:54-57`. -/
def withFailure (c : Config) (channel : Nat) : Config :=
  { c with failures := c.failures ||| channelBit channel }

/-- Two drives, as the simulated targets of the command line have them. Follows
`bpmcu-dummy/lib:97-104`. -/
def equipped (protocol : Protocol) : Config :=
  ((blank protocol).withDrive 0 2).withDrive 3 1

end Config

/-- How a simulated controller misbehaves. Follows `bpmcu-dummy/sim:73-96`. -/
structure Faults where
  /-- Identification reads that are not acknowledged. -/
  nakIdent : Nat := 0
  /-- Presence reads that answer with every bit flipped. -/
  glitchPresence : Nat := 0
  /-- The chunk whose writes are never acknowledged, counted from zero. -/
  failChunk : Option Nat := none
  /-- The chunk whose readback has a bit flipped, counted from zero. -/
  corruptChunk : Option Nat := none
  /-- The board type register of the older generation is missing. -/
  noBoardType : Bool := false
  /-- The adapter lacks required functionality. -/
  missingFunctionality : Bool := false
  /-- The bus can not be opened. -/
  connectFails : Bool := false
  /-- A reboot never ends. -/
  neverReturn : Bool := false
  /-- Time a reboot takes, measured in requested delays. -/
  bootTime : Nat := 0
  /-- The version from the next reboot on. -/
  versionAfterReboot : Option String := none
  /-- The generation from the next reboot on. -/
  protocolAfterReboot : Option Protocol := none
  deriving DecidableEq, Repr

/-- What a simulated controller has counted. Follows `bpmcu-dummy/sim:100-117`. -/
structure Counters where
  /-- Handles opened. -/
  connects : Nat := 0
  /-- Attempts of any kind, acknowledged or not. -/
  transactions : Nat := 0
  /-- Attempts that carried data to the controller. -/
  busWrites : Nat := 0
  /-- Attempts to read the identification register. -/
  identReads : Nat := 0
  /-- Chunks stored. -/
  flashChunks : Nat := 0
  erases : Nat := 0
  reboots : Nat := 0
  /-- The sum of all requested delays. -/
  delay : Nat := 0
  deriving DecidableEq, Repr

end Backplane.Simulator
