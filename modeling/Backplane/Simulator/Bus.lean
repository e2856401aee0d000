import Backplane.Simulator.Frame
import Backplane.Site

/-!
# The bus of a simulated controller

Every attempt is counted. A controller that boots, or does not know a request, does not
acknowledge it, and then nothing changes but the counters.
-/
namespace Backplane.Simulator

/-- Nothing acknowledged. Follows `bpmcu-dummy/sim:9`. -/
def nak : BusError := .os Errno.noAnswer

/-- Whether a request carries data to the controller. -/
def carriesData : Request → Bool
  | .writeByte _ => true
  | .writeByteData _ _ => true
  | .writeWordData _ _ => true
  | .transfer messages => messages.any (·.isWrite)
  | _ => false

/-- Counts an attempt. Follows `bpmcu-dummy/sim:252-262,342`. -/
def count (s : Simulator) (r : Request) : Simulator :=
  { s with
    counters := { s.counters with
      transactions := s.counters.transactions + 1
      busWrites := s.counters.busWrites + (if carriesData r then 1 else 0)
      identReads := s.counters.identReads +
        (if r = .readByteData Protocol.identRegister then 1 else 0) } }

/-- A request that is not acknowledged. -/
def refuse {r : Request} (s : Simulator) : Served (Reply r) Simulator := ⟨.fail nak, s, []⟩

/-- A request that is answered. -/
def answer {r : Request} (value : r.Value) (s : Simulator) : Served (Reply r) Simulator :=
  ⟨.ok value, s, []⟩

/-- A request that is answered and may end a boot. -/
def answerBoot {r : Request} (value : r.Value) (outcome : Bool × Simulator) :
    Served (Reply r) Simulator :=
  match outcome with
  | (true, s) => ⟨.ok value, s, [.noted (.log s.bootLine)]⟩
  | (false, s) => ⟨.ok value, s, []⟩

/-- The bits of a channel given on the wire; a channel out of range has none. -/
def wireBit (value : UInt8) : UInt8 := if value < 8 then 1 <<< value else 0

/-- Sends of single bytes. Follows `bpmcu-dummy/sim:316-338`. -/
def serveWriteByte (s : Simulator) (value : UInt8) : Served (Reply (.writeByte value)) Simulator :=
  match s.config.protocol with
  | .v0 =>
    if value = V0.rebootCommand then answerBoot () s.reboot
    else if value = V0.eraseCommand then answer () s.erase
    else if value = V0.powerOnCommand then answer () { s with hostPower := some true }
    else if value = V0.powerOffCommand then answer () { s with hostPower := some false }
    else refuse s
  | .v1 =>
    if value = V1.rebootCommand then answerBoot () s.reboot
    else if value = V1.eraseCommand then answer () s.erase
    else refuse s

/-- The identification byte, unless a fault withholds it. Follows `bpmcu-dummy/sim:341-349`. -/
def serveIdent (s : Simulator) (command : UInt8) :
    Served (Reply (.readByteData command)) Simulator :=
  if s.faults.nakIdent = 0 then answer s.config.protocol.ident s
  else refuse { s with faults.nakIdent := s.faults.nakIdent - 1 }

/-- The presence mask, unless a fault flips it. Follows `bpmcu-dummy/sim:353-359`. -/
def servePresence (s : Simulator) (command : UInt8) :
    Served (Reply (.readByteData command)) Simulator :=
  if s.faults.glitchPresence = 0 then answer s.config.presence s
  else answer (~~~s.config.presence)
    { s with faults.glitchPresence := s.faults.glitchPresence - 1 }

/-- Reads of byte registers. Follows `bpmcu-dummy/sim:340-369`. -/
def serveReadByteData (s : Simulator) (command : UInt8) :
    Served (Reply (.readByteData command)) Simulator :=
  if command = Protocol.identRegister then s.serveIdent command
  else
    match s.config.protocol with
    | .v0 =>
      if command = V0.presenceRegister then s.servePresence command
      else if command = V0.failuresRegister then answer s.config.failures s
      else refuse s
    | .v1 =>
      if command = V1.presenceRegister then s.servePresence command
      else if command = V1.failuresRegister then answer s.config.failures s
      else if command = V1.locateRegister then answer s.config.locate s
      else if command = V1.latchRegister then answer s.latch { s with latch := 0 }
      else refuse s

/-- Writes of byte registers. Follows `bpmcu-dummy/sim:371-397`. -/
def serveWriteByteData (s : Simulator) (command value : UInt8) :
    Served (Reply (.writeByteData command value)) Simulator :=
  match s.config.protocol with
  | .v0 =>
    if command = V0.locateOnCommand then
      answer () { s with config.locate := s.config.locate ||| wireBit value }
    else if command = V0.locateOffCommand then
      answer () { s with config.locate := s.config.locate &&& ~~~wireBit value }
    else if command = V0.driveTypeCommand then
      if h : value.toNat < channelCount then answer () { s with selected := ⟨value.toNat, h⟩ }
      else refuse s
    else refuse s
  | .v1 =>
    if command = V1.locateRegister then answer () { s with config.locate := value }
    else if command = V1.powerRegister then answer () { s with hostPower := some (value != 0) }
    else refuse s

/-- Reads of text fields as blocks. Follows `bpmcu-dummy/sim:417-431`. -/
def blockField? (s : Simulator) (command : UInt8) : Option String :=
  match s.config.protocol with
  | .v0 =>
    if command = V0.boardTypeRegister ∧ !s.faults.noBoardType then some s.config.boardType
    else none
  | .v1 =>
    if command = V1.boardTypeRegister then some s.config.boardType
    else if command = V1.versionRegister then some s.config.firmwareVersion
    else none

/-- Combined transfers. Follows `bpmcu-dummy/sim:433-440`. -/
def serveTransfer (s : Simulator) (messages : List Message) :
    Served (Reply (.transfer messages)) Simulator :=
  match s.frame? messages with
  | some frame =>
    if s.accepts frame then
      let data := s.frameData frame
      ⟨⟨.ok (), data⟩, s.frameEffect frame, []⟩
    else refuse s
  | none => refuse s

/-- Serves a request while the controller runs. Follows `bpmcu-dummy/lib:28-72`. -/
def serve (s : Simulator) : (r : Request) → Served (Reply r) Simulator
  | .functionality =>
    answer (if s.faults.missingFunctionality then .byteData
      else Functionality.required.union ⟨Functionality.i2c⟩) s
  | .readByte =>
    match s.config.protocol with
    | .v0 => answer (s.config.driveTypes.get s.selected) s
    | .v1 => refuse s
  | .writeByte value => s.serveWriteByte value
  | .readByteData command => s.serveReadByteData command
  | .writeByteData command value => s.serveWriteByteData command value
  | .readWordData command =>
    if s.config.protocol = .v1 ∧ command = V1.driveTypesRegister then
      answer (packTypes s.config.driveTypes.toList) s
    else refuse s
  | .writeWordData _ _ => refuse s
  | .readBlock command length =>
    match s.blockField? command with
    | some text => ⟨⟨.ok length, field text length⟩, s, []⟩
    | none => refuse s
  | .transfer messages => s.serveTransfer messages

/-- One attempt. The functionality is that of the adapter, so it is told whatever the controller
does; every other attempt is counted and goes unheard during a boot. Follows
`bpmcu-dummy/sim:252-262`. -/
def attempt (r : Request) (s : Simulator) : Served (Reply r) Simulator :=
  match r with
  | .functionality => s.serve .functionality
  | r =>
    let s := s.count r
    if s.booting.isSome then refuse s else s.serve r

/-- Opens a handle. Follows `bpmcu-dummy/sim:204-210`. -/
def connect (label : String) (s : Simulator) : Served (Except BusError Unit) Simulator :=
  if s.faults.connectFails then ⟨.error (.os Errno.noEntry), s, []⟩
  else
    ⟨.ok (), { s with counters.connects := s.counters.connects + 1 },
      [.noted (.log ⟨.library, .debug, s!"dummy: opened {label}"⟩)]⟩

/-- Waits. Follows `bpmcu-dummy/sim:212-220`. -/
def delay (us : UInt32) (s : Simulator) : Served Unit Simulator :=
  match s.elapse us with
  | (true, s) => ⟨(), s, [.noted (.log s.bootLine)]⟩
  | (false, s) => ⟨(), s, []⟩

/-- The bus of a simulated controller that is known by `label`. Follows `bpmcu-dummy/lib:24-72`. -/
def bus (label : String) : Bus Simulator where
  connect := connect label
  attempt := attempt
  delay := delay

end Backplane.Simulator
