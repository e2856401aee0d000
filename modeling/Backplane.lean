import Backplane.Action
import Backplane.Bus.Error
import Backplane.Bus.Functionality
import Backplane.Bus.Playback
import Backplane.Bus.Request
import Backplane.Command.Basic
import Backplane.Command.Connect
import Backplane.Command.Error
import Backplane.Command.Info
import Backplane.Command.Run
import Backplane.Command.Scan
import Backplane.Command.Status
import Backplane.Command.Switch
import Backplane.Command.Update
import Backplane.CommandLine.Argument
import Backplane.CommandLine.Given
import Backplane.CommandLine.Help
import Backplane.CommandLine.Parse
import Backplane.CommandLine.Refusal
import Backplane.CommandLine.Scope
import Backplane.Device
import Backplane.Dialogue
import Backplane.Drive
import Backplane.Driver.Basic
import Backplane.Driver.Channels
import Backplane.Driver.Detect
import Backplane.Driver.Operations
import Backplane.Driver.V0
import Backplane.Driver.V1
import Backplane.Errno
import Backplane.Error
import Backplane.ErrorStreak
import Backplane.Event
import Backplane.FileTree
import Backplane.Flash.Cursor
import Backplane.Flash.Frame
import Backplane.Host
import Backplane.Identity
import Backplane.Image
import Backplane.Linux.Adapter
import Backplane.Linux.Call
import Backplane.Linux.Codec
import Backplane.Linux.Config
import Backplane.Linux.Kernel
import Backplane.Linux.Open
import Backplane.Linux.Path
import Backplane.Log
import Backplane.Main
import Backplane.Manual
import Backplane.Number.Binary64
import Backplane.Number.Shortest
import Backplane.Program
import Backplane.Proofs.Command.Handles
import Backplane.Proofs.Command.Order
import Backplane.Proofs.CommandLine.Bus
import Backplane.Proofs.Course
import Backplane.Proofs.Device
import Backplane.Proofs.Device.Retry
import Backplane.Proofs.Device.Throttle
import Backplane.Proofs.Device.Transactions
import Backplane.Proofs.Dialogue
import Backplane.Proofs.Drive
import Backplane.Proofs.Driver
import Backplane.Proofs.Driver.Acts
import Backplane.Proofs.Driver.Agreement
import Backplane.Proofs.Driver.Channels
import Backplane.Proofs.Driver.Chunk
import Backplane.Proofs.Driver.Coherence
import Backplane.Proofs.Driver.Confirm
import Backplane.Proofs.Driver.Detect
import Backplane.Proofs.Driver.Guard
import Backplane.Proofs.Driver.Identity
import Backplane.Proofs.Driver.Locate
import Backplane.Proofs.Driver.Masks
import Backplane.Proofs.Driver.Methods
import Backplane.Proofs.Driver.Poll
import Backplane.Proofs.Driver.Readback
import Backplane.Proofs.Driver.Requests
import Backplane.Proofs.Driver.Snapshot
import Backplane.Proofs.Driver.Stale
import Backplane.Proofs.Driver.Traffic
import Backplane.Proofs.Driver.Version
import Backplane.Proofs.Flash.Cursor
import Backplane.Proofs.Flash.Pieces
import Backplane.Proofs.Handles
import Backplane.Proofs.Keeps
import Backplane.Proofs.Linux.Address
import Backplane.Proofs.Linux.BusPath
import Backplane.Proofs.Linux.Codec
import Backplane.Proofs.Linux.Session
import Backplane.Proofs.Linux.Site
import Backplane.Proofs.Lists
import Backplane.Proofs.Scan.Outcomes
import Backplane.Proofs.Scan.Versions
import Backplane.Proofs.Scan.Visits
import Backplane.Proofs.Shelf.Answers
import Backplane.Proofs.Shelf.Basic
import Backplane.Proofs.Shelf.Operations
import Backplane.Proofs.Shelf.Run
import Backplane.Proofs.Simulator.Boot
import Backplane.Proofs.Simulator.Bus
import Backplane.Proofs.Simulator.Channels
import Backplane.Proofs.Simulator.Chunk
import Backplane.Proofs.Simulator.Detect
import Backplane.Proofs.Simulator.Frames
import Backplane.Proofs.Simulator.HotPlug
import Backplane.Proofs.Simulator.Identity
import Backplane.Proofs.Simulator.Locate
import Backplane.Proofs.Simulator.Memory
import Backplane.Proofs.Simulator.Reads
import Backplane.Proofs.Simulator.Requests
import Backplane.Proofs.Simulator.Restart
import Backplane.Proofs.Simulator.Steps
import Backplane.Proofs.Simulator.Strings
import Backplane.Proofs.Simulator.Update
import Backplane.Proofs.Simulator.Verified
import Backplane.Proofs.Stream
import Backplane.Proofs.Text.Blank
import Backplane.Proofs.Text.Field
import Backplane.Proofs.Text.Kept
import Backplane.Proofs.Text.Numeral
import Backplane.Proofs.Update.Absent
import Backplane.Proofs.Update.Bounds
import Backplane.Proofs.Update.Chunks
import Backplane.Proofs.Update.Coverage
import Backplane.Proofs.Update.Handles
import Backplane.Proofs.Update.Observer
import Backplane.Proofs.Update.Outcome
import Backplane.Proofs.Update.Pings
import Backplane.Proofs.Update.Reboot
import Backplane.Proofs.Update.Stages
import Backplane.Proofs.Update.Traffic
import Backplane.Scan.Config
import Backplane.Simulator.Basic
import Backplane.Simulator.Bus
import Backplane.Simulator.Config
import Backplane.Simulator.Frame
import Backplane.Site
import Backplane.Text.Blank
import Backplane.Text.Column
import Backplane.Text.Field
import Backplane.Text.Hex
import Backplane.Text.Hidden
import Backplane.Text.Numeral
import Backplane.Text.Path
import Backplane.Text.Plain
import Backplane.Text.Quoted
import Backplane.Toml.Document
import Backplane.Toml.Expression
import Backplane.Toml.Moment
import Backplane.Toml.Number
import Backplane.Toml.Reader
import Backplane.Toml.Table
import Backplane.Toml.Text
import Backplane.Toml.Value
import Backplane.Trace
import Backplane.Update.Options
import Backplane.Update.Progress
import Backplane.Update.Sequence
