import EasyMcp2221.Effect.Protocol
import EasyMcp2221.Effect.ArrayLoop
import EasyMcp2221.Lifetime
import EasyMcp2221.Operation
import EasyMcp2221.Request
import EasyMcp2221.Audit
import EasyMcp2221.Domain
import EasyMcp2221.Answer
import EasyMcp2221.Unwinding
import EasyMcp2221.Transparency
import EasyMcp2221.Acceptance
import EasyMcp2221.Configuration
import EasyMcp2221.EntryPoints
import EasyMcp2221.Effect.Plan
import EasyMcp2221.Construction
import EasyMcp2221.Classification
import EasyMcp2221.Effect.Interleaving
import EasyMcp2221.Effect.Simulation
import EasyMcp2221.System.Store
import EasyMcp2221.System.Machine
import EasyMcp2221.System.Session
import EasyMcp2221.System.History
import EasyMcp2221.System.Invariant
import EasyMcp2221.System.DeviceSteps
import EasyMcp2221.System.ChildSteps
import EasyMcp2221.System.Relocation
import EasyMcp2221.System.Safety
import EasyMcp2221.Effect.Ownership
import EasyMcp2221.System.Runs
import EasyMcp2221.System.Construction
import EasyMcp2221.System.Ledger
import EasyMcp2221.System.Serialisation
import EasyMcp2221.System.Binding
import EasyMcp2221.Correspondence
import EasyMcp2221.System.Layout
import EasyMcp2221.System.Clock
import EasyMcp2221.Effect.Refinement
import EasyMcp2221.Effect.LastWriter
import EasyMcp2221.Polling
import EasyMcp2221.System.Watch
import EasyMcp2221.Decoding
import EasyMcp2221.Effect.Reentrancy
import EasyMcp2221.Qt.GpioMonitor
import EasyMcp2221.Qt.Reporting
import EasyMcp2221.Qt.Timer
import EasyMcp2221.Sram
import EasyMcp2221.Pins
import EasyMcp2221.Qt.ByteArrays
import EasyMcp2221.Effect.Progress
import EasyMcp2221.System.Progress
import EasyMcp2221.System.Release
import EasyMcp2221.System.Buses
import EasyMcp2221.System.Races
import EasyMcp2221.Effect.History
import EasyMcp2221.System.Graph
import EasyMcp2221.System.Linearization
import EasyMcp2221.System.Commits
import EasyMcp2221.Effect.Atomicity
import EasyMcp2221.System.Atomicity
import EasyMcp2221.Levels
import EasyMcp2221.Effect.Serial
import EasyMcp2221.Qt.Sequential
import EasyMcp2221.Effect.Returning
import EasyMcp2221.Qt.Client
