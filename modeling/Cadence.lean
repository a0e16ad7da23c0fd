import Cadence.Action
import Cadence.Clock
import Cadence.Config.Basic
import Cadence.Config.Document
import Cadence.Database.Basic
import Cadence.Database.Table
import Cadence.Engine.Basic
import Cadence.Engine.Error
import Cadence.Environment.Basic
import Cadence.Environment.Error
import Cadence.Environment.Window
import Cadence.Identity
import Cadence.Json.Decode
import Cadence.Json.Lenient
import Cadence.Json.Printer
import Cadence.Json.Reader
import Cadence.Json.Value
import Cadence.Log.Directive
import Cadence.Log.Event
import Cadence.Log.Filter
import Cadence.Log.Pattern
import Cadence.Main
import Cadence.Numeric.Double
import Cadence.Numeric.Word
import Cadence.Operator
import Cadence.OrderedMap
import Cadence.Random
import Cadence.Recorder
import Cadence.Ring
import Cadence.Scenario.Basic
import Cadence.Scenario.Reporter
import Cadence.Scenario.Walker
import Cadence.Script.Component
import Cadence.Script.Generator
import Cadence.Script.Handler
import Cadence.Script.Memory
import Cadence.Script.Session
import Cadence.Service
import Cadence.Simulation.Basic
import Cadence.Simulation.Report
import Cadence.Simulation.Run
import Cadence.State.Handler
import Cadence.State.Registry
import Cadence.State.Store
import Cadence.Text.Alphanumeric
import Cadence.Text.Blank
import Cadence.Text.Bytes
import Cadence.Text.Hex
import Cadence.Text.Hidden
import Cadence.Text.Quoted
import Cadence.Text.Range
import Cadence.World.Basic
import Cadence.World.Component
import Cadence.World.Program
import Cadence.World.Thread
import Cadence.Yaml.Buffer
import Cadence.Yaml.Cursor
import Cadence.Yaml.Integer
import Cadence.Yaml.Node
import Cadence.Yaml.Scalar
import Cadence.Yaml.Tag
import Cadence.Yaml.Token
import Cadence.Proofs.Thread
import Cadence.Proofs.Registration
import Cadence.Proofs.Authorization
import Cadence.Proofs.History
import Cadence.Proofs.Registry
import Cadence.Proofs.Window
import Cadence.Proofs.Ownership
import Cadence.Proofs.Driven
import Cadence.Proofs.Steps
import Cadence.Proofs.Callers
import Cadence.Proofs.Deeds
import Cadence.Proofs.Answers
import Cadence.Proofs.Tick
import Cadence.Proofs.Policy
import Cadence.Proofs.Trail
import Cadence.Proofs.Pace
import Cadence.Proofs.Accounting
import Cadence.Proofs.Lockstep
import Cadence.Proofs.Maps
import Cadence.Proofs.Identifiers
import Cadence.Proofs.Ring
import Cadence.Proofs.Board
import Cadence.Proofs.Perform
import Cadence.Proofs.Hooks
import Cadence.Proofs.Stage
import Cadence.Proofs.Setup
import Cadence.Proofs.Rounds
import Cadence.Proofs.Demonstration
import Cadence.Proofs.Runs
import Cadence.Proofs.Lifecycle
import Cadence.Proofs.Turns
import Cadence.Proofs.Membership
import Cadence.Proofs.Tables
import Cadence.Proofs.Places
import Cadence.Proofs.Completion
import Cadence.Proofs.Recording
import Cadence.Proofs.Conservation
import Cadence.Proofs.Ending
import Cadence.Proofs.Interleaving
import Cadence.Proofs.Course
import Cadence.Proofs.Errands
import Cadence.Proofs.Abreast
import Cadence.Proofs.Walks
import Cadence.Proofs.Modes
import Cadence.Proofs.Acceptance
import Cadence.Proofs.Traffic
import Cadence.Proofs.Gates
import Cadence.Proofs.Phases
import Cadence.Proofs.Overlap
import Cadence.Proofs.Rekeying
import Cadence.Proofs.Likeness
import Cadence.Proofs.Secrecy
import Cadence.Proofs.Contents
import Cadence.Proofs.Generation
import Cadence.Proofs.Services
import Cadence.Proofs.Decoding
import Cadence.Proofs.Settings
import Cadence.Proofs.Documents
import Cadence.Proofs.Codec
import Cadence.Proofs.Stored
import Cadence.Proofs.Departure
import Cadence.Proofs.Routing
import Cadence.Proofs.Rules
import Cadence.Proofs.Collisions
import Cadence.Proofs.Validation
import Cadence.Proofs.Overrides
import Cadence.Proofs.Restraint
import Cadence.Proofs.Joining
import Cadence.Proofs.Spawning
import Cadence.Proofs.Descriptions
import Cadence.Proofs.Reasons
import Cadence.Proofs.Startup
import Cadence.Proofs.Usage
import Cadence.Proofs.Shutdown
