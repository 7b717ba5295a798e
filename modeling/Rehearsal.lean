import Rehearsal.Assertion
import Rehearsal.Capability
import Rehearsal.Chat.Flows
import Rehearsal.Chat.Message
import Rehearsal.Config
import Rehearsal.Data.Decoding
import Rehearsal.Data.Encoding
import Rehearsal.Data.Kind
import Rehearsal.Data.Reading
import Rehearsal.Drive.Clock
import Rehearsal.Drive.Run
import Rehearsal.Drive.Script
import Rehearsal.Drive.Task
import Rehearsal.Drive.Watch
import Rehearsal.Duration
import Rehearsal.Error
import Rehearsal.Event
import Rehearsal.Flow.Constructor
import Rehearsal.Flow.Request
import Rehearsal.Flow.Scripted
import Rehearsal.Json.Basic
import Rehearsal.Json.Document
import Rehearsal.Json.Enclosed
import Rehearsal.Json.Fault
import Rehearsal.Json.NumberReader
import Rehearsal.Json.Place
import Rehearsal.Json.Printer
import Rehearsal.Json.Reader
import Rehearsal.Json.Skip
import Rehearsal.Json.StringReader
import Rehearsal.Link.Payload
import Rehearsal.Link.Queue
import Rehearsal.Link.Session
import Rehearsal.Member
import Rehearsal.Mock.Engine
import Rehearsal.Mock.Marshalling
import Rehearsal.Mock.Messaging
import Rehearsal.Mock.Persistence
import Rehearsal.Number.FloatText
import Rehearsal.Number.Shortest
import Rehearsal.OrderedMap
import Rehearsal.Panic
import Rehearsal.Proofs.Agreeing
import Rehearsal.Proofs.Alike.Stages
import Rehearsal.Proofs.Alike.Runs
import Rehearsal.Proofs.Alike.Worlds
import Rehearsal.Proofs.Assertions
import Rehearsal.Proofs.Building
import Rehearsal.Proofs.Chat.Attempts
import Rehearsal.Proofs.Chat.Calls
import Rehearsal.Proofs.Chat.Couples
import Rehearsal.Proofs.Chat.Delivery
import Rehearsal.Proofs.Chat.Records
import Rehearsal.Proofs.Chat.Rounds
import Rehearsal.Proofs.Chat.Runs
import Rehearsal.Proofs.Composition
import Rehearsal.Proofs.Configuring
import Rehearsal.Proofs.Conservation
import Rehearsal.Proofs.Data.RoundTrip
import Rehearsal.Proofs.Distinction
import Rehearsal.Proofs.Drive.Changes
import Rehearsal.Proofs.Drive.Deadlines
import Rehearsal.Proofs.Drive.Driver
import Rehearsal.Proofs.Drive.Histories
import Rehearsal.Proofs.Drive.Ledger
import Rehearsal.Proofs.Drive.Accounts
import Rehearsal.Proofs.Drive.Rounds
import Rehearsal.Proofs.Drive.Sound
import Rehearsal.Proofs.Drive.Strides
import Rehearsal.Proofs.Drive.Tasks
import Rehearsal.Proofs.Drive.Timeouts
import Rehearsal.Proofs.Drive.Verdicts
import Rehearsal.Proofs.Environment
import Rehearsal.Proofs.Flow.Constructions
import Rehearsal.Proofs.Flow.Renaming
import Rehearsal.Proofs.Identity
import Rehearsal.Proofs.Instantiation
import Rehearsal.Proofs.Json.Contents
import Rehearsal.Proofs.Json.Documents
import Rehearsal.Proofs.Json.Enclosed
import Rehearsal.Proofs.Json.Numbers
import Rehearsal.Proofs.Json.RoundTrip
import Rehearsal.Proofs.Keeping
import Rehearsal.Proofs.Link.Crossings
import Rehearsal.Proofs.Link.Waiters
import Rehearsal.Proofs.Linking
import Rehearsal.Proofs.Lists
import Rehearsal.Proofs.Maps
import Rehearsal.Proofs.Member.Grammar
import Rehearsal.Proofs.Member.RoundTrip
import Rehearsal.Proofs.Member.Spellings
import Rehearsal.Proofs.Pending
import Rehearsal.Proofs.Requests
import Rehearsal.Proofs.Receiving
import Rehearsal.Proofs.Recording
import Rehearsal.Proofs.Routing
import Rehearsal.Proofs.Scenario.Commands
import Rehearsal.Proofs.Scenario.Errands
import Rehearsal.Proofs.Scenario.Quiet
import Rehearsal.Proofs.Scenario.Receptions
import Rehearsal.Proofs.Schedules.Bodies
import Rehearsal.Proofs.Schedules.Independence
import Rehearsal.Proofs.Schedules.Networks
import Rehearsal.Proofs.Schedules.Standstill
import Rehearsal.Proofs.Schedules.Turns
import Rehearsal.Proofs.Sealing
import Rehearsal.Proofs.Storing
import Rehearsal.Proofs.Text.Bytes
import Rehearsal.Proofs.Text.Trimming
import Rehearsal.Proofs.Wakeups
import Rehearsal.Proofs.World.Acts
import Rehearsal.Proofs.World.Builders
import Rehearsal.Proofs.World.Calls
import Rehearsal.Proofs.World.Changes
import Rehearsal.Proofs.World.Enlistments
import Rehearsal.Proofs.World.Errands
import Rehearsal.Proofs.World.Exchange
import Rehearsal.Proofs.World.History
import Rehearsal.Proofs.World.Mirroring
import Rehearsal.Proofs.World.Mocks
import Rehearsal.Proofs.World.Operations
import Rehearsal.Proofs.World.Outcomes
import Rehearsal.Proofs.World.Places
import Rehearsal.Proofs.World.Queues
import Rehearsal.Proofs.World.Transfers
import Rehearsal.Registry
import Rehearsal.Scenario.Answer
import Rehearsal.Scenario.Command
import Rehearsal.Scenario.Inquiry
import Rehearsal.Scenario.Reception
import Rehearsal.Scenario.Stage
import Rehearsal.Scenario.Steps
import Rehearsal.Text.Blank
import Rehearsal.Text.Excerpt
import Rehearsal.Text.Graphic
import Rehearsal.Text.Quoted
import Rehearsal.World.Basic
import Rehearsal.World.Links
import Rehearsal.World.Registries
import Rehearsal.World.Services
import Rehearsal.World.Store
import Rehearsal.Proofs.Drive.Narration
import Rehearsal.Proofs.World.Receives
