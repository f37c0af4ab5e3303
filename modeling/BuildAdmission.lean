import BuildAdmission.Audit.Basic
import BuildAdmission.Budget.Basic
import BuildAdmission.Checkpoint.Basic
import BuildAdmission.Checkpoint.Outcome
import BuildAdmission.Codec.Basic
import BuildAdmission.Codec.Record
import BuildAdmission.Codec.Variant
import BuildAdmission.Config.Basic
import BuildAdmission.Config.Environment
import BuildAdmission.Config.SettingsFile
import BuildAdmission.Config.Setup
import BuildAdmission.Decimal.Binary64
import BuildAdmission.Decimal.Shortest
import BuildAdmission.Dispatch.Backlog
import BuildAdmission.Dispatch.Basic
import BuildAdmission.Dispatch.Rehearsal
import BuildAdmission.Error
import BuildAdmission.Files.Path
import BuildAdmission.Files.Tree
import BuildAdmission.Graph.Basic
import BuildAdmission.Graph.Cycles
import BuildAdmission.Graph.Order
import BuildAdmission.Graph.Split
import BuildAdmission.IdMap
import BuildAdmission.IdSet
import BuildAdmission.Json.Basic
import BuildAdmission.Json.Reader
import BuildAdmission.Json.Writer
import BuildAdmission.Limits
import BuildAdmission.Proofs.Budget
import BuildAdmission.Proofs.Codec.Basic
import BuildAdmission.Proofs.Codec.Checkpoint
import BuildAdmission.Proofs.Codec.Formats
import BuildAdmission.Proofs.Codec.Record
import BuildAdmission.Proofs.Codec.Recovery
import BuildAdmission.Proofs.Codec.Variant
import BuildAdmission.Proofs.Config.Environment
import BuildAdmission.Proofs.Decimal.Binary64
import BuildAdmission.Proofs.Dispatch
import BuildAdmission.Proofs.Dispatch.Delivery
import BuildAdmission.Proofs.Except
import BuildAdmission.Proofs.Files.Path
import BuildAdmission.Proofs.Files.Tree
import BuildAdmission.Proofs.Graph.Built
import BuildAdmission.Proofs.Graph.Grading
import BuildAdmission.Proofs.Graph.Greedy
import BuildAdmission.Proofs.Graph.History
import BuildAdmission.Proofs.Graph.Levels
import BuildAdmission.Proofs.Graph.Loops
import BuildAdmission.Proofs.Graph.Order
import BuildAdmission.Proofs.Graph.Reach
import BuildAdmission.Proofs.Graph.Record
import BuildAdmission.Proofs.Graph.Replacement
import BuildAdmission.Proofs.Graph.Rerouting
import BuildAdmission.Proofs.Graph.Search
import BuildAdmission.Proofs.Graph.Split
import BuildAdmission.Proofs.Graph.SplitCycles
import BuildAdmission.Proofs.Graph.Standing
import BuildAdmission.Proofs.Graph.Units
import BuildAdmission.Proofs.IdMap
import BuildAdmission.Proofs.IdSet
import BuildAdmission.Proofs.Json.Atom
import BuildAdmission.Proofs.Json.Legible
import BuildAdmission.Proofs.Json.Reader
import BuildAdmission.Proofs.Json.Torn
import BuildAdmission.Proofs.Json.Writer
import BuildAdmission.Proofs.Queue.Entries
import BuildAdmission.Proofs.Queue.Handling
import BuildAdmission.Proofs.Queue.Line
import BuildAdmission.Proofs.Queue.Order
import BuildAdmission.Proofs.Queue.Permutation
import BuildAdmission.Proofs.Scheduler.Bookkeeping
import BuildAdmission.Proofs.Scheduler.Kept
import BuildAdmission.Proofs.Scheduler.Recovery
import BuildAdmission.Proofs.Scheduler.Restore
import BuildAdmission.Proofs.Session.Account
import BuildAdmission.Proofs.Session.Admission
import BuildAdmission.Proofs.Session.Alteration
import BuildAdmission.Proofs.Session.Archiving
import BuildAdmission.Proofs.Session.Coherence
import BuildAdmission.Proofs.Session.Commission
import BuildAdmission.Proofs.Session.Commuting
import BuildAdmission.Proofs.Session.Completion
import BuildAdmission.Proofs.Session.Conservation
import BuildAdmission.Proofs.Session.Discipline
import BuildAdmission.Proofs.Session.Durability
import BuildAdmission.Proofs.Session.Edit
import BuildAdmission.Proofs.Session.Expiry
import BuildAdmission.Proofs.Session.Filling
import BuildAdmission.Proofs.Session.Frame
import BuildAdmission.Proofs.Session.Launch
import BuildAdmission.Proofs.Session.Lifecycle
import BuildAdmission.Proofs.Session.Mirror
import BuildAdmission.Proofs.Session.Noted
import BuildAdmission.Proofs.Session.Operation
import BuildAdmission.Proofs.Session.Outage
import BuildAdmission.Proofs.Session.Plan
import BuildAdmission.Proofs.Session.Progress
import BuildAdmission.Proofs.Session.Promotion
import BuildAdmission.Proofs.Session.Rating
import BuildAdmission.Proofs.Session.Readiness
import BuildAdmission.Proofs.Session.Refill
import BuildAdmission.Proofs.Session.Refusal
import BuildAdmission.Proofs.Session.Request
import BuildAdmission.Proofs.Session.Restart
import BuildAdmission.Proofs.Session.Retries
import BuildAdmission.Proofs.Session.Run
import BuildAdmission.Proofs.Session.Script
import BuildAdmission.Proofs.Session.Sparing
import BuildAdmission.Proofs.Session.Step
import BuildAdmission.Proofs.Session.Summary
import BuildAdmission.Proofs.Session.Support
import BuildAdmission.Proofs.Session.Tickets
import BuildAdmission.Proofs.Session.Trail
import BuildAdmission.Proofs.Session.Transition
import BuildAdmission.Proofs.Session.Turnover
import BuildAdmission.Proofs.Session.Untouched
import BuildAdmission.Proofs.Storage
import BuildAdmission.Proofs.Storage.Exchange
import BuildAdmission.Proofs.Storage.Files
import BuildAdmission.Proofs.Storage.Keeping
import BuildAdmission.Proofs.Storage.Log
import BuildAdmission.Proofs.Storage.Memory
import BuildAdmission.Proofs.Storage.RecordFile
import BuildAdmission.Proofs.Storage.SharedLog
import BuildAdmission.Proofs.Storage.View
import BuildAdmission.Proofs.Text.Numeral
import BuildAdmission.Proofs.WorkUnit
import BuildAdmission.Queue.Basic
import BuildAdmission.Queue.Heap
import BuildAdmission.Request
import BuildAdmission.Scheduler.Basic
import BuildAdmission.Scheduler.Edit
import BuildAdmission.Scheduler.Launch
import BuildAdmission.Scheduler.Promotion
import BuildAdmission.Scheduler.Report
import BuildAdmission.Scheduler.Restore
import BuildAdmission.Scheduler.Transition
import BuildAdmission.Storage.Basic
import BuildAdmission.Storage.Log
import BuildAdmission.Storage.Memory
import BuildAdmission.Storage.RecordFile
import BuildAdmission.Text.Alphanumeric
import BuildAdmission.Text.Blank
import BuildAdmission.Text.Integer
import BuildAdmission.Text.Printable
import BuildAdmission.Text.Quoted
import BuildAdmission.Text.Ranges
import BuildAdmission.Time.Duration
import BuildAdmission.Time.Timestamp
import BuildAdmission.WorkUnit.Basic
import BuildAdmission.WorkUnit.Level
