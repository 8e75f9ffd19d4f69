import EditorialDesk.Calendar.Moment
import EditorialDesk.Calendar.Reader
import EditorialDesk.Calendar.Stamp
import EditorialDesk.Calendar.Zone
import EditorialDesk.Database.Basic
import EditorialDesk.Database.Error
import EditorialDesk.Database.Fault
import EditorialDesk.Database.Perform
import EditorialDesk.Database.Query
import EditorialDesk.Desk.Operation
import EditorialDesk.Desk.Report
import EditorialDesk.Intake.Request
import EditorialDesk.Intake.Routine
import EditorialDesk.Notification
import EditorialDesk.Number.Binary64
import EditorialDesk.Program
import EditorialDesk.Proofs.Calendar.Changeover
import EditorialDesk.Proofs.Calendar.Column
import EditorialDesk.Proofs.Calendar.Conversion
import EditorialDesk.Proofs.Calendar.Order
import EditorialDesk.Proofs.Calendar.Shown
import EditorialDesk.Proofs.Database.Admission
import EditorialDesk.Proofs.Database.Arrangement
import EditorialDesk.Proofs.Database.Effect
import EditorialDesk.Proofs.Database.Firm
import EditorialDesk.Proofs.Database.History
import EditorialDesk.Proofs.Database.Lookup
import EditorialDesk.Proofs.Database.Outage
import EditorialDesk.Proofs.Database.Overlap
import EditorialDesk.Proofs.Database.Report
import EditorialDesk.Proofs.Database.Scope
import EditorialDesk.Proofs.Database.Standing
import EditorialDesk.Proofs.Desk.Connection
import EditorialDesk.Proofs.Desk.Settings
import EditorialDesk.Proofs.Intake.Account
import EditorialDesk.Proofs.Intake.Aftermath
import EditorialDesk.Proofs.Intake.Audit
import EditorialDesk.Proofs.Intake.Candidates
import EditorialDesk.Proofs.Intake.Completion
import EditorialDesk.Proofs.Intake.Conduct
import EditorialDesk.Proofs.Intake.Determinacy
import EditorialDesk.Proofs.Intake.Distinct
import EditorialDesk.Proofs.Intake.Enrollment
import EditorialDesk.Proofs.Intake.Finality
import EditorialDesk.Proofs.Intake.Finalization
import EditorialDesk.Proofs.Intake.Footprint
import EditorialDesk.Proofs.Intake.Idempotence
import EditorialDesk.Proofs.Intake.Interchange
import EditorialDesk.Proofs.Intake.Isolation
import EditorialDesk.Proofs.Intake.Opening
import EditorialDesk.Proofs.Intake.Ordering
import EditorialDesk.Proofs.Intake.Overlap
import EditorialDesk.Proofs.Intake.Repetition
import EditorialDesk.Proofs.Intake.Retry
import EditorialDesk.Proofs.Intake.Roster
import EditorialDesk.Proofs.Intake.Routing
import EditorialDesk.Proofs.Intake.Silence
import EditorialDesk.Proofs.Intake.Trial
import EditorialDesk.Proofs.Program.Contract
import EditorialDesk.Proofs.Program.Dialogue
import EditorialDesk.Proofs.Program.Lockstep
import EditorialDesk.Proofs.Record.LogEntry
import EditorialDesk.Proofs.Record.Reread
import EditorialDesk.Proofs.Review.DueDate
import EditorialDesk.Proofs.Review.Failure
import EditorialDesk.Proofs.Review.Overdue
import EditorialDesk.Proofs.Review.Progress
import EditorialDesk.Proofs.Review.Recommendation
import EditorialDesk.Proofs.Store.Absence
import EditorialDesk.Proofs.Store.Apart
import EditorialDesk.Proofs.Store.Counterpart
import EditorialDesk.Proofs.Store.Directory
import EditorialDesk.Proofs.Store.Groups
import EditorialDesk.Proofs.Store.Grown
import EditorialDesk.Proofs.Store.Ledger
import EditorialDesk.Proofs.Store.Listing
import EditorialDesk.Proofs.Store.Mirror
import EditorialDesk.Proofs.Store.Neighbours
import EditorialDesk.Proofs.Store.Notices
import EditorialDesk.Proofs.Store.OpenGroups
import EditorialDesk.Proofs.Store.Padded
import EditorialDesk.Proofs.Store.ReadBack
import EditorialDesk.Proofs.Store.Rearranged
import EditorialDesk.Proofs.Store.Refusal
import EditorialDesk.Proofs.Store.Register
import EditorialDesk.Proofs.Store.Relations
import EditorialDesk.Proofs.Store.Scope
import EditorialDesk.Proofs.Store.Seating
import EditorialDesk.Proofs.Store.Selection
import EditorialDesk.Proofs.Store.Service
import EditorialDesk.Proofs.Store.Silence
import EditorialDesk.Proofs.Store.StageNumbers
import EditorialDesk.Proofs.Store.Steady
import EditorialDesk.Proofs.Store.SteadyDatabase
import EditorialDesk.Proofs.Store.SteadyMemory
import EditorialDesk.Proofs.Store.Suppression
import EditorialDesk.Proofs.Store.Surrender
import EditorialDesk.Proofs.Store.Withdrawal
import EditorialDesk.Proofs.Text.Grammar
import EditorialDesk.Proofs.Text.Runs
import EditorialDesk.Proofs.Text.Words
import EditorialDesk.Proofs.Value.Alike
import EditorialDesk.Record.Field
import EditorialDesk.Record.Issue
import EditorialDesk.Review.Assignment
import EditorialDesk.Review.View
import EditorialDesk.Settings
import EditorialDesk.Stage
import EditorialDesk.Store.Directory
import EditorialDesk.Store.Memory
import EditorialDesk.Store.Register
import EditorialDesk.Submission
import EditorialDesk.Text.Casing
import EditorialDesk.Text.Quoted
import EditorialDesk.Text.Whole
import EditorialDesk.UserGroup
import EditorialDesk.Value.Basic
import EditorialDesk.Value.Nesting
import EditorialDesk.Value.Printer
import EditorialDesk.Value.Reader
