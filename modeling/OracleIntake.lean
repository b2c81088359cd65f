import OracleIntake.CommandLine.Command
import OracleIntake.Connection.Description
import OracleIntake.Connection.Status
import OracleIntake.Connection.Turns
import OracleIntake.Failure.VendorCode
import OracleIntake.Json.Writer
import OracleIntake.Main
import OracleIntake.Proofs.Connection.CycleRun
import OracleIntake.Proofs.Connection.Fallbacks
import OracleIntake.Proofs.Connection.Invariant
import OracleIntake.Proofs.Connection.Life
import OracleIntake.Proofs.Dialogue.Ensures
import OracleIntake.Rehearsal.Log
import OracleIntake.Rehearsal.Standin
import OracleIntake.Statement.Serial
import OracleIntake.Proofs.Connection.ClosedForm
import OracleIntake.Proofs.Connection.Hand
import OracleIntake.Proofs.Connection.Custody
import OracleIntake.Proofs.Connection.Abandonment
import OracleIntake.Proofs.Dialogue.Sequence
import OracleIntake.Proofs.Dialogue.Views
import OracleIntake.Proofs.Shared.Delivery
import OracleIntake.Proofs.Shared.Serial
import OracleIntake.Proofs.Shared.Interleaving
import OracleIntake.Proofs.Settings.Reading
import OracleIntake.Proofs.Settings.RoundTrip
import OracleIntake.Proofs.Secrecy.Substitution
import OracleIntake.Proofs.Secrecy.Calls
import OracleIntake.Proofs.Secrecy.Unseen
import OracleIntake.Proofs.Column.Priority
import OracleIntake.Proofs.Column.Lengths
import OracleIntake.Proofs.Failure.Telling
import OracleIntake.Proofs.Connection.Switching
import OracleIntake.Proofs.Column.Collection
import OracleIntake.Proofs.Number.Rounding
import OracleIntake.Proofs.Number.Positional
import OracleIntake.Proofs.Duration.Seconds
import OracleIntake.Proofs.Settings.Canonical
import OracleIntake.Proofs.Settings.Reload
import OracleIntake.Proofs.Settings.FileText
import OracleIntake.Proofs.Connection.Statements
import OracleIntake.Proofs.Connection.Checking
import OracleIntake.Proofs.CommandLine.Agreement
import OracleIntake.Proofs.Column.RuleOrder
import OracleIntake.Proofs.Settings.Waits
import OracleIntake.Proofs.Settings.FileReading
import OracleIntake.Proofs.Settings.Acceptance
import OracleIntake.Proofs.Column.Spelling
import OracleIntake.Proofs.Column.Mapping
import OracleIntake.Proofs.Column.Shapes
import OracleIntake.Proofs.Text.Separated
import OracleIntake.Proofs.Column.Rendering
import OracleIntake.Proofs.Endpoint.Descriptor
import OracleIntake.Proofs.Failure.Wrapping
import OracleIntake.Proofs.Connection.HalfClosed
import OracleIntake.Proofs.Column.Nullability
import OracleIntake.Proofs.Failure.Wording
import OracleIntake.Proofs.Failure.FirstCode
import OracleIntake.Proofs.Column.DateLike
