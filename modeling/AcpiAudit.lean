import AcpiAudit.Main
import AcpiAudit.Record.Stream
import AcpiAudit.Proofs.Record.Cut
import AcpiAudit.Proofs.Record.Course
import AcpiAudit.Proofs.Record.Tiling
import AcpiAudit.Proofs.Audit.Passing
import AcpiAudit.Proofs.Record.Partition
import AcpiAudit.Proofs.Record.Grid
import AcpiAudit.Proofs.Audit.Walking
import AcpiAudit.Proofs.Audit.Collecting
import AcpiAudit.Proofs.Audit.Grading
import AcpiAudit.Proofs.Audit.Acceptance
import AcpiAudit.Proofs.Audit.Admitting
import AcpiAudit.Proofs.Audit.Verdict
import AcpiAudit.Proofs.Checks.Apmt
import AcpiAudit.Proofs.Checks.Pcct
import AcpiAudit.Proofs.Checks.Viot
import AcpiAudit.Proofs.Checks.Ibft
import AcpiAudit.Proofs.Checks.Nfit
import AcpiAudit.Proofs.Checks.Gtdt
import AcpiAudit.Proofs.Checks.Grades
import AcpiAudit.Proofs.Checks.Gathering
import AcpiAudit.Proofs.Checks.Stages
import AcpiAudit.Proofs.Audit.Finishing
import AcpiAudit.Proofs.Audit.Trailing
import AcpiAudit.Proofs.Checks.Bounds
import AcpiAudit.Proofs.Checks.Truncation
import AcpiAudit.Proofs.Machine.Word
import AcpiAudit.Proofs.Machine.Run
import AcpiAudit.Proofs.Machine.Cursor
import AcpiAudit.Proofs.Machine.Rule
import AcpiAudit.Proofs.Machine.Walk
import AcpiAudit.Proofs.Machine.Gtdt
import AcpiAudit.Proofs.Machine.Ibft
import AcpiAudit.Proofs.Machine.Nfit
import AcpiAudit.Proofs.Machine.Nodes
import AcpiAudit.Proofs.Machine.Recorder
import AcpiAudit.Proofs.Machine.Admission
import AcpiAudit.Proofs.Machine.Viot
import AcpiAudit.Proofs.Machine.Safety
import AcpiAudit.Proofs.Machine.Reports
import AcpiAudit.Proofs.Bytes.Writing
import AcpiAudit.Proofs.Record.Encoding
import AcpiAudit.Proofs.Record.Stream
import AcpiAudit.Proofs.Record.Visitor
import AcpiAudit.Proofs.Audit.Logging
import AcpiAudit.Proofs.Checks.Logging
import AcpiAudit.Proofs.Report.Summary
import AcpiAudit.Proofs.Machine.Counts
import AcpiAudit.Proofs.Report.Recording
import AcpiAudit.Proofs.Session.Files
import AcpiAudit.Proofs.Session.Verdict
import AcpiAudit.Proofs.Session.Numbering
import AcpiAudit.Proofs.Record.Extension
import AcpiAudit.Proofs.Record.Window
import AcpiAudit.Proofs.Bytes.Fetch
import AcpiAudit.Proofs.Machine.Fetch
import AcpiAudit.Proofs.Bytes.Desk
import AcpiAudit.Proofs.Machine.Desk
import AcpiAudit.Proofs.Checks.Faults
import AcpiAudit.Proofs.Checks.Labels
import AcpiAudit.Proofs.Checks.Outputs
import AcpiAudit.Proofs.Checks.PartialLoad
import AcpiAudit.Proofs.Checks.Slots
import AcpiAudit.Proofs.Audit.Appending
import AcpiAudit.Proofs.Checks.Pointers
import AcpiAudit.Proofs.Checks.Blocks
import AcpiAudit.Proofs.Checks.Gate
import AcpiAudit.Proofs.Record.Stride
import AcpiAudit.Proofs.Record.Exhaustion
import AcpiAudit.Proofs.Machine.Decoding
import AcpiAudit.Proofs.Audit.Checksum
import AcpiAudit.Proofs.Log.Emission
import AcpiAudit.Proofs.Record.Trace
import AcpiAudit.Proofs.Machine.Lookup
import AcpiAudit.Proofs.Report.Adapting
import AcpiAudit.Proofs.Bytes.Text
import AcpiAudit.Proofs.Machine.Text
import AcpiAudit.Proofs.Text.Hex
import AcpiAudit.Proofs.Table.Guid
