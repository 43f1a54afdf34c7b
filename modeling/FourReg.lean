import FourReg.Main
import FourReg.Proofs.BadFields
import FourReg.Proofs.BadLines
import FourReg.Proofs.Fault
import FourReg.Proofs.Forward
import FourReg.Proofs.Independence
import FourReg.Proofs.Joining
import FourReg.Proofs.Listing
import FourReg.Proofs.LogRecords
import FourReg.Proofs.Messages
import FourReg.Proofs.Numbered
import FourReg.Proofs.Refinement
import FourReg.Proofs.Rendering
import FourReg.Proofs.Repetition
import FourReg.Proofs.Report
import FourReg.Proofs.ReportDocument
import FourReg.Proofs.ReportText
import FourReg.Proofs.Reset
import FourReg.Proofs.Rewriting
import FourReg.Proofs.Roles
import FourReg.Proofs.Snapshots
import FourReg.Proofs.Spacing
import FourReg.Proofs.Stopping
import FourReg.Proofs.TraceLines
import FourReg.Proofs.Unreached
import FourReg.Proofs.Wrapping
