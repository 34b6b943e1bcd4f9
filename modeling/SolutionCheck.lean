import SolutionCheck.Comparison
import SolutionCheck.Facts
import SolutionCheck.Interpreter
import SolutionCheck.Logic
import SolutionCheck.Relational
import SolutionCheck.Run
import SolutionCheck.Report
import SolutionCheck.Store
import SolutionCheck.Verification
import SolutionCheck.CommandLine
import SolutionCheck.Main
import SolutionCheck.Proofs.Comparison
import SolutionCheck.Proofs.RowOrder
import SolutionCheck.Proofs.Acceptance
import SolutionCheck.Proofs.Integers
import SolutionCheck.Proofs.Delivery
import SolutionCheck.Proofs.StructuredForm
import SolutionCheck.Proofs.RecordOrder
import SolutionCheck.Proofs.Materialization
import SolutionCheck.Proofs.Printed
import SolutionCheck.Proofs.RunFolder
import SolutionCheck.Proofs.Arrival
import SolutionCheck.Proofs.Stages
import SolutionCheck.Proofs.Verdicts
import SolutionCheck.Proofs.Stored
import SolutionCheck.Proofs.AttributeNames
import SolutionCheck.Proofs.Operations
import SolutionCheck.Proofs.RecordList
import SolutionCheck.Proofs.StoredWidths
import SolutionCheck.Proofs.ReadColumns
import SolutionCheck.Proofs.LineOrder
import SolutionCheck.Proofs.InputDocument
import SolutionCheck.Proofs.Catalog
import SolutionCheck.Proofs.Drawing
import SolutionCheck.Proofs.Selection
import SolutionCheck.Proofs.Report
import SolutionCheck.Proofs.QuotedNames
