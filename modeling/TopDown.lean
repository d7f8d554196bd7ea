import TopDown.Main
import TopDown.Workbench
import TopDown.Proofs.EarliestError
import TopDown.Proofs.Chronology
import TopDown.Proofs.Divergence
import TopDown.Proofs.Halting
import TopDown.Proofs.LeftRecursion
import TopDown.Proofs.Lineage
import TopDown.Proofs.Reordering
import TopDown.Proofs.TraceSteps
import TopDown.Proofs.Unambiguity
import TopDown.Proofs.Restriction
import TopDown.Proofs.EndMark
import TopDown.Proofs.RuleFormat
import TopDown.Proofs.Alignment
import TopDown.Proofs.PassCount
import TopDown.Proofs.Display
import TopDown.Proofs.Reflow
import TopDown.Proofs.Printing
import TopDown.Proofs.Answer
import TopDown.Proofs.Appearance
import TopDown.Proofs.Grid
import TopDown.Proofs.Typesetting
import TopDown.Proofs.Listing
import TopDown.Proofs.Traversal
import TopDown.Proofs.Concatenation
