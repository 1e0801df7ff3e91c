import SchemeBase.Bootstrap
import SchemeBase.Collector
import SchemeBase.Evaluator
import SchemeBase.Text.Length
import SchemeBase.Value.Diagnostic
import SchemeBase.Proofs.Symbol.History
import SchemeBase.Proofs.Symbol.Room
import SchemeBase.Proofs.Value.Eqv
import SchemeBase.Proofs.Value.Equal
import SchemeBase.Proofs.Store.Reachable
import SchemeBase.Proofs.Store.Definition
import SchemeBase.Proofs.Store.Lookup
import SchemeBase.Proofs.Store.Growth
import SchemeBase.Proofs.Store.Shadowing
import SchemeBase.Proofs.Store.Outward
import SchemeBase.Proofs.Store.Capture
import SchemeBase.Proofs.Store.Ownership
import SchemeBase.Proofs.Store.Handles
import SchemeBase.Proofs.Bootstrap.Staging
import SchemeBase.Proofs.Bootstrap.Refusal
import SchemeBase.Proofs.Bootstrap.Reachable
import SchemeBase.Proofs.Bootstrap.Order
import SchemeBase.Proofs.Bootstrap.Selection
import SchemeBase.Proofs.Bootstrap.Sequence
import SchemeBase.Proofs.Bootstrap.Effect
import SchemeBase.Proofs.Apply.Nesting
import SchemeBase.Proofs.Apply.Termination
import SchemeBase.Proofs.Apply.Gate
import SchemeBase.Proofs.Store.Tags
import SchemeBase.Proofs.Apply.Answers
import SchemeBase.Proofs.Apply.Trace
import SchemeBase.Proofs.Apply.Rows
import SchemeBase.Proofs.Apply.Spread
import SchemeBase.Proofs.Apply.Conversion
import SchemeBase.Proofs.Apply.Growth
import SchemeBase.Proofs.Apply.Spelling
import SchemeBase.Proofs.Apply.Positional
import SchemeBase.Proofs.Apply.InRange
import SchemeBase.Proofs.Value.Written
import SchemeBase.Proofs.Value.Notation
import SchemeBase.Proofs.Value.Unambiguous
import SchemeBase.Proofs.Text.Length
import SchemeBase.Proofs.Text.Name
import SchemeBase.Proofs.Apply.Comparison
import SchemeBase.Proofs.Apply.Condition
import SchemeBase.Proofs.Value.Printing
import SchemeBase.Proofs.Apply.Report
import SchemeBase.Proofs.Symbol.Capacity
import SchemeBase.Proofs.Library.Install
import SchemeBase.Proofs.Apply.ArityReport
import SchemeBase.Proofs.Apply.Course
import SchemeBase.Proofs.Apply.Identity
import SchemeBase.Proofs.Apply.CharCode
import SchemeBase.Proofs.Value.Spine
import SchemeBase.Proofs.Value.ListNotation
import SchemeBase.Proofs.Apply.ListArgument
import SchemeBase.Proofs.Symbol.Shard
import SchemeBase.Proofs.Symbol.Layout
import SchemeBase.Proofs.Bootstrap.Verdict
