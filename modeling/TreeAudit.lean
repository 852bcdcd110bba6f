import TreeAudit.Main
import TreeAudit.Proofs.Engine.Faults
import TreeAudit.Proofs.Engine.Insertion
import TreeAudit.Proofs.Engine.Setup
import TreeAudit.Proofs.Metric.Calls
import TreeAudit.Proofs.Metric.Complexity
import TreeAudit.Proofs.Metric.Options
import TreeAudit.Proofs.Metric.Ownership
import TreeAudit.Proofs.Metric.Statements
import TreeAudit.Proofs.Query.Arguments
import TreeAudit.Proofs.Query.AttributeSteps
import TreeAudit.Proofs.Query.AxisOrder
import TreeAudit.Proofs.Query.Blame
import TreeAudit.Proofs.Query.CountedSteps
import TreeAudit.Proofs.Query.Literals
import TreeAudit.Proofs.Query.Mistakes
import TreeAudit.Proofs.Query.PathSplit
import TreeAudit.Proofs.Query.PositionTests
import TreeAudit.Proofs.Query.RoundTrip
import TreeAudit.Proofs.Query.Segments
import TreeAudit.Proofs.Query.TruthTests
import TreeAudit.Proofs.Report.Document
import TreeAudit.Proofs.Report.Lines
import TreeAudit.Proofs.Report.Log
import TreeAudit.Proofs.Rule.Messages
import TreeAudit.Proofs.Tree.Balance
import TreeAudit.Proofs.Scope.Nesting
import TreeAudit.Proofs.Scope.Package
import TreeAudit.Proofs.Metric.Assertions
import TreeAudit.Proofs.Tree.Replaying
import TreeAudit.Proofs.Tree.Walking
import TreeAudit.Proofs.Query.Progress
import TreeAudit.Proofs.Report.Likeness
