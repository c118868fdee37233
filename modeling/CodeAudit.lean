import CodeAudit.Execution.Service
import CodeAudit.Main
import CodeAudit.Proofs.Analysis.Comments
import CodeAudit.Proofs.Analysis.Consistency
import CodeAudit.Proofs.Analysis.Course
import CodeAudit.Proofs.Analysis.EndlessLoop
import CodeAudit.Proofs.Analysis.Gate
import CodeAudit.Proofs.Analysis.Isolation
import CodeAudit.Proofs.Analysis.Reporting
import CodeAudit.Proofs.Analysis.WrappedLoop
import CodeAudit.Proofs.CommandLine.Status
import CodeAudit.Proofs.Execution.CaseLines
import CodeAudit.Proofs.Execution.CaseSource
import CodeAudit.Proofs.Execution.Confinement
import CodeAudit.Proofs.Execution.Expectation
import CodeAudit.Proofs.Execution.Failure
import CodeAudit.Proofs.Execution.Killed
import CodeAudit.Proofs.Execution.Limits
import CodeAudit.Proofs.Execution.Literal
import CodeAudit.Proofs.Execution.Marks
import CodeAudit.Proofs.Execution.Series
import CodeAudit.Proofs.Execution.Service
import CodeAudit.Proofs.Execution.Verdict
import CodeAudit.Proofs.Execution.WrittenTraceback
import CodeAudit.Proofs.Finding.Advice
import CodeAudit.Proofs.Finding.Arrival
import CodeAudit.Proofs.Finding.Ranking
import CodeAudit.Proofs.Finding.Rate
import CodeAudit.Proofs.Numeric.Digits
import CodeAudit.Proofs.Numeric.Order
import CodeAudit.Proofs.Regex.Ends
import CodeAudit.Proofs.Regex.Groups
import CodeAudit.Proofs.Regex.Spelling
import CodeAudit.Proofs.Rule.AssignedNames
import CodeAudit.Proofs.Rule.Comments
import CodeAudit.Proofs.Rule.Contradiction
import CodeAudit.Proofs.Rule.Independence
import CodeAudit.Proofs.Rule.LargeLiteral
import CodeAudit.Proofs.Rule.LargeRange
import CodeAudit.Proofs.Rule.LaterNames
import CodeAudit.Proofs.Rule.Literal
import CodeAudit.Proofs.Rule.MixedSums
import CodeAudit.Proofs.Rule.Numbers
import CodeAudit.Proofs.Rule.Pieces
import CodeAudit.Proofs.Rule.Places
import CodeAudit.Proofs.Rule.RepeatedLines
import CodeAudit.Proofs.Rule.Scan
import CodeAudit.Proofs.Rule.StraightLine
import CodeAudit.Proofs.Safety.AllowedImports
import CodeAudit.Proofs.Safety.Masking
import CodeAudit.Proofs.Safety.Prepending
import CodeAudit.Proofs.Settings.Usable
import CodeAudit.Proofs.Source.Brackets
import CodeAudit.Proofs.Source.Condition
import CodeAudit.Proofs.Source.Mask
import CodeAudit.Proofs.Source.NestedLiteral
import CodeAudit.Proofs.Source.Parameters
import CodeAudit.Proofs.Source.Remask
import CodeAudit.Proofs.Structure.Concatenation
import CodeAudit.Proofs.Structure.Nesting
import CodeAudit.Proofs.Text.Classes
