import FormulaSheet.Text.Class
import FormulaSheet.Text.Quoted
import FormulaSheet.Text.Case
import FormulaSheet.Text.Search
import FormulaSheet.Category
import FormulaSheet.Number.Integral
import FormulaSheet.Number.Shortest
import FormulaSheet.Number.Display
import FormulaSheet.Number.Read
import FormulaSheet.Number.Calculation
import FormulaSheet.Address.Range
import FormulaSheet.Formula.Expr
import FormulaSheet.Formula.Lexeme
import FormulaSheet.Formula.Parser
import FormulaSheet.Formula.References
import FormulaSheet.Formula.Scan
import FormulaSheet.Function.Builtin
import FormulaSheet.Evaluation.Evaluate
import FormulaSheet.Sheet.Engine
import FormulaSheet.Web.Fetch
import FormulaSheet.Proofs.Result
import FormulaSheet.Proofs.Scan.Contents
import FormulaSheet.Proofs.Scan.Pairs
import FormulaSheet.Proofs.Dependency.Step
import FormulaSheet.Proofs.Dependency.Search
import FormulaSheet.Proofs.Dependency.Cycle
import FormulaSheet.Proofs.Dependency.Acyclic
import FormulaSheet.Proofs.Dependency.Depth
import FormulaSheet.Proofs.Reading.Cells
import FormulaSheet.Proofs.Reading.Evaluation
import FormulaSheet.Proofs.Text.Character
import FormulaSheet.Proofs.Text.Capital
import FormulaSheet.Proofs.Text.Numeral
import FormulaSheet.Proofs.Address.Column
import FormulaSheet.Proofs.Address.RoundTrip
import FormulaSheet.Proofs.Address.Range
import FormulaSheet.Proofs.Number.Numeral
import FormulaSheet.Proofs.Lexeme.Spelling
import FormulaSheet.Proofs.Lexeme.Coverage
import FormulaSheet.Proofs.Lexeme.Layout
import FormulaSheet.Proofs.Grammar.Derivation
import FormulaSheet.Proofs.Grammar.Beginning
import FormulaSheet.Proofs.Grammar.Ahead
import FormulaSheet.Proofs.Grammar.Soundness
import FormulaSheet.Proofs.Grammar.Lookahead
import FormulaSheet.Proofs.Grammar.Completeness
import FormulaSheet.Proofs.Grammar.Occurrence
import FormulaSheet.Proofs.Scan.Formula
import FormulaSheet.Proofs.Evaluation.Relation
import FormulaSheet.Proofs.Evaluation.Spine
import FormulaSheet.Proofs.Evaluation.Splice
import FormulaSheet.Proofs.Evaluation.Quiet
import FormulaSheet.Proofs.Limit.Agreement
import FormulaSheet.Proofs.Limit.Parser
import FormulaSheet.Proofs.Limit.Engine
import FormulaSheet.Proofs.Dependency.Record
import FormulaSheet.Proofs.Dependency.Unlimited
import FormulaSheet.Proofs.Limit.Levels
import FormulaSheet.Proofs.Reading.OwnCell
import FormulaSheet.Proofs.Sheet.Reentry
import FormulaSheet.Proofs.Function.Ends
import FormulaSheet.Proofs.Function.Computation
import FormulaSheet.Proofs.Evaluation.Containment
import FormulaSheet.Proofs.Evaluation.Finiteness
import FormulaSheet.Proofs.Limit.Ranges
import FormulaSheet.Proofs.Sheet.Session
import FormulaSheet.Proofs.Sheet.Locality
import FormulaSheet.Proofs.Sheet.Order
import FormulaSheet.Proofs.Grammar.Readers
import FormulaSheet.Proofs.Grammar.FirstFault
import FormulaSheet.Proofs.Lexeme.Recasing
import FormulaSheet.Proofs.Scan.Recasing
import FormulaSheet.Proofs.Number.Bits
import FormulaSheet.Proofs.Number.Rounding
import FormulaSheet.Proofs.Number.Shortest
import FormulaSheet.Proofs.Number.RoundTrip
import FormulaSheet.Proofs.Evaluation.Fetching
import FormulaSheet.Proofs.Function.Replacement
import FormulaSheet.Proofs.Web.Redirects
import FormulaSheet.Proofs.Web.Outcome
import FormulaSheet.Proofs.Sheet.Workbook
import FormulaSheet.Proofs.Limit.Texts
