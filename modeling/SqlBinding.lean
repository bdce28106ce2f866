import SqlBinding.Text.Character
import SqlBinding.Text.Lowercase
import SqlBinding.Text.Decimal
import SqlBinding.Param
import SqlBinding.ParamMap
import SqlBinding.Column
import SqlBinding.Syntax.Render
import SqlBinding.Syntax.Placeholders
import SqlBinding.Analysis
import SqlBinding.Syntax.Forms
import SqlBinding.Sql.Lexer
import SqlBinding.Sql.DataType
import SqlBinding.Sql.Expression
import SqlBinding.TextAnalysis
import SqlBinding.Sql.Call
import SqlBinding.Proofs.Accounting
import SqlBinding.Proofs.Lexical
import SqlBinding.Proofs.Traversal
import SqlBinding.Proofs.Alike
import SqlBinding.Proofs.Steps
import SqlBinding.Proofs.Run
import SqlBinding.Proofs.Grammar
import SqlBinding.Proofs.Failure
import SqlBinding.Proofs.Erasure
import SqlBinding.Proofs.Rewriting
import SqlBinding.Proofs.RewritingSteps
import SqlBinding.Proofs.Renaming
import SqlBinding.Proofs.Leaves
import SqlBinding.Proofs.EntryOrder
import SqlBinding.Proofs.Closed
import SqlBinding.Proofs.FromItems
import SqlBinding.Proofs.Param
import SqlBinding.Proofs.Renumbering
import SqlBinding.Proofs.WhereClause
import SqlBinding.Proofs.Parentheses
import SqlBinding.Proofs.Spelling
import SqlBinding.Proofs.LastBinding
import SqlBinding.Proofs.LeafOrder
import SqlBinding.Proofs.Placement
import SqlBinding.Proofs.Assignments
import SqlBinding.Proofs.Trace
import SqlBinding.Proofs.Layout
import SqlBinding.Proofs.Merging
import SqlBinding.Proofs.AccessChain
import SqlBinding.Proofs.Cursor
import SqlBinding.Proofs.ParamText
