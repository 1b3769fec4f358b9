import TemplateQuery.Main
import TemplateQuery.Proofs.Selector.Reread
import TemplateQuery.Proofs.Selector.Rebuild
import TemplateQuery.Proofs.Selector.Spelling
import TemplateQuery.Proofs.Selector.Accepted
import TemplateQuery.Proofs.Selector.Backslash
import TemplateQuery.Proofs.Selector.RoundTrip
import TemplateQuery.Proofs.Selector.Grammar
import TemplateQuery.Proofs.Selector.Reading
import TemplateQuery.Proofs.Template.Coherence
import TemplateQuery.Proofs.Node.Preorder
import TemplateQuery.Proofs.Analysis.AttributeQuery
import TemplateQuery.Proofs.Files.Resolve
import TemplateQuery.Proofs.Command.Run
import TemplateQuery.Proofs.Json.Record
import TemplateQuery.Proofs.Schema.Settled
import TemplateQuery.Proofs.Source.RoundTrip
import TemplateQuery.Proofs.Expr.RoundTrip
import TemplateQuery.Proofs.Node.Binding
import TemplateQuery.Proofs.Node.Record
import TemplateQuery.Proofs.Node.RoundTrip
import TemplateQuery.Proofs.Analysis.RoundTrip
import TemplateQuery.Proofs.Document.RoundTrip
import TemplateQuery.Proofs.Selector.Pieces
import TemplateQuery.Proofs.Selector.Case
import TemplateQuery.Proofs.Analysis.Summary
import TemplateQuery.Proofs.Node.EmptyBranch
import TemplateQuery.Proofs.Analysis.EmptyBranch
import TemplateQuery.Proofs.Document.Position
import TemplateQuery.Proofs.Expr.Written
import TemplateQuery.Proofs.Expr.Places
import TemplateQuery.Proofs.Expr.Data
import TemplateQuery.Proofs.Selector.Folded
import TemplateQuery.Proofs.Selector.Negation
import TemplateQuery.Proofs.Analysis.Replacement
import TemplateQuery.Proofs.Expr.Subexpression
import TemplateQuery.Proofs.Files.Order
import TemplateQuery.Proofs.Files.Reached
import TemplateQuery.Proofs.Expr.StringLiteral
import TemplateQuery.Proofs.Analysis.Handler
import TemplateQuery.Proofs.Schema.Step
import TemplateQuery.Proofs.Document.Nesting
import TemplateQuery.Proofs.Document.Value
import TemplateQuery.Proofs.Schema.Held
import TemplateQuery.Proofs.Document.Edit
import TemplateQuery.Proofs.Document.Text
import TemplateQuery.Proofs.Schema.Replace
