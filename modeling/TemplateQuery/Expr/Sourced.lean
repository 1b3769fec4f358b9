import TemplateQuery.Expr.Codec
import TemplateQuery.Expr.Printer
import TemplateQuery.Text.CharSet

namespace TemplateQuery

open Json Schema

structure SourcedExpr where
  expr : Expr := default
  source : Option String := none
  location : String := ""
  absoluteOffset : Nat := 0
  diagnostics : List Diagnostic := []
deriving Inhabited

namespace SourcedExpr

def text (e : SourcedExpr) : String :=
  match e.source with
  | some s => Text.trim s
  | none => e.expr.text

def toJson (e : SourcedExpr) : Json :=
  .object [
    ("ast", e.expr.toJson),
    ("source", nullable .string e.source),
    ("location", .string e.location),
    ("absolute_offset", .nat e.absoluteOffset),
    ("errors", list Diagnostic.toJson e.diagnostics)]

def ofJson? (j : Json) : Option SourcedExpr := do
  let r ← RecordKind.sourcedExpr.read? j
  let expr ← r.required "ast" Expr.ofJson?
  let source ← r.nullable "source" string?
  let location ← r.optional "location" string? ""
  let absoluteOffset ← r.optional "absolute_offset" nat? 0
  let diagnostics ← r.optional "errors" (list? Diagnostic.ofJson?) []
  some { expr, source, location, absoluteOffset, diagnostics }

def ofValue? : Json → Option SourcedExpr :=
  Schema.ofValue? (.record .sourcedExpr) ofJson?

end SourcedExpr

end TemplateQuery
