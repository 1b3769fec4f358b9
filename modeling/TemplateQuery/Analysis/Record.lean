import TemplateQuery.Document.Reader
import TemplateQuery.Expr.Walk
import TemplateQuery.OrderedSet

namespace TemplateQuery

open Json

def namesToJson (names : OrderedSet String) : Json :=
  list .string names.toList

def namesOfJson? (j : Json) : Option (OrderedSet String) :=
  (list? string? j).map .ofList

structure PropertyBinding where
  name : String
  rawValue : String
  isLiteral : Bool
  referencedProperties : OrderedSet String
  sourceSpan : Span

namespace PropertyBinding

def ofInput (b : InputBinding) : PropertyBinding where
  name := b.name
  rawValue := b.value.text
  isLiteral := b.value.expr.isLiteral
  referencedProperties := b.value.expr.dependencies
  sourceSpan := b.sourceSpan

def toJson (b : PropertyBinding) : Json :=
  .object [
    ("name", .string b.name),
    ("raw_value", .string b.rawValue),
    ("is_literal", .bool b.isLiteral),
    ("referenced_properties", namesToJson b.referencedProperties),
    ("source_span", b.sourceSpan.toJson)]

def ofJson? (j : Json) : Option PropertyBinding := do
  let r ← record? ["name", "raw_value", "is_literal", "referenced_properties", "source_span"] j
  let name ← r.required "name" string?
  let rawValue ← r.required "raw_value" string?
  let isLiteral ← r.required "is_literal" bool?
  let referencedProperties ← r.required "referenced_properties" namesOfJson?
  let sourceSpan ← r.required "source_span" Span.ofJson?
  some { name, rawValue, isLiteral, referencedProperties, sourceSpan }

end PropertyBinding

structure EventHandler where
  name : String
  arguments : List String
  fullText : String
  sourceSpan : Span
deriving DecidableEq, Inhabited

namespace EventHandler

def method : Expr → String × List String
  | .propertyRead _ _ _ name => (name, [])
  | .call _ (.propertyRead _ _ _ name) args _ _ => (name, args.map (·.text))
  | _ => ("", [])

def ofOutput (b : OutputBinding) : EventHandler where
  name := (method b.handler.expr).1
  arguments := (method b.handler.expr).2
  fullText := b.handler.text
  sourceSpan := b.sourceSpan

def toJson (h : EventHandler) : Json :=
  .object [
    ("name", .string h.name),
    ("arguments", list .string h.arguments),
    ("full_text", .string h.fullText),
    ("source_span", h.sourceSpan.toJson)]

def ofJson? (j : Json) : Option EventHandler := do
  let r ← record? ["name", "arguments", "full_text", "source_span"] j
  let name ← r.required "name" string?
  let arguments ← r.required "arguments" (list? string?)
  let fullText ← r.required "full_text" string?
  let sourceSpan ← r.required "source_span" Span.ofJson?
  some { name, arguments, fullText, sourceSpan }

end EventHandler

inductive ControlFlowKind where
  | ifCondition
  | forCollection
  | switchValue
  | caseValue
deriving DecidableEq, Inhabited

namespace ControlFlowKind

def name : ControlFlowKind → String
  | .ifCondition => "if"
  | .forCollection => "for"
  | .switchValue => "switch"
  | .caseValue => "case"

def ofJson? (j : Json) : Option ControlFlowKind := do
  match ← variantName? j with
  | "if" => some .ifCondition
  | "for" => some .forCollection
  | "switch" => some .switchValue
  | "case" => some .caseValue
  | _ => none

end ControlFlowKind

structure ControlFlowExpression where
  kind : ControlFlowKind
  expressionText : String
  referencedProperties : OrderedSet String
  sourceSpan : Span

namespace ControlFlowExpression

def ofExpr (kind : ControlFlowKind) (e : SourcedExpr) (span : Span) : ControlFlowExpression where
  kind := kind
  expressionText := e.text
  referencedProperties := e.expr.dependencies
  sourceSpan := span

def toJson (e : ControlFlowExpression) : Json :=
  .object [
    ("kind", .string e.kind.name),
    ("expression_text", .string e.expressionText),
    ("referenced_properties", namesToJson e.referencedProperties),
    ("source_span", e.sourceSpan.toJson)]

def ofJson? (j : Json) : Option ControlFlowExpression := do
  let r ← record? ["kind", "expression_text", "referenced_properties", "source_span"] j
  let kind ← r.required "kind" ControlFlowKind.ofJson?
  let expressionText ← r.required "expression_text" string?
  let referencedProperties ← r.required "referenced_properties" namesOfJson?
  let sourceSpan ← r.required "source_span" Span.ofJson?
  some { kind, expressionText, referencedProperties, sourceSpan }

end ControlFlowExpression

end TemplateQuery
