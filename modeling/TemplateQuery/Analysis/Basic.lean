import TemplateQuery.Analysis.Record
import TemplateQuery.Node.Walk
import TemplateQuery.Selector.Match
import TemplateQuery.Selector.Parser

namespace TemplateQuery

open Json

structure Config where
  includeEmptyBranches : Bool := false
deriving DecidableEq, Inhabited

namespace Config

def toJson (c : Config) : Json :=
  .object [("includeEmptyBranches", .bool c.includeEmptyBranches)]

def ofJson? (j : Json) : Option Config := do
  let r ← record? ["includeEmptyBranches"] j
  let includeEmptyBranches ← r.optional "includeEmptyBranches" bool? false
  some { includeEmptyBranches }

end Config

def Element.record (e : Element) : ElementRecord where
  tagName := some e.name
  classes := ((e.attribute? "class").map Text.splitWords).getD []
  attributes := e.attributes.map (fun a => (a.name, a.value)) ++
    e.inputs.map fun b => (b.name, if b.value.expr.isLiteral then b.value.text else "")

namespace Visit

def expressions : Visit → List SourcedExpr
  | .node (.element e) => e.inputs.map (·.value) ++ e.outputs.map (·.handler)
  | .node (.boundText t) => [t.value]
  | _ => []

def bindingTexts : Visit → List String
  | .node (.element e) => e.inputs.map (·.name) ++ e.outputs.map (·.handler.text)
  | .node (.boundText t) => [t.value.text]
  | _ => []

def controlFlow? : Visit → Option ControlFlowExpression
  | .node (.ifBlock n) =>
    (n.branches.head?.bind (·.expression)).map fun e =>
      .ofExpr .ifCondition e n.block.sourceSpan
  | .node (.forBlock n) => some (.ofExpr .forCollection n.expression n.block.sourceSpan)
  | .node (.switchBlock n) => some (.ofExpr .switchValue n.expression n.block.sourceSpan)
  | .switchCase c => c.expression.map fun e => .ofExpr .caseValue e c.block.sourceSpan
  | _ => none

end Visit

structure Analysis where
  nodes : List Node
  diagnostics : List Diagnostic
  config : Config := {}

namespace Analysis

def visits (a : Analysis) : List Visit :=
  walk a.config.includeEmptyBranches a.nodes

def elements (a : Analysis) : List Element :=
  a.visits.filterMap Visit.element?

def findElements (a : Analysis) (selector : String) : Except SelectorError (List Element) :=
  (Selector.parse selector).map fun alternatives =>
    a.elements.filter fun e => Selector.someAccepts alternatives e.record

def findPropertyBindings (a : Analysis) (name : String) : List InputBinding :=
  (a.elements.flatMap (·.inputs)).filter (·.name = name)

def findEventBindings (a : Analysis) (name : String) : List OutputBinding :=
  (a.elements.flatMap (·.outputs)).filter (·.name = name)

def findInterpolations (a : Analysis) : List BoundText :=
  a.visits.filterMap Visit.boundText?

def bindingDependencies (a : Analysis) : OrderedSet String :=
  .ofList (a.visits.flatMap Visit.bindingTexts)

def referencedIdentifiers (a : Analysis) : OrderedSet String :=
  .ofList (a.visits.flatMap fun v => v.expressions.flatMap (·.expr.dependencies.toList))

def propertyBindings (a : Analysis) : List PropertyBinding :=
  (a.elements.flatMap (·.inputs)).map .ofInput

def eventHandlers (a : Analysis) : List EventHandler :=
  (a.elements.flatMap (·.outputs)).map .ofOutput

def controlFlowExpressions (a : Analysis) : List ControlFlowExpression :=
  a.visits.filterMap Visit.controlFlow?

def problems (a : Analysis) : List Problem :=
  a.diagnostics.map .ofDiagnostic

def validateBindings (a : Analysis) : List Problem :=
  a.problems ++
    a.visits.flatMap fun v => v.expressions.flatMap fun e => e.diagnostics.map .ofDiagnostic

end Analysis

inductive Query where
  | findElements (selector : String)
  | findPropertyBindings (name : String)
  | findEventBindings (name : String)
  | findInterpolations
  | bindingDependencies
  | referencedIdentifiers
  | propertyBindings
  | eventHandlers
  | controlFlowExpressions
  | validateBindings
  | problems
deriving DecidableEq

inductive Answer where
  | elements (found : Except SelectorError (List Element))
  | inputs (bindings : List InputBinding)
  | outputs (bindings : List OutputBinding)
  | texts (found : List BoundText)
  | names (found : OrderedSet String)
  | properties (bindings : List PropertyBinding)
  | handlers (found : List EventHandler)
  | controlFlow (found : List ControlFlowExpression)
  | problems (found : List Problem)

def Analysis.answer (a : Analysis) : Query → Answer
  | .findElements selector => .elements (a.findElements selector)
  | .findPropertyBindings name => .inputs (a.findPropertyBindings name)
  | .findEventBindings name => .outputs (a.findEventBindings name)
  | .findInterpolations => .texts a.findInterpolations
  | .bindingDependencies => .names a.bindingDependencies
  | .referencedIdentifiers => .names a.referencedIdentifiers
  | .propertyBindings => .properties a.propertyBindings
  | .eventHandlers => .handlers a.eventHandlers
  | .controlFlowExpressions => .controlFlow a.controlFlowExpressions
  | .validateBindings => .problems a.validateBindings
  | .problems => .problems a.problems

end TemplateQuery
