import TemplateQuery.Files.Resolve
import TemplateQuery.Selector.Codec
import TemplateQuery.Template

namespace TemplateQuery

open Json

inductive Report where
  | elements (selector : String)
  | bindings
  | handlers
  | interpolations
  | controlFlow
  | dependencies (legacy : Bool)
  | errors
deriving DecidableEq

structure Finding where
  output : Json
  failed : Bool := false

namespace Report

def elementToJson (e : Element) : Json :=
  .object [
    ("name", .string e.name),
    ("attributes", attributesToJson (e.attributes.map fun a => (a.name, a.value))),
    ("source_span", e.sourceSpan.toJson)]

def interpolationToJson (t : BoundText) : Json :=
  .object [("text", .string t.value.text), ("source_span", t.sourceSpan.toJson)]

def finding (report : Report) (a : Analysis) : Except InvalidSelector Finding :=
  match report with
  | .elements selector =>
    match a.findElements selector with
    | .error e => .error ⟨selector, e⟩
    | .ok es => .ok { output := list elementToJson es }
  | .bindings => .ok { output := list PropertyBinding.toJson a.propertyBindings }
  | .handlers => .ok { output := list EventHandler.toJson a.eventHandlers }
  | .interpolations => .ok { output := list interpolationToJson a.findInterpolations }
  | .controlFlow =>
    .ok { output := list ControlFlowExpression.toJson a.controlFlowExpressions }
  | .dependencies true => .ok { output := namesToJson a.bindingDependencies }
  | .dependencies false => .ok { output := namesToJson a.referencedIdentifiers }
  | .errors =>
    let problems := a.validateBindings
    .ok { output := list Problem.toJson problems, failed := problems.any (·.isError) }

def findings (report : Report) : List Template → Except Failure (List Finding)
  | [] => .ok []
  | t :: rest =>
    match report.finding t.analysis.1 with
    | .error e => .error (.analysis t.path e)
    | .ok f => (findings report rest).map (f :: ·)

end Report

end TemplateQuery
