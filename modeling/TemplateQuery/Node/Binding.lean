import TemplateQuery.Expr.Sourced

namespace TemplateQuery

open Json Schema

inductive BindingType where
  | property
  | attribute
  | className
  | style
  | twoWay
  | animation
deriving DecidableEq, Inhabited

namespace BindingType

def name : BindingType → String
  | .property => "Property"
  | .attribute => "Attribute"
  | .className => "Class"
  | .style => "Style"
  | .twoWay => "TwoWay"
  | .animation => "Animation"

def toJson (t : BindingType) : Json :=
  .string t.name

def ofJson? (j : Json) : Option BindingType := do
  match ← variantName? j with
  | "Property" => some .property
  | "Attribute" => some .attribute
  | "Class" => some .className
  | "Style" => some .style
  | "TwoWay" => some .twoWay
  | "Animation" => some .animation
  | _ => none

end BindingType

inductive EventType where
  | regular
  | animation
  | twoWay
deriving DecidableEq, Inhabited

namespace EventType

def name : EventType → String
  | .regular => "Regular"
  | .animation => "Animation"
  | .twoWay => "TwoWay"

def toJson (t : EventType) : Json :=
  .string t.name

def ofJson? (j : Json) : Option EventType := do
  match ← variantName? j with
  | "Regular" => some .regular
  | "Animation" => some .animation
  | "TwoWay" => some .twoWay
  | _ => none

end EventType

structure StaticAttribute where
  name : String := ""
  value : String := ""
  sourceSpan : Span := {}
  keySpan : Option Span := none
  valueSpan : Option Span := none
deriving DecidableEq, Inhabited

namespace StaticAttribute

def toJson (a : StaticAttribute) : Json :=
  .object [
    ("name", .string a.name),
    ("value", .string a.value),
    ("source_span", a.sourceSpan.toJson),
    ("key_span", nullable Span.toJson a.keySpan),
    ("value_span", nullable Span.toJson a.valueSpan)]

def ofJson? (j : Json) : Option StaticAttribute := do
  let r ← RecordKind.staticAttribute.read? j
  let name ← r.optional "name" string? ""
  let value ← r.optional "value" string? ""
  let sourceSpan ← r.optional "source_span" Span.ofJson? {}
  let keySpan ← r.nullable "key_span" Span.ofJson?
  let valueSpan ← r.nullable "value_span" Span.ofJson?
  some { name, value, sourceSpan, keySpan, valueSpan }

end StaticAttribute

structure InputBinding where
  name : String := ""
  bindingType : BindingType := .property
  value : SourcedExpr := {}
  unit : Option String := none
  sourceSpan : Span := {}
  keySpan : Span := {}
  valueSpan : Option Span := none
deriving Inhabited

namespace InputBinding

def toJson (b : InputBinding) : Json :=
  .object [
    ("name", .string b.name),
    ("binding_type", b.bindingType.toJson),
    ("value", b.value.toJson),
    ("unit", nullable .string b.unit),
    ("source_span", b.sourceSpan.toJson),
    ("key_span", b.keySpan.toJson),
    ("value_span", nullable Span.toJson b.valueSpan)]

def ofJson? (j : Json) : Option InputBinding := do
  let r ← RecordKind.inputBinding.read? j
  let name ← r.optional "name" string? ""
  let bindingType ← r.optional "binding_type" BindingType.ofJson? .property
  let value ← r.optional "value" SourcedExpr.ofJson? {}
  let unit ← r.nullable "unit" string?
  let sourceSpan ← r.optional "source_span" Span.ofJson? {}
  let keySpan ← r.optional "key_span" Span.ofJson? {}
  let valueSpan ← r.nullable "value_span" Span.ofJson?
  some { name, bindingType, value, unit, sourceSpan, keySpan, valueSpan }

end InputBinding

structure OutputBinding where
  name : String := ""
  eventType : EventType := .regular
  handler : SourcedExpr := {}
  target : Option String := none
  phase : Option String := none
  sourceSpan : Span := {}
  handlerSpan : Span := {}
  keySpan : Span := {}
deriving Inhabited

namespace OutputBinding

def toJson (b : OutputBinding) : Json :=
  .object [
    ("name", .string b.name),
    ("event_type", b.eventType.toJson),
    ("handler", b.handler.toJson),
    ("target", nullable .string b.target),
    ("phase", nullable .string b.phase),
    ("source_span", b.sourceSpan.toJson),
    ("handler_span", b.handlerSpan.toJson),
    ("key_span", b.keySpan.toJson)]

def ofJson? (j : Json) : Option OutputBinding := do
  let r ← RecordKind.outputBinding.read? j
  let name ← r.optional "name" string? ""
  let eventType ← r.optional "event_type" EventType.ofJson? .regular
  let handler ← r.optional "handler" SourcedExpr.ofJson? {}
  let target ← r.nullable "target" string?
  let phase ← r.nullable "phase" string?
  let sourceSpan ← r.optional "source_span" Span.ofJson? {}
  let handlerSpan ← r.optional "handler_span" Span.ofJson? {}
  let keySpan ← r.optional "key_span" Span.ofJson? {}
  some { name, eventType, handler, target, phase, sourceSpan, handlerSpan, keySpan }

end OutputBinding

inductive TemplateAttribute where
  | bound (b : InputBinding)
  | text (a : StaticAttribute)
deriving Inhabited

namespace TemplateAttribute

def toJson : TemplateAttribute → Json
  | .bound b => UnionKind.templateAttribute.write "Bound" b.toJson
  | .text a => UnionKind.templateAttribute.write "Text" a.toJson

def ofJson? (j : Json) : Option TemplateAttribute := do
  let (variant, content) ← UnionKind.templateAttribute.read? j
  match variant with
  | "Bound" => (content.bind InputBinding.ofJson?).map .bound
  | "Text" => (content.bind StaticAttribute.ofJson?).map .text
  | _ => none

end TemplateAttribute

structure Declaration where
  name : String := ""
  value : String := ""
  sourceSpan : Span := {}
  keySpan : Span := {}
  valueSpan : Option Span := none
deriving DecidableEq, Inhabited

namespace Declaration

def toJson (d : Declaration) : Json :=
  .object [
    ("name", .string d.name),
    ("value", .string d.value),
    ("source_span", d.sourceSpan.toJson),
    ("key_span", d.keySpan.toJson),
    ("value_span", nullable Span.toJson d.valueSpan)]

def ofJson? (j : Json) : Option Declaration := do
  let r ← RecordKind.variable.read? j
  let name ← r.optional "name" string? ""
  let value ← r.optional "value" string? ""
  let sourceSpan ← r.optional "source_span" Span.ofJson? {}
  let keySpan ← r.optional "key_span" Span.ofJson? {}
  let valueSpan ← r.nullable "value_span" Span.ofJson?
  some { name, value, sourceSpan, keySpan, valueSpan }

end Declaration

end TemplateQuery
