import TemplateQuery.Expr.Basic
import TemplateQuery.Schema.Settle

namespace TemplateQuery

open Json Schema

def Extent.toJson (e : Extent) : Json :=
  .object [("start", .nat e.start), ("end", .nat e.stop)]

def Extent.ofJson? (j : Json) : Option Extent := do
  let r ← RecordKind.extent.read? j
  let start ← r.required "start" nat?
  let stop ← r.required "end" nat?
  some { start, stop }

def Place.members (p : Place) : List (String × Json) :=
  [("span", p.span.toJson), ("source_span", p.sourceSpan.toJson)]

def Place.ofRecord? (r : Record) : Option Place := do
  let span ← r.optional "span" Extent.ofJson? {}
  let sourceSpan ← r.optional "source_span" Extent.ofJson? {}
  some { span, sourceSpan }

namespace Literal

def toJson : Literal → Json
  | .string s => UnionKind.literal.write "String" (.string s)
  | .number x => UnionKind.literal.write "Number" (.ofFloat x)
  | .bool b => UnionKind.literal.write "Boolean" (.bool b)
  | .null => UnionKind.literal.writeBare "Null"
  | .undefined => UnionKind.literal.writeBare "Undefined"

def isAbsent : Option Json → Bool
  | none => true
  | some .null => true
  | some _ => false

def ofJson? (j : Json) : Option Literal := do
  let (variant, content) ← UnionKind.literal.read? j
  match variant with
  | "String" => (content.bind string?).map .string
  | "Number" => (content.bind float?).map .number
  | "Boolean" => (content.bind bool?).map .bool
  | "Null" => if isAbsent content then some .null else none
  | "Undefined" => if isAbsent content then some .undefined else none
  | _ => none

def ofValue? : Json → Option Literal :=
  Schema.ofValue? (.union .literal) ofJson?

end Literal

namespace MapKey

def toJson (k : MapKey) : Json :=
  .object [("key", .string k.key), ("quoted", .bool k.quoted)]

def ofJson? (j : Json) : Option MapKey := do
  let r ← RecordKind.mapKey.read? j
  let key ← r.required "key" string?
  let quoted ← r.optional "quoted" bool? false
  some { key, quoted }

end MapKey

namespace Expr

def write (kind : RecordKind) (place : Place) (members : List (String × Json)) : Json :=
  UnionKind.expr.write kind.name (.object (place.members ++ members))

mutual

def toJson : Expr → Json
  | .emptyExpr p => write .emptyExpr p []
  | .implicitReceiver p => write .implicitReceiver p []
  | .thisReceiver p => write .thisReceiver p []
  | .chain p es => write .chain p [("expressions", .array (allToJson es))]
  | .conditional p c t f => write .conditional p [
      ("condition", toJson c), ("true_exp", toJson t), ("false_exp", toJson f)]
  | .propertyRead p n r name => write .propertyRead p [
      ("name_span", n.toJson), ("receiver", toJson r), ("name", .string name)]
  | .safePropertyRead p n r name => write .safePropertyRead p [
      ("name_span", n.toJson), ("receiver", toJson r), ("name", .string name)]
  | .keyedRead p r k => write .keyedRead p [("receiver", toJson r), ("key", toJson k)]
  | .safeKeyedRead p r k => write .safeKeyedRead p [("receiver", toJson r), ("key", toJson k)]
  | .bindingPipe p e name args => write .bindingPipe p [
      ("exp", toJson e), ("name", .string name), ("args", .array (allToJson args))]
  | .literalPrimitive p v => write .literalPrimitive p [("value", v.toJson)]
  | .literalArray p es => write .literalArray p [("expressions", .array (allToJson es))]
  | .literalMap p keys values => write .literalMap p [
      ("keys", list MapKey.toJson keys), ("values", .array (allToJson values))]
  | .interpolation p strings es => write .interpolation p [
      ("strings", list .string strings), ("expressions", .array (allToJson es))]
  | .binary p op l r => write .binary p [
      ("operation", .string op), ("left", toJson l), ("right", toJson r)]
  | .prefixNot p e => write .prefixNot p [("expression", toJson e)]
  | .unary p op e => write .unary p [("operator", .string op), ("expr", toJson e)]
  | .typeofExpression p e => write .typeofExpression p [("expression", toJson e)]
  | .nonNullAssert p e => write .nonNullAssert p [("expression", toJson e)]
  | .call p r args a comma => write .call p [
      ("receiver", toJson r), ("args", .array (allToJson args)), ("argument_span", a.toJson),
      ("has_trailing_comma", .bool comma)]
  | .safeCall p r args a comma => write .safeCall p [
      ("receiver", toJson r), ("args", .array (allToJson args)), ("argument_span", a.toJson),
      ("has_trailing_comma", .bool comma)]
  | .propertyWrite p r name v => write .propertyWrite p [
      ("receiver", toJson r), ("name", .string name), ("value", toJson v)]
  | .keyedWrite p r k v => write .keyedWrite p [
      ("receiver", toJson r), ("key", toJson k), ("value", toJson v)]
  | .parenthesized p e => write .parenthesized p [("expression", toJson e)]
  | .templateLiteral p elements es => write .templateLiteral p [
      ("elements", list .string elements), ("expressions", .array (allToJson es))]

def allToJson : List Expr → List Json
  | [] => []
  | e :: rest => toJson e :: allToJson rest

end

def ofRecord? (expr : Json → Option Expr) (kind : RecordKind) (r : Record) : Option Expr := do
  let p ← Place.ofRecord? r
  match kind with
  | .emptyExpr => some (.emptyExpr p)
  | .implicitReceiver => some (.implicitReceiver p)
  | .thisReceiver => some (.thisReceiver p)
  | .chain => do
    let es ← r.required "expressions" (list? expr)
    some (.chain p es)
  | .conditional => do
    let c ← r.required "condition" expr
    let t ← r.required "true_exp" expr
    let f ← r.required "false_exp" expr
    some (.conditional p c t f)
  | .propertyRead => do
    let n ← r.optional "name_span" Extent.ofJson? {}
    let receiver ← r.required "receiver" expr
    let name ← r.required "name" string?
    some (.propertyRead p n receiver name)
  | .safePropertyRead => do
    let n ← r.optional "name_span" Extent.ofJson? {}
    let receiver ← r.required "receiver" expr
    let name ← r.required "name" string?
    some (.safePropertyRead p n receiver name)
  | .keyedRead => do
    let receiver ← r.required "receiver" expr
    let key ← r.required "key" expr
    some (.keyedRead p receiver key)
  | .safeKeyedRead => do
    let receiver ← r.required "receiver" expr
    let key ← r.required "key" expr
    some (.safeKeyedRead p receiver key)
  | .bindingPipe => do
    let e ← r.required "exp" expr
    let name ← r.required "name" string?
    let args ← r.optional "args" (list? expr) []
    some (.bindingPipe p e name args)
  | .literalPrimitive => do
    let v ← r.required "value" Literal.ofJson?
    some (.literalPrimitive p v)
  | .literalArray => do
    let es ← r.required "expressions" (list? expr)
    some (.literalArray p es)
  | .literalMap => do
    let keys ← r.required "keys" (list? MapKey.ofJson?)
    let values ← r.required "values" (list? expr)
    some (.literalMap p keys values)
  | .interpolation => do
    let strings ← r.required "strings" (list? string?)
    let es ← r.required "expressions" (list? expr)
    some (.interpolation p strings es)
  | .binary => do
    let op ← r.required "operation" string?
    let left ← r.required "left" expr
    let right ← r.required "right" expr
    some (.binary p op left right)
  | .prefixNot => do
    let e ← r.required "expression" expr
    some (.prefixNot p e)
  | .unary => do
    let op ← r.required "operator" string?
    let e ← r.required "expr" expr
    some (.unary p op e)
  | .typeofExpression => do
    let e ← r.required "expression" expr
    some (.typeofExpression p e)
  | .nonNullAssert => do
    let e ← r.required "expression" expr
    some (.nonNullAssert p e)
  | .call => do
    let receiver ← r.required "receiver" expr
    let args ← r.optional "args" (list? expr) []
    let a ← r.optional "argument_span" Extent.ofJson? {}
    let comma ← r.optional "has_trailing_comma" bool? false
    some (.call p receiver args a comma)
  | .safeCall => do
    let receiver ← r.required "receiver" expr
    let args ← r.optional "args" (list? expr) []
    let a ← r.optional "argument_span" Extent.ofJson? {}
    let comma ← r.optional "has_trailing_comma" bool? false
    some (.safeCall p receiver args a comma)
  | .propertyWrite => do
    let receiver ← r.required "receiver" expr
    let name ← r.required "name" string?
    let value ← r.required "value" expr
    some (.propertyWrite p receiver name value)
  | .keyedWrite => do
    let receiver ← r.required "receiver" expr
    let key ← r.required "key" expr
    let value ← r.required "value" expr
    some (.keyedWrite p receiver key value)
  | .parenthesized => do
    let e ← r.required "expression" expr
    some (.parenthesized p e)
  | .templateLiteral => do
    let elements ← r.required "elements" (list? string?)
    let es ← r.required "expressions" (list? expr)
    some (.templateLiteral p elements es)
  | _ => none

def decode : Nat → Json → Option Expr
  | 0, _ => none
  | n + 1, j => do
    let (variant, content) ← UnionKind.expr.read? j
    let kind ← UnionKind.exprRecords.find? (·.name = variant)
    let r ← content.bind kind.read?
    ofRecord? (decode n) kind r

def ofJson? (j : Json) : Option Expr :=
  decode j.depth j

def ofValue? : Json → Option Expr :=
  Schema.ofValue? (.union .expr) ofJson?

end Expr

end TemplateQuery
