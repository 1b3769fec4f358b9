import TemplateQuery.Json.Record
import TemplateQuery.Schema.Basic

namespace TemplateQuery.Schema

def required (name : String) (shape : Shape) : Field :=
  ⟨name, shape, .required⟩

def optional (name : String) (shape : Shape) : Field :=
  ⟨name, shape, .optional⟩

def nullable (name : String) (shape : Shape) : Field :=
  ⟨name, shape, .nullable⟩

def spanAt (name : String) : Field :=
  optional name (.record .span)

def nodeList (name : String) : Field :=
  optional name (.list (.union .node))

def sourcedAt (name : String) : Field :=
  optional name (.record .sourcedExpr)

def exprAt (name : String) : Field :=
  required name (.union .expr)

def exprList (name : String) : Field :=
  required name (.list (.union .expr))

def placed (fields : List Field) : List Field :=
  optional "span" (.record .extent) :: optional "source_span" (.record .absoluteExtent) :: fields

namespace RecordKind

def name : RecordKind → String
  | .document => "ParsedTemplate"
  | .diagnostic => "ParseError"
  | .span => "ParseSourceSpan"
  | .location => "ParseLocation"
  | .comment => "Comment"
  | .text => "Text"
  | .boundText => "BoundText"
  | .staticAttribute => "TextAttribute"
  | .inputBinding => "BoundAttribute"
  | .outputBinding => "BoundEvent"
  | .element => "Element"
  | .embedded => "Template"
  | .content => "Content"
  | .variable => "Variable"
  | .reference => "Reference"
  | .blockSpans => "BlockNode"
  | .ifBlock => "IfBlock"
  | .ifBranch => "IfBlockBranch"
  | .forBlock => "ForLoopBlock"
  | .emptyBranch => "ForLoopBlockEmpty"
  | .switchBlock => "SwitchBlock"
  | .switchCase => "SwitchBlockCase"
  | .deferBlock => "DeferredBlock"
  | .deferPlaceholder => "DeferredBlockPlaceholder"
  | .deferLoading => "DeferredBlockLoading"
  | .deferError => "DeferredBlockError"
  | .letDeclaration => "LetDeclaration"
  | .unknownBlock => "UnknownBlock"
  | .sourcedExpr => "ASTWithSource"
  | .extent => "ParseSpan"
  | .absoluteExtent => "AbsoluteSourceSpan"
  | .emptyExpr => "EmptyExpr"
  | .implicitReceiver => "ImplicitReceiver"
  | .thisReceiver => "ThisReceiver"
  | .chain => "Chain"
  | .conditional => "Conditional"
  | .propertyRead => "PropertyRead"
  | .safePropertyRead => "SafePropertyRead"
  | .keyedRead => "KeyedRead"
  | .safeKeyedRead => "SafeKeyedRead"
  | .bindingPipe => "BindingPipe"
  | .literalPrimitive => "LiteralPrimitive"
  | .literalArray => "LiteralArray"
  | .mapKey => "LiteralMapKey"
  | .literalMap => "LiteralMap"
  | .interpolation => "Interpolation"
  | .binary => "Binary"
  | .prefixNot => "PrefixNot"
  | .unary => "Unary"
  | .typeofExpression => "TypeofExpression"
  | .nonNullAssert => "NonNullAssert"
  | .call => "Call"
  | .safeCall => "SafeCall"
  | .propertyWrite => "PropertyWrite"
  | .keyedWrite => "KeyedWrite"
  | .parenthesized => "ParenthesizedExpression"
  | .templateLiteral => "TemplateLiteral"

def fields : RecordKind → List Field
  | .document => [nodeList "nodes", optional "errors" (.list (.record .diagnostic))]
  | .diagnostic => [
      required "span" (.record .span), required "msg" .string, optional "level" (.choice .level)]
  | .span => [
      required "start" (.record .location), required "end" (.record .location),
      nullable "details" .string]
  | .location => [required "offset" .index, required "line" .index, required "col" .index]
  | .comment => [optional "value" .string, spanAt "source_span"]
  | .text => [optional "value" .string, spanAt "source_span"]
  | .boundText => [sourcedAt "value", spanAt "source_span"]
  | .staticAttribute => [
      optional "name" .string, optional "value" .string, spanAt "source_span",
      nullable "key_span" (.record .span), nullable "value_span" (.record .span)]
  | .inputBinding => [
      optional "name" .string, optional "binding_type" (.choice .bindingType), sourcedAt "value",
      nullable "unit" .string, spanAt "source_span", spanAt "key_span",
      nullable "value_span" (.record .span)]
  | .outputBinding => [
      optional "name" .string, optional "event_type" (.choice .eventType), sourcedAt "handler",
      nullable "target" .string, nullable "phase" .string, spanAt "source_span",
      spanAt "handler_span", spanAt "key_span"]
  | .element => [
      optional "name" .string, optional "attributes" (.list (.record .staticAttribute)),
      optional "inputs" (.list (.record .inputBinding)),
      optional "outputs" (.list (.record .outputBinding)), nodeList "children",
      optional "references" (.list (.record .reference)), optional "is_self_closing" .bool,
      spanAt "source_span", spanAt "start_source_span", nullable "end_source_span" (.record .span)]
  | .embedded => [
      nullable "tag_name" .string, optional "attributes" (.list (.record .staticAttribute)),
      optional "inputs" (.list (.record .inputBinding)),
      optional "outputs" (.list (.record .outputBinding)),
      optional "template_attrs" (.list (.union .templateAttribute)), nodeList "children",
      optional "references" (.list (.record .reference)),
      optional "variables" (.list (.record .variable)), optional "is_self_closing" .bool,
      spanAt "source_span", spanAt "start_source_span", nullable "end_source_span" (.record .span)]
  | .content => [
      optional "selector" .string, optional "attributes" (.list (.record .staticAttribute)),
      nodeList "children", optional "is_self_closing" .bool, spanAt "source_span",
      spanAt "start_source_span", nullable "end_source_span" (.record .span)]
  | .variable => [
      optional "name" .string, optional "value" .string, spanAt "source_span", spanAt "key_span",
      nullable "value_span" (.record .span)]
  | .reference => [
      optional "name" .string, optional "value" .string, spanAt "source_span", spanAt "key_span",
      nullable "value_span" (.record .span)]
  | .blockSpans => [
      spanAt "name_span", spanAt "source_span", spanAt "start_source_span",
      nullable "end_source_span" (.record .span)]
  | .ifBlock => [
      optional "branches" (.list (.record .ifBranch)), optional "block" (.record .blockSpans)]
  | .ifBranch => [
      nullable "expression" (.record .sourcedExpr), nodeList "children",
      nullable "expression_alias" (.record .variable), optional "block" (.record .blockSpans)]
  | .forBlock => [
      optional "item" (.record .variable), sourcedAt "expression",
      nullable "track_by" (.record .sourcedExpr),
      optional "context_variables" (.list (.record .variable)), nodeList "children",
      nullable "empty" (.record .emptyBranch), optional "block" (.record .blockSpans),
      spanAt "main_block_span"]
  | .emptyBranch => [nodeList "children", optional "block" (.record .blockSpans)]
  | .switchBlock => [
      sourcedAt "expression", optional "cases" (.list (.record .switchCase)),
      optional "unknown_blocks" (.list (.record .unknownBlock)),
      optional "block" (.record .blockSpans)]
  | .switchCase => [
      nullable "expression" (.record .sourcedExpr), nodeList "children",
      optional "block" (.record .blockSpans)]
  | .deferBlock => [
      nodeList "children", nullable "placeholder" (.record .deferPlaceholder),
      nullable "loading" (.record .deferLoading), nullable "error" (.record .deferError),
      optional "block" (.record .blockSpans), spanAt "main_block_span"]
  | .deferPlaceholder => [
      nodeList "children", nullable "minimum_time" .time, optional "block" (.record .blockSpans)]
  | .deferLoading => [
      nodeList "children", nullable "after_time" .time, nullable "minimum_time" .time,
      optional "block" (.record .blockSpans)]
  | .deferError => [nodeList "children", optional "block" (.record .blockSpans)]
  | .letDeclaration => [
      optional "name" .string, sourcedAt "value", spanAt "source_span", spanAt "name_span",
      spanAt "value_span"]
  | .unknownBlock => [optional "name" .string, spanAt "source_span", spanAt "name_span"]
  | .sourcedExpr => [
      exprAt "ast", nullable "source" .string, optional "location" .string,
      optional "absolute_offset" .index, optional "errors" (.list (.record .diagnostic))]
  | .extent => [required "start" .index, required "end" .index]
  | .absoluteExtent => [required "start" .index, required "end" .index]
  | .emptyExpr => placed []
  | .implicitReceiver => placed []
  | .thisReceiver => placed []
  | .chain => placed [exprList "expressions"]
  | .conditional => placed [exprAt "condition", exprAt "true_exp", exprAt "false_exp"]
  | .propertyRead => placed [
      optional "name_span" (.record .absoluteExtent), exprAt "receiver", required "name" .string]
  | .safePropertyRead => placed [
      optional "name_span" (.record .absoluteExtent), exprAt "receiver", required "name" .string]
  | .keyedRead => placed [exprAt "receiver", exprAt "key"]
  | .safeKeyedRead => placed [exprAt "receiver", exprAt "key"]
  | .bindingPipe => placed [
      exprAt "exp", required "name" .string, optional "args" (.list (.union .expr))]
  | .literalPrimitive => placed [required "value" (.union .literal)]
  | .literalArray => placed [exprList "expressions"]
  | .mapKey => [required "key" .string, optional "quoted" .bool]
  | .literalMap => placed [required "keys" (.list (.record .mapKey)), exprList "values"]
  | .interpolation => placed [required "strings" (.list .string), exprList "expressions"]
  | .binary => placed [required "operation" .string, exprAt "left", exprAt "right"]
  | .prefixNot => placed [exprAt "expression"]
  | .unary => placed [required "operator" .string, exprAt "expr"]
  | .typeofExpression => placed [exprAt "expression"]
  | .nonNullAssert => placed [exprAt "expression"]
  | .call => placed [
      exprAt "receiver", optional "args" (.list (.union .expr)),
      optional "argument_span" (.record .absoluteExtent), optional "has_trailing_comma" .bool]
  | .safeCall => placed [
      exprAt "receiver", optional "args" (.list (.union .expr)),
      optional "argument_span" (.record .absoluteExtent), optional "has_trailing_comma" .bool]
  | .propertyWrite => placed [exprAt "receiver", required "name" .string, exprAt "value"]
  | .keyedWrite => placed [exprAt "receiver", exprAt "key", exprAt "value"]
  | .parenthesized => placed [exprAt "expression"]
  | .templateLiteral => placed [required "elements" (.list .string), exprList "expressions"]

def fieldNames (k : RecordKind) : List String :=
  k.fields.map (·.name)

def read? (k : RecordKind) (j : Json) : Option Json.Record :=
  Json.record? k.fieldNames j

end RecordKind

namespace UnionKind

def name : UnionKind → String
  | .node => "R3Node"
  | .expr => "AST"
  | .templateAttribute => "TemplateAttr"
  | .literal => "LiteralValue"

def keys : UnionKind → String × String
  | .node => ("type", "data")
  | .expr => ("type", "data")
  | .templateAttribute => ("type", "data")
  | .literal => ("literalType", "value")

def recordVariant (k : RecordKind) : Variant :=
  ⟨k.name, some (.record k)⟩

def nodeRecords : List RecordKind := [
  .comment, .text, .boundText, .element, .embedded, .content, .ifBlock, .forBlock, .switchBlock,
  .deferBlock, .letDeclaration, .unknownBlock]

def exprRecords : List RecordKind := [
  .emptyExpr, .implicitReceiver, .thisReceiver, .chain, .conditional, .propertyRead,
  .safePropertyRead, .keyedRead, .safeKeyedRead, .bindingPipe, .literalPrimitive, .literalArray,
  .literalMap, .interpolation, .binary, .prefixNot, .unary, .typeofExpression, .nonNullAssert,
  .call, .safeCall, .propertyWrite, .keyedWrite, .parenthesized, .templateLiteral]

def variants : UnionKind → List Variant
  | .node => nodeRecords.map recordVariant
  | .expr => exprRecords.map recordVariant
  | .templateAttribute => [
      ⟨"Bound", some (.record .inputBinding)⟩, ⟨"Text", some (.record .staticAttribute)⟩]
  | .literal => [
      ⟨"String", some .string⟩, ⟨"Number", some .number⟩, ⟨"Boolean", some .bool⟩,
      ⟨"Null", none⟩, ⟨"Undefined", none⟩]

def variantNames (k : UnionKind) : List String :=
  k.variants.map (·.name)

def content? (k : UnionKind) (variant : String) : Option Shape :=
  (k.variants.find? (·.name = variant)).bind (·.content)

def read? (k : UnionKind) (j : Json) : Option (String × Option Json) :=
  Json.tagged? k.keys.1 k.keys.2 j

def write (k : UnionKind) (variant : String) (content : Json) : Json :=
  .object [(k.keys.1, .string variant), (k.keys.2, content)]

def writeBare (k : UnionKind) (variant : String) : Json :=
  .object [(k.keys.1, .string variant)]

end UnionKind

def ChoiceKind.names : ChoiceKind → List String
  | .bindingType => ["Property", "Attribute", "Class", "Style", "TwoWay", "Animation"]
  | .eventType => ["Regular", "Animation", "TwoWay"]
  | .level => ["warning", "error"]

end TemplateQuery.Schema
