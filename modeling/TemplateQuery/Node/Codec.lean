import TemplateQuery.Node.Basic

namespace TemplateQuery

open Json Schema

namespace Comment

def toJson (n : Comment) : Json :=
  .object [("value", .string n.value), ("source_span", n.sourceSpan.toJson)]

def ofJson? (j : Json) : Option Comment := do
  let r ← RecordKind.comment.read? j
  let value ← r.optional "value" string? ""
  let sourceSpan ← r.optional "source_span" Span.ofJson? {}
  some { value, sourceSpan }

end Comment

namespace StaticText

def toJson (n : StaticText) : Json :=
  .object [("value", .string n.value), ("source_span", n.sourceSpan.toJson)]

def ofJson? (j : Json) : Option StaticText := do
  let r ← RecordKind.text.read? j
  let value ← r.optional "value" string? ""
  let sourceSpan ← r.optional "source_span" Span.ofJson? {}
  some { value, sourceSpan }

end StaticText

namespace BoundText

def toJson (n : BoundText) : Json :=
  .object [("value", n.value.toJson), ("source_span", n.sourceSpan.toJson)]

def ofJson? (j : Json) : Option BoundText := do
  let r ← RecordKind.boundText.read? j
  let value ← r.optional "value" SourcedExpr.ofJson? {}
  let sourceSpan ← r.optional "source_span" Span.ofJson? {}
  some { value, sourceSpan }

end BoundText

namespace LetDeclaration

def toJson (n : LetDeclaration) : Json :=
  .object [
    ("name", .string n.name),
    ("value", n.value.toJson),
    ("source_span", n.sourceSpan.toJson),
    ("name_span", n.nameSpan.toJson),
    ("value_span", n.valueSpan.toJson)]

def ofJson? (j : Json) : Option LetDeclaration := do
  let r ← RecordKind.letDeclaration.read? j
  let name ← r.optional "name" string? ""
  let value ← r.optional "value" SourcedExpr.ofJson? {}
  let sourceSpan ← r.optional "source_span" Span.ofJson? {}
  let nameSpan ← r.optional "name_span" Span.ofJson? {}
  let valueSpan ← r.optional "value_span" Span.ofJson? {}
  some { name, value, sourceSpan, nameSpan, valueSpan }

end LetDeclaration

namespace UnknownBlock

def toJson (n : UnknownBlock) : Json :=
  .object [
    ("name", .string n.name),
    ("source_span", n.sourceSpan.toJson),
    ("name_span", n.nameSpan.toJson)]

def ofJson? (j : Json) : Option UnknownBlock := do
  let r ← RecordKind.unknownBlock.read? j
  let name ← r.optional "name" string? ""
  let sourceSpan ← r.optional "source_span" Span.ofJson? {}
  let nameSpan ← r.optional "name_span" Span.ofJson? {}
  some { name, sourceSpan, nameSpan }

end UnknownBlock

namespace BlockSpans

def toJson (b : BlockSpans) : Json :=
  .object [
    ("name_span", b.nameSpan.toJson),
    ("source_span", b.sourceSpan.toJson),
    ("start_source_span", b.startSourceSpan.toJson),
    ("end_source_span", nullable Span.toJson b.endSourceSpan)]

def ofJson? (j : Json) : Option BlockSpans := do
  let r ← RecordKind.blockSpans.read? j
  let nameSpan ← r.optional "name_span" Span.ofJson? {}
  let sourceSpan ← r.optional "source_span" Span.ofJson? {}
  let startSourceSpan ← r.optional "start_source_span" Span.ofJson? {}
  let endSourceSpan ← r.nullable "end_source_span" Span.ofJson?
  some { nameSpan, sourceSpan, startSourceSpan, endSourceSpan }

end BlockSpans

def timeToJson (t : Int64) : Json :=
  .number (.int t.toInt)

mutual

def Node.toJson : Node → Json
  | .comment n => UnionKind.node.write RecordKind.comment.name n.toJson
  | .text n => UnionKind.node.write RecordKind.text.name n.toJson
  | .boundText n => UnionKind.node.write RecordKind.boundText.name n.toJson
  | .element n => UnionKind.node.write RecordKind.element.name (Element.toJson n)
  | .embedded n => UnionKind.node.write RecordKind.embedded.name (Embedded.toJson n)
  | .content n => UnionKind.node.write RecordKind.content.name (ContentSlot.toJson n)
  | .ifBlock n => UnionKind.node.write RecordKind.ifBlock.name (IfBlock.toJson n)
  | .forBlock n => UnionKind.node.write RecordKind.forBlock.name (ForBlock.toJson n)
  | .switchBlock n => UnionKind.node.write RecordKind.switchBlock.name (SwitchBlock.toJson n)
  | .deferBlock n => UnionKind.node.write RecordKind.deferBlock.name (DeferBlock.toJson n)
  | .letDeclaration n => UnionKind.node.write RecordKind.letDeclaration.name n.toJson
  | .unknownBlock n => UnionKind.node.write RecordKind.unknownBlock.name n.toJson

def Node.allToJson : List Node → List Json
  | [] => []
  | n :: rest => Node.toJson n :: Node.allToJson rest

def Element.toJson : Element → Json
  | ⟨name, attributes, inputs, outputs, children, references, isSelfClosing, sourceSpan,
      startSourceSpan, endSourceSpan⟩ => .object [
    ("name", .string name),
    ("attributes", list StaticAttribute.toJson attributes),
    ("inputs", list InputBinding.toJson inputs),
    ("outputs", list OutputBinding.toJson outputs),
    ("children", .array (Node.allToJson children)),
    ("references", list Declaration.toJson references),
    ("is_self_closing", .bool isSelfClosing),
    ("source_span", sourceSpan.toJson),
    ("start_source_span", startSourceSpan.toJson),
    ("end_source_span", nullable Span.toJson endSourceSpan)]

def Embedded.toJson : Embedded → Json
  | ⟨tagName, attributes, inputs, outputs, templateAttributes, children, references, variableDecls,
      isSelfClosing, sourceSpan, startSourceSpan, endSourceSpan⟩ => .object [
    ("tag_name", nullable .string tagName),
    ("attributes", list StaticAttribute.toJson attributes),
    ("inputs", list InputBinding.toJson inputs),
    ("outputs", list OutputBinding.toJson outputs),
    ("template_attrs", list TemplateAttribute.toJson templateAttributes),
    ("children", .array (Node.allToJson children)),
    ("references", list Declaration.toJson references),
    ("variables", list Declaration.toJson variableDecls),
    ("is_self_closing", .bool isSelfClosing),
    ("source_span", sourceSpan.toJson),
    ("start_source_span", startSourceSpan.toJson),
    ("end_source_span", nullable Span.toJson endSourceSpan)]

def ContentSlot.toJson : ContentSlot → Json
  | ⟨selector, attributes, children, isSelfClosing, sourceSpan, startSourceSpan,
      endSourceSpan⟩ => .object [
    ("selector", .string selector),
    ("attributes", list StaticAttribute.toJson attributes),
    ("children", .array (Node.allToJson children)),
    ("is_self_closing", .bool isSelfClosing),
    ("source_span", sourceSpan.toJson),
    ("start_source_span", startSourceSpan.toJson),
    ("end_source_span", nullable Span.toJson endSourceSpan)]

def IfBlock.toJson : IfBlock → Json
  | ⟨branches, block⟩ => .object [
    ("branches", .array (IfBranch.allToJson branches)),
    ("block", block.toJson)]

def IfBranch.toJson : IfBranch → Json
  | ⟨expression, children, expressionAlias, block⟩ => .object [
    ("expression", nullable SourcedExpr.toJson expression),
    ("children", .array (Node.allToJson children)),
    ("expression_alias", nullable Declaration.toJson expressionAlias),
    ("block", block.toJson)]

def IfBranch.allToJson : List IfBranch → List Json
  | [] => []
  | b :: rest => IfBranch.toJson b :: IfBranch.allToJson rest

def ForBlock.toJson : ForBlock → Json
  | ⟨item, expression, trackBy, contextVariables, children, empty, block,
      mainBlockSpan⟩ => .object [
    ("item", item.toJson),
    ("expression", expression.toJson),
    ("track_by", nullable SourcedExpr.toJson trackBy),
    ("context_variables", list Declaration.toJson contextVariables),
    ("children", .array (Node.allToJson children)),
    ("empty", EmptyBranch.optionToJson empty),
    ("block", block.toJson),
    ("main_block_span", mainBlockSpan.toJson)]

def EmptyBranch.toJson : EmptyBranch → Json
  | ⟨children, block⟩ => .object [
    ("children", .array (Node.allToJson children)),
    ("block", block.toJson)]

def EmptyBranch.optionToJson : Option EmptyBranch → Json
  | none => .null
  | some b => EmptyBranch.toJson b

def SwitchBlock.toJson : SwitchBlock → Json
  | ⟨expression, cases, unknownBlocks, block⟩ => .object [
    ("expression", expression.toJson),
    ("cases", .array (SwitchCase.allToJson cases)),
    ("unknown_blocks", list UnknownBlock.toJson unknownBlocks),
    ("block", block.toJson)]

def SwitchCase.toJson : SwitchCase → Json
  | ⟨expression, children, block⟩ => .object [
    ("expression", nullable SourcedExpr.toJson expression),
    ("children", .array (Node.allToJson children)),
    ("block", block.toJson)]

def SwitchCase.allToJson : List SwitchCase → List Json
  | [] => []
  | c :: rest => SwitchCase.toJson c :: SwitchCase.allToJson rest

def DeferBlock.toJson : DeferBlock → Json
  | ⟨children, placeholder, loading, error, block, mainBlockSpan⟩ => .object [
    ("children", .array (Node.allToJson children)),
    ("placeholder", DeferPlaceholder.optionToJson placeholder),
    ("loading", DeferLoading.optionToJson loading),
    ("error", DeferError.optionToJson error),
    ("block", block.toJson),
    ("main_block_span", mainBlockSpan.toJson)]

def DeferPlaceholder.toJson : DeferPlaceholder → Json
  | ⟨children, minimumTime, block⟩ => .object [
    ("children", .array (Node.allToJson children)),
    ("minimum_time", nullable timeToJson minimumTime),
    ("block", block.toJson)]

def DeferPlaceholder.optionToJson : Option DeferPlaceholder → Json
  | none => .null
  | some p => DeferPlaceholder.toJson p

def DeferLoading.toJson : DeferLoading → Json
  | ⟨children, afterTime, minimumTime, block⟩ => .object [
    ("children", .array (Node.allToJson children)),
    ("after_time", nullable timeToJson afterTime),
    ("minimum_time", nullable timeToJson minimumTime),
    ("block", block.toJson)]

def DeferLoading.optionToJson : Option DeferLoading → Json
  | none => .null
  | some l => DeferLoading.toJson l

def DeferError.toJson : DeferError → Json
  | ⟨children, block⟩ => .object [
    ("children", .array (Node.allToJson children)),
    ("block", block.toJson)]

def DeferError.optionToJson : Option DeferError → Json
  | none => .null
  | some e => DeferError.toJson e

end

def Element.read? (node : Json → Option Node) (j : Json) : Option Element := do
  let r ← RecordKind.element.read? j
  let name ← r.optional "name" string? ""
  let attributes ← r.optional "attributes" (list? StaticAttribute.ofJson?) []
  let inputs ← r.optional "inputs" (list? InputBinding.ofJson?) []
  let outputs ← r.optional "outputs" (list? OutputBinding.ofJson?) []
  let children ← r.optional "children" (list? node) []
  let references ← r.optional "references" (list? Declaration.ofJson?) []
  let isSelfClosing ← r.optional "is_self_closing" bool? false
  let sourceSpan ← r.optional "source_span" Span.ofJson? {}
  let startSourceSpan ← r.optional "start_source_span" Span.ofJson? {}
  let endSourceSpan ← r.nullable "end_source_span" Span.ofJson?
  some { name, attributes, inputs, outputs, children, references, isSelfClosing, sourceSpan,
         startSourceSpan, endSourceSpan }

def Embedded.read? (node : Json → Option Node) (j : Json) : Option Embedded := do
  let r ← RecordKind.embedded.read? j
  let tagName ← r.nullable "tag_name" string?
  let attributes ← r.optional "attributes" (list? StaticAttribute.ofJson?) []
  let inputs ← r.optional "inputs" (list? InputBinding.ofJson?) []
  let outputs ← r.optional "outputs" (list? OutputBinding.ofJson?) []
  let templateAttributes ← r.optional "template_attrs" (list? TemplateAttribute.ofJson?) []
  let children ← r.optional "children" (list? node) []
  let references ← r.optional "references" (list? Declaration.ofJson?) []
  let variableDecls ← r.optional "variables" (list? Declaration.ofJson?) []
  let isSelfClosing ← r.optional "is_self_closing" bool? false
  let sourceSpan ← r.optional "source_span" Span.ofJson? {}
  let startSourceSpan ← r.optional "start_source_span" Span.ofJson? {}
  let endSourceSpan ← r.nullable "end_source_span" Span.ofJson?
  some { tagName, attributes, inputs, outputs, templateAttributes, children, references,
         variableDecls, isSelfClosing, sourceSpan, startSourceSpan, endSourceSpan }

def ContentSlot.read? (node : Json → Option Node) (j : Json) : Option ContentSlot := do
  let r ← RecordKind.content.read? j
  let selector ← r.optional "selector" string? ""
  let attributes ← r.optional "attributes" (list? StaticAttribute.ofJson?) []
  let children ← r.optional "children" (list? node) []
  let isSelfClosing ← r.optional "is_self_closing" bool? false
  let sourceSpan ← r.optional "source_span" Span.ofJson? {}
  let startSourceSpan ← r.optional "start_source_span" Span.ofJson? {}
  let endSourceSpan ← r.nullable "end_source_span" Span.ofJson?
  some { selector, attributes, children, isSelfClosing, sourceSpan, startSourceSpan, endSourceSpan }

def IfBranch.read? (node : Json → Option Node) (j : Json) : Option IfBranch := do
  let r ← RecordKind.ifBranch.read? j
  let expression ← r.nullable "expression" SourcedExpr.ofJson?
  let children ← r.optional "children" (list? node) []
  let expressionAlias ← r.nullable "expression_alias" Declaration.ofJson?
  let block ← r.optional "block" BlockSpans.ofJson? {}
  some { expression, children, expressionAlias, block }

def IfBlock.read? (node : Json → Option Node) (j : Json) : Option IfBlock := do
  let r ← RecordKind.ifBlock.read? j
  let branches ← r.optional "branches" (list? (IfBranch.read? node)) []
  let block ← r.optional "block" BlockSpans.ofJson? {}
  some { branches, block }

def EmptyBranch.read? (node : Json → Option Node) (j : Json) : Option EmptyBranch := do
  let r ← RecordKind.emptyBranch.read? j
  let children ← r.optional "children" (list? node) []
  let block ← r.optional "block" BlockSpans.ofJson? {}
  some { children, block }

def ForBlock.read? (node : Json → Option Node) (j : Json) : Option ForBlock := do
  let r ← RecordKind.forBlock.read? j
  let item ← r.optional "item" Declaration.ofJson? {}
  let expression ← r.optional "expression" SourcedExpr.ofJson? {}
  let trackBy ← r.nullable "track_by" SourcedExpr.ofJson?
  let contextVariables ← r.optional "context_variables" (list? Declaration.ofJson?) []
  let children ← r.optional "children" (list? node) []
  let empty ← r.nullable "empty" (EmptyBranch.read? node)
  let block ← r.optional "block" BlockSpans.ofJson? {}
  let mainBlockSpan ← r.optional "main_block_span" Span.ofJson? {}
  some { item, expression, trackBy, contextVariables, children, empty, block, mainBlockSpan }

def SwitchCase.read? (node : Json → Option Node) (j : Json) : Option SwitchCase := do
  let r ← RecordKind.switchCase.read? j
  let expression ← r.nullable "expression" SourcedExpr.ofJson?
  let children ← r.optional "children" (list? node) []
  let block ← r.optional "block" BlockSpans.ofJson? {}
  some { expression, children, block }

def SwitchBlock.read? (node : Json → Option Node) (j : Json) : Option SwitchBlock := do
  let r ← RecordKind.switchBlock.read? j
  let expression ← r.optional "expression" SourcedExpr.ofJson? {}
  let cases ← r.optional "cases" (list? (SwitchCase.read? node)) []
  let unknownBlocks ← r.optional "unknown_blocks" (list? UnknownBlock.ofJson?) []
  let block ← r.optional "block" BlockSpans.ofJson? {}
  some { expression, cases, unknownBlocks, block }

def DeferPlaceholder.read? (node : Json → Option Node) (j : Json) : Option DeferPlaceholder := do
  let r ← RecordKind.deferPlaceholder.read? j
  let children ← r.optional "children" (list? node) []
  let minimumTime ← r.nullable "minimum_time" int64?
  let block ← r.optional "block" BlockSpans.ofJson? {}
  some { children, minimumTime, block }

def DeferLoading.read? (node : Json → Option Node) (j : Json) : Option DeferLoading := do
  let r ← RecordKind.deferLoading.read? j
  let children ← r.optional "children" (list? node) []
  let afterTime ← r.nullable "after_time" int64?
  let minimumTime ← r.nullable "minimum_time" int64?
  let block ← r.optional "block" BlockSpans.ofJson? {}
  some { children, afterTime, minimumTime, block }

def DeferError.read? (node : Json → Option Node) (j : Json) : Option DeferError := do
  let r ← RecordKind.deferError.read? j
  let children ← r.optional "children" (list? node) []
  let block ← r.optional "block" BlockSpans.ofJson? {}
  some { children, block }

def DeferBlock.read? (node : Json → Option Node) (j : Json) : Option DeferBlock := do
  let r ← RecordKind.deferBlock.read? j
  let children ← r.optional "children" (list? node) []
  let placeholder ← r.nullable "placeholder" (DeferPlaceholder.read? node)
  let loading ← r.nullable "loading" (DeferLoading.read? node)
  let error ← r.nullable "error" (DeferError.read? node)
  let block ← r.optional "block" BlockSpans.ofJson? {}
  let mainBlockSpan ← r.optional "main_block_span" Span.ofJson? {}
  some { children, placeholder, loading, error, block, mainBlockSpan }

namespace Node

def read? (node : Json → Option Node) (kind : RecordKind) (j : Json) : Option Node :=
  match kind with
  | .comment => (Comment.ofJson? j).map .comment
  | .text => (StaticText.ofJson? j).map .text
  | .boundText => (BoundText.ofJson? j).map .boundText
  | .element => (Element.read? node j).map .element
  | .embedded => (Embedded.read? node j).map .embedded
  | .content => (ContentSlot.read? node j).map .content
  | .ifBlock => (IfBlock.read? node j).map .ifBlock
  | .forBlock => (ForBlock.read? node j).map .forBlock
  | .switchBlock => (SwitchBlock.read? node j).map .switchBlock
  | .deferBlock => (DeferBlock.read? node j).map .deferBlock
  | .letDeclaration => (LetDeclaration.ofJson? j).map .letDeclaration
  | .unknownBlock => (UnknownBlock.ofJson? j).map .unknownBlock
  | _ => none

def decode : Nat → Json → Option Node
  | 0, _ => none
  | n + 1, j => do
    let (variant, held) ← UnionKind.node.read? j
    let kind ← UnionKind.nodeRecords.find? (·.name = variant)
    held.bind (read? (decode n) kind)

def ofJson? (j : Json) : Option Node :=
  decode j.depth j

def ofValue? : Json → Option Node :=
  Schema.ofValue? (.union .node) ofJson?

end Node

def Element.ofJson? (j : Json) : Option Element :=
  Element.read? Node.ofJson? j

def Element.ofValue? : Json → Option Element :=
  Schema.ofValue? (.record .element) ofJson?

end TemplateQuery
