import Mathlib.Tactic
import TemplateQuery.Node.Codec
import TemplateQuery.Proofs.Node.Binding

namespace TemplateQuery

open Json Schema

namespace Node

variable {node : Json → Option Node} {ns : List Node}

theorem allToJson_eq_map (ns : List Node) : allToJson ns = ns.map toJson := by
  induction ns with
  | nil => simp [allToJson]
  | cons n rest ih => rw [allToJson, ih, List.map_cons]

theorem settled_allToJson (h : ∀ n ∈ ns, Settled (.union .node) n.toJson) :
    Settled (.list (.union .node)) (.array (allToJson ns)) := by
  rw [allToJson_eq_map]
  exact .list h

theorem decodeAll_allToJson (h : ∀ n ∈ ns, node n.toJson = some n) :
    decodeAll node (allToJson ns) = some ns := by
  rw [allToJson_eq_map]
  exact decodeAll_map h

theorem depth_lt_of_children {members : List (String × Json)}
    (hm : ("children", .array (allToJson ns)) ∈ members) {n : Node} (hn : n ∈ ns) :
    n.toJson.depth < (Json.object members).depth := by
  have hi : n.toJson.depth < (Json.array (allToJson ns)).depth := by
    rw [allToJson_eq_map]
    exact depth_lt_array (List.mem_map_of_mem hn)
  exact hi.trans (depth_lt_object hm)

end Node

section Leaves

theorem Comment.settled (n : Comment) : Settled (.record .comment) n.toJson :=
  .record <| .cons (.value (.string n.value)) <| .cons (.value n.sourceSpan.settled) .nil

theorem Comment.ofJson?_toJson (n : Comment) : ofJson? n.toJson = some n := by
  simp [ofJson?, toJson]

theorem StaticText.settled (n : StaticText) : Settled (.record .text) n.toJson :=
  .record <| .cons (.value (.string n.value)) <| .cons (.value n.sourceSpan.settled) .nil

theorem StaticText.ofJson?_toJson (n : StaticText) : ofJson? n.toJson = some n := by
  simp [ofJson?, toJson]

theorem BoundText.settled {n : BoundText} (h : n.value.IsFinite) :
    Settled (.record .boundText) n.toJson :=
  .record <| .cons (.value (SourcedExpr.settled h)) <| .cons (.value n.sourceSpan.settled) .nil

theorem BoundText.ofJson?_toJson {n : BoundText} (h : n.value.IsFinite) :
    ofJson? n.toJson = some n := by
  simp [ofJson?, toJson, SourcedExpr.ofJson?_toJson h]

theorem LetDeclaration.settled {n : LetDeclaration} (h : n.value.IsFinite) :
    Settled (.record .letDeclaration) n.toJson :=
  .record <|
    .cons (.value (.string n.name)) <|
    .cons (.value (SourcedExpr.settled h)) <|
    .cons (.value n.sourceSpan.settled) <|
    .cons (.value n.nameSpan.settled) <|
    .cons (.value n.valueSpan.settled) .nil

theorem LetDeclaration.ofJson?_toJson {n : LetDeclaration} (h : n.value.IsFinite) :
    ofJson? n.toJson = some n := by
  simp [ofJson?, toJson, SourcedExpr.ofJson?_toJson h]

theorem UnknownBlock.settled (n : UnknownBlock) : Settled (.record .unknownBlock) n.toJson :=
  .record <|
    .cons (.value (.string n.name)) <|
    .cons (.value n.sourceSpan.settled) <|
    .cons (.value n.nameSpan.settled) .nil

theorem UnknownBlock.ofJson?_toJson (n : UnknownBlock) : ofJson? n.toJson = some n := by
  simp [ofJson?, toJson]

theorem BlockSpans.settled (b : BlockSpans) : Settled (.record .blockSpans) b.toJson :=
  .record <|
    .cons (.value b.nameSpan.settled) <|
    .cons (.value b.sourceSpan.settled) <|
    .cons (.value b.startSourceSpan.settled) <|
    .cons (.nullable rfl fun s _ => s.settled) .nil

@[simp] theorem BlockSpans.ofJson?_toJson (b : BlockSpans) : ofJson? b.toJson = some b := by
  simp [ofJson?, toJson]

end Leaves

theorem settled_time (t : Int64) : Settled .time (timeToJson t) :=
  .time ⟨t.le_toInt, t.toInt_lt⟩

@[simp] theorem int64?_time (t : Int64) : int64? (timeToJson t) = some t := by
  have hb : -(Number.signedBound : Int) ≤ t.toInt ∧ t.toInt < Number.signedBound :=
    ⟨t.le_toInt, t.toInt_lt⟩
  rw [timeToJson, int64?, if_pos hb, Int64.ofInt_toInt]

@[simp] theorem nullable?_time (o : Option Int64) :
    nullable? int64? (nullable timeToJson o) = some o :=
  nullable?_nullable (by simp [timeToJson]) fun t _ => int64?_time t

section Parts

variable {node : Json → Option Node}

namespace IfBranch

variable {b : IfBranch}

theorem settled (hs : ∀ e ∈ b.expression, e.IsFinite)
    (h : ∀ n ∈ b.children, Settled (.union .node) n.toJson) :
    Settled (.record .ifBranch) b.toJson := by
  obtain ⟨expression, children, expressionAlias, block⟩ := b
  rw [toJson]
  exact .record <|
    .cons (.nullable rfl fun e he => SourcedExpr.settled (hs e he)) <|
    .cons (.value (Node.settled_allToJson h)) <|
    .cons (.nullable rfl fun d _ => d.settled .variable rfl) <|
    .cons (.value block.settled) .nil

theorem read?_toJson (hs : ∀ e ∈ b.expression, e.IsFinite)
    (h : ∀ n ∈ b.children, node n.toJson = some n) : read? node b.toJson = some b := by
  obtain ⟨expression, children, expressionAlias, block⟩ := b
  have he : nullable? SourcedExpr.ofJson? (nullable SourcedExpr.toJson expression) =
      some expression := SourcedExpr.nullable?_toJson hs
  have hn : decodeAll node (Node.allToJson children) = some children :=
    Node.decodeAll_allToJson h
  rw [toJson]
  simp [read?, he, hn]

theorem allToJson_eq_map (bs : List IfBranch) : allToJson bs = bs.map toJson := by
  induction bs with
  | nil => simp [allToJson]
  | cons b rest ih => rw [allToJson, ih, List.map_cons]

theorem depth_lt {n : Node} (h : n ∈ b.children) : n.toJson.depth < b.toJson.depth := by
  cases b
  rw [toJson]
  exact Node.depth_lt_of_children (by simp) h

end IfBranch

namespace EmptyBranch

variable {b : EmptyBranch}

theorem settled (h : ∀ n ∈ b.children, Settled (.union .node) n.toJson) :
    Settled (.record .emptyBranch) b.toJson := by
  obtain ⟨children, block⟩ := b
  rw [toJson]
  exact .record <| .cons (.value (Node.settled_allToJson h)) <| .cons (.value block.settled) .nil

theorem read?_toJson (h : ∀ n ∈ b.children, node n.toJson = some n) :
    read? node b.toJson = some b := by
  obtain ⟨children, block⟩ := b
  have hn : decodeAll node (Node.allToJson children) = some children :=
    Node.decodeAll_allToJson h
  rw [toJson]
  simp [read?, hn]

theorem toJson_ne_null (b : EmptyBranch) : b.toJson ≠ .null := by
  cases b
  simp [toJson]

theorem optionToJson_eq (o : Option EmptyBranch) : optionToJson o = nullable toJson o := by
  cases o <;> rw [optionToJson, Json.nullable]

theorem depth_lt {n : Node} (h : n ∈ b.children) : n.toJson.depth < b.toJson.depth := by
  cases b
  rw [toJson]
  exact Node.depth_lt_of_children (by simp) h

end EmptyBranch

namespace SwitchCase

variable {c : SwitchCase}

theorem settled (hs : ∀ e ∈ c.expression, e.IsFinite)
    (h : ∀ n ∈ c.children, Settled (.union .node) n.toJson) :
    Settled (.record .switchCase) c.toJson := by
  obtain ⟨expression, children, block⟩ := c
  rw [toJson]
  exact .record <|
    .cons (.nullable rfl fun e he => SourcedExpr.settled (hs e he)) <|
    .cons (.value (Node.settled_allToJson h)) <|
    .cons (.value block.settled) .nil

theorem read?_toJson (hs : ∀ e ∈ c.expression, e.IsFinite)
    (h : ∀ n ∈ c.children, node n.toJson = some n) : read? node c.toJson = some c := by
  obtain ⟨expression, children, block⟩ := c
  have he : nullable? SourcedExpr.ofJson? (nullable SourcedExpr.toJson expression) =
      some expression := SourcedExpr.nullable?_toJson hs
  have hn : decodeAll node (Node.allToJson children) = some children :=
    Node.decodeAll_allToJson h
  rw [toJson]
  simp [read?, he, hn]

theorem allToJson_eq_map (cs : List SwitchCase) : allToJson cs = cs.map toJson := by
  induction cs with
  | nil => simp [allToJson]
  | cons c rest ih => rw [allToJson, ih, List.map_cons]

theorem depth_lt {n : Node} (h : n ∈ c.children) : n.toJson.depth < c.toJson.depth := by
  cases c
  rw [toJson]
  exact Node.depth_lt_of_children (by simp) h

end SwitchCase

namespace DeferPlaceholder

variable {p : DeferPlaceholder}

theorem settled (h : ∀ n ∈ p.children, Settled (.union .node) n.toJson) :
    Settled (.record .deferPlaceholder) p.toJson := by
  obtain ⟨children, minimumTime, block⟩ := p
  rw [toJson]
  exact .record <|
    .cons (.value (Node.settled_allToJson h)) <|
    .cons (.nullable rfl fun t _ => settled_time t) <|
    .cons (.value block.settled) .nil

theorem read?_toJson (h : ∀ n ∈ p.children, node n.toJson = some n) :
    read? node p.toJson = some p := by
  obtain ⟨children, minimumTime, block⟩ := p
  have hn : decodeAll node (Node.allToJson children) = some children :=
    Node.decodeAll_allToJson h
  rw [toJson]
  simp [read?, hn]

theorem toJson_ne_null (p : DeferPlaceholder) : p.toJson ≠ .null := by
  cases p
  simp [toJson]

theorem optionToJson_eq (o : Option DeferPlaceholder) : optionToJson o = nullable toJson o := by
  cases o <;> rw [optionToJson, Json.nullable]

theorem depth_lt {n : Node} (h : n ∈ p.children) : n.toJson.depth < p.toJson.depth := by
  cases p
  rw [toJson]
  exact Node.depth_lt_of_children (by simp) h

end DeferPlaceholder

namespace DeferLoading

variable {l : DeferLoading}

theorem settled (h : ∀ n ∈ l.children, Settled (.union .node) n.toJson) :
    Settled (.record .deferLoading) l.toJson := by
  obtain ⟨children, afterTime, minimumTime, block⟩ := l
  rw [toJson]
  exact .record <|
    .cons (.value (Node.settled_allToJson h)) <|
    .cons (.nullable rfl fun t _ => settled_time t) <|
    .cons (.nullable rfl fun t _ => settled_time t) <|
    .cons (.value block.settled) .nil

theorem read?_toJson (h : ∀ n ∈ l.children, node n.toJson = some n) :
    read? node l.toJson = some l := by
  obtain ⟨children, afterTime, minimumTime, block⟩ := l
  have hn : decodeAll node (Node.allToJson children) = some children :=
    Node.decodeAll_allToJson h
  rw [toJson]
  simp [read?, hn]

theorem toJson_ne_null (l : DeferLoading) : l.toJson ≠ .null := by
  cases l
  simp [toJson]

theorem optionToJson_eq (o : Option DeferLoading) : optionToJson o = nullable toJson o := by
  cases o <;> rw [optionToJson, Json.nullable]

theorem depth_lt {n : Node} (h : n ∈ l.children) : n.toJson.depth < l.toJson.depth := by
  cases l
  rw [toJson]
  exact Node.depth_lt_of_children (by simp) h

end DeferLoading

namespace DeferError

variable {e : DeferError}

theorem settled (h : ∀ n ∈ e.children, Settled (.union .node) n.toJson) :
    Settled (.record .deferError) e.toJson := by
  obtain ⟨children, block⟩ := e
  rw [toJson]
  exact .record <| .cons (.value (Node.settled_allToJson h)) <| .cons (.value block.settled) .nil

theorem read?_toJson (h : ∀ n ∈ e.children, node n.toJson = some n) :
    read? node e.toJson = some e := by
  obtain ⟨children, block⟩ := e
  have hn : decodeAll node (Node.allToJson children) = some children :=
    Node.decodeAll_allToJson h
  rw [toJson]
  simp [read?, hn]

theorem toJson_ne_null (e : DeferError) : e.toJson ≠ .null := by
  cases e
  simp [toJson]

theorem optionToJson_eq (o : Option DeferError) : optionToJson o = nullable toJson o := by
  cases o <;> rw [optionToJson, Json.nullable]

theorem depth_lt {n : Node} (h : n ∈ e.children) : n.toJson.depth < e.toJson.depth := by
  cases e
  rw [toJson]
  exact Node.depth_lt_of_children (by simp) h

end DeferError

end Parts

section Inner

variable {node : Json → Option Node}

namespace Element

variable {e : Element}

theorem settled (hi : ∀ b ∈ e.inputs, b.value.IsFinite)
    (ho : ∀ b ∈ e.outputs, b.handler.IsFinite)
    (h : ∀ n ∈ e.children, Settled (.union .node) n.toJson) :
    Settled (.record .element) e.toJson := by
  obtain ⟨name, attributes, inputs, outputs, children, references, isSelfClosing, sourceSpan,
    startSourceSpan, endSourceSpan⟩ := e
  rw [toJson]
  exact .record <|
    .cons (.value (.string name)) <|
    .cons (.value (.list fun a _ => a.settled)) <|
    .cons (.value (.list fun b hb => InputBinding.settled (hi b hb))) <|
    .cons (.value (.list fun b hb => OutputBinding.settled (ho b hb))) <|
    .cons (.value (Node.settled_allToJson h)) <|
    .cons (.value (.list fun d _ => d.settled .reference rfl)) <|
    .cons (.value (.bool isSelfClosing)) <|
    .cons (.value sourceSpan.settled) <|
    .cons (.value startSourceSpan.settled) <|
    .cons (.nullable rfl fun s _ => s.settled) .nil

theorem read?_toJson (hi : ∀ b ∈ e.inputs, b.value.IsFinite)
    (ho : ∀ b ∈ e.outputs, b.handler.IsFinite)
    (h : ∀ n ∈ e.children, node n.toJson = some n) : read? node e.toJson = some e := by
  obtain ⟨name, attributes, inputs, outputs, children, references, isSelfClosing, sourceSpan,
    startSourceSpan, endSourceSpan⟩ := e
  have hin : list? InputBinding.ofJson? (list InputBinding.toJson inputs) = some inputs :=
    InputBinding.list?_toJson hi
  have hout : list? OutputBinding.ofJson? (list OutputBinding.toJson outputs) = some outputs :=
    OutputBinding.list?_toJson ho
  have hn : decodeAll node (Node.allToJson children) = some children :=
    Node.decodeAll_allToJson h
  rw [toJson, read?, RecordKind.read?_object, Option.bind_eq_bind, Option.bind_some]
  simp only [Record.optional_cons, Record.nullable_cons, String.reduceEq, if_false, if_true]
  simp [hin, hout, hn]

theorem depth_lt {n : Node} (h : n ∈ e.children) : n.toJson.depth < e.toJson.depth := by
  cases e
  rw [toJson]
  exact Node.depth_lt_of_children (by simp) h

end Element

namespace Embedded

variable {t : Embedded}

theorem settled (hi : ∀ b ∈ t.inputs, b.value.IsFinite)
    (ho : ∀ b ∈ t.outputs, b.handler.IsFinite)
    (ha : ∀ a ∈ t.templateAttributes, ∀ e ∈ a.source?, e.IsFinite)
    (h : ∀ n ∈ t.children, Settled (.union .node) n.toJson) :
    Settled (.record .embedded) t.toJson := by
  obtain ⟨tagName, attributes, inputs, outputs, templateAttributes, children, references,
    variableDecls, isSelfClosing, sourceSpan, startSourceSpan, endSourceSpan⟩ := t
  rw [toJson]
  exact .record <|
    .cons (.nullable rfl fun s _ => .string s) <|
    .cons (.value (.list fun a _ => a.settled)) <|
    .cons (.value (.list fun b hb => InputBinding.settled (hi b hb))) <|
    .cons (.value (.list fun b hb => OutputBinding.settled (ho b hb))) <|
    .cons (.value (.list fun a hm => TemplateAttribute.settled (ha a hm))) <|
    .cons (.value (Node.settled_allToJson h)) <|
    .cons (.value (.list fun d _ => d.settled .reference rfl)) <|
    .cons (.value (.list fun d _ => d.settled .variable rfl)) <|
    .cons (.value (.bool isSelfClosing)) <|
    .cons (.value sourceSpan.settled) <|
    .cons (.value startSourceSpan.settled) <|
    .cons (.nullable rfl fun s _ => s.settled) .nil

theorem read?_toJson (hi : ∀ b ∈ t.inputs, b.value.IsFinite)
    (ho : ∀ b ∈ t.outputs, b.handler.IsFinite)
    (ha : ∀ a ∈ t.templateAttributes, ∀ e ∈ a.source?, e.IsFinite)
    (h : ∀ n ∈ t.children, node n.toJson = some n) : read? node t.toJson = some t := by
  obtain ⟨tagName, attributes, inputs, outputs, templateAttributes, children, references,
    variableDecls, isSelfClosing, sourceSpan, startSourceSpan, endSourceSpan⟩ := t
  have hin : list? InputBinding.ofJson? (list InputBinding.toJson inputs) = some inputs :=
    InputBinding.list?_toJson hi
  have hout : list? OutputBinding.ofJson? (list OutputBinding.toJson outputs) = some outputs :=
    OutputBinding.list?_toJson ho
  have hattrs : list? TemplateAttribute.ofJson?
      (list TemplateAttribute.toJson templateAttributes) = some templateAttributes :=
    TemplateAttribute.list?_toJson ha
  have hn : decodeAll node (Node.allToJson children) = some children :=
    Node.decodeAll_allToJson h
  rw [toJson, read?, RecordKind.read?_object, Option.bind_eq_bind, Option.bind_some]
  simp only [Record.optional_cons, Record.nullable_cons, String.reduceEq, if_false, if_true]
  simp [hin, hout, hattrs, hn]

theorem depth_lt {n : Node} (h : n ∈ t.children) : n.toJson.depth < t.toJson.depth := by
  cases t
  rw [toJson]
  exact Node.depth_lt_of_children (by simp) h

end Embedded

namespace ContentSlot

variable {c : ContentSlot}

theorem settled (h : ∀ n ∈ c.children, Settled (.union .node) n.toJson) :
    Settled (.record .content) c.toJson := by
  obtain ⟨selector, attributes, children, isSelfClosing, sourceSpan, startSourceSpan,
    endSourceSpan⟩ := c
  rw [toJson]
  exact .record <|
    .cons (.value (.string selector)) <|
    .cons (.value (.list fun a _ => a.settled)) <|
    .cons (.value (Node.settled_allToJson h)) <|
    .cons (.value (.bool isSelfClosing)) <|
    .cons (.value sourceSpan.settled) <|
    .cons (.value startSourceSpan.settled) <|
    .cons (.nullable rfl fun s _ => s.settled) .nil

theorem read?_toJson (h : ∀ n ∈ c.children, node n.toJson = some n) :
    read? node c.toJson = some c := by
  obtain ⟨selector, attributes, children, isSelfClosing, sourceSpan, startSourceSpan,
    endSourceSpan⟩ := c
  have hn : decodeAll node (Node.allToJson children) = some children :=
    Node.decodeAll_allToJson h
  rw [toJson]
  simp [read?, hn]

theorem depth_lt {n : Node} (h : n ∈ c.children) : n.toJson.depth < c.toJson.depth := by
  cases c
  rw [toJson]
  exact Node.depth_lt_of_children (by simp) h

end ContentSlot

namespace IfBlock

variable {n : IfBlock}

theorem settled (hs : ∀ b ∈ n.branches, ∀ e ∈ b.expression, e.IsFinite)
    (h : ∀ b ∈ n.branches, ∀ c ∈ b.children, Settled (.union .node) c.toJson) :
    Settled (.record .ifBlock) n.toJson := by
  obtain ⟨branches, block⟩ := n
  rw [toJson, IfBranch.allToJson_eq_map]
  exact .record <|
    .cons (.value (.list fun b hb => IfBranch.settled (hs b hb) (h b hb))) <|
    .cons (.value block.settled) .nil

theorem read?_toJson (hs : ∀ b ∈ n.branches, ∀ e ∈ b.expression, e.IsFinite)
    (h : ∀ b ∈ n.branches, ∀ c ∈ b.children, node c.toJson = some c) :
    read? node n.toJson = some n := by
  obtain ⟨branches, block⟩ := n
  have hb : decodeAll (IfBranch.read? node) (branches.map IfBranch.toJson) = some branches :=
    decodeAll_map fun b hb => IfBranch.read?_toJson (hs b hb) (h b hb)
  rw [toJson, IfBranch.allToJson_eq_map]
  simp [read?, hb]

theorem depth_lt {b : IfBranch} (hb : b ∈ n.branches) {c : Node} (hc : c ∈ b.children) :
    c.toJson.depth < n.toJson.depth := by
  obtain ⟨branches, block⟩ := n
  have ha : b.toJson.depth < (Json.array (branches.map IfBranch.toJson)).depth :=
    depth_lt_array (List.mem_map_of_mem hb)
  rw [toJson, IfBranch.allToJson_eq_map]
  exact (b.depth_lt hc).trans (ha.trans (depth_lt_object (m := ("branches", _)) (by simp)))

end IfBlock

namespace ForBlock

variable {n : ForBlock}

theorem settled (hs : n.expression.IsFinite) (ht : ∀ e ∈ n.trackBy, e.IsFinite)
    (h : ∀ c ∈ n.children, Settled (.union .node) c.toJson)
    (he : ∀ b ∈ n.empty, Settled (.record .emptyBranch) b.toJson) :
    Settled (.record .forBlock) n.toJson := by
  obtain ⟨item, expression, trackBy, contextVariables, children, empty, block, mainBlockSpan⟩ := n
  rw [toJson, EmptyBranch.optionToJson_eq]
  exact .record <|
    .cons (.value (item.settled .variable rfl)) <|
    .cons (.value (SourcedExpr.settled hs)) <|
    .cons (.nullable rfl fun e he => SourcedExpr.settled (ht e he)) <|
    .cons (.value (.list fun d _ => d.settled .variable rfl)) <|
    .cons (.value (Node.settled_allToJson h)) <|
    .cons (.nullable rfl he) <|
    .cons (.value block.settled) <|
    .cons (.value mainBlockSpan.settled) .nil

theorem read?_toJson (hs : n.expression.IsFinite) (ht : ∀ e ∈ n.trackBy, e.IsFinite)
    (h : ∀ c ∈ n.children, node c.toJson = some c)
    (he : ∀ b ∈ n.empty, EmptyBranch.read? node b.toJson = some b) :
    read? node n.toJson = some n := by
  obtain ⟨item, expression, trackBy, contextVariables, children, empty, block, mainBlockSpan⟩ := n
  have htrack : nullable? SourcedExpr.ofJson? (nullable SourcedExpr.toJson trackBy) =
      some trackBy := SourcedExpr.nullable?_toJson ht
  have hn : decodeAll node (Node.allToJson children) = some children :=
    Node.decodeAll_allToJson h
  have hempty : nullable? (EmptyBranch.read? node) (nullable EmptyBranch.toJson empty) =
      some empty := nullable?_nullable (fun b _ => b.toJson_ne_null) he
  rw [toJson, EmptyBranch.optionToJson_eq, read?, RecordKind.read?_object, Option.bind_eq_bind,
    Option.bind_some]
  simp only [Record.optional_cons, Record.nullable_cons, String.reduceEq, if_false, if_true]
  simp [SourcedExpr.ofJson?_toJson hs, htrack, hn, hempty]

theorem depth_lt {c : Node} (h : c ∈ n.children) : c.toJson.depth < n.toJson.depth := by
  cases n
  rw [toJson]
  exact Node.depth_lt_of_children (by simp) h

theorem depth_empty_lt {b : EmptyBranch} (h : b ∈ n.empty) :
    b.toJson.depth < n.toJson.depth := by
  obtain ⟨item, expression, trackBy, contextVariables, children, empty, block, mainBlockSpan⟩ := n
  obtain rfl : empty = some b := h
  rw [toJson, EmptyBranch.optionToJson]
  exact depth_lt_object (m := ("empty", b.toJson)) (by simp)

end ForBlock

namespace SwitchBlock

variable {n : SwitchBlock}

theorem settled (hs : n.expression.IsFinite)
    (h : ∀ c ∈ n.cases, Settled (.record .switchCase) c.toJson) :
    Settled (.record .switchBlock) n.toJson := by
  obtain ⟨expression, cases, unknownBlocks, block⟩ := n
  rw [toJson, SwitchCase.allToJson_eq_map]
  exact .record <|
    .cons (.value (SourcedExpr.settled hs)) <|
    .cons (.value (.list h)) <|
    .cons (.value (.list fun b _ => b.settled)) <|
    .cons (.value block.settled) .nil

theorem read?_toJson (hs : n.expression.IsFinite)
    (h : ∀ c ∈ n.cases, SwitchCase.read? node c.toJson = some c) :
    read? node n.toJson = some n := by
  obtain ⟨expression, cases, unknownBlocks, block⟩ := n
  have hc : decodeAll (SwitchCase.read? node) (cases.map SwitchCase.toJson) = some cases :=
    decodeAll_map h
  have hu : list? UnknownBlock.ofJson? (list UnknownBlock.toJson unknownBlocks) =
      some unknownBlocks := list?_list fun b _ => b.ofJson?_toJson
  rw [toJson, SwitchCase.allToJson_eq_map]
  simp [read?, SourcedExpr.ofJson?_toJson hs, hc, hu]

theorem depth_lt {c : SwitchCase} (h : c ∈ n.cases) : c.toJson.depth < n.toJson.depth := by
  obtain ⟨expression, cases, unknownBlocks, block⟩ := n
  have ha : c.toJson.depth < (Json.array (cases.map SwitchCase.toJson)).depth :=
    depth_lt_array (List.mem_map_of_mem h)
  rw [toJson, SwitchCase.allToJson_eq_map]
  exact ha.trans (depth_lt_object (m := ("cases", _)) (by simp))

end SwitchBlock

namespace DeferBlock

variable {n : DeferBlock}

theorem settled (h : ∀ c ∈ n.children, Settled (.union .node) c.toJson)
    (hp : ∀ p ∈ n.placeholder, ∀ c ∈ p.children, Settled (.union .node) c.toJson)
    (hl : ∀ l ∈ n.loading, ∀ c ∈ l.children, Settled (.union .node) c.toJson)
    (he : ∀ e ∈ n.error, ∀ c ∈ e.children, Settled (.union .node) c.toJson) :
    Settled (.record .deferBlock) n.toJson := by
  obtain ⟨children, placeholder, loading, error, block, mainBlockSpan⟩ := n
  rw [toJson, DeferPlaceholder.optionToJson_eq, DeferLoading.optionToJson_eq,
    DeferError.optionToJson_eq]
  exact .record <|
    .cons (.value (Node.settled_allToJson h)) <|
    .cons (.nullable rfl fun p hm => DeferPlaceholder.settled (hp p hm)) <|
    .cons (.nullable rfl fun l hm => DeferLoading.settled (hl l hm)) <|
    .cons (.nullable rfl fun e hm => DeferError.settled (he e hm)) <|
    .cons (.value block.settled) <|
    .cons (.value mainBlockSpan.settled) .nil

theorem read?_toJson (h : ∀ c ∈ n.children, node c.toJson = some c)
    (hp : ∀ p ∈ n.placeholder, ∀ c ∈ p.children, node c.toJson = some c)
    (hl : ∀ l ∈ n.loading, ∀ c ∈ l.children, node c.toJson = some c)
    (he : ∀ e ∈ n.error, ∀ c ∈ e.children, node c.toJson = some c) :
    read? node n.toJson = some n := by
  obtain ⟨children, placeholder, loading, error, block, mainBlockSpan⟩ := n
  have hn : decodeAll node (Node.allToJson children) = some children :=
    Node.decodeAll_allToJson h
  have hplaceholder : nullable? (DeferPlaceholder.read? node)
      (nullable DeferPlaceholder.toJson placeholder) = some placeholder :=
    nullable?_nullable (fun p _ => p.toJson_ne_null) fun p hm =>
      DeferPlaceholder.read?_toJson (hp p hm)
  have hloading : nullable? (DeferLoading.read? node) (nullable DeferLoading.toJson loading) =
      some loading :=
    nullable?_nullable (fun l _ => l.toJson_ne_null) fun l hm =>
      DeferLoading.read?_toJson (hl l hm)
  have herror : nullable? (DeferError.read? node) (nullable DeferError.toJson error) =
      some error :=
    nullable?_nullable (fun e _ => e.toJson_ne_null) fun e hm => DeferError.read?_toJson (he e hm)
  rw [toJson, DeferPlaceholder.optionToJson_eq, DeferLoading.optionToJson_eq,
    DeferError.optionToJson_eq]
  simp [read?, hn, hplaceholder, hloading, herror]

theorem depth_lt {c : Node} (h : c ∈ n.children) : c.toJson.depth < n.toJson.depth := by
  cases n
  rw [toJson]
  exact Node.depth_lt_of_children (by simp) h

theorem depth_placeholder_lt {p : DeferPlaceholder} (h : p ∈ n.placeholder) :
    p.toJson.depth < n.toJson.depth := by
  obtain ⟨children, placeholder, loading, error, block, mainBlockSpan⟩ := n
  obtain rfl : placeholder = some p := h
  rw [toJson, DeferPlaceholder.optionToJson]
  exact depth_lt_object (m := ("placeholder", p.toJson)) (by simp)

theorem depth_loading_lt {l : DeferLoading} (h : l ∈ n.loading) :
    l.toJson.depth < n.toJson.depth := by
  obtain ⟨children, placeholder, loading, error, block, mainBlockSpan⟩ := n
  obtain rfl : loading = some l := h
  rw [toJson, DeferLoading.optionToJson]
  exact depth_lt_object (m := ("loading", l.toJson)) (by simp)

theorem depth_error_lt {e : DeferError} (h : e ∈ n.error) :
    e.toJson.depth < n.toJson.depth := by
  obtain ⟨children, placeholder, loading, error, block, mainBlockSpan⟩ := n
  obtain rfl : error = some e := h
  rw [toJson, DeferError.optionToJson]
  exact depth_lt_object (m := ("error", e.toJson)) (by simp)

end DeferBlock

end Inner

end TemplateQuery
