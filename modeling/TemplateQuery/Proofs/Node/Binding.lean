import Mathlib.Tactic
import TemplateQuery.Node.Binding
import TemplateQuery.Proofs.Expr.RoundTrip

namespace TemplateQuery

open Json Schema

namespace BindingType

theorem settled (t : BindingType) : Settled (.choice .bindingType) t.toJson := by
  cases t <;> exact .choice (by decide)

@[simp] theorem ofJson?_toJson (t : BindingType) : ofJson? t.toJson = some t := by
  cases t <;> rfl

end BindingType

namespace EventType

theorem settled (t : EventType) : Settled (.choice .eventType) t.toJson := by
  cases t <;> exact .choice (by decide)

@[simp] theorem ofJson?_toJson (t : EventType) : ofJson? t.toJson = some t := by
  cases t <;> rfl

end EventType

namespace StaticAttribute

theorem settled (a : StaticAttribute) : Settled (.record .staticAttribute) a.toJson :=
  .record <|
    .cons (.value (.string a.name)) <|
    .cons (.value (.string a.value)) <|
    .cons (.value a.sourceSpan.settled) <|
    .cons (.nullable rfl fun s _ => s.settled) <|
    .cons (.nullable rfl fun s _ => s.settled) .nil

@[simp] theorem ofJson?_toJson (a : StaticAttribute) : ofJson? a.toJson = some a := by
  simp [ofJson?, toJson]

@[simp] theorem list?_toJson (as : List StaticAttribute) :
    list? ofJson? (list toJson as) = some as :=
  list?_list fun a _ => a.ofJson?_toJson

end StaticAttribute

namespace InputBinding

variable {b : InputBinding} {bs : List InputBinding}

theorem settled (h : b.value.IsFinite) : Settled (.record .inputBinding) b.toJson :=
  .record <|
    .cons (.value (.string b.name)) <|
    .cons (.value b.bindingType.settled) <|
    .cons (.value (SourcedExpr.settled h)) <|
    .cons (.nullable rfl fun s _ => .string s) <|
    .cons (.value b.sourceSpan.settled) <|
    .cons (.value b.keySpan.settled) <|
    .cons (.nullable rfl fun s _ => s.settled) .nil

theorem ofJson?_toJson (h : b.value.IsFinite) : ofJson? b.toJson = some b := by
  simp [ofJson?, toJson, SourcedExpr.ofJson?_toJson h]

theorem list?_toJson (h : ∀ b ∈ bs, b.value.IsFinite) : list? ofJson? (list toJson bs) = some bs :=
  list?_list fun b hb => ofJson?_toJson (h b hb)

end InputBinding

namespace OutputBinding

variable {b : OutputBinding} {bs : List OutputBinding}

theorem settled (h : b.handler.IsFinite) : Settled (.record .outputBinding) b.toJson :=
  .record <|
    .cons (.value (.string b.name)) <|
    .cons (.value b.eventType.settled) <|
    .cons (.value (SourcedExpr.settled h)) <|
    .cons (.nullable rfl fun s _ => .string s) <|
    .cons (.nullable rfl fun s _ => .string s) <|
    .cons (.value b.sourceSpan.settled) <|
    .cons (.value b.handlerSpan.settled) <|
    .cons (.value b.keySpan.settled) .nil

theorem ofJson?_toJson (h : b.handler.IsFinite) : ofJson? b.toJson = some b := by
  simp [ofJson?, toJson, SourcedExpr.ofJson?_toJson h]

theorem list?_toJson (h : ∀ b ∈ bs, b.handler.IsFinite) :
    list? ofJson? (list toJson bs) = some bs :=
  list?_list fun b hb => ofJson?_toJson (h b hb)

end OutputBinding

namespace TemplateAttribute

variable {a : TemplateAttribute} {as : List TemplateAttribute}

def source? : TemplateAttribute → Option SourcedExpr
  | .bound b => some b.value
  | .text _ => none

theorem settled (h : ∀ e ∈ a.source?, e.IsFinite) :
    Settled (.union .templateAttribute) a.toJson := by
  cases a with
  | bound b => exact .variant (by decide) (InputBinding.settled (h b.value rfl))
  | text a => exact .variant (by decide) a.settled

theorem ofJson?_toJson (h : ∀ e ∈ a.source?, e.IsFinite) : ofJson? a.toJson = some a := by
  cases a with
  | bound b =>
    have hb : InputBinding.ofJson? b.toJson = some b := InputBinding.ofJson?_toJson (h b.value rfl)
    have hr : ofJson? (bound b).toJson = (InputBinding.ofJson? b.toJson).map .bound := rfl
    rw [hr, hb, Option.map_some]
  | text a =>
    have hr : ofJson? (text a).toJson = (StaticAttribute.ofJson? a.toJson).map .text := rfl
    rw [hr, a.ofJson?_toJson, Option.map_some]

theorem list?_toJson (h : ∀ a ∈ as, ∀ e ∈ a.source?, e.IsFinite) :
    list? ofJson? (list toJson as) = some as :=
  list?_list fun a ha => ofJson?_toJson (h a ha)

end TemplateAttribute

namespace Declaration

theorem settled (d : Declaration) (k : RecordKind) (hk : k.fields = RecordKind.variable.fields) :
    Settled (.record k) d.toJson := by
  refine .record ?_
  rw [hk]
  exact .cons (.value (.string d.name)) <|
    .cons (.value (.string d.value)) <|
    .cons (.value d.sourceSpan.settled) <|
    .cons (.value d.keySpan.settled) <|
    .cons (.nullable rfl fun s _ => s.settled) .nil

@[simp] theorem ofJson?_toJson (d : Declaration) : ofJson? d.toJson = some d := by
  simp [ofJson?, toJson]

@[simp] theorem list?_toJson (ds : List Declaration) : list? ofJson? (list toJson ds) = some ds :=
  list?_list fun d _ => d.ofJson?_toJson

@[simp] theorem nullable?_toJson (o : Option Declaration) :
    nullable? ofJson? (nullable toJson o) = some o :=
  nullable?_nullable (by simp [toJson]) fun d _ => d.ofJson?_toJson

end Declaration

end TemplateQuery
