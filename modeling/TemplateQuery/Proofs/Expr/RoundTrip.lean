import Mathlib.Tactic
import TemplateQuery.Expr.Sourced
import TemplateQuery.Proofs.Expr.Subexpression
import TemplateQuery.Proofs.Source.RoundTrip

namespace TemplateQuery

open Json Schema

namespace Extent

theorem settled (e : Extent) (k : RecordKind) (hk : k.fields = RecordKind.extent.fields) :
    Settled (.record k) e.toJson := by
  refine .record ?_
  rw [hk]
  exact .cons (.value (.nat e.start)) <| .cons (.value (.nat e.stop)) .nil

@[simp] theorem ofJson?_toJson (e : Extent) : ofJson? e.toJson = some e := by
  simp [ofJson?, toJson]

end Extent

namespace Place

theorem settled_members (p : Place) {fs : List Field} {ms : List (String × Json)}
    (h : SettledMembers fs ms) : SettledMembers (placed fs) (p.members ++ ms) :=
  .cons (.value (p.span.settled .extent rfl)) <|
    .cons (.value (p.sourceSpan.settled .absoluteExtent rfl)) h

@[simp] theorem ofRecord?_members (p : Place) (ms : List (String × Json)) :
    ofRecord? ⟨p.members ++ ms⟩ = some p := by
  simp [ofRecord?, members]

end Place

namespace Literal

def IsFinite : Literal → Prop
  | .number x => x.isFinite = true
  | _ => True

instance : DecidablePred IsFinite := fun v =>
  match v with
  | .number x => inferInstanceAs (Decidable (x.isFinite = true))
  | .string _ => .isTrue trivial
  | .bool _ => .isTrue trivial
  | .null => .isTrue trivial
  | .undefined => .isTrue trivial

theorem toJson_number {x : Float} (h : (number x).IsFinite) :
    (number x).toJson = UnionKind.literal.write "Number" (.number (.float x)) := by
  have hx : x.isFinite = true := h
  rw [toJson, ofFloat, if_pos hx]

theorem settled {v : Literal} (h : v.IsFinite) : Settled (.union .literal) v.toJson := by
  cases v with
  | string s => exact .variant (by decide) (.string s)
  | number x =>
    rw [toJson_number h]
    exact .variant (by decide) (.number _)
  | bool b => exact .variant (by decide) (.bool b)
  | null => exact .bareVariant (by decide) (by decide)
  | undefined => exact .bareVariant (by decide) (by decide)

theorem ofJson?_toJson {v : Literal} (h : v.IsFinite) : ofJson? v.toJson = some v := by
  cases v with
  | number x =>
    rw [toJson_number h]
    rfl
  | _ => rfl

end Literal

namespace MapKey

theorem settled (k : MapKey) : Settled (.record .mapKey) k.toJson :=
  .record <| .cons (.value (.string k.key)) <| .cons (.value (.bool k.quoted)) .nil

@[simp] theorem ofJson?_toJson (k : MapKey) : ofJson? k.toJson = some k := by
  simp [ofJson?, toJson]

end MapKey

theorem Schema.UnionKind.content?_expr {k : RecordKind} (hk : k ∈ exprRecords) :
    UnionKind.expr.content? k.name = some (.record k) := by
  revert k
  decide

theorem Schema.UnionKind.find?_exprRecords {k : RecordKind} (hk : k ∈ exprRecords) :
    exprRecords.find? (·.name = k.name) = some k := by
  revert k
  decide

namespace Expr

def literal? : Expr → Option Literal
  | .literalPrimitive _ v => some v
  | _ => none

def IsFinite (e : Expr) : Prop :=
  ∀ v ∈ e.walk.filterMap literal?, v.IsFinite

instance : DecidablePred IsFinite := fun e =>
  inferInstanceAs (Decidable (∀ v ∈ e.walk.filterMap literal?, v.IsFinite))

theorem IsFinite.of_mem_children {e c : Expr} (h : e.IsFinite) (hc : c ∈ e.children) :
    c.IsFinite := by
  intro v hv
  obtain ⟨x, hx, hl⟩ := List.mem_filterMap.1 hv
  exact h v (List.mem_filterMap.2 ⟨x, mem_walk_of_mem_children hc hx, hl⟩)

theorem allToJson_eq_map (es : List Expr) : allToJson es = es.map toJson := by
  induction es with
  | nil => rfl
  | cons e rest ih => rw [allToJson, ih, List.map_cons]

theorem settled_write {k : RecordKind} {p : Place} {fs : List Field} {ms : List (String × Json)}
    (hk : k ∈ UnionKind.exprRecords) (hf : k.fields = placed fs) (hs : SettledMembers fs ms) :
    Settled (.union .expr) (write k p ms) := by
  refine .variant (UnionKind.content?_expr hk) (.record ?_)
  rw [hf]
  exact p.settled_members hs

theorem settled_allToJson {es : List Expr} (h : ∀ e ∈ es, Settled (.union .expr) e.toJson) :
    Settled (.list (.union .expr)) (.array (allToJson es)) := by
  rw [allToJson_eq_map]
  exact .list h

theorem depth_le_allToJson {c : Expr} {es : List Expr} (h : c ∈ es) :
    c.toJson.depth ≤ depthOfItems (allToJson es) := by
  rw [allToJson_eq_map]
  exact depth_le_depthOfItems (List.mem_map_of_mem h)

theorem depth_toJson_lt {e c : Expr} (h : c ∈ e.children) : c.toJson.depth < e.toJson.depth := by
  have hl : ∀ es : List Expr, c ∈ es → c.toJson.depth ≤ depthOfItems (allToJson es) :=
    fun _ => depth_le_allToJson
  cases e <;>
    simp only [children, List.mem_cons, List.mem_append, List.not_mem_nil, or_false] at h <;>
    simp only [toJson, write, UnionKind.write, Place.members, List.cons_append, List.nil_append,
      depth, depthOfMembers] <;>
    grind

theorem decode_write {k : RecordKind} (hk : k ∈ UnionKind.exprRecords) (p : Place)
    (ms : List (String × Json)) (n : Nat) :
    decode (n + 1) (write k p ms) = ofRecord? (decode n) k ⟨p.members ++ ms⟩ := by
  have hread : UnionKind.expr.read? (write k p ms) =
      some (k.name, some (.object (p.members ++ ms))) := rfl
  rw [decode, hread]
  simp only [Option.bind_eq_bind, Option.bind_some, UnionKind.find?_exprRecords hk,
    RecordKind.read?_object]

theorem decodeAll_allToJson {es : List Expr} {n : Nat}
    (h : ∀ e ∈ es, decode n e.toJson = some e) : decodeAll (decode n) (allToJson es) = some es := by
  rw [allToJson_eq_map]
  exact decodeAll_map h

theorem decode_succ_toJson {e : Expr} {n : Nat} (hfin : e.IsFinite)
    (h : ∀ c ∈ e.children, decode n c.toJson = some c) : decode (n + 1) e.toJson = some e := by
  have hall : ∀ es : List Expr, (∀ c ∈ es, c ∈ e.children) →
      decodeAll (decode n) (allToJson es) = some es :=
    fun es hes => decodeAll_allToJson fun c hc => h c (hes c hc)
  have hkeys : ∀ keys : List MapKey, list? MapKey.ofJson? (list MapKey.toJson keys) = some keys :=
    fun _ => list?_list fun k _ => k.ofJson?_toJson
  cases e with
  | literalPrimitive p v =>
    have hv : v.IsFinite := hfin v (by simp [walk, literal?])
    rw [toJson, decode_write (by decide), ofRecord?, Place.ofRecord?_members]
    simp [Place.members, Literal.ofJson?_toJson hv]
  | bindingPipe p x name args =>
    have hx : decode n x.toJson = some x := h x (by simp [children])
    have hargs := hall args (by simp +contextual [children])
    rw [toJson, decode_write (by decide), ofRecord?, Place.ofRecord?_members]
    simp [Place.members, hx, hargs]
  | call p r args a comma =>
    have hr : decode n r.toJson = some r := h r (by simp [children])
    have hargs := hall args (by simp +contextual [children])
    rw [toJson, decode_write (by decide), ofRecord?, Place.ofRecord?_members]
    simp [Place.members, hr, hargs]
  | safeCall p r args a comma =>
    have hr : decode n r.toJson = some r := h r (by simp [children])
    have hargs := hall args (by simp +contextual [children])
    rw [toJson, decode_write (by decide), ofRecord?, Place.ofRecord?_members]
    simp [Place.members, hr, hargs]
  | _ =>
    rw [toJson, decode_write (by decide), ofRecord?, Place.ofRecord?_members]
    simp only [children, List.forall_mem_cons] at h hall
    simp [Place.members, h, hall, hkeys]

theorem decode_toJson {e : Expr} (hfin : e.IsFinite) {n : Nat} (hn : e.toJson.depth ≤ n) :
    decode n e.toJson = some e := by
  induction n generalizing e with
  | zero => cases e <;> simp [toJson, write, UnionKind.write, depth] at hn
  | succ n ih =>
    refine decode_succ_toJson hfin ?_
    intro c hc
    have hd : c.toJson.depth < e.toJson.depth := depth_toJson_lt hc
    exact ih (hfin.of_mem_children hc) (by omega)

theorem ofJson?_toJson {e : Expr} (h : e.IsFinite) : ofJson? e.toJson = some e :=
  decode_toJson h le_rfl

theorem settled_of_children {e : Expr} (hfin : e.IsFinite)
    (h : ∀ c ∈ e.children, Settled (.union .expr) c.toJson) : Settled (.union .expr) e.toJson := by
  have one : ∀ {c : Expr} {name : String}, c ∈ e.children →
      SettledField (exprAt name) c.toJson := fun hc => .value (h _ hc)
  have all : ∀ {es : List Expr}, (∀ c ∈ es, c ∈ e.children) →
      Settled (.list (.union .expr)) (.array (allToJson es)) :=
    fun hes => settled_allToJson fun c hc => h c (hes c hc)
  cases e with
  | emptyExpr p => exact settled_write (by decide) rfl .nil
  | implicitReceiver p => exact settled_write (by decide) rfl .nil
  | thisReceiver p => exact settled_write (by decide) rfl .nil
  | chain p es =>
    exact settled_write (by decide) rfl <| .cons (.value (all (by simp [children]))) .nil
  | conditional p c t f =>
    exact settled_write (by decide) rfl <|
      .cons (one (by simp [children])) <|
      .cons (one (by simp [children])) <|
      .cons (one (by simp [children])) .nil
  | propertyRead p s r name =>
    exact settled_write (by decide) rfl <|
      .cons (.value (s.settled .absoluteExtent rfl)) <|
      .cons (one (by simp [children])) <|
      .cons (.value (.string name)) .nil
  | safePropertyRead p s r name =>
    exact settled_write (by decide) rfl <|
      .cons (.value (s.settled .absoluteExtent rfl)) <|
      .cons (one (by simp [children])) <|
      .cons (.value (.string name)) .nil
  | keyedRead p r k =>
    exact settled_write (by decide) rfl <|
      .cons (one (by simp [children])) <|
      .cons (one (by simp [children])) .nil
  | safeKeyedRead p r k =>
    exact settled_write (by decide) rfl <|
      .cons (one (by simp [children])) <|
      .cons (one (by simp [children])) .nil
  | bindingPipe p x name args =>
    exact settled_write (by decide) rfl <|
      .cons (one (by simp [children])) <|
      .cons (.value (.string name)) <|
      .cons (.value (all (by simp +contextual [children]))) .nil
  | literalPrimitive p v =>
    have hv : v.IsFinite := hfin v (by simp [walk, literal?])
    exact settled_write (by decide) rfl <| .cons (.value (Literal.settled hv)) .nil
  | literalArray p es =>
    exact settled_write (by decide) rfl <| .cons (.value (all (by simp [children]))) .nil
  | literalMap p keys values =>
    exact settled_write (by decide) rfl <|
      .cons (.value (.list fun k _ => k.settled)) <|
      .cons (.value (all (by simp [children]))) .nil
  | interpolation p strings es =>
    exact settled_write (by decide) rfl <|
      .cons (.value (.list fun s _ => .string s)) <|
      .cons (.value (all (by simp [children]))) .nil
  | binary p op l r =>
    exact settled_write (by decide) rfl <|
      .cons (.value (.string op)) <|
      .cons (one (by simp [children])) <|
      .cons (one (by simp [children])) .nil
  | prefixNot p x =>
    exact settled_write (by decide) rfl <| .cons (one (by simp [children])) .nil
  | unary p op x =>
    exact settled_write (by decide) rfl <|
      .cons (.value (.string op)) <|
      .cons (one (by simp [children])) .nil
  | typeofExpression p x =>
    exact settled_write (by decide) rfl <| .cons (one (by simp [children])) .nil
  | nonNullAssert p x =>
    exact settled_write (by decide) rfl <| .cons (one (by simp [children])) .nil
  | call p r args s comma =>
    exact settled_write (by decide) rfl <|
      .cons (one (by simp [children])) <|
      .cons (.value (all (by simp +contextual [children]))) <|
      .cons (.value (s.settled .absoluteExtent rfl)) <|
      .cons (.value (.bool comma)) .nil
  | safeCall p r args s comma =>
    exact settled_write (by decide) rfl <|
      .cons (one (by simp [children])) <|
      .cons (.value (all (by simp +contextual [children]))) <|
      .cons (.value (s.settled .absoluteExtent rfl)) <|
      .cons (.value (.bool comma)) .nil
  | propertyWrite p r name v =>
    exact settled_write (by decide) rfl <|
      .cons (one (by simp [children])) <|
      .cons (.value (.string name)) <|
      .cons (one (by simp [children])) .nil
  | keyedWrite p r k v =>
    exact settled_write (by decide) rfl <|
      .cons (one (by simp [children])) <|
      .cons (one (by simp [children])) <|
      .cons (one (by simp [children])) .nil
  | parenthesized p x =>
    exact settled_write (by decide) rfl <| .cons (one (by simp [children])) .nil
  | templateLiteral p elements es =>
    exact settled_write (by decide) rfl <|
      .cons (.value (.list fun s _ => .string s)) <|
      .cons (.value (all (by simp [children]))) .nil

theorem settled {e : Expr} (h : e.IsFinite) : Settled (.union .expr) e.toJson := by
  induction e using induction_children with
  | step e ih => exact settled_of_children h fun c hc => ih c hc (h.of_mem_children hc)

end Expr

namespace SourcedExpr

def IsFinite (e : SourcedExpr) : Prop :=
  e.expr.IsFinite

instance : DecidablePred IsFinite := fun e => inferInstanceAs (Decidable e.expr.IsFinite)

theorem settled {e : SourcedExpr} (h : e.IsFinite) : Settled (.record .sourcedExpr) e.toJson :=
  .record <|
    .cons (.value (Expr.settled h)) <|
    .cons (.nullable rfl fun s _ => .string s) <|
    .cons (.value (.string e.location)) <|
    .cons (.value (.nat e.absoluteOffset)) <|
    .cons (.value (.list fun d _ => d.settled)) .nil

theorem ofJson?_toJson {e : SourcedExpr} (h : e.IsFinite) : ofJson? e.toJson = some e := by
  have hd : list? Diagnostic.ofJson? (list Diagnostic.toJson e.diagnostics) = some e.diagnostics :=
    list?_list fun d _ => d.ofJson?_toJson
  simp [ofJson?, toJson, Expr.ofJson?_toJson h, hd]

theorem nullable?_toJson {o : Option SourcedExpr} (h : ∀ e ∈ o, e.IsFinite) :
    nullable? ofJson? (nullable toJson o) = some o :=
  nullable?_nullable (by simp [toJson]) fun e he => ofJson?_toJson (h e he)

end SourcedExpr

end TemplateQuery
