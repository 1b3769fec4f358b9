import Mathlib.Logic.Relation
import Mathlib.Tactic
import TemplateQuery.Expr.Walk
import TemplateQuery.OrderedSet
import TemplateQuery.Proofs.Tour

namespace TemplateQuery.Expr

section

variable {e c x : Expr}

theorem mem_walk_self (e : Expr) : e ∈ e.walk := by
  rw [walk_eq]
  exact List.mem_cons_self

theorem mem_walk_of_mem_children (hc : c ∈ e.children) (hx : x ∈ c.walk) : x ∈ e.walk := by
  rw [walk_eq]
  exact List.mem_cons_of_mem e (List.mem_flatMap_of_mem hc hx)

theorem mem_walk_iff : x ∈ e.walk ↔ x = e ∨ ∃ c ∈ e.children, x ∈ c.walk := by
  rw [walk_eq, List.mem_cons, List.mem_flatMap]

theorem length_walk_lt (h : c ∈ e.children) : c.walk.length < e.walk.length :=
  length_walk_lt_of_mem walk_eq h

@[elab_as_elim]
theorem induction_children {P : Expr → Prop} (step : ∀ e, (∀ c ∈ e.children, P c) → P e)
    (e : Expr) : P e :=
  step e fun c _ => induction_children step c
termination_by e.walk.length
decreasing_by exact length_walk_lt ‹_›

end

inductive IsPart : Expr → Expr → Prop
  | chain {x : Expr} (p : Place) (es : List Expr) (h : x ∈ es) : IsPart x (.chain p es)
  | condition (p : Place) (c t f : Expr) : IsPart c (.conditional p c t f)
  | whenTrue (p : Place) (c t f : Expr) : IsPart t (.conditional p c t f)
  | whenFalse (p : Place) (c t f : Expr) : IsPart f (.conditional p c t f)
  | propertyRead (p : Place) (s : Extent) (r : Expr) (n : String) : IsPart r (.propertyRead p s r n)
  | safePropertyRead (p : Place) (s : Extent) (r : Expr) (n : String) :
    IsPart r (.safePropertyRead p s r n)
  | keyedReceiver (p : Place) (r k : Expr) : IsPart r (.keyedRead p r k)
  | keyedKey (p : Place) (r k : Expr) : IsPart k (.keyedRead p r k)
  | safeKeyedReceiver (p : Place) (r k : Expr) : IsPart r (.safeKeyedRead p r k)
  | safeKeyedKey (p : Place) (r k : Expr) : IsPart k (.safeKeyedRead p r k)
  | piped (p : Place) (y : Expr) (n : String) (args : List Expr) :
    IsPart y (.bindingPipe p y n args)
  | pipeArgument {x : Expr} (p : Place) (y : Expr) (n : String) (args : List Expr) (h : x ∈ args) :
    IsPart x (.bindingPipe p y n args)
  | arrayItem {x : Expr} (p : Place) (es : List Expr) (h : x ∈ es) : IsPart x (.literalArray p es)
  | mapValue {x : Expr} (p : Place) (ks : List MapKey) (vs : List Expr) (h : x ∈ vs) :
    IsPart x (.literalMap p ks vs)
  | interpolated {x : Expr} (p : Place) (ss : List String) (es : List Expr) (h : x ∈ es) :
    IsPart x (.interpolation p ss es)
  | left (p : Place) (o : String) (l r : Expr) : IsPart l (.binary p o l r)
  | right (p : Place) (o : String) (l r : Expr) : IsPart r (.binary p o l r)
  | negated (p : Place) (y : Expr) : IsPart y (.prefixNot p y)
  | operand (p : Place) (o : String) (y : Expr) : IsPart y (.unary p o y)
  | typeofOperand (p : Place) (y : Expr) : IsPart y (.typeofExpression p y)
  | asserted (p : Place) (y : Expr) : IsPart y (.nonNullAssert p y)
  | callReceiver (p : Place) (r : Expr) (args : List Expr) (s : Extent) (t : Bool) :
    IsPart r (.call p r args s t)
  | callArgument {x : Expr} (p : Place) (r : Expr) (args : List Expr) (s : Extent) (t : Bool)
    (h : x ∈ args) : IsPart x (.call p r args s t)
  | safeCallReceiver (p : Place) (r : Expr) (args : List Expr) (s : Extent) (t : Bool) :
    IsPart r (.safeCall p r args s t)
  | safeCallArgument {x : Expr} (p : Place) (r : Expr) (args : List Expr) (s : Extent) (t : Bool)
    (h : x ∈ args) : IsPart x (.safeCall p r args s t)
  | writeReceiver (p : Place) (r : Expr) (n : String) (v : Expr) :
    IsPart r (.propertyWrite p r n v)
  | writtenValue (p : Place) (r : Expr) (n : String) (v : Expr) :
    IsPart v (.propertyWrite p r n v)
  | keyedWriteReceiver (p : Place) (r k v : Expr) : IsPart r (.keyedWrite p r k v)
  | keyedWriteKey (p : Place) (r k v : Expr) : IsPart k (.keyedWrite p r k v)
  | keyedWriteValue (p : Place) (r k v : Expr) : IsPart v (.keyedWrite p r k v)
  | parenthesized (p : Place) (y : Expr) : IsPart y (.parenthesized p y)
  | templateItem {x : Expr} (p : Place) (ss : List String) (es : List Expr) (h : x ∈ es) :
    IsPart x (.templateLiteral p ss es)

def IsWithin (x e : Expr) : Prop :=
  Relation.ReflTransGen IsPart x e

variable {e c x : Expr}

mutual

def size : Expr → Nat
  | .emptyExpr _ => 1
  | .implicitReceiver _ => 1
  | .thisReceiver _ => 1
  | .chain _ es => 1 + sizeAll es
  | .conditional _ c t f => 1 + size c + size t + size f
  | .propertyRead _ _ r _ => 1 + size r
  | .safePropertyRead _ _ r _ => 1 + size r
  | .keyedRead _ r k => 1 + size r + size k
  | .safeKeyedRead _ r k => 1 + size r + size k
  | .bindingPipe _ e _ args => 1 + size e + sizeAll args
  | .literalPrimitive _ _ => 1
  | .literalArray _ es => 1 + sizeAll es
  | .literalMap _ _ values => 1 + sizeAll values
  | .interpolation _ _ es => 1 + sizeAll es
  | .binary _ _ l r => 1 + size l + size r
  | .prefixNot _ e => 1 + size e
  | .unary _ _ e => 1 + size e
  | .typeofExpression _ e => 1 + size e
  | .nonNullAssert _ e => 1 + size e
  | .call _ r args _ _ => 1 + size r + sizeAll args
  | .safeCall _ r args _ _ => 1 + size r + sizeAll args
  | .propertyWrite _ r _ v => 1 + size r + size v
  | .keyedWrite _ r k v => 1 + size r + size k + size v
  | .parenthesized _ e => 1 + size e
  | .templateLiteral _ _ es => 1 + sizeAll es

def sizeAll : List Expr → Nat
  | [] => 0
  | e :: rest => size e + sizeAll rest

end

theorem sizeAll_eq_sum (es : List Expr) : sizeAll es = (es.map size).sum := by
  induction es with
  | nil => rfl
  | cons e rest ih => rw [sizeAll, ih, List.map_cons, List.sum_cons]

theorem size_eq (e : Expr) : e.size = 1 + (e.children.map size).sum := by
  cases e <;> simp [size, children, sizeAll_eq_sum] <;> omega

theorem length_walk (e : Expr) : e.walk.length = e.size := by
  induction e using induction_children with
  | step e ih =>
    rw [walk_eq, List.length_cons, List.length_flatMap, List.map_congr_left ih, size_eq,
      Nat.add_comm]

theorem mem_children_iff : c ∈ e.children ↔ IsPart c e := by
  constructor
  · intro h
    cases e <;> grind [children, IsPart]
  · intro h
    cases h <;> simp_all [children]

theorem mem_walk_iff_isWithin : x ∈ e.walk ↔ IsWithin x e := by
  constructor
  · intro h
    induction e using induction_children with
    | step e ih =>
      rcases mem_walk_iff.1 h with rfl | ⟨c, hc, hx⟩
      · exact Relation.ReflTransGen.refl
      · exact Relation.ReflTransGen.tail (ih c hc hx) (mem_children_iff.1 hc)
  · intro h
    induction h with
    | refl => exact mem_walk_self x
    | tail _ hp ih => exact mem_walk_of_mem_children (mem_children_iff.2 hp) ih

inductive ReadsMember (name : String) : Expr → Prop
  | implicit (p : Place) (s : Extent) (q : Place) :
    ReadsMember name (.propertyRead p s (.implicitReceiver q) name)
  | this (p : Place) (s : Extent) (q : Place) :
    ReadsMember name (.propertyRead p s (.thisReceiver q) name)

theorem componentName?_eq_some_iff {name : String} :
    e.componentName? = some name ↔ ReadsMember name e := by
  constructor
  · intro h
    cases e with
    | propertyRead p s r n =>
      obtain ⟨hr, rfl⟩ : r.isComponentReceiver = true ∧ n = name := by
        simpa [componentName?] using h
      cases r with
      | implicitReceiver q => exact .implicit p s q
      | thisReceiver q => exact .this p s q
      | _ => simp [isComponentReceiver] at hr
    | _ => simp [componentName?] at h
  · rintro (⟨p, s, q⟩ | ⟨p, s, q⟩) <;> rfl

theorem mem_dependencies_iff {name : String} :
    name ∈ e.dependencies.toList ↔ ∃ x, IsWithin x e ∧ ReadsMember name x := by
  rw [dependencies, OrderedSet.toList_ofList, mem_firstSeen, List.mem_filterMap]
  simp only [mem_walk_iff_isWithin, componentName?_eq_some_iff]

theorem dependencies_eq_nil_iff :
    e.dependencies.toList = [] ↔ ∀ x name, IsWithin x e → ¬ ReadsMember name x := by
  rw [List.eq_nil_iff_forall_not_mem]
  simp only [mem_dependencies_iff, not_exists, not_and]
  exact forall_comm

theorem walk_exact (e : Expr) :
    ((∃ places, IsTour (nodeAt? children e) places e.walk) ∧ e.walk.length = e.size ∧
      (∀ x, x ∈ e.walk ↔ IsWithin x e) ∧
      (∀ i x, e.walk[i]? = some x → x.walk <+: e.walk.drop i) ∧
      (∀ p r args s t, walk (.call p r args s t) =
        .call p r args s t :: (args.flatMap walk ++ walk r)) ∧
      ∀ p r args s t, walk (.safeCall p r args s t) =
        .safeCall p r args s t :: (args.flatMap walk ++ walk r)) ∧
    IsSummary (e.walk.filterMap componentName?) e.dependencies.toList ∧
      (∀ name, name ∈ e.dependencies.toList ↔ ∃ x, IsWithin x e ∧ ReadsMember name x) ∧
      (e.dependencies.toList = [] ↔ ∀ x name, IsWithin x e → ¬ ReadsMember name x) := by
  refine ⟨⟨exists_isTour walk_eq e, length_walk e, fun x => mem_walk_iff_isWithin,
    fun i x => prefix_drop_walk walk_eq e i, ?_, ?_⟩, isSummary_ofList _,
    fun name => mem_dependencies_iff, dependencies_eq_nil_iff⟩
  · intro p r args s t
    rw [walk_eq, children, List.flatMap_append, List.flatMap_singleton]
  · intro p r args s t
    rw [walk_eq, children, List.flatMap_append, List.flatMap_singleton]

theorem walk_exact_call :
    let argument : Expr := ofRead (identifier "a") "rows"
    let e : Expr := ofCall (ofRead (.thisReceiver {}) "pick") [identifier "rows", argument]
    e.walk[3]? = some argument ∧ argument.walk <+: e.walk.drop 3 ∧ e.size = 8 ∧
      e.walk.length = e.size ∧ IsSummary ["rows", "a", "pick"] e.dependencies.toList ∧
      ∀ name, name ∈ e.dependencies.toList ↔ ∃ x, IsWithin x e ∧ ReadsMember name x := by
  intro argument e
  have hat : e.walk[3]? = some argument := by
    simp [e, argument, walk, walkAll, ofCall, ofRead, identifier]
  have hnames : e.walk.filterMap componentName? = ["rows", "a", "pick"] := by decide +kernel
  obtain ⟨⟨-, hlength, -, hprefix, -, -⟩, hsummary, hmem, -⟩ := walk_exact e
  rw [hnames] at hsummary
  exact ⟨hat, hprefix 3 argument hat, by decide +kernel, hlength, hsummary, hmem⟩

end TemplateQuery.Expr
