import Mathlib.Tactic
import TemplateQuery.Document.Reader
import TemplateQuery.Proofs.Json.Record

namespace TemplateQuery

open Json Schema

namespace Json

variable {α : Type} {read read' : Json → Option α} {j : Json}

theorem mem_of_lookup {name : String} {c : Json} {members : List (String × Json)}
    (h : members.lookup name = some c) : (name, c) ∈ members := by
  obtain ⟨l, l', rfl, -⟩ := List.lookup_eq_some_iff.1 h
  simp

theorem depth_lt_of_record? {names : List String} {r : Record} (h : record? names j = some r) :
    ∀ m ∈ r.members, m.2.depth < j.depth := by
  cases j with
  | object members =>
    obtain rfl := Option.some.inj h
    exact fun m hm => depth_lt_object hm
  | array items =>
    rw [record?] at h
    split at h
    · obtain rfl := Option.some.inj h
      exact fun m hm => depth_lt_array (List.of_mem_zip (show (m.1, m.2) ∈ _ from hm)).2
    · contradiction
  | _ => contradiction

theorem depth_lt_of_tagged? {tag content : String} {c : Json} {name : String}
    (h : tagged? tag content j = some (name, some c)) : c.depth < j.depth := by
  unfold tagged? at h
  split at h
  case h_1 members =>
    obtain ⟨n, hn, h⟩ := Option.bind_eq_some_iff.1 h
    have hc : members.lookup content = some c := congrArg Prod.snd (Option.some.inj h)
    exact depth_lt_object (mem_of_lookup hc)
  case h_2 =>
    obtain ⟨rfl, rfl⟩ : _ ∧ _ := by simpa using h
    exact depth_lt_array (by simp)
  case h_3 => contradiction

theorem tagged?_of_depth_zero {tag content : String} (h : j.depth = 0) :
    tagged? tag content j = none := by
  cases j with
  | array | object => simp [depth] at h
  | _ => rfl

theorem list?_congr (h : ∀ i, i.depth < j.depth → read i = read' i) :
    list? read j = list? read' j := by
  cases j with
  | array items =>
    have hall : ∀ i ∈ items, read i = read' i := fun i hi => h i (depth_lt_array hi)
    rw [list?, list?]
    clear h
    induction items with
    | nil => rfl
    | cons i rest ih =>
      rw [List.forall_mem_cons] at hall
      rw [decodeAll, decodeAll, hall.1, ih hall.2]
  | _ => rfl

theorem nullable?_congr (h : read j = read' j) : nullable? read j = nullable? read' j := by
  cases j with
  | null => rfl
  | _ => exact congrArg (Option.map some) h

namespace Record

variable {r : Record} {name : String} {default : α}

theorem required_congr (h : ∀ m ∈ r.members, read m.2 = read' m.2) :
    r.required name read = r.required name read' :=
  Option.bind_congr fun _ hj => h (name, _) (mem_of_lookup hj)

theorem optional_congr (h : ∀ m ∈ r.members, read m.2 = read' m.2) :
    r.optional name read default = r.optional name read' default := by
  unfold optional
  split
  · rfl
  case h_2 j hj => exact h (name, j) (mem_of_lookup hj)

theorem listAt_congr {names : List String} (hr : record? names j = some r)
    (h : ∀ i, i.depth < j.depth → read i = read' i) (name : String) :
    r.optional name (list? read) [] = r.optional name (list? read') [] :=
  optional_congr fun m hm =>
    list?_congr fun i hi => h i (hi.trans (depth_lt_of_record? hr m hm))

theorem nullableAt_congr {names : List String} (hr : record? names j = some r)
    (h : ∀ i, i.depth < j.depth → read i = read' i) (name : String) :
    r.nullable name read = r.nullable name read' :=
  optional_congr fun m hm => nullable?_congr (h m.2 (depth_lt_of_record? hr m hm))

end Record

section

variable {next : (Json → Option α) → Json → Option α} {bounded : Nat → Json → Option α}

theorem bounded_eq (hzero : ∀ j, bounded 0 j = none)
    (hsucc : ∀ n j, bounded (n + 1) j = next (bounded n) j)
    (hflat : ∀ read j, j.depth = 0 → next read j = none)
    (hnext : ∀ read read' j, (∀ i, i.depth < j.depth → read i = read' i) →
      next read j = next read' j)
    {n m : Nat} (hn : j.depth ≤ n) (hm : j.depth ≤ m) : bounded n j = bounded m j := by
  have hnone : ∀ n j, j.depth = 0 → bounded n j = none := by
    intro n j hj
    cases n with
    | zero => exact hzero j
    | succ n => rw [hsucc, hflat _ j hj]
  induction n generalizing m j with
  | zero =>
    have hj : j.depth = 0 := Nat.le_zero.1 hn
    rw [hnone _ j hj, hnone _ j hj]
  | succ n ih =>
    cases m with
    | zero =>
      have hj : j.depth = 0 := Nat.le_zero.1 hm
      rw [hnone _ j hj, hnone _ j hj]
    | succ m =>
      rw [hsucc, hsucc]
      exact hnext _ _ j fun i hi => ih (by omega) (by omega)

theorem bounded_depth_eq (hzero : ∀ j, bounded 0 j = none)
    (hsucc : ∀ n j, bounded (n + 1) j = next (bounded n) j)
    (hflat : ∀ read j, j.depth = 0 → next read j = none)
    (hnext : ∀ read read' j, (∀ i, i.depth < j.depth → read i = read' i) →
      next read j = next read' j) :
    bounded j.depth j = next (fun i => bounded i.depth i) j := by
  rw [bounded_eq hzero hsucc hflat hnext le_rfl (Nat.le_succ _), hsucc]
  exact hnext _ _ j fun i hi => bounded_eq hzero hsucc hflat hnext hi.le le_rfl

end

end Json

namespace Expr

theorem ofRecord?_congr {expr expr' : Json → Option Expr} {r : Record} (k : RecordKind)
    (h : ∀ m ∈ r.members, ∀ i, i.depth ≤ m.2.depth → expr i = expr' i) :
    ofRecord? expr k r = ofRecord? expr' k r := by
  have hone : ∀ name, r.required name expr = r.required name expr' :=
    fun name => r.required_congr fun m hm => h m hm m.2 le_rfl
  have hlist : ∀ name, r.required name (list? expr) = r.required name (list? expr') :=
    fun name => r.required_congr fun m hm => list?_congr fun i hi => h m hm i hi.le
  have hargs : ∀ name, r.optional name (list? expr) [] = r.optional name (list? expr') [] :=
    fun name => r.optional_congr fun m hm => list?_congr fun i hi => h m hm i hi.le
  unfold ofRecord?
  simp only [hone, hlist, hargs]

def next (expr : Json → Option Expr) (j : Json) : Option Expr := do
  let (variant, content) ← UnionKind.expr.read? j
  let kind ← UnionKind.exprRecords.find? (·.name = variant)
  let r ← content.bind kind.read?
  ofRecord? expr kind r

theorem next_congr {expr expr' : Json → Option Expr} {j : Json}
    (h : ∀ i, i.depth < j.depth → expr i = expr' i) : next expr j = next expr' j := by
  refine Option.bind_congr fun ⟨variant, content⟩ hread => ?_
  refine Option.bind_congr fun kind _ => ?_
  refine Option.bind_congr fun r hr => ?_
  obtain ⟨c, rfl, hr⟩ := Option.bind_eq_some_iff.1 hr
  have hc : c.depth < j.depth := depth_lt_of_tagged? hread
  refine ofRecord?_congr kind fun m hm i hi => ?_
  have hm : m.2.depth < c.depth := depth_lt_of_record? hr m hm
  exact h i (by omega)

theorem next_of_depth_zero {expr : Json → Option Expr} {j : Json} (h : j.depth = 0) :
    next expr j = none := by
  rw [next, UnionKind.read?, tagged?_of_depth_zero h]
  rfl

theorem ofJson?_eq (j : Json) : ofJson? j = next ofJson? j :=
  bounded_depth_eq (fun _ => rfl) (fun _ _ => rfl) (fun _ _ => next_of_depth_zero)
    fun _ _ _ => next_congr

end Expr

section

variable {node node' : Json → Option Node} {j : Json}

theorem Element.read?_congr (h : ∀ i, i.depth < j.depth → node i = node' i) :
    Element.read? node j = Element.read? node' j := by
  refine Option.bind_congr fun r hr => ?_
  have hchildren := r.listAt_congr hr h "children"
  simp only [hchildren]

theorem Embedded.read?_congr (h : ∀ i, i.depth < j.depth → node i = node' i) :
    Embedded.read? node j = Embedded.read? node' j := by
  refine Option.bind_congr fun r hr => ?_
  have hchildren := r.listAt_congr hr h "children"
  simp only [hchildren]

theorem ContentSlot.read?_congr (h : ∀ i, i.depth < j.depth → node i = node' i) :
    ContentSlot.read? node j = ContentSlot.read? node' j := by
  refine Option.bind_congr fun r hr => ?_
  have hchildren := r.listAt_congr hr h "children"
  simp only [hchildren]

theorem IfBranch.read?_congr (h : ∀ i, i.depth < j.depth → node i = node' i) :
    IfBranch.read? node j = IfBranch.read? node' j := by
  refine Option.bind_congr fun r hr => ?_
  have hchildren := r.listAt_congr hr h "children"
  simp only [hchildren]

theorem EmptyBranch.read?_congr (h : ∀ i, i.depth < j.depth → node i = node' i) :
    EmptyBranch.read? node j = EmptyBranch.read? node' j := by
  refine Option.bind_congr fun r hr => ?_
  have hchildren := r.listAt_congr hr h "children"
  simp only [hchildren]

theorem SwitchCase.read?_congr (h : ∀ i, i.depth < j.depth → node i = node' i) :
    SwitchCase.read? node j = SwitchCase.read? node' j := by
  refine Option.bind_congr fun r hr => ?_
  have hchildren := r.listAt_congr hr h "children"
  simp only [hchildren]

theorem DeferPlaceholder.read?_congr (h : ∀ i, i.depth < j.depth → node i = node' i) :
    DeferPlaceholder.read? node j = DeferPlaceholder.read? node' j := by
  refine Option.bind_congr fun r hr => ?_
  have hchildren := r.listAt_congr hr h "children"
  simp only [hchildren]

theorem DeferLoading.read?_congr (h : ∀ i, i.depth < j.depth → node i = node' i) :
    DeferLoading.read? node j = DeferLoading.read? node' j := by
  refine Option.bind_congr fun r hr => ?_
  have hchildren := r.listAt_congr hr h "children"
  simp only [hchildren]

theorem DeferError.read?_congr (h : ∀ i, i.depth < j.depth → node i = node' i) :
    DeferError.read? node j = DeferError.read? node' j := by
  refine Option.bind_congr fun r hr => ?_
  have hchildren := r.listAt_congr hr h "children"
  simp only [hchildren]

theorem IfBlock.read?_congr (h : ∀ i, i.depth < j.depth → node i = node' i) :
    IfBlock.read? node j = IfBlock.read? node' j := by
  refine Option.bind_congr fun r hr => ?_
  have hbranches := r.listAt_congr hr (fun i hi => IfBranch.read?_congr fun i' hi' =>
    h i' (hi'.trans hi)) "branches"
  simp only [hbranches]

theorem ForBlock.read?_congr (h : ∀ i, i.depth < j.depth → node i = node' i) :
    ForBlock.read? node j = ForBlock.read? node' j := by
  refine Option.bind_congr fun r hr => ?_
  have hchildren := r.listAt_congr hr h "children"
  have hempty := r.nullableAt_congr hr (fun i hi => EmptyBranch.read?_congr fun i' hi' =>
    h i' (hi'.trans hi)) "empty"
  simp only [hchildren, hempty]

theorem SwitchBlock.read?_congr (h : ∀ i, i.depth < j.depth → node i = node' i) :
    SwitchBlock.read? node j = SwitchBlock.read? node' j := by
  refine Option.bind_congr fun r hr => ?_
  have hcases := r.listAt_congr hr (fun i hi => SwitchCase.read?_congr fun i' hi' =>
    h i' (hi'.trans hi)) "cases"
  simp only [hcases]

theorem DeferBlock.read?_congr (h : ∀ i, i.depth < j.depth → node i = node' i) :
    DeferBlock.read? node j = DeferBlock.read? node' j := by
  refine Option.bind_congr fun r hr => ?_
  have hchildren := r.listAt_congr hr h "children"
  have hplaceholder := r.nullableAt_congr hr (fun i hi => DeferPlaceholder.read?_congr fun i' hi' =>
    h i' (hi'.trans hi)) "placeholder"
  have hloading := r.nullableAt_congr hr (fun i hi => DeferLoading.read?_congr fun i' hi' =>
    h i' (hi'.trans hi)) "loading"
  have herror := r.nullableAt_congr hr (fun i hi => DeferError.read?_congr fun i' hi' =>
    h i' (hi'.trans hi)) "error"
  simp only [hchildren, hplaceholder, hloading, herror]

theorem Node.read?_congr (k : RecordKind) (h : ∀ i, i.depth < j.depth → node i = node' i) :
    Node.read? node k j = Node.read? node' k j := by
  unfold Node.read?
  simp only [Element.read?_congr h, Embedded.read?_congr h, ContentSlot.read?_congr h,
    IfBlock.read?_congr h, ForBlock.read?_congr h, SwitchBlock.read?_congr h,
    DeferBlock.read?_congr h]

end

namespace Node

variable {node node' : Json → Option Node} {j : Json}

def next (node : Json → Option Node) (j : Json) : Option Node := do
  let (variant, held) ← UnionKind.node.read? j
  let kind ← UnionKind.nodeRecords.find? (·.name = variant)
  held.bind (read? node kind)

theorem next_congr (h : ∀ i, i.depth < j.depth → node i = node' i) :
    next node j = next node' j := by
  refine Option.bind_congr fun ⟨variant, held⟩ hread => ?_
  refine Option.bind_congr fun kind _ => ?_
  refine Option.bind_congr fun c hc => ?_
  obtain rfl : held = some c := hc
  have hc : c.depth < j.depth := depth_lt_of_tagged? hread
  exact read?_congr kind fun i hi => h i (hi.trans hc)

theorem next_of_depth_zero (h : j.depth = 0) : next node j = none := by
  rw [next, UnionKind.read?, tagged?_of_depth_zero h]
  rfl

theorem ofJson?_eq (j : Json) : ofJson? j = next ofJson? j :=
  bounded_depth_eq (fun _ => rfl) (fun _ _ => rfl) (fun _ _ => next_of_depth_zero)
    fun _ _ _ => next_congr

end Node

end TemplateQuery
