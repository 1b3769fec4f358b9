import Mathlib.Tactic
import TemplateQuery.Proofs.Node.Preorder

namespace TemplateQuery

namespace Visit

def isEmptyBranch : Visit → Bool
  | .emptyBranch _ => true
  | _ => false

def emptyBranches : Visit → List Visit
  | .node (.forBlock n) => n.empty.toList.map .emptyBranch
  | _ => []

theorem children_true (v : Visit) : v.children true = v.children false ++ v.emptyBranches := by
  cases v with
  | node n => cases n <;> simp [children, emptyBranches]
  | emptyBranch e => simp [children, emptyBranches]
  | switchCase c => simp [children, emptyBranches]

theorem isEmptyBranch_of_mem_emptyBranches {v c : Visit} (h : c ∈ v.emptyBranches) :
    c.isEmptyBranch = true := by
  unfold emptyBranches at h
  split at h
  · obtain ⟨e, -, rfl⟩ := List.mem_map.1 h
    rfl
  · cases h

theorem isEmptyBranch_of_mem_map {ns : List Node} {c : Visit} (h : c ∈ ns.map .node) :
    c.isEmptyBranch = false := by
  obtain ⟨n, -, rfl⟩ := List.mem_map.1 h
  rfl

theorem isEmptyBranch_of_mem_children {v c : Visit} (h : c ∈ v.children false) :
    c.isEmptyBranch = false := by
  cases v with
  | emptyBranch e => exact isEmptyBranch_of_mem_map h
  | switchCase k => exact isEmptyBranch_of_mem_map h
  | node n =>
    cases n with
    | comment n => cases h
    | text n => cases h
    | boundText n => cases h
    | letDeclaration n => cases h
    | unknownBlock n => cases h
    | element n => exact isEmptyBranch_of_mem_map h
    | embedded n => exact isEmptyBranch_of_mem_map h
    | content n => exact isEmptyBranch_of_mem_map h
    | ifBlock n => exact isEmptyBranch_of_mem_map h
    | deferBlock n => exact isEmptyBranch_of_mem_map h
    | forBlock n => exact isEmptyBranch_of_mem_map (by simpa [children] using h)
    | switchBlock n =>
      obtain ⟨k, -, rfl⟩ := List.mem_map.1 h
      rfl

-- The branch for an empty loop is the last of what is below the loop: without it, what is left
-- keeps its numbers.
theorem getElem?_children_false (v : Visit) (i : Nat) :
    (v.children false)[i]? = (v.children true)[i]?.filter (!·.isEmptyBranch) := by
  rw [children_true]
  by_cases hi : i < (v.children false).length
  · rw [List.getElem?_append_left hi, List.getElem?_eq_getElem hi, Option.filter_some]
    simp [isEmptyBranch_of_mem_children (List.getElem_mem hi)]
  · rw [List.getElem?_append_right (Nat.not_lt.1 hi), List.getElem?_eq_none (Nat.not_lt.1 hi)]
    refine (Option.filter_eq_none_iff.2 ?_).symm
    intro c hc
    simp [isEmptyBranch_of_mem_emptyBranches (List.mem_of_getElem? hc)]

def entersEmpty (v : Visit) (place : List Nat) : Bool :=
  place.inits.any fun above => (v.at? true above).any isEmptyBranch

theorem entersEmpty_nil (v : Visit) : v.entersEmpty [] = v.isEmptyBranch := by
  simp [entersEmpty, at?]

theorem entersEmpty_cons (v : Visit) (i : Nat) (place : List Nat) :
    v.entersEmpty (i :: place) =
      (v.isEmptyBranch || (v.children true)[i]?.any (·.entersEmpty place)) := by
  cases h : (v.children true)[i]? <;>
    simp [entersEmpty, at?, h, List.any_map, Function.comp_def]

theorem at?_false {v : Visit} (hv : v.isEmptyBranch = false) (place : List Nat) :
    v.at? false place = if v.entersEmpty place then none else v.at? true place := by
  induction place generalizing v with
  | nil => simp [entersEmpty_nil, hv, at?]
  | cons i place ih =>
    rw [at?, at?, getElem?_children_false, entersEmpty_cons, hv, Bool.false_or]
    cases hc : (v.children true)[i]? with
    | none => simp
    | some c =>
      cases he : c.isEmptyBranch with
      | true =>
        have hin : c.entersEmpty place = true := by
          cases place with
          | nil => rw [entersEmpty_nil, he]
          | cons j place => rw [entersEmpty_cons, he, Bool.true_or]
        simp [he, hin]
      | false =>
        rw [Option.filter_some_pos (by simp [he]), Option.bind_some, Option.any_some]
        exact ih he

end Visit

def inEmptyBranch (vs : List Visit) (place : List Nat) : Bool :=
  place.inits.any fun above => (visitAt? true vs above).any Visit.isEmptyBranch

theorem inEmptyBranch_cons (vs : List Visit) (i : Nat) (place : List Nat) :
    inEmptyBranch vs (i :: place) = vs[i]?.any (·.entersEmpty place) := by
  cases h : vs[i]? <;>
    simp [inEmptyBranch, Visit.entersEmpty, visitAt?, h, List.any_map, Function.comp_def]

theorem visitAt?_false (forest : List Node) (place : List Nat) :
    visitAt? false (forest.map .node) place =
      if inEmptyBranch (forest.map .node) place then none
      else visitAt? true (forest.map .node) place := by
  cases place with
  | nil => simp [visitAt?]
  | cons i place =>
    rw [visitAt?, visitAt?, inEmptyBranch_cons]
    cases h : (forest.map Visit.node)[i]? with
    | none => simp
    | some v =>
      have hv := Visit.isEmptyBranch_of_mem_map (List.mem_of_getElem? h)
      simp [Visit.at?_false hv]

theorem exists_isTour_walk_false (forest : List Node) :
    ∃ places, IsTour (visitAt? true (forest.map .node)) places (walk true forest) ∧
      (walk false forest).map some =
        (places.filter fun place => !inEmptyBranch (forest.map .node) place).map
          (visitAt? true (forest.map .node)) := by
  obtain ⟨places, ht⟩ := exists_isTour_walk (b := true) forest
  obtain ⟨others, hf⟩ := exists_isTour_walk (b := false) forest
  have hp : others = places.filter fun place => !inEmptyBranch (forest.map .node) place := by
    refine hf.inOrder.eq_of_mem_iff (ht.inOrder.filter _) ?_
    intro place
    rw [List.mem_filter, hf.reached place, ht.reached place, visitAt?_false]
    cases inEmptyBranch (forest.map .node) place <;> simp
  refine ⟨places, ht, ?_⟩
  rw [← hf.seen, hp]
  refine List.map_congr_left ?_
  intro place hmem
  have hout := (List.mem_filter.1 hmem).2
  rw [visitAt?_false]
  cases h : inEmptyBranch (forest.map .node) place with
  | true => simp [h] at hout
  | false => rfl

theorem walk_false_sublist (forest : List Node) :
    (walk false forest).Sublist (walk true forest) := by
  obtain ⟨places, ht, hf⟩ := exists_isTour_walk_false forest
  have h : ((walk false forest).map some).Sublist ((walk true forest).map some) := by
    rw [hf, ← ht.seen]
    exact List.filter_sublist.map _
  simpa [List.filterMap_map, Function.comp_def] using h.filterMap id

theorem children_true_of_empty {v : Visit} (h : ∀ n, v = .node (.forBlock n) → n.empty = none) :
    v.children true = v.children false := by
  have he : v.emptyBranches = [] := by
    unfold Visit.emptyBranches
    split
    · rw [h _ rfl]
      rfl
    · rfl
  rw [Visit.children_true, he, List.append_nil]

theorem preorder_true_of_empty (v : Visit)
    (h : ∀ n, .node (.forBlock n) ∈ v.preorder false → n.empty = none) :
    v.preorder true = v.preorder false := by
  have hv : v.children true = v.children false := by
    refine children_true_of_empty ?_
    rintro n rfl
    refine h n ?_
    rw [preorder_eq]
    exact List.mem_cons_self
  rw [preorder_eq, preorder_eq (b := false), hv]
  congr 1
  refine List.flatMap_congr ?_
  intro c hc
  have := weight_children_lt false v
  have := weight_le_of_mem hc
  refine preorder_true_of_empty c ?_
  intro n hn
  refine h n ?_
  rw [preorder_eq]
  exact List.mem_cons_of_mem _ (List.mem_flatMap.2 ⟨c, hc, hn⟩)
termination_by v.weight

theorem walk_true_of_empty {forest : List Node}
    (h : ∀ n, .node (.forBlock n) ∈ walk false forest → n.empty = none) :
    walk true forest = walk false forest := by
  rw [walk_eq, preorderAll_eq] at h ⊢
  rw [walk_eq, preorderAll_eq]
  refine List.flatMap_congr ?_
  intro v hv
  refine preorder_true_of_empty v ?_
  intro n hn
  exact h n (List.mem_flatMap.2 ⟨v, hv, hn⟩)

end TemplateQuery
