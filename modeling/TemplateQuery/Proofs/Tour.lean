import Mathlib.Data.List.Basic
import Mathlib.Tactic

namespace TemplateQuery

variable {α : Type}

structure IsTour (at? : List Nat → Option α) (places : List (List Nat)) (seen : List α) : Prop where
  inOrder : places.Pairwise (· < ·)
  reached : ∀ place, place ∈ places ↔ (at? place).isSome
  seen : places.map at? = seen.map some

theorem map_filter_bind {β : Type} {at? : List Nat → Option α} {places : List (List Nat)}
    {seen : List α} (h : places.map at? = seen.map some) (f : α → Option β) :
    (places.filter fun p => ((at? p).bind f).isSome).map (fun p => (at? p).bind f) =
      (seen.filterMap f).map some := by
  induction places generalizing seen with
  | nil =>
    obtain rfl : seen = [] := by simpa using h.symm
    rfl
  | cons p places ih =>
    cases seen with
    | nil => simp at h
    | cons a seen =>
      simp only [List.map_cons, List.cons.injEq] at h
      cases hf : f a with
      | none => simp [h.1, hf, ih h.2]
      | some c => simp [h.1, hf, ih h.2]

theorem IsTour.filterMap {β : Type} {at? : List Nat → Option α} {places : List (List Nat)}
    {seen : List α} (h : IsTour at? places seen) (f : α → Option β) :
    IsTour (fun p => (at? p).bind f) (places.filter fun p => ((at? p).bind f).isSome)
      (seen.filterMap f) := by
  refine ⟨h.inOrder.filter _, ?_, map_filter_bind h.seen f⟩
  intro p
  rw [List.mem_filter, h.reached p]
  constructor
  · intro hp
    exact hp.2
  · intro hp
    refine ⟨?_, hp⟩
    cases ha : at? p with
    | none => simp [ha] at hp
    | some a => rfl

def nodeAt? (children : α → List α) (a : α) : List Nat → Option α
  | [] => some a
  | i :: place => (children a)[i]?.bind (nodeAt? children · place)

def forestAt? (children : α → List α) (as : List α) : List Nat → Option α
  | [] => none
  | i :: place => as[i]?.bind (nodeAt? children · place)

def nextSibling : List Nat → List Nat
  | [] => []
  | i :: place => (i + 1) :: place

theorem nextSibling_lt {p q : List Nat} (hp : p ≠ []) (hpq : p < q) :
    nextSibling p < nextSibling q := by
  cases p with
  | nil => contradiction
  | cons i p =>
    cases q with
    | nil => simp at hpq
    | cons j q =>
      rw [List.cons_lt_cons_iff] at hpq
      simp only [nextSibling, List.cons_lt_cons_iff]
      rcases hpq with hij | ⟨rfl, hpq⟩
      · exact .inl (Nat.succ_lt_succ hij)
      · exact .inr ⟨rfl, hpq⟩

section Tree

variable {children : α → List α} {walk : α → List α} {a : α} {as seen later : List α}
variable {places laterPlaces : List (List Nat)}

theorem IsTour.exists_eq_cons (h : IsTour (forestAt? children as) places seen) {place : List Nat}
    (hp : place ∈ places) : ∃ i rest, place = i :: rest := by
  have hs := (h.reached place).1 hp
  cases place with
  | nil => simp [forestAt?] at hs
  | cons i rest => exact ⟨i, rest, rfl⟩

theorem IsTour.siblings (ha : IsTour (nodeAt? children a) places seen)
    (has : IsTour (forestAt? children as) laterPlaces later) :
    IsTour (forestAt? children (a :: as)) (places.map (0 :: ·) ++ laterPlaces.map nextSibling)
      (seen ++ later) := by
  have hn : ∀ p ∈ laterPlaces,
      forestAt? children (a :: as) (nextSibling p) = forestAt? children as p := by
    intro p hp
    obtain ⟨i, p, rfl⟩ := has.exists_eq_cons hp
    rfl
  constructor
  · refine List.pairwise_append.2 ⟨?_, ?_, ?_⟩
    · refine List.pairwise_map.2 (ha.inOrder.imp ?_)
      intro p q hpq
      exact List.cons_lt_cons_iff.2 (.inr ⟨rfl, hpq⟩)
    · refine List.pairwise_map.2 (has.inOrder.imp_of_mem ?_)
      intro p q hp hq hpq
      obtain ⟨i, p, rfl⟩ := has.exists_eq_cons hp
      exact nextSibling_lt (by simp) hpq
    · intro p hp q hq
      obtain ⟨p, -, rfl⟩ := List.mem_map.1 hp
      obtain ⟨next, hnext, rfl⟩ := List.mem_map.1 hq
      obtain ⟨j, q, rfl⟩ := has.exists_eq_cons hnext
      exact List.cons_lt_cons_iff.2 (.inl (Nat.succ_pos j))
  · intro place
    rw [List.mem_append, List.mem_map, List.mem_map]
    constructor
    · rintro (⟨p, hp, rfl⟩ | ⟨p, hp, rfl⟩)
      · exact (ha.reached p).1 hp
      · rw [hn p hp]
        exact (has.reached p).1 hp
    · intro hs
      cases place with
      | nil => simp [forestAt?] at hs
      | cons i p =>
        cases i with
        | zero => exact .inl ⟨p, (ha.reached p).2 hs, rfl⟩
        | succ i => exact .inr ⟨i :: p, (has.reached (i :: p)).2 hs, rfl⟩
  · have hm : (laterPlaces.map nextSibling).map (forestAt? children (a :: as)) =
        laterPlaces.map (forestAt? children as) := by
      rw [List.map_map]
      exact List.map_congr_left hn
    rw [List.map_append, List.map_append, hm, has.seen, ← ha.seen, List.map_map]
    rfl

theorem IsTour.below (h : IsTour (forestAt? children (children a)) places seen) :
    IsTour (nodeAt? children a) ([] :: places) (a :: seen) := by
  have hc : ∀ p ∈ places, nodeAt? children a p = forestAt? children (children a) p := by
    intro p hp
    obtain ⟨i, p, rfl⟩ := h.exists_eq_cons hp
    rfl
  constructor
  · refine List.pairwise_cons.2 ⟨?_, h.inOrder⟩
    intro p hp
    obtain ⟨i, p, rfl⟩ := h.exists_eq_cons hp
    exact List.nil_lt_cons i p
  · intro place
    cases place with
    | nil => simp [nodeAt?]
    | cons i p => simpa [forestAt?, nodeAt?] using h.reached (i :: p)
  · rw [List.map_cons, List.map_cons, List.map_congr_left hc, h.seen]
    rfl

theorem prefix_drop_flatMap {i : Nat} {x : α}
    (h : ∀ a ∈ as, ∀ i, (walk a)[i]? = some x → walk x <+: (walk a).drop i)
    (hx : (as.flatMap walk)[i]? = some x) : walk x <+: (as.flatMap walk).drop i := by
  induction as generalizing i with
  | nil => simp at hx
  | cons a as ih =>
    rw [List.flatMap_cons] at hx ⊢
    by_cases hi : i < (walk a).length
    · rw [List.getElem?_append_left hi] at hx
      rw [List.drop_append_of_le_length hi.le]
      exact (h a (by simp) i hx).trans (List.prefix_append _ _)
    · have hle : (walk a).length ≤ i := Nat.not_lt.1 hi
      rw [List.getElem?_append_right hle] at hx
      rw [List.drop_append, List.drop_eq_nil_of_le hle, List.nil_append]
      exact ih (fun c hc => h c (by simp [hc])) hx

theorem exists_isTour_of_forall
    (h : ∀ a ∈ as, ∃ places, IsTour (nodeAt? children a) places (walk a)) :
    ∃ places, IsTour (forestAt? children as) places (as.flatMap walk) := by
  induction as with
  | nil =>
    refine ⟨[], .nil, ?_, rfl⟩
    intro place
    cases place <;> simp [forestAt?]
  | cons a as ih =>
    obtain ⟨places, ha⟩ := h a (by simp)
    obtain ⟨laterPlaces, has⟩ := ih fun c hc => h c (by simp [hc])
    exact ⟨_, ha.siblings has⟩

variable (hw : ∀ a, walk a = a :: (children a).flatMap walk)

include hw

theorem length_walk_lt_of_mem {c : α} (h : c ∈ children a) :
    (walk c).length < (walk a).length := by
  have hc : (walk c).length ≤ ((children a).flatMap walk).length := by
    rw [List.length_flatMap]
    exact List.le_sum_of_mem (List.mem_map_of_mem h)
  rw [hw a, List.length_cons]
  omega

theorem prefix_drop_walk {x : α} (a : α) (i : Nat) (hx : (walk a)[i]? = some x) :
    walk x <+: (walk a).drop i := by
  cases i with
  | zero =>
    obtain rfl : a = x := by simpa [hw a] using hx
    rw [List.drop_zero]
  | succ i =>
    rw [hw a, List.getElem?_cons_succ] at hx
    rw [hw a, List.drop_succ_cons]
    exact prefix_drop_flatMap (fun c hc j hj =>
      have := length_walk_lt_of_mem hw hc
      prefix_drop_walk c j hj) hx
termination_by (walk a).length

theorem exists_isTour (a : α) : ∃ places, IsTour (nodeAt? children a) places (walk a) := by
  have hc : ∃ places,
      IsTour (forestAt? children (children a)) places ((children a).flatMap walk) :=
    exists_isTour_of_forall fun c hmem =>
      have := length_walk_lt_of_mem hw hmem
      exists_isTour c
  obtain ⟨places, h⟩ := hc
  rw [hw]
  exact ⟨_, h.below⟩
termination_by (walk a).length

theorem exists_isTour_forest (as : List α) :
    ∃ places, IsTour (forestAt? children as) places (as.flatMap walk) :=
  exists_isTour_of_forall fun a _ => exists_isTour hw a

end Tree

end TemplateQuery
