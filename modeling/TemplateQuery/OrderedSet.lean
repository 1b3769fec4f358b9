namespace TemplateQuery

section FirstSeen

variable {α : Type} [DecidableEq α]

def firstSeen : List α → List α
  | [] => []
  | a :: rest => a :: (firstSeen rest).filter (· ≠ a)

@[simp] theorem mem_firstSeen {a : α} {l : List α} : a ∈ firstSeen l ↔ a ∈ l := by
  induction l with
  | nil => simp [firstSeen]
  | cons b rest ih => by_cases h : a = b <;> simp [firstSeen, ih, h]

theorem nodup_firstSeen (l : List α) : (firstSeen l).Nodup := by
  induction l with
  | nil => simp [firstSeen]
  | cons b rest ih =>
    simp only [firstSeen, List.nodup_cons]
    exact ⟨by simp, ih.sublist List.filter_sublist⟩

theorem firstSeen_of_nodup {l : List α} (h : l.Nodup) : firstSeen l = l := by
  induction l with
  | nil => rfl
  | cons b rest ih =>
    obtain ⟨hb, hr⟩ := List.nodup_cons.1 h
    simp only [firstSeen, ih hr]
    congr 1
    refine List.filter_eq_self.2 fun a ha => ?_
    simp only [ne_eq, decide_eq_true_eq]
    rintro rfl
    exact hb ha

theorem firstSeen_append (l r : List α) :
    firstSeen (l ++ r) = firstSeen l ++ (firstSeen r).filter (· ∉ l) := by
  induction l with
  | nil =>
    simp only [List.nil_append, firstSeen, List.not_mem_nil, not_false_eq_true, decide_true]
    exact (List.filter_eq_self.2 fun _ _ => rfl).symm
  | cons b rest ih =>
    simp only [List.cons_append, firstSeen, ih, List.filter_append, List.filter_filter]
    congr 2
    refine List.filter_congr fun a _ => ?_
    simp [not_or]

end FirstSeen

structure OrderedSet (α : Type) [DecidableEq α] where
  toList : List α
  nodup : toList.Nodup

namespace OrderedSet

variable {α : Type} [DecidableEq α]

def ofList (l : List α) : OrderedSet α :=
  ⟨firstSeen l, nodup_firstSeen l⟩

@[simp] theorem toList_ofList (l : List α) : (ofList l).toList = firstSeen l := rfl

@[simp] theorem ofList_toList (s : OrderedSet α) : ofList s.toList = s := by
  cases s with
  | mk l h => simp [ofList, firstSeen_of_nodup h]

end OrderedSet

variable {α : Type} [DecidableEq α]

structure IsSummary (met answer : List α) : Prop where
  nodup : answer.Nodup
  mem : ∀ x, x ∈ answer ↔ x ∈ met
  inOrder : answer.Pairwise fun x y => met.idxOf x < met.idxOf y

theorem pairwise_firstSeen (l : List α) :
    (firstSeen l).Pairwise fun x y => l.idxOf x < l.idxOf y := by
  induction l with
  | nil => exact .nil
  | cons a rest ih =>
    have hne : ∀ {x}, x ∈ (firstSeen rest).filter (· ≠ a) → a ≠ x := by
      intro x hx
      have h := (List.mem_filter.1 hx).2
      exact Ne.symm (by simpa using h)
    have hidx : ∀ {x}, a ≠ x → (a :: rest).idxOf x = rest.idxOf x + 1 := by
      intro x hx
      rw [List.idxOf_cons, beq_false_of_ne hx, cond_false]
    rw [firstSeen]
    refine List.pairwise_cons.2 ⟨?_, ?_⟩
    · intro x hx
      rw [List.idxOf_cons_self, hidx (hne hx)]
      exact Nat.succ_pos _
    · refine (ih.filter _).imp_of_mem ?_
      intro x y hx hy hxy
      rw [hidx (hne hx), hidx (hne hy)]
      exact Nat.succ_lt_succ hxy

theorem isSummary_ofList (l : List α) : IsSummary l (OrderedSet.ofList l).toList :=
  ⟨nodup_firstSeen l, fun _ => mem_firstSeen, pairwise_firstSeen l⟩

theorem toList_ofList_append (l r : List α) :
    (OrderedSet.ofList (l ++ r)).toList =
      (OrderedSet.ofList l).toList ++
        (OrderedSet.ofList r).toList.filter (· ∉ (OrderedSet.ofList l).toList) := by
  simp only [OrderedSet.toList_ofList, firstSeen_append, mem_firstSeen]

end TemplateQuery
