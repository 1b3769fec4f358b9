import Mathlib.Tactic
import TemplateQuery.Files.Path

namespace TemplateQuery.Path

namespace Component

variable {a b c : Component}

theorem before_iff :
    a.before b = true ↔ a.rank < b.rank ∨ (a.rank = b.rank ∧ a.label < b.label) := by
  simp [before]

theorem eq_of_rank_of_label (hr : a.rank = b.rank) (hl : a.label = b.label) : a = b := by
  cases a <;> cases b <;> simp_all [rank, label, RawText.ext_iff]

theorem before_trans (hab : a.before b = true) (hbc : b.before c = true) : a.before c = true := by
  rw [before_iff] at *
  rcases hab with hab | ⟨hr, hl⟩
  · rcases hbc with hbc | ⟨hr', -⟩
    · exact .inl (hab.trans hbc)
    · exact .inl (hr' ▸ hab)
  · rcases hbc with hbc | ⟨hr', hl'⟩
    · exact .inl (hr ▸ hbc)
    · exact .inr ⟨hr.trans hr', List.lt_trans hl hl'⟩

theorem not_before_of_before (h : a.before b = true) : b.before a = false := by
  rw [Bool.eq_false_iff]
  intro h'
  rw [before_iff] at h h'
  rcases h with h | ⟨hr, hl⟩
  · rcases h' with h' | ⟨hr', -⟩ <;> omega
  · rcases h' with h' | ⟨-, hl'⟩
    · omega
    · exact List.lt_asymm hl hl'

theorem before_cases (a b : Component) : a.before b = true ∨ a = b ∨ b.before a = true := by
  simp only [before_iff]
  rcases lt_trichotomy a.rank b.rank with h | hr | h
  · exact .inl (.inl h)
  · rcases Std.lt_trichotomy a.label b.label with h | hl | h
    · exact .inl (.inr ⟨hr, h⟩)
    · exact .inr (.inl (eq_of_rank_of_label hr hl))
    · exact .inr (.inr (.inr ⟨hr.symm, h⟩))
  · exact .inr (.inr (.inl h))

end Component

theorem componentsLe_cons_iff {a b : Component} {as bs : List Component} :
    componentsLe (a :: as) (b :: bs) = true ↔
      a.before b = true ∨ (a = b ∧ componentsLe as bs = true) := by
  simp [componentsLe]

theorem componentsLe_total (as bs : List Component) :
    componentsLe as bs = true ∨ componentsLe bs as = true := by
  induction as generalizing bs with
  | nil => exact .inl rfl
  | cons a as ih =>
    cases bs with
    | nil => exact .inr rfl
    | cons b bs =>
      rw [componentsLe_cons_iff, componentsLe_cons_iff]
      rcases a.before_cases b with h | rfl | h
      · exact .inl (.inl h)
      · exact (ih bs).imp (fun h => .inr ⟨rfl, h⟩) fun h => .inr ⟨rfl, h⟩
      · exact .inr (.inl h)

theorem componentsLe_trans {as bs cs : List Component} (hab : componentsLe as bs = true)
    (hbc : componentsLe bs cs = true) : componentsLe as cs = true := by
  induction as generalizing bs cs with
  | nil => rfl
  | cons a as ih =>
    cases bs with
    | nil => contradiction
    | cons b bs =>
      cases cs with
      | nil => contradiction
      | cons c cs =>
        rw [componentsLe_cons_iff] at *
        rcases hab with hab | ⟨rfl, hab⟩
        · rcases hbc with hbc | ⟨rfl, -⟩
          · exact .inl (Component.before_trans hab hbc)
          · exact .inl hab
        · exact hbc.imp_right fun ⟨he, hbc⟩ => ⟨he, ih hab hbc⟩

theorem componentsLe_antisymm {as bs : List Component} (hab : componentsLe as bs = true)
    (hba : componentsLe bs as = true) : as = bs := by
  induction as generalizing bs with
  | nil =>
    cases bs with
    | nil => rfl
    | cons b bs => contradiction
  | cons a as ih =>
    cases bs with
    | nil => contradiction
    | cons b bs =>
      rw [componentsLe_cons_iff] at *
      rcases hab with hab | ⟨rfl, hab⟩
      · rcases hba with hba | ⟨rfl, -⟩
        · simp [Component.not_before_of_before hab] at hba
        · simp [Component.not_before_of_before hab] at hab
      · rcases hba with hba | ⟨-, hba⟩
        · simp [Component.not_before_of_before hba] at hba
        · rw [ih hab hba]

theorem le_trans (p q r : Path) (hpq : p.le q = true) (hqr : q.le r = true) : p.le r = true :=
  componentsLe_trans hpq hqr

theorem le_total (p q : Path) : (p.le q || q.le p) = true := by
  rw [Bool.or_eq_true]
  exact componentsLe_total p.components q.components

theorem pairwise_sort (ps : List Path) : (sort ps).Pairwise fun p q => p.le q = true :=
  List.pairwise_mergeSort le_trans le_total ps

@[simp] theorem mem_sort {p : Path} {ps : List Path} : p ∈ sort ps ↔ p ∈ ps :=
  List.mem_mergeSort

variable {cs : List Component} {p q : Path} {ps qs : List Path}

theorem filter_sort (cs : List Component) (ps : List Path) :
    (sort ps).filter (·.components = cs) = ps.filter (·.components = cs) := by
  have hle : (ps.filter (·.components = cs)).Pairwise fun p q => p.le q = true := by
    refine List.pairwise_of_forall_mem_list ?_
    intro p hp q hq
    have hpc : p.components = cs := by simpa using (List.mem_filter.1 hp).2
    have hqc : q.components = cs := by simpa using (List.mem_filter.1 hq).2
    rw [le, hpc, hqc]
    exact componentsLe_refl cs
  have hsub : (ps.filter (·.components = cs)).Sublist (sort ps) :=
    List.sublist_mergeSort le_trans le_total hle List.filter_sublist
  have hfil : (ps.filter (·.components = cs)).Sublist
      ((sort ps).filter (·.components = cs)) := by
    simpa using hsub.filter (·.components = cs)
  have hperm : (sort ps).Perm ps := List.mergeSort_perm ps le
  exact (hfil.eq_of_length (hperm.filter _).length_eq.symm).symm

theorem find?_sort (cs : List Component) (ps : List Path) :
    (sort ps).find? (·.components = cs) = ps.find? (·.components = cs) := by
  rw [← List.head?_filter, filter_sort, List.head?_filter]

theorem pairwise_distinct (ps : List Path) :
    (distinct ps).Pairwise fun p q => p.components ≠ q.components := by
  have h : ((distinct ps).map components).Nodup := by
    rw [map_components_distinct]
    exact nodup_firstSeen _
  exact List.pairwise_map.1 h

theorem find?_distinct (cs : List Component) (ps : List Path) :
    (distinct ps).find? (·.components = cs) = ps.find? (·.components = cs) := by
  induction ps with
  | nil => rfl
  | cons p ps ih =>
    rw [distinct, List.find?_cons, List.find?_cons]
    by_cases h : p.components = cs
    · simp [h]
    · have hne : ∀ q : Path, q.components ≠ p.components ∧ q.components = cs ↔ q.components = cs :=
        fun q => and_iff_right_of_imp fun hq => hq ▸ Ne.symm h
      simp only [h, decide_false, List.find?_filter, decide_eq_true_eq, hne, ih]

theorem mem_distinct_iff : p ∈ distinct ps ↔ ps.find? (·.components = p.components) = some p := by
  rw [← find?_distinct]
  constructor
  · intro hp
    obtain ⟨q, hq⟩ : ∃ q, (distinct ps).find? (·.components = p.components) = some q := by
      rw [← Option.isSome_iff_exists, List.find?_isSome]
      exact ⟨p, hp, by simp⟩
    have hc : q.components = p.components := by simpa using List.find?_some hq
    have hinj := List.inj_on_of_nodup_map (List.pairwise_map.2 (pairwise_distinct ps))
    rw [hq, hinj (List.mem_of_find?_eq_some hq) hp hc]
  · exact List.mem_of_find?_eq_some

theorem distinct_append (ps qs : List Path) :
    distinct (ps ++ qs) =
      distinct ps ++ (distinct qs).filter fun q => q.components ∉ ps.map components := by
  induction ps with
  | nil => simp [distinct]
  | cons p ps ih =>
    rw [List.cons_append, distinct, ih, distinct, List.filter_append, List.filter_filter,
      List.cons_append]
    congr 3
    funext q
    simp [not_or]

end TemplateQuery.Path
