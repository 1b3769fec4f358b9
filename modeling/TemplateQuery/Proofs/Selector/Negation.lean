import TemplateQuery.Proofs.Selector.Accepted
import TemplateQuery.Selector.Match

namespace TemplateQuery

structure ElementRecord.GrowsTo (r r' : ElementRecord) : Prop where
  tagName : r.tagName = r'.tagName
  classes : r.classes ⊆ r'.classes
  attributes : r.attributes ⊆ r'.attributes

namespace ElementRecord

theorem growsTo_withClass (r : ElementRecord) (name : String) : r.GrowsTo (r.withClass name) :=
  ⟨rfl, List.subset_append_left _ _, List.Subset.refl _⟩

theorem growsTo_withAttribute (r : ElementRecord) (name value : String) :
    r.GrowsTo (r.withAttribute name value) :=
  ⟨rfl, List.Subset.refl _, List.subset_append_left _ _⟩

end ElementRecord

namespace Selector

variable {s : Selector} {r r' : ElementRecord}

theorem any_of_subset {α : Type} {l l' : List α} {p : α → Bool} (h : l ⊆ l')
    (hp : l.any p = true) : l'.any p = true := by
  obtain ⟨a, ha, hpa⟩ := List.any_eq_true.1 hp
  exact List.any_eq_true.2 ⟨a, h ha, hpa⟩

theorem matchesPositive_of_growsTo (h : r.GrowsTo r') (hs : s.matchesPositive r = true) :
    s.matchesPositive r' = true := by
  simp only [matchesPositive, Bool.and_eq_true] at hs ⊢
  obtain ⟨⟨he, hc⟩, ha⟩ := hs
  refine ⟨⟨?_, ?_⟩, ?_⟩
  · rwa [matchesElement, ← h.tagName]
  · rw [matchesClasses, List.all_eq_true] at hc ⊢
    exact fun c hmem => any_of_subset h.classes (hc c hmem)
  · rw [matchesAttributes, List.all_eq_true] at ha ⊢
    exact fun a hmem => any_of_subset h.attributes (ha a hmem)

theorem accepts_of_no_negations (h : s.negations = []) : s.accepts r = s.matchesPositive r := by
  rw [accepts_eq, h, List.any_nil, Bool.not_false, Bool.and_true]

theorem accepts_of_growsTo (hn : s.negations = []) (h : r.GrowsTo r') (hs : s.accepts r = true) :
    s.accepts r' = true := by
  rw [accepts_of_no_negations hn] at hs ⊢
  exact matchesPositive_of_growsTo h hs

theorem accepts_eq_false_of_negation {n : Selector} (hn : n ∈ s.negations)
    (h : n.accepts r = true) : s.accepts r = false := by
  have ha : s.negations.any (·.accepts r) = true := List.any_eq_true.2 ⟨n, hn, h⟩
  rw [accepts_eq, ha, Bool.not_true, Bool.and_false]

theorem accepts_iff_positive :
    s.accepts r = true ↔
      ({ s with negations := [] } : Selector).accepts r = true ∧
        ∀ n ∈ s.negations, n.accepts r = false := by
  rw [accepts_of_no_negations (s := { s with negations := [] }) rfl, accepts_eq,
    Bool.and_eq_true, Bool.not_eq_true', List.any_eq_false]
  simp only [Bool.not_eq_true]
  rfl

theorem accepts_of_more_negations {ns : List Selector} (h : s.negations ⊆ ns)
    (hs : ({ s with negations := ns } : Selector).accepts r = true) : s.accepts r = true := by
  rw [accepts_iff_positive] at hs ⊢
  exact ⟨hs.1, fun n hn => hs.2 n (h hn)⟩

theorem negations_only_remove {text : String} {L : List Selector} (hL : parse text = .ok L)
    (hs : s ∈ L) (h : r.GrowsTo r') :
    (s.negations = [] → s.accepts r = true → s.accepts r' = true) ∧
      (∀ n ∈ s.negations, n.accepts r = true → s.accepts r = false ∧ s.accepts r' = false) ∧
      (s.accepts r = true ↔
        ({ s with negations := [] } : Selector).accepts r = true ∧
          ∀ n ∈ s.negations, n.accepts r = false) ∧
      (∀ before n after, s.negations = before ++ after →
        ({ s with negations := before ++ n :: after } : Selector).accepts r = true →
          s.accepts r = true) ∧
      ∀ n ∈ s.negations, n.accepts r = true →
        (∀ name, s.accepts (r.withClass name) = false) ∧
          ∀ name value, s.accepts (r.withAttribute name value) = false := by
  have hsimple : ∀ n ∈ s.negations, n.negations = [] := fun n hn =>
    ((complete_of_parse hL s hs).negations n hn).negations
  have hgrow : ∀ r', r.GrowsTo r' → ∀ n ∈ s.negations, n.accepts r = true →
      s.accepts r' = false := fun r' h n hn ha =>
    accepts_eq_false_of_negation hn (accepts_of_growsTo (hsimple n hn) h ha)
  refine ⟨fun hn => accepts_of_growsTo hn h, fun n hn ha => ?_, accepts_iff_positive, ?_, ?_⟩
  · exact ⟨accepts_eq_false_of_negation hn ha, hgrow r' h n hn ha⟩
  · intro before n after hb
    exact accepts_of_more_negations (by rw [hb]; simp)
  · intro n hn ha
    exact ⟨fun name => hgrow _ (r.growsTo_withClass name) n hn ha,
      fun name value => hgrow _ (r.growsTo_withAttribute name value) n hn ha⟩

theorem negations_only_remove_hidden :
    let n : Selector := { attributes := [("hidden", "")] }
    let s : Selector := { classNames := ["x"], negations := [n, { element := some "I" }] }
    let r : ElementRecord := { tagName := some "p", classes := ["X"],
                               attributes := [("HIDDEN", "")] }
    let r' : ElementRecord := { r with classes := ["b", "X"] }
    (∃ L, parse "b, .X:not([hidden]):not(I)" = .ok L ∧ s ∈ L) ∧ r.GrowsTo r' ∧ n ∈ s.negations ∧
      n.accepts r = true ∧ ({ s with negations := [] } : Selector).accepts r = true ∧
      (s.accepts r = false ∧ s.accepts r' = false) ∧
      ∀ name, s.accepts (r.withClass name) = false := by
  intro n s r r'
  have hL : parse "b, .X:not([hidden]):not(I)" = .ok [{ element := some "b" }, s] := by
    decide +kernel
  have hs : s ∈ [{ element := some "b" }, s] := by simp
  have hr : r.GrowsTo r' := ⟨rfl, by simp [r, r'], List.Subset.refl _⟩
  have hn : n ∈ s.negations := by simp [s]
  have ha : n.accepts r = true := by decide +kernel
  obtain ⟨-, hremove, -, -, hadd⟩ := negations_only_remove hL hs hr
  exact ⟨⟨_, hL, hs⟩, hr, hn, ha, by decide +kernel, hremove n hn ha, (hadd n hn ha).1⟩

end Selector

end TemplateQuery
