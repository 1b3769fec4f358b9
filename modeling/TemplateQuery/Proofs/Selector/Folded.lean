import Mathlib.Logic.Relation
import Mathlib.Tactic
import TemplateQuery.Proofs.Text.Fold
import TemplateQuery.Selector.Match

namespace TemplateQuery

open Text (lower)

def lowerBoth (a : String × String) : String × String :=
  (lower a.1, lower a.2)

structure ElementRecord.SameFolded (r r' : ElementRecord) : Prop where
  tagName : r.tagName.map lower = r'.tagName.map lower
  classes : ∀ c, c ∈ r.classes.map lower ↔ c ∈ r'.classes.map lower
  attributes : ∀ a, a ∈ r.attributes.map lowerBoth ↔ a ∈ r'.attributes.map lowerBoth

namespace Selector

variable {s t : Selector} {r r' : ElementRecord}

inductive Edit : Selector → Selector → Prop
  | element (s : Selector) (e : Option String) (h : s.element.map lower = e.map lower) :
    Edit s { s with element := e }
  | classNames (s : Selector) (cs : List String)
    (h : ∀ c, c ∈ s.classNames.map lower ↔ c ∈ cs.map lower) : Edit s { s with classNames := cs }
  | attributes (s : Selector) (as : List (String × String))
    (h : ∀ a, a ∈ s.attributes.map lowerBoth ↔ a ∈ as.map lowerBoth) :
    Edit s { s with attributes := as }
  | negations (s : Selector) (ns : List Selector) (h : ∀ n, n ∈ s.negations ↔ n ∈ ns) :
    Edit s { s with negations := ns }
  | inNegation (s : Selector) (before after : List Selector) (n n' : Selector)
    (hs : s.negations = before ++ n :: after) (h : Edit n n') :
    Edit s { s with negations := before ++ n' :: after }

@[elab_as_elim]
theorem induction_negations {P : Selector → Prop} (step : ∀ s, (∀ n ∈ s.negations, P n) → P s)
    (s : Selector) : P s :=
  step s fun n _ => induction_negations step n
termination_by sizeOf s
decreasing_by
  have h := List.sizeOf_lt_of_mem ‹n ∈ s.negations›
  cases s
  simp only [Selector.mk.sizeOf_spec] at h ⊢
  omega

theorem any_congr_of_mem {α : Type} {l : List α} {p q : α → Bool} (h : ∀ a ∈ l, p a = q a) :
    l.any p = l.any q := by
  rw [Bool.eq_iff_iff, List.any_eq_true, List.any_eq_true]
  refine exists_congr fun a => and_congr_right fun ha => ?_
  rw [h a ha]

theorem lower_eq_wildcard_iff {e : String} : lower e = "*" ↔ e = "*" := by
  constructor
  · intro h
    have hl : Text.lowerAfter [] e.toList = ['*'] := by
      rw [← String.toList_inj, lower, String.toList_ofList] at h
      exact h
    cases he : e.toList with
    | nil => simp [he, Text.lowerAfter] at hl
    | cons c rest =>
      rw [he, Text.lowerAfter_cons, List.append_eq_singleton_iff] at hl
      rcases hl with ⟨hc, -⟩ | ⟨hc, hrest⟩
      · exact absurd hc (Text.lowered_ne_nil [] c rest)
      · have hmark : c = '*' := by
          by_contra hne
          exact Text.not_mem_lowered (by decide) hne (hc ▸ List.mem_singleton_self '*')
        have hnil : rest = [] := by
          cases rest with
          | nil => rfl
          | cons d rest => simp [Text.lowerAfter_cons, Text.lowered_ne_nil] at hrest
        rw [← String.toList_inj, he, hmark, hnil]
        rfl
  · rintro rfl
    decide

theorem matchesElement_iff :
    s.matchesElement r = true ↔
      ∀ e ∈ s.element.map lower, e = "*" ∨ r.tagName.map lower = some e := by
  cases he : s.element with
  | none => simp [matchesElement, hasElement, he]
  | some e =>
    cases ht : r.tagName with
    | none => simp [matchesElement, hasElement, he, ht, lower_eq_wildcard_iff]
    | some name =>
      simp [matchesElement, hasElement, he, ht, lower_eq_wildcard_iff, Text.equalFold_iff]

theorem matchesClasses_iff :
    s.matchesClasses r = true ↔ ∀ c ∈ s.classNames.map lower, c ∈ r.classes.map lower := by
  simp [matchesClasses, Text.equalFold_iff]

theorem matchesAttributes_iff :
    s.matchesAttributes r = true ↔
      ∀ a ∈ s.attributes.map lowerBoth,
        ∃ b ∈ r.attributes.map lowerBoth, b.1 = a.1 ∧ (a.2 = "" ∨ b.2 = a.2) := by
  rw [List.forall_mem_map]
  simp [matchesAttributes, Text.equalFold_iff, lowerBoth, Text.lower_eq_empty_iff]

theorem matchesPositive_iff :
    s.matchesPositive r = true ↔
      (∀ e ∈ s.element.map lower, e = "*" ∨ r.tagName.map lower = some e) ∧
        (∀ c ∈ s.classNames.map lower, c ∈ r.classes.map lower) ∧
        ∀ a ∈ s.attributes.map lowerBoth,
          ∃ b ∈ r.attributes.map lowerBoth, b.1 = a.1 ∧ (a.2 = "" ∨ b.2 = a.2) := by
  rw [matchesPositive, Bool.and_eq_true, Bool.and_eq_true, matchesElement_iff, matchesClasses_iff,
    matchesAttributes_iff, and_assoc]

theorem matchesPositive_of_sameFolded (h : r.SameFolded r') (s : Selector) :
    s.matchesPositive r = s.matchesPositive r' := by
  rw [Bool.eq_iff_iff, matchesPositive_iff, matchesPositive_iff, h.tagName]
  simp only [h.classes, h.attributes]

theorem matchesPositive_congr (he : s.element.map lower = t.element.map lower)
    (hc : ∀ c, c ∈ s.classNames.map lower ↔ c ∈ t.classNames.map lower)
    (ha : ∀ a, a ∈ s.attributes.map lowerBoth ↔ a ∈ t.attributes.map lowerBoth)
    (r : ElementRecord) : s.matchesPositive r = t.matchesPositive r := by
  rw [Bool.eq_iff_iff, matchesPositive_iff, matchesPositive_iff, he]
  simp only [hc, ha]

theorem accepts_of_sameFolded (h : r.SameFolded r') (s : Selector) :
    s.accepts r = s.accepts r' := by
  induction s using induction_negations with
  | step s ih =>
    rw [accepts_eq, accepts_eq, matchesPositive_of_sameFolded h, any_congr_of_mem ih]

theorem accepts_of_edit (h : Edit s t) (r : ElementRecord) : s.accepts r = t.accepts r := by
  induction h with
  | element s e h =>
    have hp := matchesPositive_congr (s := s) (t := { s with element := e }) h
      (fun _ => .rfl) (fun _ => .rfl) r
    rw [accepts_eq, accepts_eq, hp]
  | classNames s cs h =>
    have hp := matchesPositive_congr (s := s) (t := { s with classNames := cs }) rfl h
      (fun _ => .rfl) r
    rw [accepts_eq, accepts_eq, hp]
  | «attributes» s as h =>
    have hp := matchesPositive_congr (s := s) (t := { s with attributes := as }) rfl
      (fun _ => .rfl) h r
    rw [accepts_eq, accepts_eq, hp]
  | negations s ns h =>
    have hn : s.negations.any (·.accepts r) = ns.any (·.accepts r) := by
      rw [Bool.eq_iff_iff, List.any_eq_true, List.any_eq_true]
      simp only [h]
    rw [accepts_eq, accepts_eq, hn]
    rfl
  | inNegation s before after n n' hs h ih =>
    have hn : s.negations.any (·.accepts r) = (before ++ n' :: after).any (·.accepts r) := by
      rw [hs, List.any_append, List.any_append, List.any_cons, List.any_cons, ih]
    rw [accepts_eq, accepts_eq, hn]
    rfl

theorem accepts_of_edits (h : Relation.ReflTransGen Edit s t) (r : ElementRecord) :
    s.accepts r = t.accepts r := by
  induction h with
  | refl => rfl
  | tail _ he ih => rw [ih, accepts_of_edit he]

theorem accepts_depends_on_folded_sets :
    (∀ a b, (Text.equalFold a b = true ↔ lower a = lower b) ∧
      (Text.equalFoldAscii a b = true → lower a = lower b)) ∧
    (∀ (s : Selector) (r r' : ElementRecord), r.SameFolded r' → s.accepts r = s.accepts r') ∧
    ∀ s t : Selector, Relation.ReflTransGen Edit s t → ∀ r, s.accepts r = t.accepts r := by
  refine ⟨fun a b => ⟨Text.equalFold_iff, fun h => ?_⟩,
    fun s r r' h => accepts_of_sameFolded h s, fun s t h r => accepts_of_edits h r⟩
  exact Text.lower_eq_of_map_toLower (beq_iff_eq.1 h)

theorem accepts_depends_on_folded_sets_nested :
    let inner : Selector := { classNames := ["Σ"] }
    let inner' : Selector := { classNames := ["σ", "Σ"] }
    let s : Selector := { element := some "DIV", classNames := ["a", "É"],
                          negations := [{ attributes := [("x", "")], negations := [inner] }] }
    let t : Selector := { element := some "DIV", classNames := ["é", "A", "a"],
                          negations := [{ attributes := [("x", "")], negations := [inner'] }] }
    let r : ElementRecord := { tagName := some "div", classes := ["É", "a", "σ"],
                               attributes := [("X", "İ")] }
    let r' : ElementRecord := { tagName := some "Div", classes := ["A", "Σ", "é", "É"],
                                attributes := [("x", "i\u0307")] }
    r.SameFolded r' ∧ Relation.ReflTransGen Edit s t ∧
      s.accepts r = s.accepts r' ∧ s.accepts r = t.accepts r ∧ t.accepts r' = true := by
  intro inner inner' s t r r'
  have hr : r.SameFolded r' := by
    have hc : r.classes.map lower = ["é", "a", "σ"] := by decide +kernel
    have hc' : r'.classes.map lower = ["a", "σ", "é", "é"] := by decide +kernel
    have ha : r.attributes.map lowerBoth = r'.attributes.map lowerBoth := by decide +kernel
    refine ⟨by decide +kernel, fun c => ?_, fun a => by rw [ha]⟩
    rw [hc, hc']
    simp only [List.mem_cons, List.not_mem_nil, or_false]
    tauto
  have hst : Relation.ReflTransGen Edit s t := by
    have hs : s.classNames.map lower = ["a", "é"] := by decide +kernel
    have ht : t.classNames.map lower = ["é", "a", "a"] := by decide +kernel
    have hi : inner.classNames.map lower = ["σ"] := by decide +kernel
    have hi' : inner'.classNames.map lower = ["σ", "σ"] := by decide +kernel
    have hinner : Edit inner inner' := .classNames inner inner'.classNames fun c => by
      rw [hi, hi']
      simp only [List.mem_cons, List.not_mem_nil, or_false, or_self]
    refine .tail (.tail .refl (.classNames s t.classNames fun c => ?_)) ?_
    · rw [hs, ht]
      simp only [List.mem_cons, List.not_mem_nil, or_false]
      tauto
    · exact .inNegation _ [] [] _ _ rfl (.inNegation _ [] [] inner inner' rfl hinner)
  obtain ⟨-, hrecord, hedit⟩ := accepts_depends_on_folded_sets
  exact ⟨hr, hst, hrecord s r r' hr, hedit s t hst r, by decide +kernel⟩

end Selector

end TemplateQuery
