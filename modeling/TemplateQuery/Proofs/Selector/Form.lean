import TemplateQuery.Proofs.Selector.Escape

namespace TemplateQuery.Selector

variable {P Q : String × String → Prop} {s : Selector}

@[mk_iff]
structure Parts (P : String × String → Prop) (s : Selector) : Prop where
  classes : ∀ c ∈ s.classNames, IsNameText c.toList ∧ Text.lower c = c
  attributes : ∀ a ∈ s.attributes, P a

@[mk_iff]
structure Simple (P : String × String → Prop) (s : Selector) : Prop extends Parts P s where
  element : ∀ e ∈ s.element, IsNameText e.toList
  negations : s.negations = []

def OnlyNegations (s : Selector) : Prop :=
  s.classNames = [] ∧ s.attributes = [] ∧ s.negations ≠ []

@[mk_iff]
structure Complete (P : String × String → Prop) (s : Selector) : Prop extends Parts P s where
  nonempty : s.isEmpty = false
  element : ∀ e ∈ s.element, IsNameText e.toList ∨ e = "*" ∧ OnlyNegations s
  wildcard : OnlyNegations s → s.element ≠ none
  negations : ∀ n ∈ s.negations, Simple P n

instance : DecidablePred IsNameText := fun s =>
  decidable_of_iff (s ≠ [] ∧ s.all isName = true) (by rw [IsNameText, List.all_eq_true])

instance : DecidablePred OnlyNegations := fun _ => inferInstanceAs (Decidable (_ ∧ _))

instance [DecidablePred P] : DecidablePred (Parts P) := fun s => decidable_of_iff' _ (parts_iff P s)

instance [DecidablePred P] : DecidablePred (Simple P) := fun s =>
  decidable_of_iff' _ (simple_iff P s)

instance [DecidablePred P] : DecidablePred (Complete P) := fun s =>
  decidable_of_iff' _ (complete_iff P s)

theorem ne_wildcard {e : String} (h : IsNameText e.toList) : e ≠ "*" := by
  intro he
  exact h.not_mem (c := '*') (by decide) (by simp [he])

theorem Simple.element_ne_wildcard (h : Simple P s) : s.element ≠ some "*" :=
  fun he => ne_wildcard (h.element "*" he) rfl

theorem Complete.element_eq_wildcard_iff (h : Complete P s) :
    s.element = some "*" ↔ s.hasElement = false ∧ OnlyNegations s := by
  constructor
  · intro he
    refine ⟨by simp [hasElement, he], ?_⟩
    rcases h.element "*" he with hn | ⟨-, ho⟩
    · exact absurd rfl (ne_wildcard hn)
    · exact ho
  · rintro ⟨hf, ho⟩
    obtain ⟨e, he⟩ := Option.ne_none_iff_exists'.1 (h.wildcard ho)
    have hw : e = "*" := by simpa [hasElement, he] using hf
    rw [he, hw]

def allAttributes (s : Selector) : List (String × String) :=
  s.attributes ++ s.negations.flatMap (·.attributes)

theorem Complete.forall_mem_allAttributes (h : Complete P s) : ∀ a ∈ s.allAttributes, P a := by
  intro a ha
  rcases List.mem_append.1 ha with ha | ha
  · exact h.attributes a ha
  · obtain ⟨n, hn, ha⟩ := List.mem_flatMap.1 ha
    exact (h.negations n hn).attributes a ha

theorem Complete.mono (hpq : ∀ a ∈ s.allAttributes, P a → Q a) (h : Complete P s) :
    Complete Q s := by
  refine ⟨⟨h.classes, fun a ha => ?_⟩, h.nonempty, h.element, h.wildcard, fun n hn => ?_⟩
  · exact hpq a (List.mem_append_left _ ha) (h.attributes a ha)
  · have hs := h.negations n hn
    refine ⟨⟨hs.classes, fun a ha => ?_⟩, hs.element, hs.negations⟩
    exact hpq a (List.mem_append_right _ (List.mem_flatMap_of_mem hn ha)) (hs.attributes a ha)

def IsUnescaped (n : List Char) : Prop :=
  ∀ c ∈ n, isAttributeName c = true ∧ c ≠ '\\'

def IsRead (a : String × String) : Prop :=
  IsUnescaped a.1.toList ∧ Text.lower a.1 = a.1 ∧ Text.lower a.2 = a.2 ∧
    ¬ (HasBothQuotes a.2.toList ∧ ']' ∈ a.2.toList)

def IsWritable (a : String × String) : Prop :=
  IsRead a ∧ a.1 ≠ ""

def IsQuotable (v : String) : Prop :=
  ¬ (HasBothQuotes v.toList ∧ (']' ∈ v.toList ∨ startsWithQuote v.toList = true))

def IsCanonicalAttribute (a : String × String) : Prop :=
  (a.1 ≠ "" ∧ IsUnescaped a.1.toList) ∧ Text.lower a.1 = a.1 ∧ Text.lower a.2 = a.2 ∧
    IsQuotable a.2

def Canonical (s : Selector) : Prop :=
  Complete IsCanonicalAttribute s

instance : DecidablePred IsUnescaped := fun n =>
  decidable_of_iff (n.all fun c => isAttributeName c && c != '\\') (by simp [IsUnescaped])

instance : DecidablePred IsQuotable := fun _ => inferInstanceAs (Decidable (¬ _))

instance : DecidablePred IsCanonicalAttribute := fun _ => inferInstanceAs (Decidable (_ ∧ _))

instance : DecidablePred Canonical := fun s =>
  inferInstanceAs (Decidable (Complete IsCanonicalAttribute s))

theorem IsRead.not_mem_backslash {a : String × String} (h : IsRead a) : '\\' ∉ a.1.toList :=
  fun hb => (h.1 _ hb).2 rfl

theorem IsWritable.isAttributeText {a : String × String} (h : IsWritable a) :
    IsAttributeText (escape a.1.toList) :=
  isAttributeText_escape ⟨by simpa using h.2, fun c hc => (h.1.1 c hc).1⟩

theorem isWritable_of_canonical {a : String × String} (h : IsCanonicalAttribute a) :
    IsWritable a :=
  ⟨⟨h.1.2, h.2.1, h.2.2.1, fun hq => h.2.2.2 ⟨hq.1, .inl hq.2⟩⟩, h.1.1⟩

end TemplateQuery.Selector
