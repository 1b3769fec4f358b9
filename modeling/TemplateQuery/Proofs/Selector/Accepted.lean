import TemplateQuery.Proofs.Selector.Form
import TemplateQuery.Proofs.Selector.Spelling
import TemplateQuery.Proofs.Selector.Step

namespace TemplateQuery.Selector

variable {s n : Selector} {t : Token} {f : Selector → Selector}

theorem isNameText_lower {name : List Char} (h : IsNameText name) :
    IsNameText (Text.lower (String.ofList name)).toList := by
  constructor
  · intro he
    rw [String.toList_eq_nil_iff, Text.lower_eq_empty_iff] at he
    exact h.1 (by simpa using he)
  · refine Text.forall_mem_lower (fun c hc => ?_) fun d hd => by simp [isName, hd]
    have hn : isName c = true := h.2 c (by simpa using hc)
    simp only [isName, Bool.or_eq_true, beq_iff_eq] at hn
    rcases hn with rfl | hn
    · exact .inr ⟨by decide, by decide⟩
    · exact .inl hn

theorem IsNameText.isAttributeText {name : List Char} (h : IsNameText name) :
    IsAttributeText name := by
  refine ⟨h.1, fun c hc => ?_⟩
  have hn : isName c = true := h.2 c hc
  simp only [isName, Bool.or_eq_true, beq_iff_eq] at hn
  rcases hn with rfl | hn
  · rfl
  · simp [isAttributeName, hn]

theorem isRead_lower {name value plain : List Char} (hn : IsAttributeText name)
    (hv : ¬ (HasBothQuotes value ∧ ']' ∈ value)) (hp : unescape? name = some plain) :
    IsRead (Text.lower (String.ofList plain), Text.lower (String.ofList value)) := by
  refine ⟨?_, Text.lower_lower _, Text.lower_lower _, ?_⟩
  · have hb : Text.isWord '\\' = false := by decide +kernel
    refine Text.forall_mem_lower (fun c hc => ?_) fun d hd => ?_
    · rw [String.toList_ofList, eq_of_unescape? hp, withoutBackslashes, List.mem_filter] at hc
      have ha : isAttributeName c = true := hn.2 c hc.1
      have hne : c ≠ '\\' := by simpa using hc.2
      have ha' := ha
      simp only [isAttributeName, Bool.or_eq_true, beq_iff_eq] at ha'
      rcases ha' with ((((rfl | rfl) | rfl) | rfl) | rfl) | hw
      · exact .inr ⟨by decide, ha, hne⟩
      · exact .inr ⟨by decide, ha, hne⟩
      · exact .inr ⟨by decide, ha, hne⟩
      · exact absurd rfl hne
      · exact .inr ⟨by decide, ha, hne⟩
      · exact .inl hw
    · refine ⟨by simp [isAttributeName, hd], fun he => ?_⟩
      rw [he, hb] at hd
      cases hd
  · have hm : Text.IsMark '"' ∧ Text.IsMark '\x27' ∧ Text.IsMark ']' := by decide
    simp only [HasBothQuotes, Text.mem_lower hm.1, Text.mem_lower hm.2.1, Text.mem_lower hm.2.2,
      String.toList_ofList]
    exact hv

structure Pending (s : Selector) : Prop extends Parts IsRead s where
  element : ∀ e ∈ s.element, IsNameText e.toList
  negations : ∀ n ∈ s.negations, Simple IsRead n

theorem pending_empty : Pending {} :=
  ⟨⟨by simp, by simp⟩, by simp, by simp⟩

theorem Pending.simple (h : Pending s) (hn : s.negations = []) : Simple IsRead s :=
  ⟨h.toParts, h.element, hn⟩

theorem Simple.pending (h : Simple IsRead s) : Pending s :=
  ⟨h.toParts, h.element, by simp [h.negations]⟩

theorem Pending.addAttribute {name value : String} (h : Pending s)
    (ha : IsRead (Text.lower name, Text.lower value)) : Pending (s.addAttribute name value) := by
  refine ⟨⟨h.classes, ?_⟩, h.element, h.negations⟩
  intro a hm
  rcases List.mem_append.1 hm with hm | hm
  · exact h.attributes a hm
  · rw [List.mem_singleton.1 hm]
    exact ha

theorem isRead_identifier {name : List Char} (hn : IsNameText name) :
    IsRead (Text.lower "id", Text.lower (String.ofList name)) := by
  have hid : unescape? "id".toList = some "id".toList := by decide
  have hn' : IsAttributeText "id".toList := IsNameText.isAttributeText (by decide +kernel)
  exact isRead_lower hn' (fun hb => hn.not_mem (by decide) hb.2) hid

theorem Pending.condition (ht : t.IsSpelled) (hf : t.condition? = some f) (hs : Pending s) :
    Pending (f s) := by
  cases t with
  | openNegation | closeNegation | separator => cases hf
  | tag name =>
    cases hf
    refine ⟨⟨hs.classes, hs.attributes⟩, ?_, hs.negations⟩
    intro e he
    cases he
    rw [String.toList_ofList]
    exact ht
  | className name =>
    cases hf
    refine ⟨⟨?_, hs.attributes⟩, hs.element, hs.negations⟩
    intro c hc
    rcases List.mem_append.1 hc with hc | hc
    · exact hs.classes c hc
    · rw [List.mem_singleton.1 hc]
      exact ⟨isNameText_lower ht, Text.lower_lower _⟩
  | identifier name =>
    cases hf
    exact hs.addAttribute (isRead_identifier ht)
  | «attribute» name value =>
    obtain ⟨plain, hp, rfl⟩ := Option.map_eq_some_iff.1 hf
    exact hs.addAttribute (isRead_lower ht.1 ht.2 hp)

theorem negations_condition (hf : t.condition? = some f) (s : Selector) :
    (f s).negations = s.negations := by
  cases t with
  | openNegation | closeNegation | separator => cases hf
  | tag | className | identifier =>
    cases hf
    rfl
  | «attribute» name value =>
    obtain ⟨plain, hp, rfl⟩ := Option.map_eq_some_iff.1 hf
    rfl

theorem Simple.condition (ht : t.IsSpelled) (hf : t.condition? = some f) (hs : Simple IsRead s) :
    Simple IsRead (f s) :=
  (hs.pending.condition ht hf).simple (by rw [negations_condition hf, hs.negations])

theorem Pending.addNegation (hs : Pending s) (hn : Simple IsRead n) :
    Pending (s.addNegation n) := by
  refine ⟨⟨hs.classes, hs.attributes⟩, hs.element, ?_⟩
  intro m hm
  rcases List.mem_append.1 hm with hm | hm
  · exact hs.negations m hm
  · rw [List.mem_singleton.1 hm]
    exact hn

theorem Pending.complete (hs : Pending s) (he : s.isEmpty = false) :
    Complete IsRead s.withWildcard := by
  rw [withWildcard]
  split
  · rename_i hw
    have ho : OnlyNegations s := by simp_all [OnlyNegations]
    refine ⟨⟨hs.classes, hs.attributes⟩, by simp [isEmpty], ?_, by simp, hs.negations⟩
    rintro e ⟨⟩
    exact .inr ⟨rfl, ho⟩
  · rename_i hw
    refine ⟨hs.toParts, he, fun e he => .inl (hs.element e he), ?_, hs.negations⟩
    rintro ⟨hc, ha, hn⟩ hnone
    exact hw (by simp [hc, ha, hn, hnone])

structure Draft.IsSound (d : Draft) : Prop where
  finished : ∀ s ∈ d.finished, Complete IsRead s
  current : Pending d.current
  negation : ∀ n ∈ d.negation, Simple IsRead n

theorem Draft.IsSound.step {text : String} {d d' : Draft} (ht : t.IsSpelled) (hd : d.IsSound)
    (h : d.step text t = .ok d') : d'.IsSound := by
  rcases step_cases h with ⟨f, hf, rfl⟩ | ⟨-, -, rfl⟩ | ⟨-, rfl⟩ | ⟨-, -, he⟩
  · rw [add]
    split
    · rename_i n hn
      refine ⟨hd.finished, hd.current, ?_⟩
      rintro m ⟨⟩
      exact (hd.negation n hn).condition ht hf
    · exact ⟨hd.finished, hd.current.condition ht hf, hd.negation⟩
  · refine ⟨hd.finished, hd.current, ?_⟩
    rintro n ⟨⟩
    exact pending_empty.simple rfl
  · rw [closeNegation]
    split
    · rename_i n hn
      exact ⟨hd.finished, hd.current.addNegation (hd.negation n hn), by simp⟩
    · exact hd
  · obtain ⟨hne, rfl⟩ := endAlternative_cases he
    refine ⟨?_, pending_empty, by simp⟩
    intro s hs
    rcases List.mem_append.1 hs with hs | hs
    · exact hd.finished s hs
    · rw [List.mem_singleton.1 hs]
      exact hd.current.complete hne

theorem isSpelled_read (text : String) :
    ∀ t ∈ Token.scan text.toList ++ [.separator], t.IsSpelled := by
  intro t ht
  rcases List.mem_append.1 ht with ht | ht
  · exact Token.isSpelled_of_mem_scan _ t ht
  · rw [List.mem_singleton.1 ht]
    trivial

theorem complete_of_parse {text : String} {L : List Selector} (h : parse text = .ok L) :
    ∀ s ∈ L, Complete IsRead s := by
  have hi : Draft.IsSound { finished := L } :=
    Draft.run_invariant (fun t ht d d' hd hs => hd.step (isSpelled_read text t ht) hs)
      ⟨by simp, pending_empty, by simp⟩ (run_of_parse h)
  exact hi.finished

theorem form_of_parse {text : String} {L : List Selector} (h : parse text = .ok L) :
    L ≠ [] ∧ ∀ s ∈ L, Complete IsRead s ∧
      (s.element = some "*" ↔ s.hasElement = false ∧ OnlyNegations s) ∧
      ∀ n ∈ s.negations, Simple IsRead n ∧ n.element ≠ some "*" := by
  refine ⟨ne_nil_of_parse h, fun s hs => ?_⟩
  have hc : Complete IsRead s := complete_of_parse h s hs
  refine ⟨hc, hc.element_eq_wildcard_iff, fun n hn => ?_⟩
  exact ⟨hc.negations n hn, (hc.negations n hn).element_ne_wildcard⟩

theorem form_of_parse_negations :
    ∃ L, parse "A.B[c=\"D,E]\"]:not(#F.É) , :not([g\\$=H'İ]):not()" = .ok L ∧
      L.map (·.element) = [some "A", some "*"] ∧ L ≠ [] ∧ ∀ s ∈ L, Complete IsRead s ∧
        (s.element = some "*" ↔ s.hasElement = false ∧ OnlyNegations s) ∧
        ∀ n ∈ s.negations, Simple IsRead n ∧ n.element ≠ some "*" := by
  have h : parse "A.B[c=\"D,E]\"]:not(#F.É) , :not([g\\$=H'İ]):not()" =
      .ok [{ element := some "A", classNames := ["b"], attributes := [("c", "d,e]")],
             negations := [{ classNames := ["é"], attributes := [("id", "f")] }] },
           { element := some "*", negations := [{ attributes := [("g$", "h'i\u0307")] }, {}] }] := by
    decide +kernel
  exact ⟨_, h, rfl, form_of_parse h⟩

theorem exists_empty_negation :
    ∃ L, parse ":not()" = .ok L ∧ ∃ s ∈ L, ∃ n ∈ s.negations, n.isEmpty = true :=
  ⟨[{ element := some "*", negations := [{}] }], by decide +kernel⟩

end TemplateQuery.Selector
