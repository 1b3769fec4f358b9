import TemplateQuery.Proofs.Selector.Grammar
import TemplateQuery.Proofs.Selector.Step

namespace TemplateQuery.Selector

variable {text : String} {ts p : List Token} {t : Token} {f : Selector → Selector}

def closedNegations (p : List Token) : List (List Token) :=
  if isOpen p then (negated p).dropLast else negated p

def openNegation? (p : List Token) : Option (List Token) :=
  if isOpen p then (negated p).getLast? else none

def draftOf (ts : List Token) : Draft where
  finished := (earlierAlternatives ts).map meaning
  current := conditions ((closedNegations (lastAlternative ts)).map (conditions []))
    (outside (lastAlternative ts))
  negation := (openNegation? (lastAlternative ts)).map (conditions [])

theorem parts_of_isOpen {bs : List (List Token)} {b : List Token} (hp : isOpen p = true)
    (hn : negated p = bs ++ [b]) : closedNegations p = bs ∧ openNegation? p = some b := by
  simp [closedNegations, openNegation?, hp, hn]

theorem parts_of_not_isOpen (hp : isOpen p = false) :
    closedNegations p = negated p ∧ openNegation? p = none := by
  simp [closedNegations, openNegation?, hp]

theorem offence?_of_condition (h : t.condition? = some f) (text : String) (seen : List Token) :
    offence? text seen t = none := by
  cases t with
  | tag | className | identifier => rfl
  | «attribute» name value =>
    obtain ⟨plain, hp, rfl⟩ := Option.map_eq_some_iff.1 h
    refine if_neg fun hb => ?_
    rw [unescape?_eq_none_iff.2 hb] at hp
    cases hp
  | openNegation | closeNegation | separator => cases h

theorem conditions_concat (h : t.condition? = some f) (ns : List Selector) (ts : List Token) :
    conditions ns (ts ++ [t]) = f (conditions ns ts) := by
  cases t with
  | tag | className =>
    cases h
    simp [conditions, setElement, addClass, tag?, class?, pair?]
  | identifier name =>
    cases h
    have hid : Text.lower "id" = "id" := by decide
    simp [conditions, addAttribute, tag?, class?, pair?, hid]
  | «attribute» name value =>
    obtain ⟨plain, hp, rfl⟩ := Option.map_eq_some_iff.1 h
    simp [conditions, addAttribute, tag?, class?, pair?, eq_of_unescape? hp]
  | openNegation | closeNegation | separator => cases h

theorem conditions_concat_of_not_isContent (h : t.isContent = false) (ns : List Selector)
    (ts : List Token) : conditions ns (ts ++ [t]) = conditions ns ts := by
  cases t with
  | tag | className | identifier | «attribute» | openNegation => cases h
  | closeNegation | separator => simp [conditions, tag?, class?, pair?]

theorem isEmpty_conditions (h : .openNegation ∉ ts) (ns : List Selector) :
    (conditions ns ts).isEmpty = (!ts.any Token.isContent && ns.isEmpty) := by
  induction ts with
  | nil => simp [conditions, isEmpty]
  | cons t ts ih =>
    have hr := ih fun hm => h (by simp [hm])
    cases t with
    | openNegation => simp at h
    | closeNegation | separator => exact hr
    | tag | className | identifier | «attribute» =>
      simp [conditions, isEmpty, tag?, class?, pair?, Token.isContent]

theorem meaning_eq_withWildcard (p : List Token) :
    meaning p = (conditions ((negated p).map (conditions [])) (outside p)).withWildcard := by
  have he := isEmpty_conditions (not_mem_outside p) []
  rw [meaning, withWildcard]
  refine if_congr ?_ rfl rfl
  rw [isEmpty] at he
  simp only [conditions, List.isEmpty_nil, Bool.and_true] at he
  simp only [conditions, Bool.and_assoc] at he ⊢
  rw [he]
  simp

theorem draftOf_openNegation (h : isOpen (lastAlternative ts) = false) :
    draftOf (ts ++ [.openNegation]) = { draftOf ts with negation := some {} } := by
  obtain ⟨he, hl⟩ := alternatives_concat (t := .openNegation) (by simp) ts
  obtain ⟨ho, hn⟩ := parts_concat_openNegation (lastAlternative ts)
  have hopen : isOpen (lastAlternative ts ++ [.openNegation]) = true := isOpen_concat _ _
  obtain ⟨hc, hg⟩ := parts_of_isOpen hopen hn
  rw [draftOf, draftOf, he, hl, ho, hc, hg, (parts_of_not_isOpen h).1]
  rfl

theorem draftOf_closeNegation (ts : List Token) :
    draftOf (ts ++ [.closeNegation]) = (draftOf ts).closeNegation := by
  obtain ⟨he, hl⟩ := alternatives_concat (t := .closeNegation) (by simp) ts
  have hclosed : isOpen (lastAlternative ts ++ [.closeNegation]) = false := isOpen_concat _ _
  obtain ⟨hc, hg⟩ := parts_of_not_isOpen hclosed
  cases hp : isOpen (lastAlternative ts) with
  | false =>
    obtain ⟨ho, hn⟩ := parts_concat_of_not_isOpen (t := .closeNegation) (by simp) hp
    obtain ⟨hc', hg'⟩ := parts_of_not_isOpen hp
    rw [draftOf, draftOf, he, hl, ho, hc, hg, hn, hc', hg',
      conditions_concat_of_not_isContent rfl]
    rfl
  | true =>
    obtain ⟨bs, b, hb⟩ := negated_of_isOpen hp
    obtain ⟨ho, hn⟩ := parts_concat_closeNegation hp
    obtain ⟨hc', hg'⟩ := parts_of_isOpen hp hb
    rw [draftOf, draftOf, he, hl, ho, hc, hg, hn, hc', hg', hb,
      conditions_concat_of_not_isContent rfl]
    simp [Draft.closeNegation, addNegation, conditions]

theorem draftOf_separator (ts : List Token) :
    draftOf (ts ++ [.separator]) = { finished := (alternatives ts).map meaning } := by
  obtain ⟨he, hl⟩ := alternatives_concat_separator ts
  rw [draftOf, he, hl]
  rfl

theorem draftOf_condition (ht : t.condition? = some f) (ts : List Token) :
    draftOf (ts ++ [t]) = (draftOf ts).add f := by
  have hs : t ≠ .separator ∧ t ≠ .openNegation ∧ t ≠ .closeNegation := by
    refine ⟨?_, ?_, ?_⟩ <;> rintro rfl <;> cases ht
  obtain ⟨he, hl⟩ := alternatives_concat hs.1 ts
  cases hp : isOpen (lastAlternative ts) with
  | false =>
    have hp' := (isOpen_concat_of_ne hs.2.1 hs.2.2 _).trans hp
    obtain ⟨ho, hn⟩ := parts_concat_of_not_isOpen hs.2.1 hp
    obtain ⟨hc, hg⟩ := parts_of_not_isOpen hp'
    obtain ⟨hc', hg'⟩ := parts_of_not_isOpen hp
    rw [draftOf, draftOf, he, hl, ho, hc, hg, hn, hc', hg', conditions_concat ht]
    rfl
  | true =>
    have hp' := (isOpen_concat_of_ne hs.2.1 hs.2.2 _).trans hp
    obtain ⟨ho, bs, b, hn, hn'⟩ := parts_concat_of_isOpen hs.2.1 hs.2.2 hp
    obtain ⟨hc, hg⟩ := parts_of_isOpen hp' hn'
    obtain ⟨hc', hg'⟩ := parts_of_isOpen hp hn
    rw [draftOf, draftOf, he, hl, ho, hc, hg, hc', hg', Option.map_some, conditions_concat ht]
    rfl

theorem endAlternative_draftOf (h : isOpen (lastAlternative ts) = false) :
    (draftOf ts).endAlternative text =
      if (lastAlternative ts).any Token.isContent then
        .ok { finished := (alternatives ts).map meaning }
      else .error (.empty text) := by
  have hc : (draftOf ts).current = conditions ((negated (lastAlternative ts)).map (conditions []))
      (outside (lastAlternative ts)) := by
    rw [draftOf, (parts_of_not_isOpen h).1]
  have he : (draftOf ts).current.isEmpty = !(lastAlternative ts).any Token.isContent := by
    rw [hc, isEmpty_conditions (not_mem_outside _), any_isContent (lastAlternative ts)]
    simp
  have hm : (draftOf ts).finished ++ [(draftOf ts).current.withWildcard] =
      (alternatives ts).map meaning := by
    rw [hc, ← meaning_eq_withWildcard, alternatives_eq, List.map_append]
    rfl
  rw [Draft.endAlternative, he, hm]
  cases (lastAlternative ts).any Token.isContent <;> rfl

theorem negation_draftOf (ts : List Token) :
    (draftOf ts).negation.isSome = isOpen (lastAlternative ts) := by
  cases hp : isOpen (lastAlternative ts) with
  | false =>
    rw [draftOf, (parts_of_not_isOpen hp).2]
    rfl
  | true =>
    obtain ⟨bs, b, hb⟩ := negated_of_isOpen hp
    rw [draftOf, (parts_of_isOpen hp hb).2]
    rfl

theorem step_draftOf (h : isOpen ts = isOpen (lastAlternative ts)) (t : Token) :
    (draftOf ts).step text t =
      match offence? text ts t with
      | some e => .error e
      | none => .ok (draftOf (ts ++ [t])) := by
  cases hf : t.condition? with
  | some f =>
    have ho : offence? text ts t = none := offence?_of_condition hf text ts
    rw [Draft.step_condition hf, ho, draftOf_condition hf]
  | none =>
    cases t with
    | tag | className | identifier => cases hf
    | «attribute» name value =>
      have hn : unescape? name = none := by simpa [Token.condition?] using hf
      rw [Draft.step, hn, offence?, if_pos (unescape?_eq_none_iff.1 hn)]
    | openNegation =>
      rw [Draft.step, negation_draftOf, offence?, h]
      cases hp : isOpen (lastAlternative ts) with
      | false => simp [draftOf_openNegation hp]
      | true => rfl
    | closeNegation =>
      rw [Draft.step, draftOf_closeNegation]
      rfl
    | separator =>
      rw [Draft.step, negation_draftOf, offence?, h]
      cases hp : isOpen (lastAlternative ts) with
      | false =>
        simp only [Bool.false_eq_true, if_false, endAlternative_draftOf hp, draftOf_separator]
        cases (lastAlternative ts).any Token.isContent <;> rfl
      | true => rfl

theorem isOpen_lastAlternative (h : firstOffence? text [] ts = none) :
    isOpen ts = isOpen (lastAlternative ts) := by
  induction ts using List.reverseRecOn with
  | nil => rfl
  | append_singleton ts t ih =>
    obtain ⟨hts, ht⟩ := Option.or_eq_none_iff.1 ((firstOffence?_concat text [] ts t).symm.trans h)
    by_cases hs : t = .separator
    · subst hs
      have hts' : isOpen ts = false := by
        refine Bool.eq_false_iff.2 fun hp => ?_
        rw [List.nil_append, offence?, if_pos hp] at ht
        cases ht
      rw [isOpen_concat_of_ne (by simp) (by simp), hts', (alternatives_concat_separator ts).2]
      rfl
    · rw [(alternatives_concat hs ts).2, isOpen_concat, isOpen_concat, ih hts]

theorem run_draftOf (text : String) (ts : List Token) :
    Draft.run text {} ts =
      match firstOffence? text [] ts with
      | some e => .error e
      | none => .ok (draftOf ts) := by
  induction ts using List.reverseRecOn with
  | nil => rfl
  | append_singleton ts t ih =>
    rw [Draft.run_append, ih, firstOffence?_concat]
    cases h : firstOffence? text [] ts with
    | some e => rfl
    | none =>
      simp only [Draft.run, List.nil_append, Option.none_or]
      rw [step_draftOf (isOpen_lastAlternative h)]
      cases offence? text ts t <;> rfl

theorem parse_eq_reading (text : String) : parse text = reading text (Token.scan text.toList) := by
  rw [parse, reading, run_draftOf]
  cases h : firstOffence? text [] (Token.scan text.toList) with
  | some e => rfl
  | none =>
    rw [isOpen_lastAlternative h]
    simp only [Draft.finish]
    rw [negation_draftOf]
    cases hp : isOpen (lastAlternative (Token.scan text.toList)) with
    | true => rfl
    | false =>
      rw [endAlternative_draftOf hp]
      cases (lastAlternative (Token.scan text.toList)).any Token.isContent <;> rfl

end TemplateQuery.Selector
