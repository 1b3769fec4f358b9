import TemplateQuery.Proofs.Selector.Escape

namespace TemplateQuery.Selector

def Token.condition? : Token → Option (Selector → Selector)
  | .tag name => some (·.setElement (String.ofList name))
  | .className name => some (·.addClass (String.ofList name))
  | .identifier name => some (·.addAttribute "id" (String.ofList name))
  | .attribute name value =>
    (unescape? name).map fun plain s => s.addAttribute (String.ofList plain) (String.ofList value)
  | .openNegation | .closeNegation | .separator => none

namespace Draft

variable {text : String} {d d' : Draft} {t : Token} {ts us : List Token}

theorem step_condition {f : Selector → Selector} (h : t.condition? = some f) :
    step text d t = .ok (d.add f) := by
  cases t with
  | tag | className | identifier =>
    cases h
    rfl
  | «attribute» name value =>
    obtain ⟨plain, hp, rfl⟩ := Option.map_eq_some_iff.1 h
    rw [step, hp]
  | openNegation | closeNegation | separator => cases h

theorem step_cases (h : step text d t = .ok d') :
    (∃ f, t.condition? = some f ∧ d' = d.add f) ∨
    t = .openNegation ∧ d.negation = none ∧ d' = { d with negation := some {} } ∨
    t = .closeNegation ∧ d' = d.closeNegation ∨
    t = .separator ∧ d.negation = none ∧ d.endAlternative text = .ok d' := by
  cases t with
  | tag | className | identifier =>
    cases h
    exact .inl ⟨_, rfl, rfl⟩
  | «attribute» name value =>
    rw [step] at h
    split at h
    · rename_i plain hp
      cases h
      exact .inl ⟨_, by rw [Token.condition?, hp]; rfl, rfl⟩
    · cases h
  | openNegation =>
    rw [step] at h
    split at h
    · cases h
    · rename_i hn
      cases h
      exact .inr (.inl ⟨rfl, by simpa using hn, rfl⟩)
  | closeNegation =>
    cases h
    exact .inr (.inr (.inl ⟨rfl, rfl⟩))
  | separator =>
    rw [step] at h
    split at h
    · cases h
    · rename_i hn
      exact .inr (.inr (.inr ⟨rfl, by simpa using hn, h⟩))

theorem endAlternative_cases (h : d.endAlternative text = .ok d') :
    d.current.isEmpty = false ∧ d' = { finished := d.finished ++ [d.current.withWildcard] } := by
  rw [endAlternative] at h
  split at h
  · cases h
  · rename_i he
    cases h
    exact ⟨by simpa using he, rfl⟩

theorem run_append (d : Draft) (ts us : List Token) :
    run text d (ts ++ us) =
      match run text d ts with
      | .ok d => run text d us
      | .error e => .error e := by
  induction ts generalizing d with
  | nil => rfl
  | cons t ts ih =>
    simp only [List.cons_append, run]
    cases d.step text t with
    | ok d => exact ih d
    | error e => rfl

theorem run_append_of_ok (h : run text d ts = .ok d') (us : List Token) :
    run text d (ts ++ us) = run text d' us := by
  rw [run_append, h]

theorem run_invariant {I : Draft → Prop}
    (hstep : ∀ t ∈ ts, ∀ d d', I d → step text d t = .ok d' → I d') (hd : I d)
    (h : run text d ts = .ok d') : I d' := by
  induction ts generalizing d with
  | nil =>
    cases h
    exact hd
  | cons t ts ih =>
    rw [run] at h
    split at h
    · rename_i d₁ h₁
      exact ih (fun u hu => hstep u (by simp [hu])) (hstep t (by simp) d d₁ hd h₁) h
    · cases h

def readFrom (text : String) (d : Draft) (ts : List Token) :
    Except SelectorError (List Selector) :=
  match run text d ts with
  | .ok d => d.finish text
  | .error e => .error e

theorem readFrom_cons (text : String) (d : Draft) (t : Token) (ts : List Token) :
    readFrom text d (t :: ts) =
      match d.step text t with
      | .ok d => readFrom text d ts
      | .error e => .error e := by
  rw [readFrom, run]
  cases d.step text t <;> rfl

theorem readFrom_map {text text' : String} {f : SelectorError → SelectorError} {g : Draft → Draft}
    {k : List Selector → List Selector} {r : Token → Token}
    (hs : ∀ d t, (g d).step text' (r t) = ((d.step text t).mapError f).map g)
    (hf : ∀ d, (g d).finish text' = ((d.finish text).mapError f).map k) (d : Draft)
    (ts : List Token) :
    (g d).readFrom text' (ts.map r) = ((d.readFrom text ts).mapError f).map k := by
  induction ts generalizing d with
  | nil => exact hf d
  | cons t ts ih =>
    rw [List.map_cons, readFrom_cons, readFrom_cons, hs]
    cases d.step text t with
    | error e => rfl
    | ok d => exact ih d

end Draft

theorem parse_cases {text : String} {L : List Selector} (h : parse text = .ok L) :
    ∃ d, Draft.run text {} (Token.scan text.toList) = .ok d ∧ d.negation = none ∧
      d.current.isEmpty = false ∧ L = d.finished ++ [d.current.withWildcard] := by
  rw [parse] at h
  split at h
  · rename_i d hd
    rw [Draft.finish] at h
    split at h
    · cases h
    · rename_i hn
      cases he : d.endAlternative text with
      | error e =>
        rw [he] at h
        cases h
      | ok d' =>
        rw [he] at h
        obtain ⟨hne, rfl⟩ := Draft.endAlternative_cases he
        cases h
        exact ⟨d, hd, by simpa using hn, hne, rfl⟩
  · cases h

theorem ne_nil_of_parse {text : String} {L : List Selector} (h : parse text = .ok L) : L ≠ [] := by
  obtain ⟨d, -, -, -, rfl⟩ := parse_cases h
  simp

theorem run_of_parse {text : String} {L : List Selector} (h : parse text = .ok L) :
    Draft.run text {} (Token.scan text.toList ++ [.separator]) = .ok { finished := L } := by
  obtain ⟨d, hd, hn, hne, rfl⟩ := parse_cases h
  rw [Draft.run_append_of_ok hd]
  simp [Draft.run, Draft.step, Draft.endAlternative, hn, hne]

end TemplateQuery.Selector
