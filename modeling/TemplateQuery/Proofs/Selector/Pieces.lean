import TemplateQuery.Proofs.Selector.Grammar
import TemplateQuery.Proofs.Selector.Step
import TemplateQuery.Proofs.Selector.Stretch

namespace TemplateQuery

namespace SelectorError

def inText (text : String) : SelectorError → SelectorError
  | .unclosedNegation _ => .unclosedNegation text
  | .empty _ => .empty text
  | e => e

def beforeSeparator : SelectorError → SelectorError
  | .unclosedNegation _ => .severalInNegation
  | e => e

end SelectorError

namespace Selector

def pieces (text : String) : List String :=
  ((Token.stretches text.toList).splitOnP (·.token? == some .separator)).map fun row =>
    String.ofList (Token.textOf row)

theorem exists_splitOnP_eq {α : Type} (p : α → Bool) (l : List α) :
    ∃ g gs, l.splitOnP p = g :: gs ∧ (g <+: l ∧ ∀ x ∈ g, p x = false) ∧
      ∀ h ∈ gs, h <:+: l ∧ ∀ x ∈ h, p x = false := by
  induction l with
  | nil => exact ⟨[], [], by simp, by simp, by simp⟩
  | cons x l ih =>
    obtain ⟨g, gs, hl, hg, hgs⟩ := ih
    have hgs' : ∀ h ∈ gs, h <:+: x :: l ∧ ∀ y ∈ h, p y = false := by
      intro h hm
      exact ⟨List.infix_cons (hgs h hm).1, (hgs h hm).2⟩
    rw [List.splitOnP_cons_eq_if_modifyHead, hl]
    split
    · refine ⟨[], g :: gs, rfl, by simp, ?_⟩
      exact List.forall_mem_cons.2 ⟨⟨List.infix_cons hg.1.isInfix, hg.2⟩, hgs'⟩
    · rename_i hx
      refine ⟨x :: g, gs, rfl, ⟨List.cons_prefix_cons.2 ⟨rfl, hg.1⟩, ?_⟩, hgs'⟩
      exact List.forall_mem_cons.2 ⟨by simpa using hx, hg.2⟩

theorem of_mem_splitOnP {α : Type} {p : α → Bool} {l g : List α} (h : g ∈ l.splitOnP p) :
    g <:+: l ∧ ∀ x ∈ g, p x = false := by
  obtain ⟨g', gs, hl, hg, hgs⟩ := exists_splitOnP_eq p l
  rw [hl] at h
  rcases List.mem_cons.1 h with rfl | h
  · exact ⟨hg.1.isInfix, hg.2⟩
  · exact hgs g h

theorem alternatives_cons (t : Token) (ts : List Token) :
    alternatives (t :: ts) =
      if t = .separator then [] :: alternatives ts
      else (alternatives ts).modifyHead (t :: ·) := by
  rw [alternatives, List.splitOn_cons_eq_if_modifyHead]
  simp only [beq_iff_eq]
  rfl

theorem alternatives_tokensOf (row : List Token.Stretch) :
    alternatives (Token.tokensOf row) =
      (row.splitOnP (·.token? == some .separator)).map Token.tokensOf := by
  induction row with
  | nil => rfl
  | cons x row ih =>
    obtain ⟨g, gs, hg⟩ := List.exists_cons_of_ne_nil
      (List.splitOnP_ne_nil (·.token? == some .separator) row)
    rw [hg] at ih
    obtain ⟨text, t⟩ := x
    rw [List.splitOnP_cons_eq_if_modifyHead, hg]
    cases t with
    | none =>
      exact ih
    | some t =>
      have hc : Token.tokensOf (⟨text, some t⟩ :: row) = t :: Token.tokensOf row := rfl
      rw [hc, alternatives_cons, ih]
      by_cases ht : t = .separator
      · simp [ht, Token.tokensOf]
      · simp [ht, Token.tokensOf]

theorem scan_textOf {s : List Char} {row : List Token.Stretch}
    (h : row ∈ (Token.stretches s).splitOnP (·.token? == some .separator)) :
    Token.scan (Token.textOf row) = Token.tokensOf row := by
  rw [← Token.tokensOf_stretches, Token.stretches_of_infix (of_mem_splitOnP h).1]

theorem alternatives_scan (text : String) :
    alternatives (Token.scan text.toList) =
      (pieces text).map fun piece => Token.scan piece.toList := by
  rw [← Token.tokensOf_stretches, alternatives_tokensOf, pieces, List.map_map]
  refine List.map_congr_left fun row hrow => ?_
  rw [Function.comp_apply, String.toList_ofList, scan_textOf hrow]

theorem separator_not_mem_scan {text piece : String} (h : piece ∈ pieces text) :
    .separator ∉ Token.scan piece.toList := by
  obtain ⟨row, hrow, rfl⟩ := List.mem_map.1 h
  rw [String.toList_ofList, scan_textOf hrow]
  intro hm
  obtain ⟨x, hx, ht⟩ := List.mem_filterMap.1 hm
  have hf := (of_mem_splitOnP hrow).2 x hx
  simp [ht] at hf

theorem eq_singleton_of_parse {text : String} {L : List Selector}
    (hs : .separator ∉ Token.scan text.toList) (h : parse text = .ok L) : ∃ a, L = [a] := by
  obtain ⟨d, hd, -, -, rfl⟩ := parse_cases h
  have hf : d.finished = [] := by
    refine Draft.run_invariant (I := fun d => d.finished = []) ?_ rfl hd
    intro t ht d d' hI hstep
    rcases Draft.step_cases hstep with ⟨f, -, rfl⟩ | ⟨-, -, rfl⟩ | ⟨-, rfl⟩ | ⟨rfl, -, -⟩
    · rw [Draft.add]
      split <;> exact hI
    · exact hI
    · rw [Draft.closeNegation]
      split <;> exact hI
    · exact absurd ht hs
  exact ⟨_, by rw [hf, List.nil_append]⟩

namespace Draft

variable {text : String} {d : Draft} {t : Token}

def after (L : List Selector) (d : Draft) : Draft :=
  { d with finished := L ++ d.finished }

theorem add_after (L : List Selector) (d : Draft) (f : Selector → Selector) :
    (d.after L).add f = (d.add f).after L := by
  obtain ⟨finished, current, negation⟩ := d
  cases negation <;> rfl

theorem closeNegation_after (L : List Selector) (d : Draft) :
    (d.after L).closeNegation = d.closeNegation.after L := by
  obtain ⟨finished, current, negation⟩ := d
  cases negation <;> rfl

theorem endAlternative_after (text other : String) (L : List Selector) (d : Draft) :
    (d.after L).endAlternative text =
      ((d.endAlternative other).mapError (·.inText text)).map (after L) := by
  have he : (d.after L).current.isEmpty = d.current.isEmpty := rfl
  rw [endAlternative, endAlternative, he]
  cases d.current.isEmpty with
  | true => rfl
  | false => simp [after, Except.mapError, Except.map]

theorem step_after (text other : String) (L : List Selector) (d : Draft) (t : Token) :
    (d.after L).step text t = ((d.step other t).mapError (·.inText text)).map (after L) := by
  have hn : (d.after L).negation.isSome = d.negation.isSome := rfl
  cases t with
  | tag | className | identifier => exact congrArg Except.ok (add_after L d _)
  | closeNegation => exact congrArg Except.ok (closeNegation_after L d)
  | «attribute» name value =>
    simp only [step]
    cases unescape? name with
    | none => rfl
    | some plain => exact congrArg Except.ok (add_after L d _)
  | openNegation =>
    rw [step, step, hn]
    cases d.negation.isSome <;> rfl
  | separator =>
    rw [step, step, hn]
    cases d.negation.isSome with
    | true => rfl
    | false => exact endAlternative_after text other L d

theorem finish_after (text other : String) (L : List Selector) (d : Draft) :
    (d.after L).finish text = ((d.finish other).mapError (·.inText text)).map (L ++ ·) := by
  have hn : (d.after L).negation.isSome = d.negation.isSome := rfl
  rw [finish, finish, hn, endAlternative_after text other]
  cases d.negation.isSome with
  | true => rfl
  | false => cases d.endAlternative other <;> rfl

theorem readFrom_after (text other : String) (L : List Selector) (d : Draft) (ts : List Token) :
    readFrom text (d.after L) ts =
      ((readFrom other d ts).mapError (·.inText text)).map (L ++ ·) := by
  have h := readFrom_map (r := id) (step_after text other L) (finish_after text other L) d ts
  rwa [List.map_id] at h

theorem readFrom_inText (text other : String) (d : Draft) (ts : List Token) :
    (readFrom other d ts).mapError (·.inText text) = readFrom text d ts := by
  have h := readFrom_after text other [] d ts
  have hd : d.after [] = d := rfl
  rw [hd] at h
  rw [h]
  cases readFrom other d ts <;> rfl

theorem beforeSeparator_of_step {e : SelectorError} (h : d.step text t = .error e) :
    e.beforeSeparator = e := by
  cases t with
  | tag | className | identifier | closeNegation => cases h
  | «attribute» name value =>
    rw [step] at h
    split at h
    · cases h
    · cases h
      rfl
  | openNegation =>
    rw [step] at h
    split at h
    · cases h
      rfl
    · cases h
  | separator =>
    rw [step] at h
    split at h
    · cases h
      rfl
    · rw [endAlternative] at h
      split at h
      · cases h
        rfl
      · cases h

end Draft

def together : List (Except SelectorError (List Selector)) → Except SelectorError (List Selector)
  | [] => .ok []
  | .ok L :: rest => (together rest).map (L ++ ·)
  | .error e :: rest => .error (if rest.isEmpty then e else e.beforeSeparator)

theorem readFrom_separator (text : String) (d : Draft) (ts : List Token) :
    d.readFrom text (.separator :: ts) =
      match d.finish text with
      | .ok L => (Draft.readFrom text {} ts).map (L ++ ·)
      | .error e => .error e.beforeSeparator := by
  cases hn : d.negation.isSome with
  | true =>
    rw [Draft.readFrom_cons, Draft.step, Draft.finish, hn]
    rfl
  | false =>
    cases h : d.endAlternative text with
    | error e =>
      have he : e.beforeSeparator = e :=
        Draft.beforeSeparator_of_step (t := .separator) (by rw [Draft.step, hn]; exact h)
      simp [Draft.readFrom_cons, Draft.step, Draft.finish, hn, h, Except.map, he]
    | ok d' =>
      obtain ⟨-, rfl⟩ := Draft.endAlternative_cases h
      have ha := Draft.readFrom_after text text (d.finished ++ [d.current.withWildcard]) {} ts
      rw [Draft.readFrom_inText] at ha
      simpa [Draft.readFrom_cons, Draft.step, Draft.finish, hn, h, Draft.after, Except.map] using ha

theorem readFrom_eq_together (text : String) (d : Draft) (ts : List Token) {g : List Token}
    {gs : List (List Token)} (h : alternatives ts = g :: gs) :
    d.readFrom text ts = together (d.readFrom text g :: gs.map (Draft.readFrom text {})) := by
  induction ts generalizing d g gs with
  | nil =>
    obtain ⟨rfl, rfl⟩ : [] = g ∧ [] = gs := by simpa [alternatives] using h
    cases d.readFrom text [] <;> simp [together, Except.map]
  | cons t ts ih =>
    obtain ⟨g', gs', hg⟩ := List.exists_cons_of_ne_nil (List.splitOn_ne_nil .separator ts)
    rw [← alternatives] at hg
    rw [alternatives_cons, hg] at h
    split at h
    · rename_i ht
      subst ht
      obtain ⟨rfl, rfl⟩ : [] = g ∧ g' :: gs' = gs := by simpa using h
      have hf : d.readFrom text [] = d.finish text := rfl
      rw [readFrom_separator, ih {} hg, hf]
      cases d.finish text <;> rfl
    · obtain ⟨rfl, rfl⟩ : t :: g' = g ∧ gs' = gs := by simpa using h
      rw [Draft.readFrom_cons, Draft.readFrom_cons]
      cases hs : d.step text t with
      | ok d' => exact ih d' hg
      | error e => simp [together, Draft.beforeSeparator_of_step hs]

theorem parse_eq_together (text : String) :
    parse text =
      together ((pieces text).map fun piece => (parse piece).mapError (·.inText text)) := by
  obtain ⟨g, gs, hg⟩ := List.exists_cons_of_ne_nil
    (List.splitOn_ne_nil .separator (Token.scan text.toList))
  rw [← alternatives] at hg
  have hp : ∀ piece, (parse piece).mapError (·.inText text) =
      Draft.readFrom text {} (Token.scan piece.toList) := by
    intro piece
    exact Draft.readFrom_inText text piece {} _
  have hl : (pieces text).map (fun piece => (parse piece).mapError (·.inText text)) =
      (alternatives (Token.scan text.toList)).map (Draft.readFrom text {}) := by
    rw [alternatives_scan, List.map_map]
    exact List.map_congr_left fun piece _ => hp piece
  rw [hl, hg]
  exact readFrom_eq_together text {} _ hg

section Together

variable {f : String → Except SelectorError (List Selector)} {ps : List String}

theorem map_eq_error_iff {ε α β : Type} {r : Except ε α} {g : α → β} {e : ε} :
    r.map g = .error e ↔ r = .error e := by
  cases r <;> simp [Except.map]

theorem together_eq_ok_iff (hf : ∀ p ∈ ps, ∀ L, f p = .ok L → ∃ a, L = [a]) {L : List Selector} :
    together (ps.map f) = .ok L ↔ List.Forall₂ (fun p a => f p = .ok [a]) ps L := by
  induction ps generalizing L with
  | nil => simp [together, eq_comm]
  | cons p ps ih =>
    have ih' := fun L => ih (L := L) fun q hq => hf q (by simp [hq])
    rw [List.map_cons]
    cases hp : f p with
    | error e => cases L <;> simp [together, hp]
    | ok l =>
      obtain ⟨a, rfl⟩ := hf p (by simp) l hp
      cases L with
      | nil => cases ht : together (ps.map f) <;> simp [together, ht, Except.map]
      | cons b L =>
        rw [List.forall₂_cons, ← ih' L, hp]
        cases ht : together (ps.map f) <;> simp [together, ht, Except.map]

theorem together_eq_error_iff {e : SelectorError} :
    together (ps.map f) = .error e ↔
      ∃ before p after e', ps = before ++ p :: after ∧ (∀ q ∈ before, ∃ L, f q = .ok L) ∧
        f p = .error e' ∧ e = if after.isEmpty then e' else e'.beforeSeparator := by
  induction ps with
  | nil => simp [together]
  | cons p ps ih =>
    rw [List.map_cons]
    cases hp : f p with
    | error e' =>
      constructor
      · intro h
        have he := Except.error.inj h
        rw [List.isEmpty_map] at he
        exact ⟨[], p, ps, e', rfl, by simp, hp, he.symm⟩
      · rintro ⟨before, q, after, e'', hps, hb, hq, rfl⟩
        cases before with
        | nil =>
          obtain ⟨rfl, rfl⟩ : p = q ∧ ps = after := by simpa using hps
          obtain rfl : e' = e'' := by simpa [hp] using hq
          simp [together]
        | cons r before =>
          obtain ⟨rfl, -⟩ : p = r ∧ _ := by simpa using hps
          obtain ⟨L, hL⟩ := hb p (by simp)
          rw [hp] at hL
          cases hL
    | ok L =>
      rw [together, map_eq_error_iff, ih]
      constructor
      · rintro ⟨before, q, after, e', rfl, hb, hq, rfl⟩
        exact ⟨p :: before, q, after, e', rfl, List.forall_mem_cons.2 ⟨⟨L, hp⟩, hb⟩, hq, rfl⟩
      · rintro ⟨before, q, after, e', hps, hb, hq, rfl⟩
        cases before with
        | nil =>
          obtain ⟨rfl, -⟩ : p = q ∧ _ := by simpa using hps
          rw [hp] at hq
          cases hq
        | cons r before =>
          obtain ⟨rfl, rfl⟩ : p = r ∧ ps = before ++ q :: after := by simpa using hps
          exact ⟨before, q, after, e', rfl, (List.forall_mem_cons.1 hb).2, hq, rfl⟩

end Together

theorem mapError_eq_ok_iff {ε α : Type} {r : Except ε α} {g : ε → ε} {a : α} :
    r.mapError g = .ok a ↔ r = .ok a := by
  cases r <;> simp [Except.mapError]

theorem mapError_eq_error_iff {ε α : Type} {r : Except ε α} {g : ε → ε} {e : ε} :
    r.mapError g = .error e ↔ ∃ e', r = .error e' ∧ g e' = e := by
  cases r <;> simp [Except.mapError]

theorem parse_eq_ok_iff_pieces {text : String} {L : List Selector} :
    parse text = .ok L ↔ List.Forall₂ (fun p a => parse p = .ok [a]) (pieces text) L := by
  have hs : ∀ p ∈ pieces text, ∀ L, (parse p).mapError (·.inText text) = .ok L → ∃ a, L = [a] := by
    intro p hp L hL
    exact eq_singleton_of_parse (separator_not_mem_scan hp) (mapError_eq_ok_iff.1 hL)
  rw [parse_eq_together, together_eq_ok_iff hs]
  simp only [mapError_eq_ok_iff]

theorem parse_eq_error_iff_pieces {text : String} {e : SelectorError} :
    parse text = .error e ↔
      ∃ before p after e', pieces text = before ++ p :: after ∧
        (∀ q ∈ before, ∃ L, parse q = .ok L) ∧ parse p = .error e' ∧
        e = if after.isEmpty then e'.inText text else (e'.inText text).beforeSeparator := by
  rw [parse_eq_together, together_eq_error_iff]
  simp only [mapError_eq_ok_iff, mapError_eq_error_iff]
  constructor
  · rintro ⟨before, p, after, -, hps, hb, ⟨e', hp, rfl⟩, rfl⟩
    exact ⟨before, p, after, e', hps, hb, hp, rfl⟩
  · rintro ⟨before, p, after, e', hps, hb, hp, rfl⟩
    exact ⟨before, p, after, _, hps, hb, ⟨e', hp, rfl⟩, rfl⟩

theorem exists_parse_iff_pieces {text : String} :
    (∃ L, parse text = .ok L) ↔ ∀ p ∈ pieces text, ∃ L, parse p = .ok L := by
  constructor
  · rintro ⟨L, hL⟩
    have h := (parse_eq_ok_iff_pieces.1 hL).imp
      (S := fun p a => (∃ L, parse p = .ok L) ∧ parse p = .ok [a]) fun _ _ hp => ⟨⟨_, hp⟩, hp⟩
    exact ((List.forall₂_and_left _ _).1 h).1
  · intro h
    cases hs : parse text with
    | ok L => exact ⟨L, rfl⟩
    | error e =>
      obtain ⟨before, p, after, e', hps, -, hp, -⟩ := parse_eq_error_iff_pieces.1 hs
      obtain ⟨L, hL⟩ := h p (by simp [hps])
      rw [hp] at hL
      cases hL

theorem parse_independent (text : String) :
    ((∃ L, parse text = .ok L) ↔ ∀ p ∈ pieces text, ∃ L, parse p = .ok L) ∧
      (∀ L, parse text = .ok L ↔ List.Forall₂ (fun p a => parse p = .ok [a]) (pieces text) L) ∧
      ∀ e, parse text = .error e ↔
        ∃ before p after e', pieces text = before ++ p :: after ∧
          (∀ q ∈ before, ∃ L, parse q = .ok L) ∧ parse p = .error e' ∧
          e = if after.isEmpty then e'.inText text else (e'.inText text).beforeSeparator :=
  ⟨exists_parse_iff_pieces, fun _ => parse_eq_ok_iff_pieces, fun _ => parse_eq_error_iff_pieces⟩

end Selector

end TemplateQuery
