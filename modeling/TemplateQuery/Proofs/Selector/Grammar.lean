import Mathlib.Data.List.DropRight
import TemplateQuery.Proofs.Selector.Escape

namespace TemplateQuery.Selector

def Token.isContent : Token → Bool
  | .closeNegation | .separator => false
  | _ => true

def isOpen (ts : List Token) : Bool :=
  (ts.rtakeWhile (· != .closeNegation)).contains .openNegation

def alternatives (ts : List Token) : List (List Token) :=
  ts.splitOn .separator

def lastAlternative (ts : List Token) : List Token :=
  (alternatives ts).getLastD []

def earlierAlternatives (ts : List Token) : List (List Token) :=
  (alternatives ts).dropLast

def body (g : List Token) : List Token :=
  g.takeWhile (· != .closeNegation)

def afterBody (g : List Token) : List Token :=
  g.dropWhile (· != .closeNegation)

def negated (p : List Token) : List (List Token) :=
  (p.splitOn .openNegation).tail.map body

def outside (p : List Token) : List Token :=
  (p.splitOn .openNegation).headD [] ++ (p.splitOn .openNegation).tail.flatMap afterBody

def tag? : Token → Option String
  | .tag name => some (String.ofList name)
  | _ => none

def class? : Token → Option String
  | .className name => some (Text.lower (String.ofList name))
  | _ => none

def pair? : Token → Option (String × String)
  | .identifier name => some ("id", Text.lower (String.ofList name))
  | .attribute name value =>
    some (Text.lower (String.ofList (withoutBackslashes name)), Text.lower (String.ofList value))
  | _ => none

def conditions (negations : List Selector) (ts : List Token) : Selector where
  element := (ts.filterMap tag?).getLast?
  classNames := ts.filterMap class?
  attributes := ts.filterMap pair?
  negations := negations

def meaning (p : List Token) : Selector :=
  let s := conditions ((negated p).map (conditions [])) (outside p)
  if negated p ≠ [] ∧ (outside p).any Token.isContent = false then s.setElement "*" else s

def offence? (text : String) (seen : List Token) : Token → Option SelectorError
  | .openNegation => if isOpen seen then some .nestedNegation else none
  | .attribute name _ =>
    if HasBareDollar none name then some (.unescapedDollar (String.ofList name)) else none
  | .separator =>
    if isOpen seen then some .severalInNegation
    else if (lastAlternative seen).any Token.isContent then none
    else some (.empty text)
  | _ => none

def firstOffence? (text : String) (seen : List Token) : List Token → Option SelectorError
  | [] => none
  | t :: rest => (offence? text seen t).or (firstOffence? text (seen ++ [t]) rest)

def reading (text : String) (ts : List Token) : Except SelectorError (List Selector) :=
  match firstOffence? text [] ts with
  | some e => .error e
  | none =>
    if isOpen ts then .error (.unclosedNegation text)
    else if (lastAlternative ts).any Token.isContent then .ok ((alternatives ts).map meaning)
    else .error (.empty text)

variable {ts p g : List Token} {init : List (List Token)} {t s : Token}

theorem isOpen_concat (ts : List Token) (t : Token) :
    isOpen (ts ++ [t]) = (t != .closeNegation && (t == .openNegation || isOpen ts)) := by
  rw [isOpen, List.rtakeWhile_concat]
  split
  · rename_i h
    simp [isOpen, h, Bool.or_comm, beq_eq_decide, eq_comm]
  · rename_i h
    simp [h]

theorem isOpen_concat_of_ne (ho : t ≠ .openNegation) (hc : t ≠ .closeNegation) (ts : List Token) :
    isOpen (ts ++ [t]) = isOpen ts := by
  have ho' : (t == .openNegation) = false := by simpa using ho
  have hc' : (t != .closeNegation) = true := by simpa using hc
  rw [isOpen_concat, ho', hc', Bool.false_or, Bool.true_and]

theorem firstOffence?_concat (text : String) (seen ts : List Token) (t : Token) :
    firstOffence? text seen (ts ++ [t]) =
      (firstOffence? text seen ts).or (offence? text (seen ++ ts) t) := by
  induction ts generalizing seen with
  | nil => simp [firstOffence?]
  | cons u ts ih => simp [firstOffence?, ih, Option.or_assoc]

theorem splitOn_concat_self (ts : List Token) (s : Token) :
    (ts ++ [s]).splitOn s = ts.splitOn s ++ [[]] :=
  List.splitOn_append_cons_self ts []

theorem exists_splitOn_eq (s : Token) (ts : List Token) :
    ∃ init g, ts.splitOn s = init ++ [g] :=
  ⟨_, _, (List.dropLast_concat_getLast (List.splitOn_ne_nil s ts)).symm⟩

theorem splitOn_concat (h : t ≠ s) (hs : ts.splitOn s = init ++ [g]) :
    (ts ++ [t]).splitOn s = init ++ [g ++ [t]] := by
  have hb : (t == s) = false := by simpa using h
  induction ts generalizing init g with
  | nil =>
    rw [List.splitOn_nil] at hs
    obtain ⟨rfl, rfl⟩ : init = [] ∧ g = [] := by
      cases init <;> simp_all
    simp [List.splitOn_cons_eq_if_modifyHead, hb]
  | cons x xs ih =>
    obtain ⟨init', g', hx⟩ := exists_splitOn_eq s xs
    rw [List.splitOn_cons_eq_if_modifyHead, hx] at hs
    rw [List.cons_append, List.splitOn_cons_eq_if_modifyHead]
    split
    · rename_i he
      rw [if_pos he, ← List.cons_append] at hs
      obtain ⟨rfl, hg⟩ := List.append_inj' hs rfl
      obtain rfl : g' = g := by simpa using hg
      rw [ih hx, List.cons_append]
    · rename_i he
      rw [if_neg he] at hs
      cases init' with
      | nil =>
        have hs' : [] ++ [x :: g'] = init ++ [g] := hs
        obtain ⟨rfl, hg⟩ := List.append_inj' hs' rfl
        obtain rfl : x :: g' = g := by simpa using hg
        rw [ih hx]
        rfl
      | cons a init' =>
        have hs' : (x :: a) :: init' ++ [g'] = init ++ [g] := hs
        obtain ⟨rfl, hg⟩ := List.append_inj' hs' rfl
        obtain rfl : g' = g := by simpa using hg
        rw [ih hx]
        rfl

theorem alternatives_eq (ts : List Token) :
    alternatives ts = earlierAlternatives ts ++ [lastAlternative ts] := by
  obtain ⟨init, g, h⟩ := exists_splitOn_eq .separator ts
  rw [earlierAlternatives, lastAlternative, alternatives, h]
  simp

theorem alternatives_concat_separator (ts : List Token) :
    earlierAlternatives (ts ++ [.separator]) = alternatives ts ∧
      lastAlternative (ts ++ [.separator]) = [] := by
  have hs : alternatives (ts ++ [.separator]) = alternatives ts ++ [[]] := splitOn_concat_self ts _
  rw [earlierAlternatives, lastAlternative, hs]
  simp

theorem alternatives_concat (h : t ≠ .separator) (ts : List Token) :
    earlierAlternatives (ts ++ [t]) = earlierAlternatives ts ∧
      lastAlternative (ts ++ [t]) = lastAlternative ts ++ [t] := by
  have hs : alternatives (ts ++ [t]) = earlierAlternatives ts ++ [lastAlternative ts ++ [t]] :=
    splitOn_concat h (alternatives_eq ts)
  rw [earlierAlternatives, lastAlternative, hs]
  simp

section Negations

variable {f : List Token} {gs : List (List Token)}

theorem isOpen_eq (h : p.splitOn .openNegation = init ++ [g]) :
    isOpen p = (!init.isEmpty && !g.contains .closeNegation) := by
  induction p using List.reverseRecOn generalizing init g with
  | nil =>
    have hs : [] ++ [[]] = init ++ [g] := h
    obtain ⟨rfl, -⟩ := List.append_inj' hs rfl
    rfl
  | append_singleton p t ih =>
    obtain ⟨init', g', hp⟩ := exists_splitOn_eq .openNegation p
    by_cases ht : t = .openNegation
    · subst ht
      rw [splitOn_concat_self, hp] at h
      obtain ⟨rfl, hg⟩ := List.append_inj' h rfl
      obtain rfl : [] = g := by simpa using hg
      have hs : (init' ++ [g']).isEmpty = false := by simp
      rw [isOpen_concat, hs]
      rfl
    · rw [splitOn_concat ht hp] at h
      obtain ⟨rfl, hg⟩ := List.append_inj' h rfl
      obtain rfl : g' ++ [t] = g := by simpa using hg
      by_cases hc : t = .closeNegation
      · simp [isOpen_concat, hc]
      · rw [isOpen_concat_of_ne ht hc, ih hp]
        simp [Ne.symm hc]

theorem parts_of_splitOn_singleton (h : p.splitOn .openNegation = [f]) :
    outside p = f ∧ negated p = [] := by
  simp [outside, negated, h]

theorem parts_of_splitOn (h : p.splitOn .openNegation = f :: gs ++ [g]) :
    outside p = f ++ gs.flatMap afterBody ++ afterBody g ∧ negated p = gs.map body ++ [body g] := by
  simp [outside, negated, h]

theorem parts_concat_openNegation (p : List Token) :
    outside (p ++ [.openNegation]) = outside p ∧
      negated (p ++ [.openNegation]) = negated p ++ [[]] := by
  have hs := splitOn_concat_self p .openNegation
  obtain ⟨f, gs, hp⟩ := List.exists_cons_of_ne_nil (List.splitOn_ne_nil .openNegation p)
  rw [hp] at hs
  simp [outside, negated, hp, hs, body, afterBody]

theorem body_concat_of_mem (hm : .closeNegation ∈ g) :
    body (g ++ [t]) = body g ∧ afterBody (g ++ [t]) = afterBody g ++ [t] := by
  obtain ⟨as, bs, rfl, ha⟩ := List.eq_append_cons_of_mem hm
  have hp := bne_of_not_mem ha
  rw [body, body, afterBody, afterBody, List.append_assoc, List.takeWhile_append_of_pos hp,
    List.takeWhile_append_of_pos hp, List.dropWhile_append_of_pos hp,
    List.dropWhile_append_of_pos hp]
  simp

theorem body_of_not_mem (hm : .closeNegation ∉ g) : body g = g ∧ afterBody g = [] := by
  have hp := bne_of_not_mem hm
  exact ⟨List.takeWhile_eq_self_iff.2 hp, List.dropWhile_eq_nil_iff.2 hp⟩

theorem body_concat_of_not_mem (hm : .closeNegation ∉ g) :
    body (g ++ [.closeNegation]) = g ∧ afterBody (g ++ [.closeNegation]) = [.closeNegation] := by
  have hp := bne_of_not_mem hm
  rw [body, afterBody, List.takeWhile_append_of_pos hp, List.dropWhile_append_of_pos hp]
  simp

theorem parts_concat_of_not_isOpen (ht : t ≠ .openNegation) (hp : isOpen p = false) :
    outside (p ++ [t]) = outside p ++ [t] ∧ negated (p ++ [t]) = negated p := by
  obtain ⟨init, g, h⟩ := exists_splitOn_eq .openNegation p
  have hs := splitOn_concat ht h
  rw [isOpen_eq h] at hp
  cases init with
  | nil =>
    obtain ⟨ho, hn⟩ := parts_of_splitOn_singleton h
    obtain ⟨ho', hn'⟩ := parts_of_splitOn_singleton hs
    rw [ho, ho', hn, hn']
    exact ⟨rfl, rfl⟩
  | cons f gs =>
    obtain ⟨ho, hn⟩ := parts_of_splitOn h
    obtain ⟨ho', hn'⟩ := parts_of_splitOn hs
    have hm : .closeNegation ∈ g := by simpa using hp
    obtain ⟨hb, ha⟩ := body_concat_of_mem (t := t) hm
    rw [ho, ho', hn, hn', hb, ha, ← List.append_assoc]
    exact ⟨rfl, rfl⟩

theorem splitOn_of_isOpen (hp : isOpen p = true) :
    ∃ f gs g, p.splitOn .openNegation = f :: gs ++ [g] ∧ .closeNegation ∉ g := by
  obtain ⟨init, g, h⟩ := exists_splitOn_eq .openNegation p
  rw [isOpen_eq h] at hp
  cases init with
  | nil => simp at hp
  | cons f gs => exact ⟨f, gs, g, h, by simpa using hp⟩

theorem negated_of_isOpen (hp : isOpen p = true) : ∃ bs b, negated p = bs ++ [b] := by
  obtain ⟨f, gs, g, h, -⟩ := splitOn_of_isOpen hp
  exact ⟨_, _, (parts_of_splitOn h).2⟩

theorem parts_concat_closeNegation (hp : isOpen p = true) :
    outside (p ++ [.closeNegation]) = outside p ++ [.closeNegation] ∧
      negated (p ++ [.closeNegation]) = negated p := by
  obtain ⟨f, gs, g, h, hm⟩ := splitOn_of_isOpen hp
  obtain ⟨ho, hn⟩ := parts_of_splitOn h
  obtain ⟨ho', hn'⟩ := parts_of_splitOn (splitOn_concat (t := .closeNegation) (by simp) h)
  obtain ⟨hb, ha⟩ := body_of_not_mem hm
  obtain ⟨hb', ha'⟩ := body_concat_of_not_mem hm
  rw [ho, ho', hn, hn', hb, ha, hb', ha', List.append_nil]
  exact ⟨rfl, rfl⟩

theorem parts_concat_of_isOpen (ht : t ≠ .openNegation) (hc : t ≠ .closeNegation)
    (hp : isOpen p = true) :
    outside (p ++ [t]) = outside p ∧
      ∃ bs b, negated p = bs ++ [b] ∧ negated (p ++ [t]) = bs ++ [b ++ [t]] := by
  obtain ⟨f, gs, g, h, hm⟩ := splitOn_of_isOpen hp
  obtain ⟨ho, hn⟩ := parts_of_splitOn h
  obtain ⟨ho', hn'⟩ := parts_of_splitOn (splitOn_concat ht h)
  have hm' : .closeNegation ∉ g ++ [t] := by simp [hm, Ne.symm hc]
  obtain ⟨hb, ha⟩ := body_of_not_mem hm
  obtain ⟨hb', ha'⟩ := body_of_not_mem hm'
  rw [ho, ho', hn, hn', hb, ha, hb', ha']
  exact ⟨rfl, _, _, rfl, rfl⟩

theorem not_mem_outside (p : List Token) : .openNegation ∉ outside p := by
  induction p using List.reverseRecOn with
  | nil => simp [outside]
  | append_singleton p t ih =>
    by_cases ht : t = .openNegation
    · subst ht
      rwa [(parts_concat_openNegation p).1]
    have ih' : .openNegation ∉ outside p ++ [t] := by simp [ih, Ne.symm ht]
    by_cases hp : isOpen p = true
    · by_cases hc : t = .closeNegation
      · subst hc
        rwa [(parts_concat_closeNegation hp).1]
      · rwa [(parts_concat_of_isOpen ht hc hp).1]
    · rwa [(parts_concat_of_not_isOpen ht (by simpa using hp)).1]

theorem any_isContent (p : List Token) :
    p.any Token.isContent = ((outside p).any Token.isContent || !(negated p).isEmpty) := by
  induction p using List.reverseRecOn with
  | nil => rfl
  | append_singleton p t ih =>
    by_cases ht : t = .openNegation
    · subst ht
      rw [(parts_concat_openNegation p).2]
      simp [Token.isContent]
    by_cases hp : isOpen p = true
    · obtain ⟨bs, b, hn⟩ := negated_of_isOpen hp
      have hpn : p.any Token.isContent = true := by simp [ih, hn]
      by_cases hc : t = .closeNegation
      · subst hc
        rw [(parts_concat_closeNegation hp).2, List.any_append, hpn, hn]
        simp
      · obtain ⟨-, bs', b', -, hn'⟩ := parts_concat_of_isOpen ht hc hp
        rw [List.any_append, hpn, hn']
        simp
    · obtain ⟨ho, hn⟩ := parts_concat_of_not_isOpen ht (by simpa using hp)
      rw [ho, hn, List.any_append, List.any_append, ih, Bool.or_right_comm]

end Negations

end TemplateQuery.Selector
