import TemplateQuery.Proofs.Selector.Scan

namespace TemplateQuery.Selector.Token

variable {α : Type} {p : Char → Bool} {q : Char} {s u v after : List Char} {t : Token}

theorem quotedValue?_suffix (h : quotedValue? q s = some (v, after)) : after <:+ s := by
  cases s with
  | nil => cases h
  | cons c rest =>
    simp only [quotedValue?] at h
    split at h
    · split at h
      · rename_i d r hd
        obtain ⟨-, rfl⟩ : _ ∧ r = after := by simpa using h
        have hr : d :: ']' :: r <:+ rest := hd ▸ List.dropWhile_suffix _
        exact ((List.suffix_append [d, ']'] r).trans hr).trans (List.suffix_cons c rest)
      · cases h
    · cases h

theorem bareValue?_suffix (h : bareValue? s = some (v, after)) : after <:+ s := by
  simp only [bareValue?] at h
  split at h
  · cases h
  · rename_i d r hd
    obtain ⟨-, rfl⟩ : _ ∧ r = after := by simpa using h
    have hr : d :: r <:+ s := hd ▸ List.dropWhile_suffix _
    exact (List.suffix_cons d r).trans hr

theorem value?_suffix (h : value? s = some (v, after)) : after <:+ s := by
  simp only [value?, Option.or_eq_some_iff] at h
  rcases h with h | ⟨-, h | ⟨-, h⟩⟩
  · exact quotedValue?_suffix h
  · exact quotedValue?_suffix h
  · exact bareValue?_suffix h

theorem attribute?_suffix (h : attribute? s = some (t, after)) : after <:+ s := by
  simp only [attribute?] at h
  split at h
  · cases h
  have hs : s.dropWhile isAttributeName <:+ s := List.dropWhile_suffix _
  split at h
  · rename_i r hd
    obtain ⟨-, rfl⟩ : _ ∧ r = after := by simpa using h
    exact (List.suffix_cons ']' r).trans (hd ▸ hs)
  · rename_i r hd
    obtain ⟨⟨v, r'⟩, hv, ht⟩ := Option.map_eq_some_iff.1 h
    obtain ⟨-, rfl⟩ : _ ∧ r' = after := by simpa using ht
    exact ((value?_suffix hv).trans (List.suffix_cons '=' r)).trans (hd ▸ hs)
  · cases h

theorem named?_suffix {token : List Char → Token} (h : named? token s = some (t, after)) :
    after <:+ s := by
  simp only [named?] at h
  split at h
  · cases h
  · obtain ⟨-, rfl⟩ : _ ∧ s.dropWhile isName = after := by simpa using h
    exact List.dropWhile_suffix _

theorem separator?_suffix (h : separator? s = some (t, after)) : after <:+ s := by
  simp only [separator?] at h
  split at h
  · rename_i r hd
    obtain ⟨-, rfl⟩ : _ ∧ r.dropWhile Text.isBlank = after := by simpa using h
    have hs : ',' :: r <:+ s := hd ▸ List.dropWhile_suffix _
    exact ((List.dropWhile_suffix _).trans (List.suffix_cons ',' r)).trans hs
  · cases h

theorem read?_suffix (h : read? s = some (t, after)) : after <:+ s := by
  unfold read? at h
  split at h
  · obtain ⟨-, rfl⟩ : _ ∧ _ = after := by simpa using h
    exact List.suffix_append [':', 'n', 'o', 't', '('] _
  · exact (named?_suffix h).trans (List.suffix_cons _ _)
  · exact (named?_suffix h).trans (List.suffix_cons _ _)
  · exact (attribute?_suffix h).trans (List.suffix_cons _ _)
  · obtain ⟨-, rfl⟩ : _ ∧ _ = after := by simpa using h
    exact List.suffix_cons _ _
  · rcases Option.or_eq_some_iff.1 h with h | ⟨-, h⟩
    · exact named?_suffix h
    · exact separator?_suffix h

-- Only the opening of a negation is looked for letter by letter; all other readers ask for classes
-- of characters.

def opensNegation (s : List Char) : Bool :=
  [':', 'n', 'o', 't', '('].isPrefixOf s

def negation? (s : List Char) : Option (Token × List Char) :=
  if opensNegation s then some (.openNegation, s.drop 5) else none

def other? (s : List Char) : Option (Token × List Char) :=
  match s with
  | '.' :: rest => named? .className rest
  | '#' :: rest => named? .identifier rest
  | '[' :: rest => attribute? rest
  | ')' :: rest => some (.closeNegation, rest)
  | s => (named? .tag s).or (separator? s)

theorem opensNegation_iff :
    opensNegation s = true ↔ ∃ rest, s = ':' :: 'n' :: 'o' :: 't' :: '(' :: rest := by
  rw [opensNegation, List.isPrefixOf_iff_prefix]
  exact exists_congr fun rest => eq_comm

theorem read?_eq_or (s : List Char) : read? s = (negation? s).or (other? s) := by
  by_cases h : opensNegation s = true
  · obtain ⟨rest, rfl⟩ := opensNegation_iff.1 h
    rfl
  · rw [negation?, if_neg h, Option.none_or]
    unfold read? other?
    split
    · exact absurd (opensNegation_iff.2 ⟨_, rfl⟩) h
    · rfl
    · rfl
    · rfl
    · rfl
    · split <;> simp_all

def LeavesOrEnters (f : List Char → Option (α × List Char)) (u v : List Char) : Prop :=
  f (u ++ v) = (f u).map (fun r => (r.1, r.2 ++ v)) ∨
    ∃ r, f (u ++ v) = some r ∧ r.2.length < v.length

def IsLocal (f : List Char → Option (α × List Char)) : Prop :=
  ∀ u v, LeavesOrEnters f u v

variable {f g : List Char → Option (α × List Char)}

theorem IsLocal.or (hf : IsLocal f) (hg : IsLocal g) : IsLocal fun s => (f s).or (g s) := by
  intro u v
  rcases hf u v with h | ⟨r, h, hl⟩
  · cases hu : f u with
    | none => simpa [LeavesOrEnters, h, hu] using hg u v
    | some r => exact .inl (by simp [h, hu])
  · exact .inr ⟨r, by simp [h], hl⟩

theorem leavesOrEnters_of_none (hu : f u = none)
    (h : ∀ r, f (u ++ v) = some r → r.2.length < v.length) : LeavesOrEnters f u v := by
  cases hv : f (u ++ v) with
  | none => exact .inl (by rw [hv, hu]; rfl)
  | some r => exact .inr ⟨r, hv, h r hv⟩

theorem while_append (p : Char → Bool) (u v : List Char) :
    (∃ c r, u.dropWhile p = c :: r ∧ (u ++ v).dropWhile p = c :: (r ++ v) ∧
        (u ++ v).takeWhile p = u.takeWhile p) ∨
      u.dropWhile p = [] ∧ (u ++ v).dropWhile p = v.dropWhile p ∧
        (u ++ v).takeWhile p = u.takeWhile p ++ v.takeWhile p := by
  induction u with
  | nil => simp
  | cons c u ih =>
    cases hc : p c with
    | false => simp [hc]
    | true => simpa [hc] using ih

theorem dropWhile_cases (p : Char → Bool) (v : List Char) :
    v.takeWhile p = [] ∧ v.dropWhile p = v ∨
      v.takeWhile p ≠ [] ∧ (v.dropWhile p).length < v.length := by
  cases v with
  | nil => simp
  | cons c v =>
    cases hc : p c with
    | false => simp [hc]
    | true =>
      have hl := length_dropWhile_le p v
      simp [hc]
      omega

theorem quotedValue?_isLocal (q : Char) : IsLocal (quotedValue? q) := by
  intro u v
  cases u with
  | nil => exact leavesOrEnters_of_none rfl fun r h => quotedValue?_shorter h
  | cons c u =>
    by_cases hc : c = q
    · subst hc
      rcases while_append (· != c) u v with ⟨d, r, hu, hd, ht⟩ | ⟨hu, hd, -⟩
      · cases r with
        | nil =>
          refine leavesOrEnters_of_none (by simp [quotedValue?, hu]) fun r h => ?_
          simp only [List.cons_append, quotedValue?, if_pos, hd, List.nil_append] at h
          split at h
          · rename_i r' he
            cases h
            simp_all
          · cases h
        | cons e r =>
          left
          by_cases he : e = ']' <;> simp [quotedValue?, hu, hd, ht, he]
      · refine leavesOrEnters_of_none (by simp [quotedValue?, hu]) fun r h => ?_
        simp only [List.cons_append, quotedValue?, if_pos, hd] at h
        split at h
        · rename_i r' he
          have hl := length_dropWhile_le (· != c) v
          rw [he] at hl
          cases h
          simp at hl ⊢
          omega
        · cases h
    · exact .inl (by simp [quotedValue?, hc])

theorem bareValue?_isLocal : IsLocal bareValue? := by
  intro u v
  rcases while_append (· != ']') u v with ⟨d, r, hu, hd, ht⟩ | ⟨hu, hd, -⟩
  · exact .inl (by simp [bareValue?, hu, hd, ht])
  · refine leavesOrEnters_of_none (by simp [bareValue?, hu]) fun r h => ?_
    have hl := length_dropWhile_le (· != ']') v
    simp only [bareValue?, hd] at h
    split at h
    · cases h
    · rename_i he
      rw [he] at hl
      cases h
      simpa using hl

theorem value?_isLocal : IsLocal value? :=
  (quotedValue?_isLocal '"').or ((quotedValue?_isLocal '\x27').or bareValue?_isLocal)

theorem named?_isLocal (token : List Char → Token) : IsLocal (named? token) := by
  intro u v
  rcases while_append isName u v with ⟨d, r, hu, hd, ht⟩ | ⟨hu, hd, ht⟩
  · left
    simp only [named?, hu, hd, ht]
    split <;> simp
  · rcases dropWhile_cases isName v with ⟨hv, hs⟩ | ⟨hv, hs⟩
    · left
      simp only [named?, hu, hd, ht, hv, hs, List.append_nil]
      split <;> simp
    · exact .inr ⟨_, by simp [named?, ht, hv]; rfl, by rwa [hd]⟩

theorem attribute?_isLocal : IsLocal attribute? := by
  intro u v
  rcases while_append isAttributeName u v with ⟨d, r, hu, hd, ht⟩ | ⟨hu, hd, -⟩
  · simp only [LeavesOrEnters, attribute?, hu, hd, ht]
    by_cases hn : (u.takeWhile isAttributeName).isEmpty = true
    · simp [hn]
    · rw [if_neg hn, if_neg hn]
      by_cases hb : d = ']'
      · simp [hb]
      by_cases he : d = '='
      · subst he
        rcases value?_isLocal r v with h | ⟨a, h, hl⟩
        · left
          cases hr : value? r <;> simp [h, hr]
        · exact .inr ⟨_, by simp [h]; rfl, hl⟩
      · simp [hb, he]
  · refine leavesOrEnters_of_none (by simp [attribute?, hu]) fun r h => ?_
    have hl := length_dropWhile_le isAttributeName v
    simp only [attribute?, hd] at h
    split at h
    · cases h
    · split at h
      · rename_i he
        rw [he] at hl
        cases h
        simpa using hl
      · rename_i rest he
        obtain ⟨a, ha, rfl⟩ := Option.map_eq_some_iff.1 h
        have hs := value?_shorter ha
        rw [he, List.length_cons] at hl
        simp only
        omega
      · cases h

theorem separator?_isLocal : IsLocal separator? := by
  intro u v
  rcases while_append Text.isBlank u v with ⟨d, r, hu, hd, -⟩ | ⟨hu, hd, -⟩
  · by_cases hc : d = ','
    · subst hc
      rcases while_append Text.isBlank r v with ⟨d, r', hr, hd', -⟩ | ⟨hr, hd', -⟩
      · exact .inl (by simp [separator?, hu, hd, hr, hd'])
      · rcases dropWhile_cases Text.isBlank v with ⟨-, hs⟩ | ⟨-, hs⟩
        · exact .inl (by simp [separator?, hu, hd, hr, hd', hs])
        · exact .inr ⟨_, by simp [separator?, hd]; rfl, by rwa [hd']⟩
    · exact .inl (by simp [separator?, hu, hd, hc])
  · refine leavesOrEnters_of_none (by simp [separator?, hu]) fun r h => ?_
    have hl := length_dropWhile_le Text.isBlank v
    simp only [separator?, hd] at h
    split at h
    · rename_i rest he
      have hr := length_dropWhile_le Text.isBlank rest
      rw [he] at hl
      cases h
      simp only [List.length_cons] at hl ⊢
      omega
    · cases h

theorem length_lt_of_opensNegation_append (hu : ¬ opensNegation u = true)
    (h : opensNegation (u ++ v) = true) : ((u ++ v).drop 5).length < v.length := by
  rw [opensNegation, List.isPrefixOf_iff_prefix] at hu h
  have hl := h.length_le
  have hs : u.length < 5 := by
    by_contra hn
    exact hu (List.prefix_of_prefix_length_le h (List.prefix_append u v) (not_lt.1 hn))
  simp only [List.length_append, List.length_cons, List.length_nil, List.length_drop] at hl ⊢
  omega

theorem negation?_isLocal : IsLocal negation? := by
  intro u v
  by_cases hu : opensNegation u = true
  · obtain ⟨rest, rfl⟩ := opensNegation_iff.1 hu
    exact .inl rfl
  · refine leavesOrEnters_of_none (if_neg hu) fun r h => ?_
    rw [negation?] at h
    split at h
    · rename_i hs
      cases h
      exact length_lt_of_opensNegation_append hu hs
    · cases h

theorem other?_of_head {s : List Char} (h : ∀ c ∈ s.head?, c ∉ ['.', '#', '[', ')']) :
    other? s = (named? .tag s).or (separator? s) := by
  unfold other?
  split <;> simp_all

theorem other?_of_opensNegation (h : opensNegation s = true) : other? s = none := by
  obtain ⟨rest, rfl⟩ := opensNegation_iff.1 h
  have hb : Text.isBlank ':' = false := by decide
  rw [other?_of_head (by simp), named?_of_head (stops_cons (isName_eq_false (by decide))),
    Option.none_or]
  simp [separator?, hb]

theorem other?_shorter {r : Token × List Char} (h : other? s = some r) :
    r.2.length < s.length := by
  have hs : read? s = some r := by
    rw [read?_eq_or, negation?, if_neg, Option.none_or, h]
    intro hn
    rw [other?_of_opensNegation hn] at h
    cases h
  exact read?_shorter hs

theorem other?_isLocal : IsLocal other? := by
  intro u v
  have hw : IsLocal fun s => (named? .tag s).or (separator? s) :=
    (named?_isLocal .tag).or separator?_isLocal
  cases u with
  | nil => exact leavesOrEnters_of_none rfl fun r h => other?_shorter h
  | cons c u =>
    by_cases hc : c ∈ ['.', '#', '[', ')']
    · simp only [List.mem_cons, List.not_mem_nil, or_false] at hc
      rcases hc with rfl | rfl | rfl | rfl
      · exact named?_isLocal .className u v
      · exact named?_isLocal .identifier u v
      · exact attribute?_isLocal u v
      · exact .inl rfl
    · have hu : other? (c :: u) = _ := other?_of_head (by simpa using hc)
      have hv : other? (c :: u ++ v) = _ := other?_of_head (by simpa using hc)
      have h := hw (c :: u) v
      rwa [LeavesOrEnters, ← hu, ← hv] at h

theorem read?_isLocal : IsLocal read? := by
  have h : read? = fun s => (negation? s).or (other? s) := funext read?_eq_or
  rw [h]
  exact negation?_isLocal.or other?_isLocal

theorem IsLocal.of_append (hf : IsLocal f) {a : α} {r : List Char}
    (h : f (u ++ v) = some (a, r ++ v)) : f u = some (a, r) := by
  rcases hf u v with hu | ⟨b, hb, hl⟩
  · obtain ⟨b, hb, he⟩ := Option.map_eq_some_iff.1 (hu.symm.trans h)
    simp only [Prod.mk.injEq, List.append_cancel_right_eq] at he
    rw [hb, ← he.1, ← he.2]
  · obtain rfl : b = (a, r ++ v) := Option.some.inj (hb.symm.trans h)
    simp only [List.length_append] at hl
    omega

theorem IsLocal.none_of_append (hf : IsLocal f) (h : f (u ++ v) = none) : f u = none := by
  rcases hf u v with hu | ⟨r, hr, -⟩
  · exact Option.map_eq_none_iff.1 (hu.symm.trans h)
  · rw [h] at hr
    cases hr

end TemplateQuery.Selector.Token
