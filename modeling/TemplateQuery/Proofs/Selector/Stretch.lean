import TemplateQuery.Proofs.Selector.Locality

namespace TemplateQuery.Selector.Token

variable {s u after : List Char} {t : Token}

structure Stretch where
  text : List Char
  token? : Option Token

def stretches (s : List Char) : List Stretch :=
  match s with
  | [] => []
  | c :: rest =>
    match _h : read? (c :: rest) with
    | some (t, after) =>
      ⟨(c :: rest).take ((c :: rest).length - after.length), some t⟩ :: stretches after
    | none => ⟨[c], none⟩ :: stretches rest
termination_by s.length
decreasing_by
  · exact read?_shorter _h
  · exact Nat.lt_succ_self rest.length

def textOf (row : List Stretch) : List Char :=
  row.flatMap (·.text)

def tokensOf (row : List Stretch) : List Token :=
  row.filterMap (·.token?)

variable {row : List Stretch}

theorem stretches_of_read? (h : read? (u ++ after) = some (t, after)) :
    stretches (u ++ after) = ⟨u, some t⟩ :: stretches after := by
  cases hs : u ++ after with
  | nil => simp [hs, read?_nil] at h
  | cons c rest =>
    have hl : (c :: rest).length - after.length = u.length := by
      rw [← hs, List.length_append, Nat.add_sub_cancel]
    rw [hs] at h
    rw [stretches]
    split
    · rename_i t' after' h'
      obtain ⟨rfl, rfl⟩ : t' = t ∧ after' = after := by simpa [h'] using h
      rw [hl, ← hs, List.take_left]
    · rename_i h'
      rw [h'] at h
      cases h

theorem stretches_of_read?_none {c : Char} {rest : List Char} (h : read? (c :: rest) = none) :
    stretches (c :: rest) = ⟨[c], none⟩ :: stretches rest := by
  rw [stretches]
  split <;> simp_all

theorem textOf_stretches (s : List Char) : textOf (stretches s) = s := by
  induction s using scan.induct with
  | case1 => simp [stretches, textOf]
  | case2 c rest t after h ih =>
    obtain ⟨u, hu⟩ := read?_suffix h
    rw [← hu] at h ⊢
    rw [stretches_of_read? h, textOf, List.flatMap_cons, ← textOf, ih]
  | case3 c rest h ih =>
    rw [stretches_of_read?_none h, textOf, List.flatMap_cons, ← textOf, ih]
    rfl

theorem tokensOf_stretches (s : List Char) : tokensOf (stretches s) = scan s := by
  induction s using scan.induct with
  | case1 => simp [stretches, tokensOf, scan]
  | case2 c rest t after h ih =>
    rw [scan_of_read? h]
    obtain ⟨u, hu⟩ := read?_suffix h
    rw [← hu] at h ⊢
    rw [stretches_of_read? h, ← ih]
    rfl
  | case3 c rest h ih =>
    rw [stretches_of_read?_none h, scan_of_read?_none h, ← ih]
    rfl

theorem stretches_cases {x : Stretch} (h : stretches s = x :: row) :
    (∃ u t after, s = u ++ after ∧ x = ⟨u, some t⟩ ∧ read? (u ++ after) = some (t, after) ∧
        stretches after = row) ∨
      ∃ c rest, s = c :: rest ∧ x = ⟨[c], none⟩ ∧ read? (c :: rest) = none ∧
        stretches rest = row := by
  cases s with
  | nil => simp [stretches] at h
  | cons c rest =>
    cases hr : read? (c :: rest) with
    | none =>
      rw [stretches_of_read?_none hr] at h
      cases h
      exact .inr ⟨c, rest, rfl, rfl, hr, rfl⟩
    | some r =>
      obtain ⟨t, after⟩ := r
      obtain ⟨u, hu⟩ := read?_suffix hr
      rw [← hu] at h hr
      rw [stretches_of_read? hr] at h
      cases h
      exact .inl ⟨u, t, after, hu.symm, rfl, hr, rfl⟩

theorem stretches_of_append_right {l r : List Stretch} (h : stretches s = l ++ r) :
    stretches (textOf r) = r := by
  induction l generalizing s with
  | nil =>
    rw [List.nil_append] at h
    rw [← h, textOf_stretches]
  | cons x l ih =>
    rcases stretches_cases h with ⟨u, t, after, -, -, -, hs⟩ | ⟨c, rest, -, -, -, hs⟩
    · exact ih hs
    · exact ih hs

theorem stretches_of_append_left {l r : List Stretch} (h : stretches s = l ++ r) :
    stretches (textOf l) = l := by
  induction l generalizing s with
  | nil => simp [textOf, stretches]
  | cons x l ih =>
    have ht : ∀ after, stretches after = l ++ r → after = textOf l ++ textOf r := by
      intro after hs
      rw [← textOf_stretches after, hs, textOf, List.flatMap_append]
      rfl
    rcases stretches_cases h with ⟨u, t, after, -, rfl, hr, hs⟩ | ⟨c, rest, -, rfl, hr, hs⟩
    · rw [ht after hs, ← List.append_assoc] at hr
      have hu : read? (u ++ textOf l) = some (t, textOf l) := read?_isLocal.of_append hr
      rw [textOf, List.flatMap_cons, ← textOf, stretches_of_read? hu, ih hs]
    · rw [ht rest hs] at hr
      have hc : read? (c :: textOf l) = none := read?_isLocal.none_of_append hr
      rw [textOf, List.flatMap_cons, ← textOf, List.singleton_append,
        stretches_of_read?_none hc, ih hs]

theorem stretches_of_infix {g : List Stretch} (h : g <:+: stretches s) :
    stretches (textOf g) = g := by
  obtain ⟨l, r, h⟩ := h
  exact stretches_of_append_right (stretches_of_append_left h.symm)

end TemplateQuery.Selector.Token
