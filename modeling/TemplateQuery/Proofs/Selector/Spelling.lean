import TemplateQuery.Proofs.Selector.Scan

namespace TemplateQuery.Selector.Token

variable {s v after : List Char} {t : Token}

def written : Token → List Char
  | .tag name | .className name | .identifier name => name
  | .attribute name value => name ++ value
  | .openNegation | .closeNegation | .separator => []

def IsSpelled : Token → Prop
  | .tag name | .className name | .identifier name => IsNameText name
  | .attribute name value => IsAttributeText name ∧ ¬ (HasBothQuotes value ∧ ']' ∈ value)
  | .openNegation | .closeNegation | .separator => True

theorem of_mem_takeWhile {p : Char → Bool} {c : Char} (h : c ∈ s.takeWhile p) : p c = true :=
  List.all_eq_true.1 List.all_takeWhile c h

theorem not_mem_takeWhile {q : Char} : q ∉ s.takeWhile (· != q) := by
  intro h
  have hq := of_mem_takeWhile (p := (· != q)) h
  simp at hq

theorem sublist_of_dropWhile {p : Char → Bool} (h : after.Sublist (s.dropWhile p)) :
    (s.takeWhile p ++ after).Sublist s := by
  have hs : (s.takeWhile p ++ after).Sublist (s.takeWhile p ++ s.dropWhile p) :=
    (List.Sublist.refl _).append h
  rwa [List.takeWhile_append_dropWhile] at hs

theorem quotedValue?_spelled {q : Char} (h : quotedValue? q s = some (v, after)) :
    q ∉ v ∧ (v ++ after).Sublist s := by
  cases s with
  | nil => simp [quotedValue?] at h
  | cons c rest =>
    simp only [quotedValue?] at h
    split at h
    · split at h
      · rename_i d r hd
        obtain ⟨rfl, rfl⟩ : rest.takeWhile (· != q) = v ∧ r = after := by simpa using h
        refine ⟨not_mem_takeWhile, ?_⟩
        apply List.Sublist.cons
        apply sublist_of_dropWhile
        rw [hd]
        exact ((List.Sublist.refl r).cons ']').cons d
      · simp at h
    · simp at h

theorem bareValue?_spelled (h : bareValue? s = some (v, after)) :
    ']' ∉ v ∧ (v ++ after).Sublist s := by
  simp only [bareValue?] at h
  split at h
  · simp at h
  · rename_i d r hd
    obtain ⟨rfl, rfl⟩ : s.takeWhile (· != ']') = v ∧ r = after := by simpa using h
    refine ⟨not_mem_takeWhile, ?_⟩
    apply sublist_of_dropWhile
    rw [hd]
    exact (List.Sublist.refl r).cons d

theorem value?_spelled (h : value? s = some (v, after)) :
    ¬ (HasBothQuotes v ∧ ']' ∈ v) ∧ (v ++ after).Sublist s := by
  simp only [value?, Option.or_eq_some_iff] at h
  rcases h with h | ⟨-, h | ⟨-, h⟩⟩
  · obtain ⟨hq, hs⟩ := quotedValue?_spelled h
    exact ⟨fun hb => hq hb.1.1, hs⟩
  · obtain ⟨hq, hs⟩ := quotedValue?_spelled h
    exact ⟨fun hb => hq hb.1.2, hs⟩
  · obtain ⟨hb, hs⟩ := bareValue?_spelled h
    exact ⟨fun hv => hb hv.2, hs⟩

theorem named?_spelled {token : List Char → Token} (h : named? token s = some (t, after)) :
    ∃ name, t = token name ∧ IsNameText name ∧ (name ++ after).Sublist s := by
  simp only [named?] at h
  split at h
  · simp at h
  · rename_i hn
    obtain ⟨rfl, rfl⟩ : token (s.takeWhile isName) = t ∧ s.dropWhile isName = after := by
      simpa using h
    refine ⟨_, rfl, ⟨by simpa using hn, fun c hc => of_mem_takeWhile hc⟩, ?_⟩
    exact sublist_of_dropWhile (List.Sublist.refl _)

theorem attribute?_spelled (h : attribute? s = some (t, after)) :
    t.IsSpelled ∧ (t.written ++ after).Sublist s := by
  simp only [attribute?] at h
  split at h
  · simp at h
  rename_i hn
  have hname : IsAttributeText (s.takeWhile isAttributeName) :=
    ⟨by simpa using hn, fun c hc => of_mem_takeWhile hc⟩
  split at h
  · rename_i r hd
    obtain ⟨rfl, rfl⟩ : Token.attribute (s.takeWhile isAttributeName) [] = t ∧ r = after := by
      simpa using h
    refine ⟨⟨hname, by simp⟩, ?_⟩
    rw [written, List.append_nil]
    apply sublist_of_dropWhile
    rw [hd]
    exact (List.Sublist.refl r).cons ']'
  · rename_i r hd
    obtain ⟨⟨v, r'⟩, hv, ht⟩ := Option.map_eq_some_iff.1 h
    obtain ⟨rfl, rfl⟩ : Token.attribute (s.takeWhile isAttributeName) v = t ∧ r' = after := by
      simpa using ht
    obtain ⟨hb, hs⟩ := value?_spelled hv
    refine ⟨⟨hname, hb⟩, ?_⟩
    rw [written, List.append_assoc]
    apply sublist_of_dropWhile
    rw [hd]
    exact hs.cons '='
  · simp at h

theorem separator?_spelled (h : separator? s = some (t, after)) :
    t = .separator ∧ after.Sublist s := by
  simp only [separator?] at h
  split at h
  · rename_i r hr
    obtain ⟨rfl, rfl⟩ : Token.separator = t ∧ r.dropWhile Text.isBlank = after := by simpa using h
    have hd := List.dropWhile_sublist Text.isBlank (l := s)
    rw [hr] at hd
    exact ⟨rfl, ((List.dropWhile_sublist _).cons ',').trans hd⟩
  · simp at h

theorem read?_spelled (h : read? s = some (t, after)) :
    t.IsSpelled ∧ (t.written ++ after).Sublist s := by
  unfold read? at h
  split at h
  · rename_i rest
    obtain ⟨rfl, rfl⟩ : Token.openNegation = t ∧ rest = after := by simpa using h
    exact ⟨trivial, List.sublist_append_right [':', 'n', 'o', 't', '('] rest⟩
  · obtain ⟨name, rfl, hn, hs⟩ := named?_spelled h
    exact ⟨hn, hs.cons _⟩
  · obtain ⟨name, rfl, hn, hs⟩ := named?_spelled h
    exact ⟨hn, hs.cons _⟩
  · obtain ⟨hn, hs⟩ := attribute?_spelled h
    exact ⟨hn, hs.cons _⟩
  · rename_i rest
    obtain ⟨rfl, rfl⟩ : Token.closeNegation = t ∧ rest = after := by simpa using h
    exact ⟨trivial, List.sublist_cons_self ')' rest⟩
  · rcases Option.or_eq_some_iff.1 h with h | ⟨-, h⟩
    · obtain ⟨name, rfl, hn, hs⟩ := named?_spelled h
      exact ⟨hn, hs⟩
    · obtain ⟨rfl, hs⟩ := separator?_spelled h
      exact ⟨trivial, hs⟩

theorem isSpelled_of_mem_scan (s : List Char) : ∀ t ∈ scan s, t.IsSpelled := by
  induction s using scan.induct with
  | case1 => simp [scan]
  | case2 c rest t after h ih =>
    rw [scan_of_read? h]
    exact List.forall_mem_cons.2 ⟨(read?_spelled h).1, ih⟩
  | case3 c rest h ih =>
    rw [scan_of_read?_none h]
    exact ih

theorem written_scan_sublist (s : List Char) : ((scan s).flatMap written).Sublist s := by
  induction s using scan.induct with
  | case1 => simp [scan]
  | case2 c rest t after h ih =>
    rw [scan_of_read? h, List.flatMap_cons]
    exact ((List.Sublist.refl _).append ih).trans (read?_spelled h).2
  | case3 c rest h ih =>
    rw [scan_of_read?_none h]
    exact ih.cons c

end TemplateQuery.Selector.Token
