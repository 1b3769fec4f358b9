import TemplateQuery.Proofs.Selector.Locality
import TemplateQuery.Proofs.Text.Fold

namespace TemplateQuery.Selector

namespace Token

def small : Token → Token
  | .tag name => .tag (name.map Char.toLower)
  | .className name => .className (name.map Char.toLower)
  | .identifier name => .identifier (name.map Char.toLower)
  | .attribute name value => .attribute (name.map Char.toLower) (value.map Char.toLower)
  | .openNegation => .openNegation
  | .closeNegation => .closeNegation
  | .separator => .separator

def smallRest (r : Token × List Char) : Token × List Char :=
  (r.1.small, r.2.map Char.toLower)

def smallValue (r : List Char × List Char) : List Char × List Char :=
  (r.1.map Char.toLower, r.2.map Char.toLower)

def IgnoresCase (p : Char → Bool) : Prop :=
  ∀ c, p c.toLower = p c

theorem ignoresCase_isName : IgnoresCase isName := by
  have hm : Text.IsMark '-' := by decide
  intro c
  rw [isName, isName, Text.isWord_toLower]
  simp only [beq_eq_decide, Text.toLower_eq_iff_of_isMark hm]

theorem ignoresCase_isAttributeName : IgnoresCase isAttributeName := by
  obtain ⟨h1, h2, h3, h4, h5⟩ : Text.IsMark '-' ∧ Text.IsMark '.' ∧ Text.IsMark '*' ∧
      Text.IsMark '\\' ∧ Text.IsMark '$' := by decide
  intro c
  simp only [isAttributeName, Text.isWord_toLower, beq_eq_decide, Text.toLower_eq_iff_of_isMark h1,
    Text.toLower_eq_iff_of_isMark h2, Text.toLower_eq_iff_of_isMark h3,
    Text.toLower_eq_iff_of_isMark h4, Text.toLower_eq_iff_of_isMark h5]

theorem ignoresCase_ne {m : Char} (hm : Text.IsMark m) : IgnoresCase (· != m) := by
  intro c
  simp only [bne, beq_eq_decide, Text.toLower_eq_iff_of_isMark hm]

theorem while_map_toLower {p : Char → Bool} (hp : IgnoresCase p) (s : List Char) :
    (s.map Char.toLower).takeWhile p = (s.takeWhile p).map Char.toLower ∧
      (s.map Char.toLower).dropWhile p = (s.dropWhile p).map Char.toLower := by
  have h : p ∘ Char.toLower = p := funext hp
  rw [List.takeWhile_map, List.dropWhile_map, h]
  exact ⟨rfl, rfl⟩

theorem named?_map_toLower {token : List Char → Token}
    (ht : ∀ name, (token name).small = token (name.map Char.toLower)) (s : List Char) :
    named? token (s.map Char.toLower) = (named? token s).map smallRest := by
  obtain ⟨h1, h2⟩ := while_map_toLower ignoresCase_isName s
  simp only [named?, h1, h2, List.isEmpty_map]
  split
  · rfl
  · simp [smallRest, ht]

theorem quotedValue?_map_toLower {q : Char} (hq : Text.IsMark q) (s : List Char) :
    quotedValue? q (s.map Char.toLower) = (quotedValue? q s).map smallValue := by
  have hb : ∀ e : Char, e.toLower = ']' ↔ e = ']' := fun e =>
    Text.toLower_eq_iff_of_isMark (by decide)
  cases s with
  | nil => rfl
  | cons c s =>
    obtain ⟨h1, h2⟩ := while_map_toLower (ignoresCase_ne hq) s
    simp only [List.map_cons, quotedValue?, Text.toLower_eq_iff_of_isMark hq, h1, h2]
    split
    · rcases s.dropWhile (· != q) with _ | ⟨d, _ | ⟨e, r⟩⟩
      · rfl
      · rfl
      · have he := hb e
        by_cases h : e = ']'
        · simp [h, smallValue]
        · simp_all
    · rfl

theorem bareValue?_map_toLower (s : List Char) :
    bareValue? (s.map Char.toLower) = (bareValue? s).map smallValue := by
  obtain ⟨h1, h2⟩ := while_map_toLower (ignoresCase_ne (m := ']') (by decide)) s
  rw [bareValue?, bareValue?, h1, h2]
  cases s.dropWhile (· != ']') <;> rfl

theorem map_or {α β : Type} (f : α → β) (a b : Option α) :
    (a.or b).map f = (a.map f).or (b.map f) := by
  cases a <;> rfl

theorem value?_map_toLower (s : List Char) :
    value? (s.map Char.toLower) = (value? s).map smallValue := by
  have hq : Text.IsMark '"' ∧ Text.IsMark '\x27' := by decide
  rw [value?, value?, map_or, map_or, quotedValue?_map_toLower hq.1, quotedValue?_map_toLower hq.2,
    bareValue?_map_toLower]

theorem attribute?_map_toLower (s : List Char) :
    attribute? (s.map Char.toLower) = (attribute? s).map smallRest := by
  have hm : ∀ d m : Char, m = ']' ∨ m = '=' → (d.toLower = m ↔ d = m) := by
    rintro d m (rfl | rfl)
    · exact Text.toLower_eq_iff_of_isMark (by decide)
    · exact Text.toLower_eq_iff_of_isMark (by decide)
  obtain ⟨h1, h2⟩ := while_map_toLower ignoresCase_isAttributeName s
  simp only [attribute?, h1, h2, List.isEmpty_map]
  split
  · rfl
  · cases s.dropWhile isAttributeName with
    | nil => rfl
    | cons d r =>
      have hb := hm d ']' (.inl rfl)
      have he := hm d '=' (.inr rfl)
      by_cases h : d = ']'
      · subst h
        rfl
      by_cases h' : d = '='
      · subst h'
        have hv := value?_map_toLower r
        change (value? (r.map Char.toLower)).map _ = ((value? r).map _).map _
        rw [hv]
        cases value? r <;> rfl
      · simp_all

theorem separator?_map_toLower (s : List Char) :
    separator? (s.map Char.toLower) = (separator? s).map smallRest := by
  have hb : IgnoresCase Text.isBlank := Text.isBlank_toLower
  obtain ⟨-, h2⟩ := while_map_toLower hb s
  rw [separator?, separator?, h2]
  cases s.dropWhile Text.isBlank with
  | nil => rfl
  | cons d r =>
    have hd : d.toLower = ',' ↔ d = ',' := Text.toLower_eq_iff_of_isMark (by decide)
    by_cases h : d = ','
    · subst h
      simp [smallRest, small, (while_map_toLower hb r).2]
    · simp_all

theorem other?_map_toLower (s : List Char) :
    other? (s.map Char.toLower) = (other? s).map smallRest := by
  have hm : ∀ m ∈ ['.', '#', '[', ')'], Text.IsMark m := by
    have h : Text.IsMark '.' ∧ Text.IsMark '#' ∧ Text.IsMark '[' ∧ Text.IsMark ')' := by decide
    simpa using h
  cases s with
  | nil => rfl
  | cons c s =>
    by_cases hc : c ∈ ['.', '#', '[', ')']
    · simp only [List.mem_cons, List.not_mem_nil, or_false] at hc
      rcases hc with rfl | rfl | rfl | rfl
      · exact named?_map_toLower (fun _ => rfl) s
      · exact named?_map_toLower (fun _ => rfl) s
      · exact attribute?_map_toLower s
      · rfl
    · have hl : c.toLower ∉ ['.', '#', '[', ')'] := by
        intro h
        rw [(Text.toLower_eq_iff_of_isMark (hm _ h)).1 rfl] at hc
        exact hc h
      rw [other?_of_head (by simpa using hl), other?_of_head (by simpa using hc), map_or,
        separator?_map_toLower, named?_map_toLower fun _ => rfl]

end Token

structure Recased (s s' : List Char) : Prop where
  letters : s.map Char.toLower = s'.map Char.toLower
  negations : ∀ i, Token.opensNegation (s.drop i) = Token.opensNegation (s'.drop i)

namespace Recased

variable {s s' after after' : List Char}

-- Where both texts have ended there is nothing to compare.
theorem iff_forall_lt : Recased s s' ↔ s.map Char.toLower = s'.map Char.toLower ∧
    ∀ i < s.length, Token.opensNegation (s.drop i) = Token.opensNegation (s'.drop i) := by
  constructor
  · intro h
    exact ⟨h.letters, fun i _ => h.negations i⟩
  · rintro ⟨hl, hn⟩
    refine ⟨hl, fun i => ?_⟩
    by_cases hi : i < s.length
    · exact hn i hi
    · have he : s.length = s'.length := by simpa using congrArg List.length hl
      rw [List.drop_eq_nil_of_le (by omega), List.drop_eq_nil_of_le (by omega)]

instance : Decidable (Recased s s') :=
  decidable_of_iff' _ iff_forall_lt

theorem drop (h : Recased s s') (n : Nat) : Recased (s.drop n) (s'.drop n) := by
  constructor
  · rw [List.map_drop, List.map_drop, h.letters]
  · intro i
    rw [List.drop_drop, List.drop_drop]
    exact h.negations (n + i)

theorem length_eq (h : Recased s s') : s.length = s'.length := by
  simpa using congrArg List.length h.letters

theorem of_suffix (h : Recased s s') (ha : after <:+ s) (ha' : after' <:+ s')
    (hl : after.map Char.toLower = after'.map Char.toLower) : Recased after after' := by
  have he : after.length = after'.length := by simpa using congrArg List.length hl
  rw [List.suffix_iff_eq_drop.1 ha, List.suffix_iff_eq_drop.1 ha', h.length_eq, he]
  exact h.drop _

theorem read? (h : Recased s s') :
    (Token.read? s).map Token.smallRest = (Token.read? s').map Token.smallRest := by
  have hn := h.negations 0
  rw [List.drop_zero, List.drop_zero] at hn
  rw [Token.read?_eq_or, Token.read?_eq_or, Token.map_or, Token.map_or, Token.negation?,
    Token.negation?, hn, ← Token.other?_map_toLower, ← Token.other?_map_toLower, h.letters]
  split
  · simp [Token.smallRest, (h.drop 5).letters]
  · rfl

theorem scan (h : Recased s s') :
    (Token.scan s).map Token.small = (Token.scan s').map Token.small := by
  induction s using Token.scan.induct generalizing s' with
  | case1 =>
    obtain rfl : s' = [] := List.length_eq_zero_iff.1 h.length_eq.symm
    rfl
  | case2 c rest t after hr ih =>
    have hs := h.read?
    rw [hr] at hs
    obtain ⟨⟨t', after'⟩, hr', he⟩ := Option.map_eq_some_iff.1 hs.symm
    obtain ⟨ht, ha⟩ : t'.small = t.small ∧ after'.map Char.toLower = after.map Char.toLower := by
      simpa [Token.smallRest] using he
    have hrest := ih (h.of_suffix (Token.read?_suffix hr) (Token.read?_suffix hr') ha.symm)
    rw [Token.scan_of_read? hr, Token.scan_of_read? hr', List.map_cons, List.map_cons, ht, hrest]
  | case3 c rest hr ih =>
    cases s' with
    | nil => simpa using h.length_eq
    | cons c' rest' =>
      have hs := h.read?
      rw [hr] at hs
      have hr' := Option.map_eq_none_iff.1 hs.symm
      rw [Token.scan_of_read?_none hr, Token.scan_of_read?_none hr']
      exact ih (h.drop 1)

end Recased

end TemplateQuery.Selector
