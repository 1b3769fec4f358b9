import Mathlib.Tactic
import TemplateQuery.Proofs.Text.Lower
import TemplateQuery.Selector.Parser
import TemplateQuery.Selector.Printer

namespace TemplateQuery.Selector

def IsNameText (s : List Char) : Prop :=
  s ≠ [] ∧ ∀ c ∈ s, isName c = true

def IsAttributeText (s : List Char) : Prop :=
  s ≠ [] ∧ ∀ c ∈ s, isAttributeName c = true

def marks : List Char :=
  [':', '.', '#', '[', ']', ')', ',', '*', '=', '"', '\x27', '\\', '$', ' ']

theorem isName_eq_false {c : Char} (h : c ∈ marks) : isName c = false := by
  have hm : marks.all (!isName ·) = true := by decide +kernel
  simpa using List.all_eq_true.1 hm c h

theorem not_mem_of_isName {n : List Char} {c : Char} (hn : ∀ d ∈ n, isName d = true)
    (hc : c ∈ marks) : c ∉ n := by
  intro h
  have hf : isName c = false := isName_eq_false hc
  rw [hn c h] at hf
  contradiction

theorem IsNameText.not_mem {n : List Char} {c : Char} (hn : IsNameText n) (hc : c ∈ marks) :
    c ∉ n :=
  not_mem_of_isName hn.2 hc

theorem isAttributeName_delimiters :
    isAttributeName ']' = false ∧ isAttributeName '=' = false := by
  decide +kernel

theorem isBlank_eq_false_of_isName {c : Char} (h : isName c = true) : Text.isBlank c = false := by
  simp only [isName, Bool.or_eq_true, beq_iff_eq] at h
  rcases h with rfl | h
  · decide
  · exact Text.isBlank_eq_false_of_isWord h

def Stops (p : Char → Bool) (s : List Char) : Prop :=
  ∀ c ∈ s.head?, p c = false

theorem stops_cons {p : Char → Bool} {c : Char} {s : List Char} (h : p c = false) :
    Stops p (c :: s) := by
  intro d hd
  cases hd
  exact h

theorem bne_of_not_mem {α : Type} [BEq α] [LawfulBEq α] {q : α} {v : List α} (h : q ∉ v) :
    ∀ c ∈ v, (c != q) = true := by
  intro c hc
  rw [bne_iff_ne]
  rintro rfl
  exact h hc

theorem takeWhile_of_head {p : Char → Bool} {s : List Char} (h : Stops p s) :
    s.takeWhile p = [] ∧ s.dropWhile p = s := by
  cases s with
  | nil => simp
  | cons c rest => simp [h c rfl]

theorem takeWhile_append_stop {p : Char → Bool} {v rest : List Char} (hv : ∀ c ∈ v, p c = true)
    (hr : Stops p rest) :
    (v ++ rest).takeWhile p = v ∧ (v ++ rest).dropWhile p = rest := by
  obtain ⟨ht, hd⟩ := takeWhile_of_head hr
  rw [List.takeWhile_append_of_pos hv, List.dropWhile_append_of_pos hv, ht, hd]
  simp

namespace Token

theorem read?_nil : read? [] = none := rfl

theorem scan_of_read? {s after : List Char} {t : Token} (h : read? s = some (t, after)) :
    scan s = t :: scan after := by
  cases s with
  | nil => simp [read?_nil] at h
  | cons c rest =>
    rw [scan]
    split <;> simp_all

theorem scan_of_read?_none {c : Char} {rest : List Char} (h : read? (c :: rest) = none) :
    scan (c :: rest) = scan rest := by
  rw [scan]
  split <;> simp_all

theorem named?_append {token : List Char → Token} {name rest : List Char} (hn : IsNameText name)
    (hr : Stops isName rest) : named? token (name ++ rest) = some (token name, rest) := by
  obtain ⟨ht, hd⟩ := takeWhile_append_stop hn.2 hr
  simp [named?, ht, hd, hn.1]

theorem read?_of_head {s : List Char} (h : ∀ c ∈ s.head?, c ∉ [':', '.', '#', '[', ')']) :
    read? s = (named? .tag s).or (separator? s) := by
  unfold read?
  split <;> simp_all

theorem scan_openNegation (rest : List Char) :
    scan (':' :: 'n' :: 'o' :: 't' :: '(' :: rest) = .openNegation :: scan rest :=
  scan_of_read? rfl

theorem scan_closeNegation (rest : List Char) : scan (')' :: rest) = .closeNegation :: scan rest :=
  scan_of_read? rfl

theorem scan_tag {name rest : List Char} (hn : IsNameText name) (hr : Stops isName rest) :
    scan (name ++ rest) = .tag name :: scan rest := by
  refine scan_of_read? ?_
  rw [read?_of_head, named?_append hn hr, Option.some_or]
  have hs : [':', '.', '#', '[', ')'] ⊆ marks := by decide
  intro c hc hm
  obtain ⟨c', cs, rfl⟩ := List.exists_cons_of_ne_nil hn.1
  obtain rfl : c' = c := by simpa using hc
  exact hn.not_mem (hs hm) (by simp)

theorem scan_className {name rest : List Char} (hn : IsNameText name) (hr : Stops isName rest) :
    scan ('.' :: name ++ rest) = .className name :: scan rest :=
  scan_of_read? (named?_append hn hr)

theorem named?_of_head {token : List Char → Token} {s : List Char} (h : Stops isName s) :
    named? token s = none := by
  simp [named?, (takeWhile_of_head h).1]

theorem scan_separator {rest : List Char} (hr : Stops Text.isBlank rest) :
    scan (',' :: ' ' :: rest) = .separator :: scan rest := by
  refine scan_of_read? ?_
  have hc : Text.isBlank ',' = false ∧ Text.isBlank ' ' = true := by decide
  rw [read?_of_head (by simp), named?_of_head (stops_cons (isName_eq_false (by decide))),
    Option.none_or]
  simp [separator?, hc, (takeWhile_of_head hr).2]

theorem scan_wildcard (rest : List Char) : scan ('*' :: rest) = scan rest := by
  refine scan_of_read?_none ?_
  have hc : Text.isBlank '*' = false := by decide
  rw [read?_of_head (by simp), named?_of_head (stops_cons (isName_eq_false (by decide))),
    Option.none_or]
  simp [separator?, hc]

theorem quotedValue?_append {q : Char} {v rest : List Char} (h : q ∉ v) :
    quotedValue? q (q :: v ++ q :: ']' :: rest) = some (v, rest) := by
  have hr : Stops (· != q) (q :: ']' :: rest) := stops_cons (by simp)
  obtain ⟨ht, hd⟩ := takeWhile_append_stop (bne_of_not_mem h) hr
  simp [quotedValue?, ht, hd]

theorem quotedValue?_of_head_ne {q : Char} {s : List Char} (h : s.head? ≠ some q) :
    quotedValue? q s = none := by
  cases s with
  | nil => rfl
  | cons c rest =>
    have hc : c ≠ q := fun he => h (by rw [he]; rfl)
    simp [quotedValue?, hc]

theorem bareValue?_append {v rest : List Char} (h : ']' ∉ v) :
    bareValue? (v ++ ']' :: rest) = some (v, rest) := by
  have hr : Stops (· != ']') (']' :: rest) := stops_cons (by simp)
  obtain ⟨ht, hd⟩ := takeWhile_append_stop (bne_of_not_mem h) hr
  simp [bareValue?, ht, hd]

end Token

def HasBothQuotes (v : List Char) : Prop :=
  '"' ∈ v ∧ '\x27' ∈ v

instance (v : List Char) : Decidable (HasBothQuotes v) :=
  inferInstanceAs (Decidable (_ ∧ _))

def reread (v : List Char) : List Char :=
  if HasBothQuotes v ∧ startsWithQuote v = true then '\x27' :: v ++ ['\x27'] else v

theorem reread_of_not {v : List Char} (h : ¬ (HasBothQuotes v ∧ startsWithQuote v = true)) :
    reread v = v :=
  if_neg h

theorem quoteValue_eq (v : List Char) :
    quoteValue v =
      if isPlain v = true then v
      else if HasBothQuotes v ∧ ']' ∉ v ∧ startsWithQuote v = false then v
      else if '"' ∈ v then '\x27' :: v ++ ['\x27']
      else '"' :: v ++ ['"'] := by
  simp [quoteValue, HasBothQuotes, and_assoc]

theorem isPlain_marks {v : List Char} (h : isPlain v = true) :
    '"' ∉ v ∧ ']' ∉ v ∧ startsWithQuote v = false := by
  simp only [isPlain, Bool.and_eq_true, List.all_eq_true] at h
  have hd : '"' ∉ v := not_mem_of_isName h.2 (by decide)
  have hs : '\x27' ∉ v := not_mem_of_isName h.2 (by decide)
  refine ⟨hd, not_mem_of_isName h.2 (by decide), ?_⟩
  cases v with
  | nil => rfl
  | cons c cs =>
    have h1 : c ≠ '"' := fun he => hd (by simp [he])
    have h2 : c ≠ '\x27' := fun he => hs (by simp [he])
    simp [startsWithQuote, h1, h2]

namespace Token

theorem quotedValue?_of_inner_quote {v rest : List Char} (hq : '\x27' ∈ v) (hb : ']' ∉ v) :
    quotedValue? '\x27' ('\x27' :: v ++ '\x27' :: ']' :: rest) = none := by
  obtain ⟨v1, v2, rfl, hv1⟩ := List.eq_append_cons_of_mem hq
  have hr : Stops (· != '\x27') ('\x27' :: (v2 ++ '\x27' :: ']' :: rest)) :=
    stops_cons (by simp)
  obtain ⟨ht, hd⟩ := takeWhile_append_stop (bne_of_not_mem hv1) hr
  cases v2 with
  | nil => simp_all [quotedValue?]
  | cons c cs =>
    have hc : c ≠ ']' := fun he => hb (by simp [he])
    simp_all [quotedValue?]

theorem head_ne_of_not_startsWithQuote {v rest : List Char} {q : Char}
    (h : startsWithQuote v = false) (hq : q = '"' ∨ q = '\x27') :
    (v ++ ']' :: rest).head? ≠ some q := by
  cases v with
  | nil => rcases hq with rfl | rfl <;> simp
  | cons c cs =>
    simp only [startsWithQuote, Bool.or_eq_false_iff, beq_eq_false_iff_ne] at h
    rcases hq with rfl | rfl <;> simp [h.1, h.2]

theorem value?_bare {v rest : List Char} (hs : startsWithQuote v = false) (hb : ']' ∉ v) :
    value? (v ++ ']' :: rest) = some (v, rest) := by
  rw [value?, quotedValue?_of_head_ne (head_ne_of_not_startsWithQuote hs (.inl rfl)),
    quotedValue?_of_head_ne (head_ne_of_not_startsWithQuote hs (.inr rfl)),
    bareValue?_append hb]
  rfl

theorem value?_double {v rest : List Char} (h : '"' ∉ v) :
    value? ('"' :: v ++ '"' :: ']' :: rest) = some (v, rest) := by
  rw [value?, quotedValue?_append h, Option.some_or]

theorem value?_single {v rest : List Char} (h : '\x27' ∉ v) :
    value? ('\x27' :: v ++ '\x27' :: ']' :: rest) = some (v, rest) := by
  rw [value?, quotedValue?_of_head_ne (by simp), quotedValue?_append h, Option.none_or,
    Option.some_or]

theorem value?_misread {v rest : List Char} (hq : '\x27' ∈ v) (hb : ']' ∉ v) :
    value? ('\x27' :: v ++ '\x27' :: ']' :: rest) = some ('\x27' :: v ++ ['\x27'], rest) := by
  have hw : ']' ∉ '\x27' :: v ++ ['\x27'] := by simp [hb]
  have hv : bareValue? _ = some (_, rest) := bareValue?_append hw
  rw [value?, quotedValue?_of_head_ne (by simp), quotedValue?_of_inner_quote hq hb,
    Option.none_or, Option.none_or, ← hv]
  simp

theorem value?_quoteValue {v rest : List Char} (h : ¬ (HasBothQuotes v ∧ ']' ∈ v)) :
    value? (quoteValue v ++ ']' :: rest) = some (reread v, rest) := by
  rw [quoteValue_eq]
  split
  · rename_i hp
    obtain ⟨hd, hb, hs⟩ := isPlain_marks hp
    rw [value?_bare hs hb, reread_of_not (by simp [hs])]
  split
  · rename_i hm
    rw [value?_bare hm.2.2 hm.2.1, reread_of_not (by simp [hm.2.2])]
  rename_i hm
  split
  · rename_i hd
    by_cases hs : '\x27' ∈ v
    · have hb : ']' ∉ v := fun hb => h ⟨⟨hd, hs⟩, hb⟩
      have hq : startsWithQuote v = true := by
        by_contra hq
        exact hm ⟨⟨hd, hs⟩, hb, Bool.eq_false_iff.2 hq⟩
      have he : reread v = '\x27' :: v ++ ['\x27'] := if_pos ⟨⟨hd, hs⟩, hq⟩
      rw [he, ← value?_misread hs hb]
      simp
    · rw [reread_of_not (fun hb => hs hb.1.2), ← value?_single hs]
      simp
  · rename_i hd
    rw [reread_of_not (fun hb => hd hb.1.1), ← value?_double hd]
    simp

theorem attribute?_append {name value s after : List Char} (hn : IsAttributeText name)
    (hv : value? s = some (value, after)) :
    attribute? (name ++ '=' :: s) = some (.attribute name value, after) := by
  have hr : Stops isAttributeName ('=' :: s) := stops_cons isAttributeName_delimiters.2
  obtain ⟨ht, hd⟩ := takeWhile_append_stop hn.2 hr
  simp [attribute?, ht, hd, hn.1, hv]

theorem attribute?_presence {name after : List Char} (hn : IsAttributeText name) :
    attribute? (name ++ ']' :: after) = some (.attribute name [], after) := by
  have hr : Stops isAttributeName (']' :: after) := stops_cons isAttributeName_delimiters.1
  obtain ⟨ht, hd⟩ := takeWhile_append_stop hn.2 hr
  simp [attribute?, ht, hd, hn.1]

theorem scan_attribute {a : String × String} {rest : List Char}
    (hn : IsAttributeText (escape a.1.toList))
    (hv : ¬ (HasBothQuotes a.2.toList ∧ ']' ∈ a.2.toList)) :
    scan (attributeText a ++ rest) =
      .attribute (escape a.1.toList) (reread a.2.toList) :: scan rest := by
  refine scan_of_read? ?_
  simp only [attributeText]
  split
  · rename_i he
    have hr : reread a.2.toList = [] := by
      rw [String.isEmpty_iff.1 he]
      rfl
    rw [hr, ← attribute?_presence hn]
    simp [read?]
  · rw [← attribute?_append hn (value?_quoteValue hv)]
    simp [read?]

end Token

end TemplateQuery.Selector
