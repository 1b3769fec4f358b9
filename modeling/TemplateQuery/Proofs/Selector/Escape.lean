import TemplateQuery.Proofs.Selector.Scan

namespace TemplateQuery.Selector

variable {n plain : List Char}

def neighbours (prev : Option Char) (n : List Char) : List (Option Char × Char) :=
  (prev :: n.map some).zip n

def HasBareDollar (prev : Option Char) (n : List Char) : Prop :=
  ∃ p ∈ neighbours prev n, p.2 = '$' ∧ p.1 ≠ some '\\'

instance (prev : Option Char) (n : List Char) : Decidable (HasBareDollar prev n) :=
  decidable_of_iff ((neighbours prev n).any fun p => p.2 == '$' && p.1 != some '\\') (by
    simp [HasBareDollar])

theorem hasBareDollar_cons {prev : Option Char} {c : Char} {cs : List Char} :
    HasBareDollar prev (c :: cs) ↔ c = '$' ∧ prev ≠ some '\\' ∨ HasBareDollar (some c) cs := by
  have hn : neighbours prev (c :: cs) = (prev, c) :: neighbours (some c) cs := rfl
  rw [HasBareDollar, hn, List.exists_mem_cons_iff]
  rfl

def withoutBackslashes (n : List Char) : List Char :=
  n.filter (· ≠ '\\')

theorem unescapeAfter_eq (prev : Option Char) (n : List Char) :
    unescapeAfter (prev == some '\\') n =
      if HasBareDollar prev n then none else some (withoutBackslashes n) := by
  induction n generalizing prev with
  | nil => simp [unescapeAfter, HasBareDollar, neighbours, withoutBackslashes]
  | cons c cs ih =>
    simp only [unescapeAfter, hasBareDollar_cons]
    by_cases hc : c = '\\'
    · subst hc
      have hd : ¬ ('\\' = '$' ∧ prev ≠ some '\\') := by simp
      simp only [hd, false_or]
      exact ih (some '\\')
    · have hr := ih (some c)
      rw [show (some c == some '\\') = false by simpa using hc] at hr
      rw [if_neg hc, hr]
      by_cases hd : c = '$' ∧ prev ≠ some '\\'
      · simp [hd]
      · rw [if_neg (by simpa using hd)]
        simp only [hd, false_or]
        split
        · rfl
        · simp [withoutBackslashes, hc]

theorem unescape?_eq (n : List Char) :
    unescape? n = if HasBareDollar none n then none else some (withoutBackslashes n) :=
  unescapeAfter_eq none n

theorem unescape?_eq_none_iff : unescape? n = none ↔ HasBareDollar none n := by
  rw [unescape?_eq]
  split <;> simp_all

theorem eq_of_unescape? (h : unescape? n = some plain) : plain = withoutBackslashes n := by
  rw [unescape?_eq] at h
  split at h
  · simp at h
  · exact (Option.some.inj h).symm

theorem count_dollar_le (prev : Option Char) (n : List Char) (h : ¬ HasBareDollar prev n) :
    n.count '$' ≤ n.count '\\' + if prev = some '\\' then 1 else 0 := by
  induction n generalizing prev with
  | nil => simp
  | cons c cs ih =>
    rw [hasBareDollar_cons, not_or] at h
    have hr := ih (some c) h.2
    by_cases hb : c = '\\'
    · subst hb
      rw [if_pos rfl] at hr
      rw [List.count_cons_of_ne (by simp), List.count_cons_self]
      omega
    · rw [if_neg (by simpa using hb)] at hr
      by_cases hd : c = '$'
      · have hs : prev = some '\\' := by simpa [hd] using h.1
        simp [hd, hs]
        omega
      · simp [hd, hb]
        omega

theorem isAttributeText_escape {n : List Char} (h : IsAttributeText n) :
    IsAttributeText (escape n) := by
  have hd : isAttributeName '\\' = true ∧ isAttributeName '$' = true := by decide
  constructor
  · obtain ⟨c, cs, rfl⟩ := List.exists_cons_of_ne_nil h.1
    simp only [escape, List.flatMap_cons]
    split <;> simp
  · intro c hc
    obtain ⟨d, hdn, hcd⟩ := List.mem_flatMap.1 hc
    split at hcd
    · simp only [List.mem_cons, List.not_mem_nil, or_false] at hcd
      rcases hcd with rfl | rfl
      · exact hd.1
      · exact hd.2
    · rw [List.mem_singleton.1 hcd]
      exact h.2 d hdn

theorem unescapeAfter_escape {n : List Char} (h : '\\' ∉ n) (b : Bool) :
    unescapeAfter b (escape n) = some n := by
  induction n generalizing b with
  | nil => rfl
  | cons c cs ih =>
    obtain ⟨hc, hcs⟩ : '\\' ≠ c ∧ '\\' ∉ cs := by simpa using h
    by_cases hd : c = '$'
    · subst hd
      simp [escape, unescapeAfter, ← ih hcs false]
    · simp [escape, unescapeAfter, hd, Ne.symm hc, ← ih hcs false]

end TemplateQuery.Selector
