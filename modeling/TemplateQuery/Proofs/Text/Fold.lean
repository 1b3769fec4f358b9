import Mathlib.Tactic
import TemplateQuery.Proofs.Text.Lower

namespace TemplateQuery.Text

def capitals : List Char :=
  (List.range 26).map fun n => Char.ofNat ('A'.toNat + n)

theorem toLower_eq_self_or_mem (c : Char) : c.toLower = c ∨ c ∈ capitals := by
  by_cases h : 'A' ≤ c ∧ c ≤ 'Z'
  · right
    have hl : 'A'.toNat ≤ c.toNat := h.1
    have hu : c.toNat ≤ 'Z'.toNat := h.2
    have hn : 'Z'.toNat = 'A'.toNat + 25 := rfl
    refine List.mem_map.2 ⟨c.toNat - 'A'.toNat, List.mem_range.2 (by omega), ?_⟩
    rw [Nat.add_sub_cancel' hl, Char.ofNat_toNat]
  · left
    exact dif_neg h

def IsPair (c d : Char) : Prop :=
  (c = 'Σ' ↔ d = 'Σ') ∧ lowerChar c = lowerChar d ∧
    casedSet.contains c = casedSet.contains d ∧
    caseIgnorableSet.contains c = caseIgnorableSet.contains d

instance (c d : Char) : Decidable (IsPair c d) :=
  inferInstanceAs (Decidable (_ ∧ _ ∧ _ ∧ _))

theorem capitals_isPair : capitals.all (fun c => decide (IsPair c.toLower c)) = true := by
  decide +kernel

theorem isPair_toLower (c : Char) : IsPair c.toLower c := by
  rcases toLower_eq_self_or_mem c with h | h
  · rw [h]
    exact ⟨Iff.rfl, rfl, rfl, rfl⟩
  · exact of_decide_eq_true (List.all_eq_true.1 capitals_isPair c h)

theorem meetsCased_cons (c : Char) (cs : List Char) :
    meetsCased (c :: cs) =
      if caseIgnorableSet.contains c then meetsCased cs else casedSet.contains c := by
  rw [meetsCased, List.dropWhile_cons]
  cases caseIgnorableSet.contains c <;> rfl

theorem meetsCased_map_toLower (cs : List Char) :
    meetsCased (cs.map Char.toLower) = meetsCased cs := by
  induction cs with
  | nil => rfl
  | cons c cs ih =>
    obtain ⟨-, -, hc, hi⟩ := isPair_toLower c
    rw [List.map_cons, meetsCased_cons, meetsCased_cons, hi, hc, ih]

theorem lowerAfter_map_toLower (before s : List Char) :
    lowerAfter (before.map Char.toLower) (s.map Char.toLower) = lowerAfter before s := by
  induction s generalizing before with
  | nil => rfl
  | cons c s ih =>
    obtain ⟨hs, hl, -, -⟩ := isPair_toLower c
    have hf : sigmaIsFinal (before.map Char.toLower) (s.map Char.toLower) =
        sigmaIsFinal before s := by
      rw [sigmaIsFinal, sigmaIsFinal, meetsCased_map_toLower, meetsCased_map_toLower]
    have hc : lowered (before.map Char.toLower) c.toLower (s.map Char.toLower) =
        lowered before c s := by
      rw [lowered, lowered, hf, hl]
      exact if_congr hs rfl rfl
    rw [List.map_cons, lowerAfter_cons, lowerAfter_cons, hc, ← ih (c :: before)]
    rfl

theorem lower_eq_of_map_toLower {a b : String}
    (h : a.toList.map Char.toLower = b.toList.map Char.toLower) : lower a = lower b := by
  have ha := lowerAfter_map_toLower [] a.toList
  have hb := lowerAfter_map_toLower [] b.toList
  rw [lower, lower, ← ha, ← hb, h]

def IsLetterPair (c d : Char) : Prop :=
  d.toLower = d ∧ (¬ IsMark c ∧ ¬ IsMark d) ∧ isWord d = isWord c ∧ isBlank d = isBlank c

instance (c d : Char) : Decidable (IsLetterPair c d) :=
  inferInstanceAs (Decidable (_ ∧ (_ ∧ _) ∧ _ ∧ _))

theorem capitals_isLetterPair :
    capitals.all (fun c => decide (IsLetterPair c c.toLower)) = true := by
  decide +kernel

theorem isLetterPair_of_mem {c : Char} (h : c ∈ capitals) : IsLetterPair c c.toLower :=
  of_decide_eq_true (List.all_eq_true.1 capitals_isLetterPair c h)

theorem toLower_toLower (c : Char) : c.toLower.toLower = c.toLower := by
  rcases toLower_eq_self_or_mem c with h | h
  · rw [h, h]
  · exact (isLetterPair_of_mem h).1

theorem toLower_eq_iff_of_isMark {c d : Char} (hd : IsMark d) : c.toLower = d ↔ c = d := by
  rcases toLower_eq_self_or_mem c with h | h
  · rw [h]
  · obtain ⟨-, ⟨hc, hl⟩, -, -⟩ := isLetterPair_of_mem h
    constructor
    · rintro rfl
      exact absurd hd hl
    · rintro rfl
      exact absurd hd hc

theorem isWord_toLower (c : Char) : isWord c.toLower = isWord c := by
  rcases toLower_eq_self_or_mem c with h | h
  · rw [h]
  · exact (isLetterPair_of_mem h).2.2.1

theorem isBlank_toLower (c : Char) : isBlank c.toLower = isBlank c := by
  rcases toLower_eq_self_or_mem c with h | h
  · rw [h]
  · exact (isLetterPair_of_mem h).2.2.2

def small (s : String) : String :=
  String.ofList (s.toList.map Char.toLower)

theorem toList_small (s : String) : (small s).toList = s.toList.map Char.toLower := by
  rw [small, String.toList_ofList]

theorem lower_small (s : String) : lower (small s) = lower s := by
  apply lower_eq_of_map_toLower
  rw [toList_small, List.map_map]
  exact List.map_congr_left fun c _ => toLower_toLower c

theorem equalFold_iff {a b : String} : equalFold a b = true ↔ lower a = lower b := by
  rw [equalFold, Bool.or_eq_true, beq_iff_eq, beq_iff_eq]
  constructor
  · rintro (h | h)
    · exact lower_eq_of_map_toLower h
    · exact h
  · intro h
    exact .inr h

end TemplateQuery.Text
