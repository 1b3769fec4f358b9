import TemplateQuery.Text.CharSet
import TemplateQuery.Text.Lower
import TemplateQuery.Text.Word

namespace TemplateQuery.Text

def CaseRun.image (r : CaseRun) (n : Nat) : Nat :=
  (n + r.offset).toNat

def CaseRun.members (r : CaseRun) : List Nat :=
  (List.range ((r.last - r.first) / r.step + 1)).map (r.first + r.step * ·)

theorem CaseRun.covers_iff {r : CaseRun} {n : Nat} :
    r.covers n = true ↔ r.first ≤ n ∧ n ≤ r.last ∧ (n - r.first) % r.step = 0 := by
  simp [covers, and_assoc]

theorem CaseRun.mem_members {r : CaseRun} {n : Nat} (h : r.covers n = true) : n ∈ r.members := by
  obtain ⟨h1, h2, h3⟩ := covers_iff.1 h
  refine List.mem_map.2 ⟨(n - r.first) / r.step, List.mem_range.2 ?_, ?_⟩
  · have hd : (n - r.first) / r.step ≤ (r.last - r.first) / r.step :=
      Nat.div_le_div_right (Nat.sub_le_sub_right h2 r.first)
    omega
  · have hm := Nat.div_add_mod (n - r.first) r.step
    omega

theorem CaseRun.image_bounds {r : CaseRun} {n : Nat} (h : r.covers n = true) :
    r.image r.first ≤ r.image n ∧ r.image n ≤ r.image r.last := by
  obtain ⟨h1, h2, _⟩ := covers_iff.1 h
  simp only [image]
  omega

-- The table is checked run by run: two runs far apart need two comparisons, and only runs that
-- interleave are looked through member by member.

def CaseRun.isLowered (r : CaseRun) : Bool :=
  lowerRuns.all fun s => s.last.blt (r.image r.first) || (r.image r.last).blt s.first ||
    r.members.all fun n => !s.covers (r.image n)

theorem lowerRuns_isLowered : lowerRuns.all CaseRun.isLowered = true := by
  decide +kernel

def CaseRun.isValid (r : CaseRun) : Bool :=
  (r.image r.last).blt 0xd800 || (0xdfff < r.image r.first && (r.image r.last).blt 0x110000)

theorem lowerRuns_isValid : lowerRuns.all CaseRun.isValid = true := by
  decide +kernel

def CaseRun.isApart (r : CaseRun) : Bool :=
  0x41 ≤ r.first && (r.last ≤ 0x5a || 0x61 ≤ r.first) && 0x61 ≤ r.image r.first &&
    (r.image r.last < 'İ'.toNat || 'İ'.toNat < r.image r.first)

theorem lowerRuns_isApart : lowerRuns.all CaseRun.isApart = true := by
  decide +kernel

theorem CaseRun.apart {r : CaseRun} (hr : r ∈ lowerRuns) :
    (0x41 ≤ r.first ∧ (r.last ≤ 0x5a ∨ 0x61 ≤ r.first) ∧ 0x61 ≤ r.image r.first) ∧
      (r.image r.last < 'İ'.toNat ∨ 'İ'.toNat < r.image r.first) := by
  have ha := List.all_eq_true.1 lowerRuns_isApart r hr
  simpa only [isApart, Bool.and_eq_true, Bool.or_eq_true, decide_eq_true_eq, and_assoc] using ha

def inWords (n : Nat) : Bool :=
  wordSet.ranges.any fun w => n.ble w.2 && w.1.ble n

theorem isWord_iff {c : Char} : isWord c = true ↔ inWords c.toNat = true := by
  simp [isWord, CharSet.contains, inWords, and_comm]

def CaseRun.keepsWords (r : CaseRun) : Bool :=
  wordSet.ranges.any (fun w => (r.image r.last).ble w.2 && w.1.ble (r.image r.first)) ||
    r.members.all fun n => !inWords n || inWords (r.image n)

theorem lowerRuns_keepsWords : lowerRuns.all CaseRun.keepsWords = true := by
  decide +kernel

theorem not_covers_image {r s : CaseRun} {n : Nat} (hr : r ∈ lowerRuns) (hs : s ∈ lowerRuns)
    (h : r.covers n = true) : s.covers (r.image n) = false := by
  have hb := r.image_bounds h
  have ht := List.all_eq_true.1 (List.all_eq_true.1 lowerRuns_isLowered r hr) s hs
  simp only [Bool.or_eq_true, Nat.blt_eq, List.all_eq_true, Bool.not_eq_true'] at ht
  rcases ht with (ht | ht) | ht
  · exact Bool.eq_false_iff.2 fun hc => by have := CaseRun.covers_iff.1 hc; omega
  · exact Bool.eq_false_iff.2 fun hc => by have := CaseRun.covers_iff.1 hc; omega
  · exact ht n (CaseRun.mem_members h)

theorem lowerCode_cases (n : Nat) :
    (lowerCode n = n ∧ ∀ r ∈ lowerRuns, r.covers n = false) ∨
      ∃ r ∈ lowerRuns, r.covers n = true ∧ lowerCode n = r.image n := by
  cases h : lowerRuns.find? (·.covers n) with
  | none =>
    left
    exact ⟨by simp [lowerCode, h], fun r hr => by simpa using List.find?_eq_none.1 h r hr⟩
  | some r =>
    right
    exact ⟨r, List.mem_of_find?_eq_some h, by simpa using List.find?_some h,
      by simp [lowerCode, h, CaseRun.image]⟩

theorem lowerCode_eq_self {n : Nat} (h : ∀ r ∈ lowerRuns, r.covers n = false) :
    lowerCode n = n := by
  rcases lowerCode_cases n with ⟨hn, _⟩ | ⟨r, hr, hc, _⟩
  · exact hn
  · rw [h r hr] at hc
    contradiction

theorem lowerCode_lowerCode (n : Nat) : lowerCode (lowerCode n) = lowerCode n := by
  rcases lowerCode_cases n with ⟨hn, _⟩ | ⟨r, hr, hc, hn⟩
  · rw [hn, hn]
  · rw [hn]
    exact lowerCode_eq_self fun s hs => not_covers_image hr hs hc

theorem toNat_ofNat_lowerCode (c : Char) :
    (Char.ofNat (lowerCode c.toNat)).toNat = lowerCode c.toNat := by
  rcases lowerCode_cases c.toNat with ⟨hn, _⟩ | ⟨r, hr, hc, hn⟩
  · rw [hn, Char.ofNat_toNat]
  · have hb := r.image_bounds hc
    have hv := List.all_eq_true.1 lowerRuns_isValid r hr
    simp only [CaseRun.isValid, Bool.or_eq_true, Nat.blt_eq, Bool.and_eq_true,
      decide_eq_true_eq] at hv
    have hi : (r.image c.toNat).isValidChar := by
      unfold Nat.isValidChar
      omega
    rw [hn, Char.ofNat, dif_pos hi]
    rfl

def IsFolded (c : Char) : Prop :=
  lowerChar c = [c]

instance (c : Char) : Decidable (IsFolded c) :=
  inferInstanceAs (Decidable (lowerChar c = [c]))

theorem lowerCode_ne_dotted {c : Char} (h : c ≠ 'İ') : lowerCode c.toNat ≠ 'İ'.toNat := by
  intro he
  rcases lowerCode_cases c.toNat with ⟨hn, _⟩ | ⟨r, hr, hc, hn⟩
  · exact h (Char.toNat_inj.1 (hn.symm.trans he))
  · have hb := r.image_bounds hc
    have ha := (CaseRun.apart hr).2
    omega

theorem isFolded_lowerCode {c : Char} (h : c ≠ 'İ') :
    IsFolded (Char.ofNat (lowerCode c.toNat)) := by
  have hn := toNat_ofNat_lowerCode c
  have hi : Char.ofNat (lowerCode c.toNat) ≠ 'İ' := by
    intro he
    rw [he] at hn
    exact lowerCode_ne_dotted h hn.symm
  rw [IsFolded, lowerChar, if_neg hi, hn, lowerCode_lowerCode]

theorem isFolded_of_mem_lowerChar {c d : Char} (h : d ∈ lowerChar c) : IsFolded d := by
  simp only [lowerChar] at h
  split at h
  · have hd : IsFolded 'i' ∧ IsFolded '\u0307' := by decide +kernel
    simp only [List.mem_cons, List.not_mem_nil, or_false] at h
    rcases h with rfl | rfl
    · exact hd.1
    · exact hd.2
  · rename_i hc
    rw [List.mem_singleton.1 h]
    exact isFolded_lowerCode hc

theorem isFolded_sigma : IsFolded 'σ' ∧ IsFolded 'ς' ∧ ¬ IsFolded 'Σ' := by
  decide +kernel

def lowered (before : List Char) (c : Char) (after : List Char) : List Char :=
  if c = 'Σ' then [if sigmaIsFinal before after then 'ς' else 'σ'] else lowerChar c

theorem lowered_of_isFolded {before after : List Char} {c : Char} (h : IsFolded c) :
    lowered before c after = [c] := by
  have hs : c ≠ 'Σ' := fun he => isFolded_sigma.2.2 (he ▸ h)
  rw [lowered, if_neg hs, h]

theorem lowered_ne_nil (before : List Char) (c : Char) (after : List Char) :
    lowered before c after ≠ [] := by
  rw [lowered, lowerChar]
  split
  · simp
  · split <;> simp

theorem lowerAfter_cons (before : List Char) (c : Char) (rest : List Char) :
    lowerAfter before (c :: rest) = lowered before c rest ++ lowerAfter (c :: before) rest := rfl

theorem mem_lowered {before after : List Char} {c d : Char} (h : d ∈ lowered before c after) :
    c = 'Σ' ∧ (d = 'σ' ∨ d = 'ς') ∨ c ≠ 'Σ' ∧ d ∈ lowerChar c := by
  simp only [lowered] at h
  split at h
  · rename_i hc
    refine .inl ⟨hc, ?_⟩
    have hd := List.mem_singleton.1 h
    split at hd
    · exact .inr hd
    · exact .inl hd
  · rename_i hc
    exact .inr ⟨hc, h⟩

theorem forall_mem_lowerAfter {p : Char → Prop} {before s : List Char}
    (h : ∀ c ∈ s, ∀ b a, ∀ d ∈ lowered b c a, p d) : ∀ d ∈ lowerAfter before s, p d := by
  induction s generalizing before with
  | nil => simp [lowerAfter]
  | cons c rest ih =>
    intro d hd
    rw [lowerAfter_cons] at hd
    rcases List.mem_append.1 hd with hd | hd
    · exact h c (by simp) _ _ d hd
    · exact ih (fun e he => h e (by simp [he])) d hd

theorem isFolded_of_mem_lowerAfter {before s : List Char} :
    ∀ d ∈ lowerAfter before s, IsFolded d := by
  refine forall_mem_lowerAfter fun c _ b a d hd => ?_
  rcases mem_lowered hd with ⟨_, rfl | rfl⟩ | ⟨_, hd⟩
  · exact isFolded_sigma.1
  · exact isFolded_sigma.2.1
  · exact isFolded_of_mem_lowerChar hd

theorem lowerAfter_of_isFolded {before s : List Char} (h : ∀ c ∈ s, IsFolded c) :
    lowerAfter before s = s := by
  induction s generalizing before with
  | nil => rfl
  | cons c rest ih =>
    rw [lowerAfter_cons, lowered_of_isFolded (h c (by simp)), ih fun d hd => h d (by simp [hd])]
    rfl

theorem lower_eq_self_iff {s : String} : lower s = s ↔ ∀ c ∈ s.toList, IsFolded c := by
  constructor
  · intro h
    rw [← h, lower, String.toList_ofList]
    exact isFolded_of_mem_lowerAfter
  · intro h
    rw [lower, lowerAfter_of_isFolded h, String.ofList_toList]

theorem lower_lower (s : String) : lower (lower s) = lower s := by
  rw [lower_eq_self_iff, lower, String.toList_ofList]
  exact isFolded_of_mem_lowerAfter

def IsMark (c : Char) : Prop :=
  c.toNat < 0x41 ∨ 0x5a < c.toNat ∧ c.toNat < 0x61

instance (c : Char) : Decidable (IsMark c) :=
  inferInstanceAs (Decidable (_ ∨ _ ∧ _))

theorem lowerCode_eq_iff_of_isMark {c d : Char} (h : IsMark d) :
    lowerCode c.toNat = d.toNat ↔ c = d := by
  simp only [IsMark] at h
  rcases lowerCode_cases c.toNat with ⟨hn, _⟩ | ⟨r, hr, hc, hn⟩
  · rw [hn, Char.toNat_inj]
  · have hb := r.image_bounds hc
    have ha := (CaseRun.apart hr).1
    have hf := CaseRun.covers_iff.1 hc
    constructor
    · intro he
      omega
    · rintro rfl
      omega

theorem mem_lowerChar_of_isMark {c d : Char} (h : IsMark d) : d ∈ lowerChar c ↔ d = c := by
  by_cases hc : c = 'İ'
  · subst hc
    have hn : ¬ IsMark 'İ' ∧ ¬ IsMark 'i' ∧ ¬ IsMark '\u0307' := by decide
    constructor
    · intro hd
      simp only [lowerChar, if_pos, List.mem_cons, List.not_mem_nil, or_false] at hd
      rcases hd with rfl | rfl
      · exact absurd h hn.2.1
      · exact absurd h hn.2.2
    · rintro rfl
      exact absurd h hn.1
  · rw [lowerChar, if_neg hc, List.mem_singleton, ← Char.toNat_inj, toNat_ofNat_lowerCode,
      eq_comm, lowerCode_eq_iff_of_isMark h, eq_comm]

theorem isFolded_of_isMark {d : Char} (h : IsMark d) : IsFolded d := by
  have hi : d ≠ 'İ' := fun he => absurd (he ▸ h) (by decide)
  rw [IsFolded, lowerChar, if_neg hi, (lowerCode_eq_iff_of_isMark h).2 rfl, Char.ofNat_toNat]

theorem not_mem_lowered {before after : List Char} {c d : Char} (h : IsMark d) (hc : c ≠ d) :
    d ∉ lowered before c after := by
  intro hd
  rcases mem_lowered hd with ⟨_, rfl | rfl⟩ | ⟨_, hd⟩
  · exact absurd h (by decide)
  · exact absurd h (by decide)
  · exact hc ((mem_lowerChar_of_isMark h).1 hd).symm

theorem count_lowered {before after : List Char} {c d : Char} (h : IsMark d) :
    (lowered before c after).count d = [c].count d := by
  by_cases hc : c = d
  · rw [hc, lowered_of_isFolded (isFolded_of_isMark h)]
  · have hs : d ∉ [c] := by simpa using Ne.symm hc
    rw [List.count_eq_zero.2 (not_mem_lowered h hc), List.count_eq_zero.2 hs]

theorem count_lowerAfter {before s : List Char} {d : Char} (h : IsMark d) :
    (lowerAfter before s).count d = s.count d := by
  induction s generalizing before with
  | nil => rfl
  | cons c rest ih =>
    rw [lowerAfter_cons, List.count_append, count_lowered h, ih, ← List.count_append]
    rfl

theorem count_lower {s : String} {d : Char} (h : IsMark d) :
    (lower s).toList.count d = s.toList.count d := by
  rw [lower, String.toList_ofList, count_lowerAfter h]

theorem mem_lower {s : String} {d : Char} (h : IsMark d) :
    d ∈ (lower s).toList ↔ d ∈ s.toList := by
  rw [← List.count_pos_iff, count_lower h, List.count_pos_iff]

theorem lower_eq_empty_iff {s : String} : lower s = "" ↔ s = "" := by
  have hs : lowerAfter [] s.toList = [] ↔ s.toList = [] := by
    cases s.toList with
    | nil => simp [lowerAfter]
    | cons c rest => simp [lowerAfter_cons, lowered_ne_nil]
  rw [lower, ← String.toList_eq_nil_iff, String.toList_ofList, hs, String.toList_eq_nil_iff]

theorem inWords_image {r : CaseRun} {n : Nat} (hr : r ∈ lowerRuns) (h : r.covers n = true)
    (hn : inWords n = true) : inWords (r.image n) = true := by
  have hb := r.image_bounds h
  have hk := List.all_eq_true.1 lowerRuns_keepsWords r hr
  simp only [CaseRun.keepsWords, Bool.or_eq_true, List.any_eq_true, Bool.and_eq_true, Nat.ble_eq,
    List.all_eq_true, Bool.not_eq_true'] at hk
  rcases hk with ⟨w, hw, h1, h2⟩ | hk
  · refine List.any_eq_true.2 ⟨w, hw, ?_⟩
    simp only [Bool.and_eq_true, Nat.ble_eq]
    omega
  · rcases hk n (CaseRun.mem_members h) with hk | hk
    · rw [hn] at hk
      contradiction
    · exact hk

theorem isWord_of_mem_lowerChar {c d : Char} (hc : isWord c = true) (h : d ∈ lowerChar c) :
    isWord d = true := by
  simp only [lowerChar] at h
  split at h
  · have hd : isWord 'i' = true ∧ isWord '\u0307' = true := by decide +kernel
    simp only [List.mem_cons, List.not_mem_nil, or_false] at h
    rcases h with rfl | rfl
    · exact hd.1
    · exact hd.2
  · rw [isWord_iff] at hc ⊢
    rw [List.mem_singleton.1 h, toNat_ofNat_lowerCode]
    rcases lowerCode_cases c.toNat with ⟨hn, _⟩ | ⟨r, hr, hcov, hn⟩
    · rwa [hn]
    · rw [hn]
      exact inWords_image hr hcov hc

theorem isWord_of_mem_lowered {before after : List Char} {c d : Char} (hc : isWord c = true)
    (h : d ∈ lowered before c after) : isWord d = true := by
  have hs : isWord 'σ' = true ∧ isWord 'ς' = true := by decide +kernel
  rcases mem_lowered h with ⟨_, rfl | rfl⟩ | ⟨_, h⟩
  · exact hs.1
  · exact hs.2
  · exact isWord_of_mem_lowerChar hc h

theorem forall_mem_lower {p : Char → Prop} {s : String}
    (h : ∀ c ∈ s.toList, isWord c = true ∨ IsMark c ∧ p c) (hw : ∀ d, isWord d = true → p d) :
    ∀ d ∈ (lower s).toList, p d := by
  rw [lower, String.toList_ofList]
  refine forall_mem_lowerAfter fun c hc b a d hd => ?_
  rcases h c hc with hword | ⟨hm, hp⟩
  · exact hw d (isWord_of_mem_lowered hword hd)
  · rw [lowered_of_isFolded (isFolded_of_isMark hm)] at hd
    rw [List.mem_singleton.1 hd]
    exact hp

theorem blanks_apart_from_words :
    blankSet.ranges.all (fun b => wordSet.ranges.all fun w => b.2.blt w.1 || w.2.blt b.1) =
      true := by
  decide +kernel

theorem isBlank_eq_false_of_isWord {c : Char} (h : isWord c = true) : isBlank c = false := by
  rw [Bool.eq_false_iff]
  intro hb
  obtain ⟨b, hbm, hb1, hb2⟩ := CharSet.contains_iff.1 hb
  obtain ⟨w, hwm, hw1, hw2⟩ := CharSet.contains_iff.1 h
  have ha := List.all_eq_true.1 (List.all_eq_true.1 blanks_apart_from_words b hbm) w hwm
  simp only [Bool.or_eq_true, Nat.blt_eq] at ha
  omega

end TemplateQuery.Text
