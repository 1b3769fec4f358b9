import TemplateQuery.Proofs.Json.Text

namespace TemplateQuery.Json

open Cursor

section

variable {c c' : Cursor}

theorem skipEscape_of_hexUnit {rest : List Char} {n : Nat} (hr : c.rest = 'u' :: rest)
    (h : hexUnit c.next = .ok (n, c')) : skipEscape c = .ok c' := by
  unfold skipEscape
  rw [hr]
  simp only [if_true, h]
  rfl

-- A pair of surrogates is one escape to read and two to skip.
theorem skipEscape_of_escape {ch : Char} (h : escape c = .ok (ch, c')) :
    skipEscape c = .ok c' ∨ ∃ d rest, skipEscape c = .ok d ∧ d.rest = '\\' :: rest ∧
      skipEscape d.next = .ok c' := by
  unfold escape at h
  split at h
  case h_1 => contradiction
  case h_2 ch rest hr =>
    split at h
    case isTrue hu =>
      subst hu
      obtain ⟨⟨n, d⟩, hn, h⟩ := bind_eq_ok_iff.1 h
      simp only at h
      split at h
      case isTrue => contradiction
      case isFalse =>
        split at h
        case isTrue =>
          obtain ⟨⟨m, e⟩, hm, h⟩ := bind_eq_ok_iff.1 h
          obtain ⟨-, rfl⟩ := Prod.mk.inj (Except.ok.inj h)
          unfold trailingUnit at hm
          split at hm
          case h_3 rest' hd =>
            obtain ⟨⟨m', e'⟩, hm', hm⟩ := bind_eq_ok_iff.1 hm
            simp only at hm
            split at hm
            case isTrue =>
              obtain ⟨-, rfl⟩ := Prod.mk.inj (Except.ok.inj hm)
              have hnext : d.next.rest = 'u' :: rest' := by
                unfold next
                rw [hd]
              exact .inr ⟨d, _, skipEscape_of_hexUnit hr hn, hd, skipEscape_of_hexUnit hnext hm'⟩
            case isFalse => contradiction
          all_goals contradiction
        case isFalse =>
          obtain ⟨-, rfl⟩ := Prod.mk.inj (Except.ok.inj h)
          exact .inl (skipEscape_of_hexUnit hr hn)
    case isFalse hu =>
      split at h
      case h_1 e he =>
        obtain ⟨-, rfl⟩ := Prod.mk.inj (Except.ok.inj h)
        refine .inl ?_
        unfold skipEscape
        rw [hr]
        simp [hu, he]
      case h_2 => contradiction

theorem Cursor.Follows.skipEscape (h : skipEscape c = .ok c') : c.Follows c' := by
  unfold Json.skipEscape at h
  split at h
  case h_1 => contradiction
  case h_2 =>
    split at h
    case isTrue =>
      obtain ⟨⟨n, d⟩, hn, h⟩ := bind_eq_ok_iff.1 h
      obtain rfl := Except.ok.inj h
      exact (Follows.next c).trans (.hexUnit hn)
    case isFalse =>
      split at h
      case isTrue =>
        obtain rfl := Except.ok.inj h
        exact .next c
      case isFalse => contradiction

theorem length_next {ch : Char} {rest : List Char} (hr : c.rest = ch :: rest) :
    c.next.rest.length + 1 = c.rest.length := by
  unfold next
  simp only [hr, List.length_cons]

theorem skipStringFrom_backslash {rest : List Char} (hr : c.rest = '\\' :: rest)
    (h : skipEscape c.next = .ok c') (n : Nat) :
    skipStringFrom (n + 1) c = skipStringFrom n c' := by
  rw [skipStringFrom]
  simp only [hr]
  rw [if_neg (by decide), if_pos trivial, h]
  rfl

theorem skipStringFrom_of_stringFrom {n : Nat} {read : List Char} {s : String}
    (h : stringFrom n read c = .ok (s, c')) :
    ∃ k, k + c'.rest.length ≤ c.rest.length ∧ ∀ m, skipStringFrom (m + k) c = .ok c' := by
  induction n generalizing read c with
  | zero => contradiction
  | succ n ih =>
    unfold stringFrom at h
    split at h
    case h_1 => contradiction
    case h_2 ch rest hr =>
      have hl := length_next hr
      split at h
      case isTrue hq =>
        obtain ⟨-, rfl⟩ := Prod.mk.inj (Except.ok.inj h)
        refine ⟨1, by omega, fun m => ?_⟩
        rw [skipStringFrom]
        simp only [hr]
        rw [if_pos hq]
      case isFalse hq =>
        split at h
        case isTrue hb =>
          subst hb
          obtain ⟨⟨e, d⟩, he, h⟩ := bind_eq_ok_iff.1 h
          obtain ⟨k, hk, hskip⟩ := ih h
          have hd := (Follows.escape he).suffix.length_le
          rcases skipEscape_of_escape he with hs | ⟨d', rest', hs, hd', hs'⟩
          · refine ⟨k + 1, by omega, fun m => ?_⟩
            rw [← Nat.add_assoc, skipStringFrom_backslash hr hs, hskip]
          · refine ⟨k + 2, ?_, fun m => ?_⟩
            · have hl' := length_next hd'
              have hback := (Follows.skipEscape hs).suffix.length_le
              have hpair := (Follows.skipEscape hs').suffix.length_le
              omega
            · rw [← Nat.add_assoc, skipStringFrom_backslash hr hs,
                skipStringFrom_backslash hd' hs', hskip]
        case isFalse hb =>
          split at h
          case isTrue => contradiction
          case isFalse hc =>
            obtain ⟨k, hk, hskip⟩ := ih h
            refine ⟨k + 1, by omega, fun m => ?_⟩
            rw [← Nat.add_assoc, skipStringFrom]
            simp only [hr]
            rw [if_neg hq, if_neg hb, if_neg hc, hskip]

theorem skipString_of_string {s : String} (hs : c.Sound) (h : c.string = .ok (s, c')) :
    c.skipString = .ok c' := by
  obtain ⟨k, hk, hskip⟩ := skipStringFrom_of_stringFrom h
  have hl := length_le_size c.rest
  have hfuel : c.left + 1 = c.left + 1 - k + k := by
    rw [Sound] at hs
    omega
  rw [skipString, hfuel, hskip]

end

def resume (n : Nat) (outer : List Bracket) (c : Cursor) : Except Fault Cursor := do
  match ← leave outer c with
  | ([], c) => .ok c
  | (b :: outer, c) => skipFrom n (b :: outer) c

section

variable {n : Nat} {outer : List Bracket} {c c' : Cursor}

theorem skipFrom_succ (n : Nat) (outer : List Bracket) (c : Cursor) :
    skipFrom (n + 1) outer c = (do
      match ← skipHead outer c with
      | (some inner, c) => skipFrom n inner c
      | (none, c) => resume n outer c) := by
  rw [skipFrom]
  rfl

theorem skipFrom_skipBlanks (n : Nat) (outer : List Bracket) (c : Cursor) :
    skipFrom (n + 1) outer c.skipBlanks = skipFrom (n + 1) outer c := by
  have hhead : skipHead outer c.skipBlanks = skipHead outer c := by
    rw [skipHead, skipHead, skipBlanks_skipBlanks]
  rw [skipFrom_succ, skipFrom_succ, hhead]

theorem resume_comma (n : Nat) (ha : c.ahead = some ',') :
    resume n (.array :: outer) c = skipFrom n (.array :: outer) c.skipBlanks.next := by
  obtain ⟨rest, hr⟩ := ahead_eq_some_iff.1 ha
  rw [resume, leave.eq_def]
  simp only [hr, if_true]
  rfl

theorem resume_closeArray (n : Nat) (ha : c.ahead = some ']') :
    resume n (.array :: outer) c = resume n outer c.skipBlanks.next := by
  obtain ⟨rest, hr⟩ := ahead_eq_some_iff.1 ha
  rw [resume, leave.eq_def, resume]
  simp only [hr]
  rfl

theorem resume_name {d e : Cursor} (n : Nat) (ha : c.ahead = some ',')
    (hq : c.skipBlanks.next.ahead = some '"')
    (hs : c.skipBlanks.next.skipBlanks.next.skipString = .ok d) (hc : d.colon = .ok e) :
    resume n (.object :: outer) c = skipFrom n (.object :: outer) e := by
  obtain ⟨rest, hr⟩ := ahead_eq_some_iff.1 ha
  have hname : skipName c.skipBlanks.next = .ok e := by
    obtain ⟨rest', hr'⟩ := ahead_eq_some_iff.1 hq
    rw [skipName]
    simp only [hr', if_true, hs]
    exact hc
  rw [resume, leave.eq_def]
  simp only [hr, if_true, hname]
  rfl

theorem resume_closeObject (n : Nat) (ha : c.ahead = some '\x7d') :
    resume n (.object :: outer) c = resume n outer c.skipBlanks.next := by
  obtain ⟨rest, hr⟩ := ahead_eq_some_iff.1 ha
  rw [resume, leave.eq_def, resume]
  simp only [hr]
  rfl

theorem skipHead_empty_array (ha : c.ahead = some '[') (hc : c.skipBlanks.next.ahead = some ']') :
    skipHead outer c = .ok (none, c.skipBlanks.next.skipBlanks.next) := by
  obtain ⟨rest, hr⟩ := ahead_eq_some_iff.1 ha
  obtain ⟨rest', hr'⟩ := ahead_eq_some_iff.1 hc
  rw [skipHead]
  simp only [hr, hr', if_true]

theorem skipHead_array {ch : Char} (ha : c.ahead = some '[')
    (hc : c.skipBlanks.next.ahead = some ch) (hne : ch ≠ ']') :
    skipHead outer c = .ok (some (.array :: outer), c.skipBlanks.next.skipBlanks) := by
  obtain ⟨rest, hr⟩ := ahead_eq_some_iff.1 ha
  obtain ⟨rest', hr'⟩ := ahead_eq_some_iff.1 hc
  rw [skipHead]
  simp only [hr, hr', if_true, if_neg hne]

theorem skipHead_empty_object (ha : c.ahead = some '\x7b')
    (hc : c.skipBlanks.next.ahead = some '\x7d') :
    skipHead outer c = .ok (none, c.skipBlanks.next.skipBlanks.next) := by
  obtain ⟨rest, hr⟩ := ahead_eq_some_iff.1 ha
  obtain ⟨rest', hr'⟩ := ahead_eq_some_iff.1 hc
  rw [skipHead]
  simp only [hr, hr', if_true]
  rfl

theorem skipName_eq_ok {d e : Cursor} (hq : c.ahead = some '"')
    (hs : c.skipBlanks.next.skipString = .ok d) (hc : d.colon = .ok e) : skipName c = .ok e := by
  obtain ⟨rest, hr⟩ := ahead_eq_some_iff.1 hq
  rw [skipName]
  simp only [hr, if_true, hs]
  exact hc

theorem skipHead_object {d e : Cursor} (ha : c.ahead = some '\x7b')
    (hq : c.skipBlanks.next.ahead = some '"')
    (hs : c.skipBlanks.next.skipBlanks.next.skipString = .ok d) (hc : d.colon = .ok e) :
    skipHead outer c = .ok (some (.object :: outer), e) := by
  obtain ⟨rest, hr⟩ := ahead_eq_some_iff.1 ha
  obtain ⟨rest', hr'⟩ := ahead_eq_some_iff.1 hq
  have hname : skipName c.skipBlanks.next.skipBlanks = .ok e :=
    skipName_eq_ok ((ahead_skipBlanks _).trans hq) (by rwa [skipBlanks_skipBlanks]) hc
  rw [skipHead]
  simp only [hr, hr']
  rw [if_neg (by decide), if_pos trivial, if_neg (by decide), hname]
  rfl

theorem skipHead_scalar {j : Json} (hs : c.Sound) (h : ScalarText c j c') :
    skipHead outer c = .ok (none, c') := by
  have hnext : c.skipBlanks.next.Sound :=
    ((Follows.skipBlanks c).trans (Follows.next _)).sound hs
  cases h with
  | string ha h =>
    obtain ⟨rest, hr⟩ := ahead_eq_some_iff.1 ha
    simp [skipHead, hr, skipString_of_string hnext h, bind, Except.bind]
  | negative ha h =>
    obtain ⟨rest, hr⟩ := ahead_eq_some_iff.1 ha
    simp [skipHead, hr, skipNumber_of_numeral h, bind, Except.bind]
  | @number ch _ _ ha hd h =>
    obtain ⟨rest, hr⟩ := ahead_eq_some_iff.1 ha
    have hne : ∀ {x : Char}, ¬x.isDigit → ch ≠ x := fun hx he => hx (he ▸ hd)
    rw [skipHead]
    simp only [hr]
    rw [if_neg (hne (by decide)), if_neg (hne (by decide)), if_neg (hne (by decide)),
      if_neg (hne (by decide)), if_pos hd, skipNumber_of_numeral h]
    rfl
  | null ha h =>
    obtain ⟨rest, hr⟩ := ahead_eq_some_iff.1 ha
    simp [skipHead, hr, h, bind, Except.bind]
  | true ha h =>
    obtain ⟨rest, hr⟩ := ahead_eq_some_iff.1 ha
    simp [skipHead, hr, h, bind, Except.bind]
  | false ha h =>
    obtain ⟨rest, hr⟩ := ahead_eq_some_iff.1 ha
    simp [skipHead, hr, h, bind, Except.bind]

end

def Skips (c c' : Cursor) : Prop :=
  ∃ k, k + 1 + c'.rest.length ≤ c.rest.length ∧
    ∀ n outer, skipFrom (n + (k + 1)) outer c = resume n outer c'

section

variable {V : Cursor → Json → Cursor → Prop} {c c' d : Cursor} {j : Json}
variable (hF : ∀ {c j c'}, V c j c' → c.Follows c')
variable (hV : ∀ {c j c'}, V c j c' → c.Sound → Skips c c')

theorem length_bracket {ch : Char} (ha : c.ahead = some ch) :
    c.skipBlanks.next.rest.length + 1 ≤ c.rest.length := by
  obtain ⟨rest, hr⟩ := ahead_eq_some_iff.1 ha
  rw [length_next hr]
  exact (Follows.skipBlanks c).suffix.length_le

theorem skips_scalar (hs : c.Sound) (h : ScalarText c j c') : Skips c c' := by
  refine ⟨0, ?_, fun n outer => ?_⟩
  · have hl := (Follows.scalar h).suffix.length_le
    obtain ⟨ch, ha⟩ : ∃ ch, c.ahead = some ch := by cases h <;> exact ⟨_, ‹_›⟩
    have hb := length_bracket ha
    omega
  · rw [skipFrom_succ, skipHead_scalar hs h]
    rfl

include hF hV

theorem resume_items {js : List Json} (hs : c.Sound) (h : ItemsText V false c js d)
    (hc : d.closeArray = .ok c') :
    ∃ k, k + c'.rest.length ≤ c.rest.length ∧
      ∀ n outer, resume (n + k) (.array :: outer) c = resume n outer c' := by
  generalize hfirst : false = first at h
  induction h with
  | @nil first c h =>
    obtain ⟨-, rfl⟩ := ahead_of_closeArray hc
    rw [skipBlanks_skipBlanks]
    have hl := ((Follows.skipBlanks c).trans (Follows.next _)).suffix.length_le
    exact ⟨0, by omega, fun n outer => resume_closeArray n (nextItem_eq_none_iff.1 h)⟩
  | @cons first c c1 j c2 js d h hj hr ih =>
    subst hfirst
    have hs1 : c1.Sound := (Follows.nextItem h).sound hs
    obtain ⟨k, hk, hskip⟩ := hV hj hs1
    obtain ⟨k', hk', hrest⟩ := ih ((hF hj).sound hs1) hc rfl
    obtain ⟨ha, rfl⟩ := ahead_of_next_item h
    have hl := (Follows.nextItem h).suffix.length_le
    refine ⟨k' + (k + 1), by omega, fun n outer => ?_⟩
    calc
      resume (n + (k' + (k + 1))) (.array :: outer) c
        = skipFrom (n + k' + (k + 1)) (.array :: outer) c.skipBlanks.next := by
          rw [resume_comma _ ha, Nat.add_assoc]
      _ = skipFrom (n + k' + (k + 1)) (.array :: outer) c.skipBlanks.next.skipBlanks :=
          (skipFrom_skipBlanks _ _ _).symm
      _ = resume (n + k') (.array :: outer) c2 := hskip _ _
      _ = resume n outer c' := hrest _ _

theorem resume_members {ms : List (String × Json)} (hs : c.Sound) (h : MembersText V false c ms d)
    (hc : d.closeObject = .ok c') :
    ∃ k, k + c'.rest.length ≤ c.rest.length ∧
      ∀ n outer, resume (n + k) (.object :: outer) c = resume n outer c' := by
  generalize hfirst : false = first at h
  induction h with
  | @nil first c h =>
    obtain ⟨-, rfl⟩ := ahead_of_closeObject hc
    rw [skipBlanks_skipBlanks]
    have hl := ((Follows.skipBlanks c).trans (Follows.next _)).suffix.length_le
    exact ⟨0, by omega, fun n outer => resume_closeObject n (ahead_of_no_name h)⟩
  | @cons first c c1 name c2 c3 j c4 ms d h hn hcolon hj hr ih =>
    subst hfirst
    have hs1 : c1.Sound := (Follows.nextName h).sound hs
    have hs3 : c3.Sound := ((Follows.string hn).trans (.colon hcolon)).sound
      ((Follows.next c1).sound hs1)
    obtain ⟨k, hk, hskip⟩ := hV hj hs3
    obtain ⟨k', hk', hrest⟩ := ih ((hF hj).sound hs3) hc rfl
    have hname := skipString_of_string ((Follows.next c1).sound hs1) hn
    have hl := ((Follows.nextName h).trans <| (Follows.next c1).trans <|
      (Follows.string hn).trans (.colon hcolon)).suffix.length_le
    obtain ⟨ha, rfl, hq⟩ := ahead_of_next_name h
    refine ⟨k' + (k + 1), by omega, fun n outer => ?_⟩
    calc
      resume (n + (k' + (k + 1))) (.object :: outer) c
        = skipFrom (n + k' + (k + 1)) (.object :: outer) c3 := by
          rw [resume_name _ ha (by rwa [ahead_skipBlanks] at hq) hname hcolon, Nat.add_assoc]
      _ = resume (n + k') (.object :: outer) c4 := hskip _ _
      _ = resume n outer c' := hrest _ _

theorem skips_value (hs : c.Sound) (h : ValueText V c j c') : Skips c c' := by
  cases h with
  | scalar h => exact skips_scalar hs (scalarText_of_scalar h)
  | @array js d _ hscalar ha h hn hc =>
    have hb := length_bracket ha
    have hs' : c.skipBlanks.next.Sound := ((Follows.skipBlanks c).trans (.next _)).sound hs
    cases h with
    | nil h =>
      have ha' := nextItem_eq_none_iff.1 h
      obtain ⟨-, rfl⟩ := ahead_of_closeArray hc
      rw [skipBlanks_skipBlanks]
      have hl := ((Follows.skipBlanks c.skipBlanks.next).trans (Follows.next _)).suffix.length_le
      refine ⟨0, by omega, fun n outer => ?_⟩
      rw [skipFrom_succ, skipHead_empty_array ha ha']
      rfl
    | @cons _ _ c1 j c2 js _ h hj hr =>
      have hs1 : c1.Sound := (Follows.nextItem h).sound hs'
      obtain ⟨k, hk, hskip⟩ := hV hj hs1
      obtain ⟨k', hk', hrest⟩ := resume_items hF hV ((hF hj).sound hs1) hr hc
      have hl := (Follows.nextItem h).suffix.length_le
      obtain ⟨rfl, ch, ha', hne⟩ := ahead_of_first_item h
      refine ⟨k' + (k + 1), by omega, fun n outer => ?_⟩
      rw [← Nat.add_assoc, skipFrom_succ, skipHead_array ha ha' hne, ← Nat.add_assoc]
      exact (hskip _ _).trans (hrest _ _)
  | @object ms d _ hscalar ha h hn hc =>
    have hb := length_bracket ha
    have hs' : c.skipBlanks.next.Sound := ((Follows.skipBlanks c).trans (.next _)).sound hs
    cases h with
    | nil h =>
      have ha' := ahead_of_no_name h
      obtain ⟨-, rfl⟩ := ahead_of_closeObject hc
      rw [skipBlanks_skipBlanks]
      have hl := ((Follows.skipBlanks c.skipBlanks.next).trans (Follows.next _)).suffix.length_le
      refine ⟨0, by omega, fun n outer => ?_⟩
      rw [skipFrom_succ, skipHead_empty_object ha ha']
      rfl
    | @cons _ _ c1 name c2 c3 j c4 ms _ h hname hcolon hj hr =>
      have hs1 : c1.next.Sound := ((Follows.nextName h).trans (.next c1)).sound hs'
      have hs3 : c3.Sound := ((Follows.string hname).trans (.colon hcolon)).sound hs1
      obtain ⟨k, hk, hskip⟩ := hV hj hs3
      obtain ⟨k', hk', hrest⟩ := resume_members hF hV ((hF hj).sound hs3) hr hc
      have hl := ((Follows.nextName h).trans <| (Follows.next c1).trans <|
        (Follows.string hname).trans (.colon hcolon)).suffix.length_le
      have hskipName := skipString_of_string hs1 hname
      obtain ⟨rfl, hq⟩ := ahead_of_first_name h
      refine ⟨k' + (k + 1), by omega, fun n outer => ?_⟩
      rw [← Nat.add_assoc, skipFrom_succ, skipHead_object ha hq hskipName hcolon,
        ← Nat.add_assoc]
      exact (hskip _ _).trans (hrest _ _)

end

theorem skips_of_spells {n : Nat} {c c' : Cursor} {j : Json} (hs : c.Sound)
    (h : Spells n c j c') : Skips c c' := by
  induction n generalizing c j c' with
  | zero => exact skips_scalar hs (scalarText_of_scalar (spells_zero h))
  | succ n ih =>
    exact skips_value .spells (fun hj hs => ih hs hj) hs (valueText_of_spells h)

theorem skipValue_of_spells {n : Nat} {c c' : Cursor} {j : Json} (hs : c.Sound)
    (h : Spells n c j c') : c.skipValue = .ok c' := by
  obtain ⟨k, hk, hskip⟩ := skips_of_spells hs h
  have hl := length_le_size c.rest
  have hfuel : c.left + 1 = c.left - k + (k + 1) := by
    rw [Sound] at hs
    omega
  rw [skipValue, hfuel, hskip]
  rfl

end TemplateQuery.Json
