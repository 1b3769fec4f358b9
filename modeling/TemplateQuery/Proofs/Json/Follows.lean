import TemplateQuery.Proofs.Json.Cursor

namespace TemplateQuery.Json

namespace Cursor

def size (cs : List Char) : Nat :=
  (cs.map Char.utf8Size).sum

def Sound (c : Cursor) : Prop :=
  c.left = size c.rest

structure Follows (c c' : Cursor) : Prop where
  sound : c.Sound → c'.Sound
  suffix : c'.rest <:+ c.rest

theorem length_le_size (cs : List Char) : cs.length ≤ size cs := by
  induction cs with
  | nil => exact Nat.le_refl 0
  | cons ch rest ih =>
    have hpos : 0 < ch.utf8Size := ch.utf8Size_pos
    rw [size, List.map_cons, List.sum_cons, List.length_cons]
    rw [size] at ih
    omega

theorem sound_start (text : String) : (start text).Sound := by
  have hbytes : text.utf8ByteSize = (text.toList.flatMap String.utf8EncodeChar).length := by
    rw [← String.size_toByteArray, ← String.ofList_toList (s := text), String.toByteArray_ofList]
    simp [List.utf8Encode]
  rw [Sound, start, hbytes, List.length_flatMap]
  exact congrArg List.sum (List.map_congr_left fun ch _ => String.length_utf8EncodeChar ch)

theorem utf8Size_of_lt {ch : Char} (h : ch.toNat < 128) : ch.utf8Size = 1 := by
  have hv : ch.val ≤ 127 := by
    rw [UInt32.le_iff_toNat_le]
    exact Nat.le_of_lt_succ h
  exact if_pos hv

theorem utf8Size_of_isDigit {ch : Char} (h : ch.isDigit) : ch.utf8Size = 1 := by
  refine utf8Size_of_lt ?_
  simp only [Char.isDigit, Bool.and_eq_true, decide_eq_true_eq] at h
  exact lt_of_le_of_lt (UInt32.le_iff_toNat_le.1 h.2) (by decide)

theorem utf8Size_of_hexValue {ch : Char} {n : Nat} (h : hexValue ch = some n) :
    ch.utf8Size = 1 := by
  unfold hexValue at h
  split at h
  case isTrue hd => exact utf8Size_of_isDigit hd
  case isFalse =>
    refine utf8Size_of_lt ?_
    split at h
    case isTrue hc => exact lt_of_le_of_lt (UInt32.le_iff_toNat_le.1 hc.2) (by decide)
    case isFalse =>
      split at h
      case isTrue hc => exact lt_of_le_of_lt (UInt32.le_iff_toNat_le.1 hc.2) (by decide)
      case isFalse => contradiction

theorem digits_next {c : Cursor} {ch : Char} {rest : List Char} (hr : c.rest = ch :: rest)
    (hd : ch.isDigit) : c.next.digits.2 = c.digits.2 := by
  have hnext : c.next = ⟨rest, c.left - 1⟩ := by
    unfold next
    rw [hr]
    simp only [utf8Size_of_isDigit hd]
  rw [hnext, digits, digits, hr, List.takeWhile_cons_of_pos hd, List.dropWhile_cons_of_pos hd,
    List.length_cons, Nat.sub_sub, Nat.add_comm 1]

namespace Follows

variable {c c' c'' : Cursor}

theorem refl (c : Cursor) : c.Follows c :=
  ⟨id, List.suffix_refl _⟩

theorem trans (h : c.Follows c') (h' : c'.Follows c'') : c.Follows c'' :=
  ⟨h'.sound ∘ h.sound, h'.suffix.trans h.suffix⟩

theorem drop {ch : Char} {rest : List Char} (hr : c.rest = ch :: rest) {n : Nat}
    (hn : ch.utf8Size = n) : c.Follows ⟨rest, c.left - n⟩ where
  sound hs := by
    rw [Sound, hr, size, List.map_cons, List.sum_cons, hn] at hs
    rw [Sound, hs, Nat.add_sub_cancel_left, size]
  suffix := by
    rw [hr]
    exact List.suffix_cons ch rest

theorem next (c : Cursor) : c.Follows c.next := by
  unfold Cursor.next
  split
  case h_1 => exact .refl c
  case h_2 ch rest hr => exact .drop hr rfl

theorem skipBlanks (c : Cursor) : c.Follows c.skipBlanks := by
  obtain ⟨rest, left⟩ := c
  rw [Cursor.skipBlanks]
  induction rest generalizing left with
  | nil => exact .refl _
  | cons ch rest ih =>
    rw [skipBlanksFrom]
    split
    case isTrue hb =>
      have hsize : ch.utf8Size = 1 := by
        simp only [isBlank, Bool.or_eq_true, beq_iff_eq] at hb
        rcases hb with ((rfl | rfl) | rfl) | rfl <;> rfl
      exact (Follows.drop (c := ⟨ch :: rest, left⟩) rfl hsize).trans (ih (left - 1))
    case isFalse => exact .refl _

theorem word {ws : List Char} (h : c.word ws = .ok c') : c.Follows c' := by
  induction ws generalizing c with
  | nil =>
    obtain rfl := Except.ok.inj h
    exact .refl c
  | cons w ws ih =>
    rw [Cursor.word] at h
    split at h
    case h_1 => contradiction
    case h_2 ch rest hr =>
      split at h
      case isTrue => exact (Follows.drop hr rfl).trans (ih h)
      case isFalse => contradiction

theorem hexUnit {n : Nat} (h : hexUnit c = .ok (n, c')) : c.Follows c' := by
  unfold Json.hexUnit at h
  extract_lets bad at h
  split at h
  case h_1 a b d e rest hr =>
    split at h
    case h_1 ha hb hd he =>
      obtain ⟨-, rfl⟩ := Prod.mk.inj (Except.ok.inj h)
      have hfour : c.left - 4 = c.left - 1 - 1 - 1 - 1 := by omega
      rw [hfour]
      exact (drop hr (utf8Size_of_hexValue ha)).trans <|
        (drop (c := ⟨b :: d :: e :: rest, _⟩) rfl (utf8Size_of_hexValue hb)).trans <|
        (drop (c := ⟨d :: e :: rest, _⟩) rfl (utf8Size_of_hexValue hd)).trans <|
        drop (c := ⟨e :: rest, _⟩) rfl (utf8Size_of_hexValue he)
    case h_2 => contradiction
  case h_2 => contradiction

theorem trailingUnit {n : Nat} (h : trailingUnit c = .ok (n, c')) : c.Follows c' := by
  unfold Json.trailingUnit at h
  split at h
  case h_3 =>
    obtain ⟨⟨m, d⟩, hm, h⟩ := bind_eq_ok_iff.1 h
    simp only at h
    split at h
    case isTrue =>
      obtain ⟨-, rfl⟩ := Prod.mk.inj (Except.ok.inj h)
      exact (Follows.next c).trans ((Follows.next _).trans (Follows.hexUnit hm))
    case isFalse => contradiction
  all_goals contradiction

theorem unicodeEscape {ch : Char} (h : unicodeEscape c = .ok (ch, c')) : c.Follows c' := by
  obtain ⟨⟨n, d⟩, hn, h⟩ := bind_eq_ok_iff.1 h
  simp only at h
  split at h
  case isTrue => contradiction
  case isFalse =>
    split at h
    case isTrue =>
      obtain ⟨⟨m, e⟩, hm, h⟩ := bind_eq_ok_iff.1 h
      obtain ⟨-, rfl⟩ := Prod.mk.inj (Except.ok.inj h)
      exact (Follows.hexUnit hn).trans (Follows.trailingUnit hm)
    case isFalse =>
      obtain ⟨-, rfl⟩ := Prod.mk.inj (Except.ok.inj h)
      exact Follows.hexUnit hn

theorem escape {ch : Char} (h : escape c = .ok (ch, c')) : c.Follows c' := by
  unfold Json.escape at h
  split at h
  case h_1 => contradiction
  case h_2 =>
    split at h
    case isTrue => exact (Follows.next c).trans (Follows.unicodeEscape h)
    case isFalse =>
      split at h
      case h_1 =>
        obtain ⟨-, rfl⟩ := Prod.mk.inj (Except.ok.inj h)
        exact .next c
      case h_2 => contradiction

theorem stringFrom {n : Nat} {read : List Char} {s : String}
    (h : stringFrom n read c = .ok (s, c')) : c.Follows c' := by
  induction n generalizing read c with
  | zero => contradiction
  | succ n ih =>
    unfold Json.stringFrom at h
    split at h
    case h_1 => contradiction
    case h_2 =>
      split at h
      case isTrue =>
        obtain ⟨-, rfl⟩ := Prod.mk.inj (Except.ok.inj h)
        exact .next c
      case isFalse =>
        split at h
        case isTrue =>
          obtain ⟨⟨e, d⟩, he, h⟩ := bind_eq_ok_iff.1 h
          exact (Follows.next c).trans ((Follows.escape he).trans (ih h))
        case isFalse =>
          split at h
          case isTrue => contradiction
          case isFalse => exact (Follows.next c).trans (ih h)

theorem string {s : String} (h : c.string = .ok (s, c')) : c.Follows c' :=
  stringFrom h

theorem digits (c : Cursor) : c.Follows c.digits.2 := by
  obtain ⟨rest, left⟩ := c
  rw [Cursor.digits]
  induction rest generalizing left with
  | nil => exact .refl _
  | cons ch rest ih =>
    by_cases hd : ch.isDigit
    · rw [List.takeWhile_cons_of_pos hd, List.dropWhile_cons_of_pos hd, List.length_cons]
      have hleft : left - ((rest.takeWhile Char.isDigit).length + 1) =
          left - 1 - (rest.takeWhile Char.isDigit).length := by omega
      rw [hleft]
      exact (drop (c := ⟨ch :: rest, left⟩) rfl (utf8Size_of_isDigit hd)).trans (ih (left - 1))
    · rw [List.takeWhile_cons_of_neg hd, List.dropWhile_cons_of_neg hd]
      exact .refl _

end Follows

end Cursor

open Cursor

section

variable {c c' : Cursor} {x : Number} {negative : Bool} {m : Mantissa}

theorem toFloat_eq_ok (h : m.toFloat negative c = .ok (x, c')) : c = c' := by
  unfold Mantissa.toFloat at h
  split at h
  case h_1 => exact (Prod.mk.inj (Except.ok.inj h)).2
  case h_2 => contradiction

def afterSign (c : Cursor) : Cursor :=
  match c.rest with
  | '+' :: _ => c.next
  | '-' :: _ => c.next
  | _ => c

theorem skipExponent_eq (c : Cursor) :
    skipExponent c =
      if (afterSign c).digits.1.isEmpty then
        .error (if (afterSign c).rest.isEmpty then (afterSign c).fault .badNumber
          else (afterSign c).faultAhead .badNumber)
      else .ok (afterSign c).digits.2 := rfl

theorem skipExponent_of_exponent (h : exponent negative m c = .ok (x, c')) :
    skipExponent c = .ok c' := by
  unfold exponent at h
  split at h
  case h_1 minus d hd =>
    obtain rfl : d = afterSign c := by
      unfold afterSign
      split at hd <;> simp_all
    rw [skipExponent_eq]
    simp only at h
    split at h
    case isTrue => contradiction
    case isFalse =>
      split at h
      case isTrue => contradiction
      case isFalse hds =>
        rw [if_neg hds]
        split at h
        case h_1 => exact congrArg Except.ok (toFloat_eq_ok h)
        case h_2 =>
          split at h
          · contradiction
          · exact congrArg Except.ok (Prod.mk.inj (Except.ok.inj h)).2

theorem skipFraction_of_fraction (h : fraction negative m c = .ok (x, c')) :
    skipFraction c = .ok c' := by
  unfold fraction at h
  unfold skipFraction
  simp only at h ⊢
  split at h
  case isTrue => contradiction
  case isFalse hds =>
    rw [if_neg hds]
    split at h
    case h_1 => exact skipExponent_of_exponent h
    case h_2 => exact skipExponent_of_exponent h
    case h_3 => exact congrArg Except.ok (toFloat_eq_ok h)

theorem skipNumber_of_numeral (h : numeral negative c = .ok (x, c')) :
    skipNumber c = .ok c' := by
  unfold numeral at h
  unfold skipNumber
  simp only at h ⊢
  split at h
  case h_1 => contradiction
  case h_2 => contradiction
  case h_3 =>
    split at h
    case h_1 => exact skipFraction_of_fraction h
    case h_2 => exact skipExponent_of_exponent h
    case h_3 => exact skipExponent_of_exponent h
    case h_4 =>
      refine congrArg Except.ok ?_
      split at h
      · exact toFloat_eq_ok h
      · split at h
        · exact (Prod.mk.inj (Except.ok.inj h)).2
        · split at h <;> exact (Prod.mk.inj (Except.ok.inj h)).2

end

namespace Cursor.Follows

variable {c c' : Cursor}

theorem afterSign (c : Cursor) : c.Follows (afterSign c) := by
  unfold Json.afterSign
  split
  · exact .next c
  · exact .next c
  · exact .refl c

theorem skipExponent (h : skipExponent c = .ok c') : c.Follows c' := by
  rw [skipExponent_eq] at h
  split at h
  case isTrue => contradiction
  case isFalse =>
    obtain rfl := Except.ok.inj h
    exact (Follows.afterSign c).trans (.digits _)

theorem skipFraction (h : skipFraction c = .ok c') : c.Follows c' := by
  unfold Json.skipFraction at h
  simp only at h
  split at h
  case isTrue => contradiction
  case isFalse =>
    split at h
    case h_1 => exact (Follows.digits c).trans ((Follows.next _).trans (Follows.skipExponent h))
    case h_2 => exact (Follows.digits c).trans ((Follows.next _).trans (Follows.skipExponent h))
    case h_3 =>
      obtain rfl := Except.ok.inj h
      exact .digits c

theorem skipNumber (h : skipNumber c = .ok c') : c.digits.2.Follows c' := by
  unfold Json.skipNumber at h
  simp only at h
  split at h
  case h_1 => contradiction
  case h_2 => contradiction
  case h_3 =>
    split at h
    case h_1 => exact (Follows.next _).trans (Follows.skipFraction h)
    case h_2 => exact (Follows.next _).trans (Follows.skipExponent h)
    case h_3 => exact (Follows.next _).trans (Follows.skipExponent h)
    case h_4 =>
      obtain rfl := Except.ok.inj h
      exact .refl _

end Cursor.Follows

end TemplateQuery.Json
