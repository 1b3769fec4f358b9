import Mathlib.Tactic
import TemplateQuery.Json.Reader

namespace TemplateQuery.Json

theorem bind_eq_ok_iff {ε α β : Type} {x : Except ε α} {g : α → Except ε β} {b : β} :
    x >>= g = .ok b ↔ ∃ a, x = .ok a ∧ g a = .ok b := by
  cases x <;> simp [bind, Except.bind]

theorem ok_bind {ε α β : Type} (a : α) (g : α → Except ε β) : (Except.ok a >>= g) = g a :=
  rfl

namespace Cursor

def ahead (c : Cursor) : Option Char :=
  c.skipBlanks.rest.head?

variable {c c' : Cursor} {ch : Char} {first : Bool}

theorem skipBlanks_skipBlanks (c : Cursor) : c.skipBlanks.skipBlanks = c.skipBlanks := by
  have hfrom : ∀ (cs : List Char) (left : Nat),
      (skipBlanksFrom left cs).skipBlanks = skipBlanksFrom left cs := by
    intro cs
    induction cs with
    | nil => intro left; rfl
    | cons ch rest ih =>
      intro left
      rw [skipBlanksFrom]
      split
      case isTrue => exact ih _
      case isFalse hb => rw [skipBlanks, skipBlanksFrom, if_neg hb]
  exact hfrom c.rest c.left

@[simp] theorem ahead_skipBlanks (c : Cursor) : c.skipBlanks.ahead = c.ahead := by
  rw [ahead, skipBlanks_skipBlanks, ahead]

theorem ahead_eq_some_iff : c.ahead = some ch ↔ ∃ rest, c.skipBlanks.rest = ch :: rest :=
  List.head?_eq_some_iff

theorem nextItem_eq_none_iff : c.nextItem first = .ok none ↔ c.ahead = some ']' := by
  rw [ahead]
  cases hr : c.skipBlanks.rest with
  | nil => simp [nextItem, hr]
  | cons ch rest =>
    by_cases hc : ch = ']'
    · simp [nextItem, hr, hc]
    · simp only [nextItem, hr, hc, if_false, List.head?_cons, Option.some.injEq, iff_false]
      split
      · simp
      · split
        · split
          · simp
          · split <;> simp
        · simp

theorem ahead_of_first_item (h : c.nextItem true = .ok (some c')) :
    c' = c.skipBlanks ∧ ∃ ch, c.ahead = some ch ∧ ch ≠ ']' := by
  rw [ahead]
  cases hr : c.skipBlanks.rest with
  | nil => simp [nextItem, hr] at h
  | cons ch rest =>
    by_cases hc : ch = ']'
    · simp [nextItem, hr, hc] at h
    · simp only [nextItem, hr, hc, if_false, if_true] at h
      exact ⟨(Option.some.inj (Except.ok.inj h)).symm, ch, rfl, hc⟩

theorem ahead_of_next_item (h : c.nextItem false = .ok (some c')) :
    c.ahead = some ',' ∧ c' = c.skipBlanks.next.skipBlanks := by
  rw [ahead]
  cases hr : c.skipBlanks.rest with
  | nil => simp [nextItem, hr] at h
  | cons ch rest =>
    simp only [nextItem, hr, Bool.false_eq_true, if_false] at h
    split at h
    case isTrue => simp at h
    case isFalse =>
      split at h
      case isTrue hc =>
        split at h
        · contradiction
        · split at h
          · contradiction
          · exact ⟨congrArg some hc, (Option.some.inj (Except.ok.inj h)).symm⟩
      case isFalse => contradiction

theorem ahead_of_no_name (h : c.nextName first = .ok none) : c.ahead = some '\x7d' := by
  rw [ahead]
  cases hr : c.skipBlanks.rest with
  | nil => simp [nextName, hr] at h
  | cons ch rest =>
    simp only [nextName, hr] at h
    split at h
    case isTrue hc => exact congrArg some hc
    case isFalse =>
      split at h
      · split at h <;> simp at h
      · split at h
        · split at h
          · contradiction
          · split at h
            · simp at h
            · split at h <;> contradiction
        · contradiction

theorem ahead_of_first_name (h : c.nextName true = .ok (some c')) :
    c' = c.skipBlanks ∧ c.ahead = some '"' := by
  rw [ahead]
  cases hr : c.skipBlanks.rest with
  | nil => simp [nextName, hr] at h
  | cons ch rest =>
    simp only [nextName, hr, if_true] at h
    split at h
    case isTrue => simp at h
    case isFalse =>
      split at h
      case isTrue hc => exact ⟨(Option.some.inj (Except.ok.inj h)).symm, congrArg some hc⟩
      case isFalse => contradiction

theorem ahead_of_next_name (h : c.nextName false = .ok (some c')) :
    c.ahead = some ',' ∧ c' = c.skipBlanks.next.skipBlanks ∧ c'.ahead = some '"' := by
  rw [ahead]
  cases hr : c.skipBlanks.rest with
  | nil => simp [nextName, hr] at h
  | cons ch rest =>
    simp only [nextName, hr, Bool.false_eq_true, if_false] at h
    split at h
    case isTrue => simp at h
    case isFalse =>
      split at h
      case isTrue hc =>
        split at h
        case h_1 => contradiction
        case h_2 q rest' hq =>
          split at h
          case isTrue hquote =>
            obtain rfl := Option.some.inj (Except.ok.inj h)
            refine ⟨congrArg some hc, rfl, ?_⟩
            rw [ahead_skipBlanks, ahead, hq, List.head?_cons, hquote]
          case isFalse => split at h <;> contradiction
      case isFalse => contradiction

theorem ahead_of_colon (h : c.colon = .ok c') : c.ahead = some ':' ∧ c' = c.skipBlanks.next := by
  rw [ahead]
  cases hr : c.skipBlanks.rest with
  | nil => simp [colon, hr] at h
  | cons ch rest =>
    simp only [colon, hr] at h
    split at h
    case isTrue hc => exact ⟨congrArg some hc, (Except.ok.inj h).symm⟩
    case isFalse => contradiction

theorem ahead_of_closeArray (h : c.closeArray = .ok c') :
    c.ahead = some ']' ∧ c' = c.skipBlanks.next := by
  rw [ahead]
  cases hr : c.skipBlanks.rest with
  | nil => simp [closeArray, hr] at h
  | cons ch rest =>
    simp only [closeArray, hr] at h
    split at h
    case isTrue hc => exact ⟨congrArg some hc, (Except.ok.inj h).symm⟩
    case isFalse => split at h <;> contradiction

theorem ahead_of_closeObject (h : c.closeObject = .ok c') :
    c.ahead = some '\x7d' ∧ c' = c.skipBlanks.next := by
  rw [ahead]
  cases hr : c.skipBlanks.rest with
  | nil => simp [closeObject, hr] at h
  | cons ch rest =>
    simp only [closeObject, hr] at h
    split at h
    case isTrue hc => exact ⟨congrArg some hc, (Except.ok.inj h).symm⟩
    case isFalse => split at h <;> contradiction

end Cursor

end TemplateQuery.Json
