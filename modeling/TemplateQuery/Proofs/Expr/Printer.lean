import Mathlib.Tactic
import TemplateQuery.Expr.Printer
import TemplateQuery.Proofs.Expr.Subexpression

namespace TemplateQuery.Expr

theorem separated_eq (separator : List Char) (es : List Expr) :
    separated separator es = separator.intercalate (es.map chars) := by
  induction es with
  | nil => simp [separated]
  | cons e rest ih =>
    cases rest with
    | nil => simp [separated]
    | cons f rest =>
      rw [separated, ih]
      simp

theorem pipeArgs_eq (es : List Expr) : pipeArgs es = (es.map (':' :: chars ·)).flatten := by
  induction es with
  | nil => simp [pipeArgs]
  | cons e rest ih => rw [pipeArgs, ih, List.map_cons, List.flatten_cons]

def entryChars (m : MapKey × Expr) : List Char :=
  m.1.chars ++ ':' :: ' ' :: m.2.chars

theorem entries_eq (keys : List MapKey) (values : List Expr) :
    entries keys values = [',', ' '].intercalate ((keys.zip values).map entryChars) := by
  induction keys generalizing values with
  | nil => simp [entries]
  | cons k ks ih =>
    cases values with
    | nil => cases ks <;> simp [entries]
    | cons v vs =>
      cases ks with
      | nil => simp [entries, entryChars]
      | cons k' ks =>
        cases vs with
        | nil => simp [entries, entryChars]
        | cons v' vs =>
          rw [entries, ih]
          simp [entryChars]

theorem interleaved_nil (opening closing : List Char) (strings : List String) :
    interleaved opening closing strings [] = (String.join strings).toList := by
  induction strings with
  | nil => simp [interleaved]
  | cons s strings ih => simp [interleaved, ih]

theorem intercalate_cons {α : Type} (separator x : List α) (xs : List (List α)) :
    separator.intercalate (x :: xs) = x ++ xs.flatMap (separator ++ ·) := by
  induction xs generalizing x with
  | nil => simp
  | cons y ys ih =>
    rw [List.intercalate_cons_cons, ih, List.flatMap_cons, List.append_assoc, List.append_assoc]

def Appends (e : Expr) : Prop :=
  ∀ out, (render out e).toList = out.toList ++ e.chars

section

variable {es : List Expr} (h : ∀ e ∈ es, e.Appends)
include h

theorem toList_renderAll_rest (out separator : String) :
    (renderAll out separator false es).toList =
      out.toList ++ (es.map chars).flatMap (separator.toList ++ ·) := by
  induction es generalizing out with
  | nil => simp [renderAll]
  | cons e rest ih =>
    obtain ⟨he, hr⟩ := List.forall_mem_cons.1 h
    rw [renderAll, ih hr, he]
    simp

theorem toList_renderAll (out separator : String) :
    (renderAll out separator true es).toList = out.toList ++ separated separator.toList es := by
  cases es with
  | nil => simp [renderAll, separated]
  | cons e rest =>
    obtain ⟨he, hr⟩ := List.forall_mem_cons.1 h
    rw [renderAll, if_pos rfl, toList_renderAll_rest hr, he, separated_eq, List.map_cons,
      intercalate_cons, List.append_assoc]

theorem toList_renderArgs (out : String) :
    (renderArgs out es).toList = out.toList ++ pipeArgs es := by
  induction es generalizing out with
  | nil => simp [renderArgs, pipeArgs]
  | cons e rest ih =>
    obtain ⟨he, hr⟩ := List.forall_mem_cons.1 h
    rw [renderArgs, ih hr, he, pipeArgs]
    simp

theorem toList_renderEntries_rest (out : String) (keys : List MapKey) :
    (renderEntries out false keys es).toList =
      out.toList ++ ((keys.zip es).map entryChars).flatMap ([',', ' '] ++ ·) := by
  induction keys generalizing out es with
  | nil => simp [renderEntries]
  | cons k ks ih =>
    cases es with
    | nil => simp [renderEntries]
    | cons v vs =>
      obtain ⟨hv, hr⟩ := List.forall_mem_cons.1 h
      simp only [renderEntries]
      rw [ih hr, hv]
      simp [entryChars]

theorem toList_renderEntries (out : String) (keys : List MapKey) :
    (renderEntries out true keys es).toList = out.toList ++ entries keys es := by
  rw [entries_eq]
  cases keys with
  | nil => simp [renderEntries]
  | cons k ks =>
    cases es with
    | nil => simp [renderEntries]
    | cons v vs =>
      obtain ⟨hv, hr⟩ := List.forall_mem_cons.1 h
      simp only [renderEntries]
      rw [toList_renderEntries_rest hr, hv, List.zip_cons_cons, List.map_cons, intercalate_cons]
      simp [entryChars]

theorem toList_renderInterleaved (out opening closing : String) (strings : List String) :
    (renderInterleaved out opening closing strings es).toList =
      out.toList ++ interleaved opening.toList closing.toList strings es := by
  induction strings generalizing out es with
  | nil => cases es <;> simp [renderInterleaved, interleaved]
  | cons s strings ih =>
    cases es with
    | nil => rw [renderInterleaved, interleaved_nil, String.toList_append]
    | cons e es =>
      obtain ⟨he, hr⟩ := List.forall_mem_cons.1 h
      rw [renderInterleaved, ih hr, String.toList_append, he, interleaved]
      simp

end

theorem toList_member {out written : String} {r : List Char} (h : written.toList = out.toList ++ r)
    (accessor name : String) :
    (member out.utf8ByteSize written accessor name).toList =
      out.toList ++ (if r = [] ∧ accessor = "." then name.toList
        else r ++ accessor.toList ++ name.toList) := by
  have hw : written = out ++ String.ofList r := by
    rw [← String.toList_inj, h, String.toList_append, String.toList_ofList]
  have hlt : out.utf8ByteSize < written.utf8ByteSize ↔ r ≠ [] := by
    rw [hw, String.utf8ByteSize_append]
    simp [Nat.pos_iff_ne_zero]
  rw [member]
  by_cases hr : r = [] ∧ accessor = "."
  · rw [if_neg (by simp [hlt, hr]), if_pos hr, String.toList_append, h, hr.1, List.append_nil]
  · rw [if_pos (by simpa [hlt, imp_iff_not_or] using hr), if_neg hr]
    simp [h]

theorem toList_render (e : Expr) (out : String) : (render out e).toList = out.toList ++ e.chars := by
  induction e using induction_children generalizing out with
  | step e ih =>
    have ih : ∀ c ∈ e.children, c.Appends := ih
    cases e with
    | chain p es =>
      rw [render, chars]
      exact toList_renderAll ih ..
    | literalArray p es =>
      have hes : ∀ x ∈ es, x.Appends := ih
      rw [render, chars, String.toList_append, toList_renderAll hes]
      simp
    | literalMap p keys values =>
      have hes : ∀ x ∈ values, x.Appends := ih
      rw [render, chars, String.toList_append, toList_renderEntries hes]
      simp
    | interpolation p strings es =>
      rw [render, chars]
      exact toList_renderInterleaved ih ..
    | templateLiteral p elements es =>
      have hes : ∀ x ∈ es, x.Appends := ih
      rw [render, chars, String.toList_append, toList_renderInterleaved hes]
      simp
    | bindingPipe p x name args =>
      obtain ⟨hx, hargs⟩ := List.forall_mem_cons.1 ih
      rw [render, chars, toList_renderArgs hargs, String.toList_append, String.toList_append, hx]
      simp
    | call p r args a comma =>
      obtain ⟨hargs, hr⟩ := List.forall_mem_append.1 ih
      rw [render, chars, String.toList_append, String.toList_append, toList_renderAll hargs,
        String.toList_append, hr r (List.mem_singleton_self r)]
      simp
    | safeCall p r args a comma =>
      obtain ⟨hargs, hr⟩ := List.forall_mem_append.1 ih
      rw [render, chars, String.toList_append, String.toList_append, toList_renderAll hargs,
        String.toList_append, hr r (List.mem_singleton_self r)]
      simp
    | propertyRead p s r name =>
      rw [render, chars, toList_member (ih r (by simp [children]) out)]
      simp [memberChars]
    | safePropertyRead p s r name =>
      rw [render, chars, toList_member (ih r (by simp [children]) out)]
      simp
    | propertyWrite p r name v =>
      have hr : r.Appends := ih r (by simp [children])
      have hv : v.Appends := ih v (by simp [children])
      rw [render, chars, hv, String.toList_append, toList_member (hr out)]
      simp [memberChars]
    | _ =>
      simp only [children, List.forall_mem_cons] at ih
      unfold Appends at ih
      simp [render, chars, ih]

theorem toList_text (e : Expr) : e.text.toList = e.chars :=
  toList_render e ""

end TemplateQuery.Expr
