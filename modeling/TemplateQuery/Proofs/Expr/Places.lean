import Mathlib.Tactic
import TemplateQuery.Proofs.Expr.Printer

namespace TemplateQuery.Expr

mutual

def withoutPlaces : Expr → Expr
  | .emptyExpr _ => .emptyExpr {}
  | .implicitReceiver _ => .implicitReceiver {}
  | .thisReceiver _ => .thisReceiver {}
  | .chain _ es => .chain {} (allWithoutPlaces es)
  | .conditional _ c t f => .conditional {} c.withoutPlaces t.withoutPlaces f.withoutPlaces
  | .propertyRead _ _ r name => .propertyRead {} {} r.withoutPlaces name
  | .safePropertyRead _ _ r name => .safePropertyRead {} {} r.withoutPlaces name
  | .keyedRead _ r k => .keyedRead {} r.withoutPlaces k.withoutPlaces
  | .safeKeyedRead _ r k => .safeKeyedRead {} r.withoutPlaces k.withoutPlaces
  | .bindingPipe _ e name args => .bindingPipe {} e.withoutPlaces name (allWithoutPlaces args)
  | .literalPrimitive _ v => .literalPrimitive {} v
  | .literalArray _ es => .literalArray {} (allWithoutPlaces es)
  | .literalMap _ keys values => .literalMap {} keys (allWithoutPlaces values)
  | .interpolation _ strings es => .interpolation {} strings (allWithoutPlaces es)
  | .binary _ op l r => .binary {} op l.withoutPlaces r.withoutPlaces
  | .prefixNot _ e => .prefixNot {} e.withoutPlaces
  | .unary _ op e => .unary {} op e.withoutPlaces
  | .typeofExpression _ e => .typeofExpression {} e.withoutPlaces
  | .nonNullAssert _ e => .nonNullAssert {} e.withoutPlaces
  | .call _ r args _ comma => .call {} r.withoutPlaces (allWithoutPlaces args) {} comma
  | .safeCall _ r args _ comma => .safeCall {} r.withoutPlaces (allWithoutPlaces args) {} comma
  | .propertyWrite _ r name v => .propertyWrite {} r.withoutPlaces name v.withoutPlaces
  | .keyedWrite _ r k v => .keyedWrite {} r.withoutPlaces k.withoutPlaces v.withoutPlaces
  | .parenthesized _ e => .parenthesized {} e.withoutPlaces
  | .templateLiteral _ elements es => .templateLiteral {} elements (allWithoutPlaces es)

def allWithoutPlaces : List Expr → List Expr
  | [] => []
  | e :: rest => e.withoutPlaces :: allWithoutPlaces rest

end

theorem allWithoutPlaces_eq_map (es : List Expr) : allWithoutPlaces es = es.map withoutPlaces := by
  induction es with
  | nil => rfl
  | cons e rest ih => rw [allWithoutPlaces, ih, List.map_cons]

theorem map_chars_map {es : List Expr} (h : ∀ e ∈ es, e.withoutPlaces.chars = e.chars) :
    (es.map withoutPlaces).map chars = es.map chars := by
  rw [List.map_map]
  exact List.map_congr_left h

theorem separated_map {separator : List Char} {es : List Expr}
    (h : ∀ e ∈ es, e.withoutPlaces.chars = e.chars) :
    separated separator (es.map withoutPlaces) = separated separator es := by
  rw [separated_eq, separated_eq, map_chars_map h]

theorem entries_map {keys : List MapKey} {es : List Expr}
    (h : ∀ e ∈ es, e.withoutPlaces.chars = e.chars) :
    entries keys (es.map withoutPlaces) = entries keys es := by
  rw [entries_eq, entries_eq, List.zip_map_right, List.map_map]
  congr 1
  refine List.map_congr_left fun m hm => ?_
  simp [entryChars, h m.2 (List.of_mem_zip hm).2]

theorem pipeArgs_map {es : List Expr} (h : ∀ e ∈ es, e.withoutPlaces.chars = e.chars) :
    pipeArgs (es.map withoutPlaces) = pipeArgs es := by
  rw [pipeArgs_eq, pipeArgs_eq, List.map_map]
  congr 1
  exact List.map_congr_left fun e he => congrArg (':' :: ·) (h e he)

theorem interleaved_map {opening closing : List Char} {strings : List String} {es : List Expr}
    (h : ∀ e ∈ es, e.withoutPlaces.chars = e.chars) :
    interleaved opening closing strings (es.map withoutPlaces) =
      interleaved opening closing strings es := by
  induction strings generalizing es with
  | nil => simp [interleaved]
  | cons s strings ih =>
    cases es with
    | nil => rfl
    | cons e es =>
      rw [List.map_cons, interleaved, interleaved, h e (by simp), ih fun f hf => h f (by simp [hf])]

theorem chars_withoutPlaces (e : Expr) : e.withoutPlaces.chars = e.chars := by
  induction e using induction_children with
  | step e ih =>
    cases e with
    | chain p es | literalArray p es =>
      have hes : ∀ x ∈ es, x.withoutPlaces.chars = x.chars := ih
      rw [withoutPlaces, chars, chars, allWithoutPlaces_eq_map, separated_map hes]
    | literalMap p keys es =>
      have hes : ∀ x ∈ es, x.withoutPlaces.chars = x.chars := ih
      rw [withoutPlaces, chars, chars, allWithoutPlaces_eq_map, entries_map hes]
    | interpolation p strings es | templateLiteral p strings es =>
      have hes : ∀ x ∈ es, x.withoutPlaces.chars = x.chars := ih
      rw [withoutPlaces, chars, chars, allWithoutPlaces_eq_map, interleaved_map hes]
    | bindingPipe p x name args =>
      obtain ⟨hx, ha⟩ := List.forall_mem_cons.1 ih
      rw [withoutPlaces, chars, chars, allWithoutPlaces_eq_map, hx, pipeArgs_map ha]
    | call p r args s comma | safeCall p r args s comma =>
      obtain ⟨ha, hr⟩ := List.forall_mem_append.1 ih
      rw [withoutPlaces, chars, chars, allWithoutPlaces_eq_map, List.forall_mem_singleton.1 hr,
        separated_map ha]
    | _ =>
      simp only [children, List.mem_cons, List.not_mem_nil, or_false, forall_eq_or_imp,
        forall_eq] at ih
      simp [withoutPlaces, chars, ih]

theorem text_withoutPlaces (e : Expr) : e.withoutPlaces.text = e.text := by
  rw [← String.toList_inj, toList_text, toList_text, chars_withoutPlaces]

end TemplateQuery.Expr
