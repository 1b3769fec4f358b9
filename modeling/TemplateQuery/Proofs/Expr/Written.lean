import Mathlib.Tactic
import TemplateQuery.Analysis.Record
import TemplateQuery.Proofs.Expr.Printer

namespace TemplateQuery.Expr

open List (infix_append_of_infix_left infix_append_of_infix_right infix_cons infix_rfl)

variable {e c n : Expr} {es : List Expr}

theorem infix_intercalate {α : Type} {separator x : List α} {xs : List (List α)} (h : x ∈ xs) :
    x <:+: separator.intercalate xs := by
  induction xs with
  | nil => cases h
  | cons y ys ih =>
    by_cases hy : ys = []
    · subst hy
      rw [List.intercalate_singleton, List.mem_singleton.1 h]
    · rw [List.intercalate_cons_of_ne_nil hy]
      rcases List.mem_cons.1 h with rfl | h
      · exact infix_append_of_infix_left (infix_append_of_infix_left infix_rfl)
      · exact infix_append_of_infix_right (ih h)

theorem infix_separated {separator : List Char} (h : c ∈ es) :
    c.chars <:+: separated separator es := by
  rw [separated_eq]
  exact infix_intercalate (List.mem_map_of_mem h)

theorem infix_pipeArgs (h : c ∈ es) : c.chars <:+: pipeArgs es := by
  rw [pipeArgs_eq]
  exact (infix_cons infix_rfl).trans (List.infix_of_mem_flatten (List.mem_map_of_mem h))

theorem infix_entries {keys : List MapKey} (hl : es.length ≤ keys.length) (h : c ∈ es) :
    c.chars <:+: entries keys es := by
  obtain ⟨m, hm, rfl⟩ : ∃ m ∈ keys.zip es, m.2 = c := by
    rwa [← List.mem_map, List.map_snd_zip hl]
  have he : m.2.chars <:+: entryChars m :=
    infix_append_of_infix_right (infix_cons (infix_cons infix_rfl))
  rw [entries_eq]
  exact he.trans (infix_intercalate (List.mem_map_of_mem hm))

theorem infix_interleaved {opening closing : List Char} {strings : List String}
    (hl : es.length ≤ strings.length) (h : c ∈ es) :
    c.chars <:+: interleaved opening closing strings es := by
  induction strings generalizing es with
  | nil =>
    obtain rfl := List.eq_nil_of_length_eq_zero (Nat.le_zero.1 hl)
    cases h
  | cons s strings ih =>
    cases es with
    | nil => cases h
    | cons e es =>
      rw [interleaved]
      rcases List.mem_cons.1 h with rfl | h
      · exact infix_append_of_infix_left (infix_append_of_infix_left
          (infix_append_of_infix_right infix_rfl))
      · exact infix_append_of_infix_right (ih (Nat.le_of_succ_le_succ hl) h)

-- No value lacks a key, and no embedded expression the text before it.
def isPaired : Expr → Bool
  | .literalMap _ keys values => values.length ≤ keys.length
  | .interpolation _ strings es => es.length ≤ strings.length
  | .templateLiteral _ elements es => es.length ≤ elements.length
  | _ => true

theorem infix_of_mem_children (hp : e.isPaired = true) (hc : c ∈ e.children) :
    c.chars <:+: e.chars := by
  cases e with
  | emptyExpr | implicitReceiver | thisReceiver | literalPrimitive => cases hc
  | chain p es =>
    rw [chars]
    exact infix_separated hc
  | literalArray p es =>
    rw [chars]
    exact infix_append_of_infix_left (infix_cons (infix_separated hc))
  | literalMap p keys values =>
    have hl : values.length ≤ keys.length := of_decide_eq_true hp
    rw [chars]
    exact infix_append_of_infix_left (infix_cons (infix_entries hl hc))
  | interpolation p strings es =>
    have hl : es.length ≤ strings.length := of_decide_eq_true hp
    rw [chars]
    exact infix_interleaved hl hc
  | templateLiteral p elements es =>
    have hl : es.length ≤ elements.length := of_decide_eq_true hp
    rw [chars]
    exact infix_append_of_infix_left (infix_cons (infix_interleaved hl hc))
  | bindingPipe p x name args =>
    rw [chars]
    rcases List.mem_cons.1 hc with rfl | hc
    · grind [infix_append_of_infix_left]
    · exact infix_append_of_infix_right (infix_pipeArgs hc)
  | call p r args a comma =>
    rw [chars]
    apply infix_append_of_infix_left
    apply infix_append_of_infix_left
    rcases List.mem_append.1 hc with hc | hc
    · exact infix_append_of_infix_right (infix_cons (infix_separated hc))
    · rw [List.mem_singleton.1 hc]
      exact infix_append_of_infix_left infix_rfl
  | safeCall p r args a comma =>
    rw [chars]
    apply infix_append_of_infix_left
    apply infix_append_of_infix_left
    rcases List.mem_append.1 hc with hc | hc
    · apply infix_append_of_infix_right
      exact infix_cons (infix_cons (infix_cons (infix_separated hc)))
    · rw [List.mem_singleton.1 hc]
      exact infix_append_of_infix_left infix_rfl
  | _ =>
    simp only [children, List.mem_cons, List.not_mem_nil, or_false] at hc
    simp only [chars, memberChars]
    grind [infix_append_of_infix_left, infix_append_of_infix_right, infix_cons]

theorem infix_of_mem_walk (h : ∀ x ∈ e.walk, x.isPaired = true) (hn : n ∈ e.walk) :
    n.chars <:+: e.chars := by
  induction e using induction_children with
  | step e ih =>
    rcases mem_walk_iff.1 hn with rfl | ⟨c, hc, hn⟩
    · exact infix_rfl
    · have hs : ∀ x ∈ c.walk, x.isPaired = true := fun x hx => h x (mem_walk_of_mem_children hc hx)
      exact (ih c hc hs hn).trans (infix_of_mem_children (h e (mem_walk_self e)) hc)

theorem infix_of_componentName? {name : String} (h : e.componentName? = some name) :
    name.toList <:+: e.chars := by
  cases e with
  | propertyRead p s r m =>
    obtain ⟨-, rfl⟩ : r.isComponentReceiver = true ∧ m = name := by
      simpa [componentName?] using h
    rw [chars, memberChars]
    split
    · exact infix_rfl
    · exact infix_append_of_infix_right (infix_cons infix_rfl)
  | _ => simp [componentName?] at h

theorem infix_of_mem_dependencies {name : String} (h : ∀ x ∈ e.walk, x.isPaired = true)
    (hn : name ∈ e.dependencies.toList) : name.toList <:+: e.chars := by
  rw [dependencies, OrderedSet.toList_ofList, mem_firstSeen] at hn
  obtain ⟨x, hx, hname⟩ := List.mem_filterMap.1 hn
  exact (infix_of_componentName? hname).trans (infix_of_mem_walk h hx)

theorem walk_written (h : ∀ x ∈ e.walk, x.isPaired = true) :
    (∀ n ∈ e.walk, n.text.toList <:+: e.text.toList) ∧
      (∀ name ∈ e.dependencies.toList, name.toList <:+: e.text.toList) ∧
      ∀ b : InputBinding, b.value.expr = e → b.value.source = none →
        ∀ name ∈ (PropertyBinding.ofInput b).referencedProperties.toList,
          name.toList <:+: (PropertyBinding.ofInput b).rawValue.toList := by
  simp only [toList_text]
  refine ⟨fun n hn => infix_of_mem_walk h hn, fun name hn => infix_of_mem_dependencies h hn, ?_⟩
  rintro b rfl hs name hn
  have hraw : (PropertyBinding.ofInput b).rawValue.toList = b.value.expr.chars := by
    rw [PropertyBinding.ofInput, SourcedExpr.text, hs, toList_text]
  rw [hraw]
  exact infix_of_mem_dependencies h hn

theorem walk_written_pipe :
    ∃ (e : Expr) (b : InputBinding), (∀ x ∈ e.walk, x.isPaired = true) ∧ b.value.expr = e ∧
      b.value.source = none ∧ e.walk.length = 11 ∧ e.dependencies.toList = ["rows", "y", "pick"] ∧
      e.text.toList = "this.pick(rows, \x7b\"a\": \x60x$\x7by\x7d\x60\x7d, ) | async:".toList ∧
      (∀ n ∈ e.walk, n.text.toList <:+: e.text.toList) ∧
      (∀ name ∈ e.dependencies.toList, name.toList <:+: e.text.toList) ∧
      ∀ name ∈ (PropertyBinding.ofInput b).referencedProperties.toList,
        name.toList <:+: (PropertyBinding.ofInput b).rawValue.toList := by
  let embedded : Expr := .templateLiteral {} ["x", ""] [identifier "y"]
  let object : Expr := .literalMap {} [⟨"a", true⟩, ⟨"b", false⟩] [embedded]
  let call : Expr := .call {} (ofRead (.thisReceiver {}) "pick") [identifier "rows", object] {} true
  let e : Expr := .bindingPipe {} call "async" [.emptyExpr {}]
  let b : InputBinding := { value := { expr := e } }
  have h : ∀ x ∈ e.walk, x.isPaired = true := by decide +kernel
  obtain ⟨hw, hd, hb⟩ := walk_written h
  refine ⟨e, b, h, rfl, rfl, by decide +kernel, by decide +kernel, ?_, hw, hd, hb b rfl rfl⟩
  exact congrArg String.toList (by decide +kernel)

end TemplateQuery.Expr
