import Mathlib.Data.List.Forall2
import Mathlib.Tactic
import TemplateQuery.Analysis.Basic
import TemplateQuery.Proofs.Node.Replacement

namespace TemplateQuery

namespace Node

def held? : Node → Option (List Node)
  | .embedded n => some n.children
  | .content n => some n.children
  | .deferBlock n =>
    some (n.children ++ (n.placeholder.map (·.children)).getD [] ++
      (n.loading.map (·.children)).getD [] ++ (n.error.map (·.children)).getD [])
  | _ => none

def decided? (enterEmpty : Bool) : Node → Option (List Node)
  | .ifBlock n => some (n.branches.flatMap (·.children))
  | .forBlock n =>
    some (n.children ++ if enterEmpty then (n.empty.map (·.children)).getD [] else [])
  | .switchBlock n => some (n.cases.flatMap (·.children))
  | _ => none

end Node

namespace Visit

def isBound : Visit → Bool
  | .node (.element _) => true
  | .node (.boundText _) => true
  | _ => false

def decides : Visit → Bool
  | .node (.ifBlock _) => true
  | .node (.forBlock _) => true
  | .node (.switchBlock _) => true
  | .switchCase _ => true
  | _ => false

theorem of_not_isBound {v : Visit} (h : v.isBound = false) :
    v.element? = none ∧ v.boundText? = none ∧ v.expressions = [] ∧ v.bindingTexts = [] := by
  cases v with
  | node n =>
    cases n with
    | element n => cases h
    | boundText n => cases h
    | _ => exact ⟨rfl, rfl, rfl, rfl⟩
  | emptyBranch e => exact ⟨rfl, rfl, rfl, rfl⟩
  | switchCase c => exact ⟨rfl, rfl, rfl, rfl⟩

theorem of_not_decides {v : Visit} (h : v.decides = false) : v.controlFlow? = none := by
  cases v with
  | node n =>
    cases n with
    | ifBlock n | forBlock n | switchBlock n => cases h
    | _ => rfl
  | emptyBranch e => rfl
  | switchCase c => cases h

end Visit

section Unwrap

variable {b : Bool} {n : Node} {ms : List Node}

theorem walk_of_held (h : n.held? = some ms) : walk b [n] = .node n :: walk b ms := by
  rw [walk_singleton]
  cases n with
  | embedded n | content n | deferBlock n =>
    cases h
    rw [Visit.children, flatMap_preorder_nodes]
  | _ => cases h

theorem not_seen_of_held (h : n.held? = some ms) :
    (Visit.node n).isBound = false ∧ (Visit.node n).decides = false := by
  cases n with
  | embedded n | content n | deferBlock n => exact ⟨rfl, rfl⟩
  | _ => cases h

theorem filter_walk_of_held {keep : Visit → Bool} (h : n.held? = some ms)
    (hk : keep (.node n) = false) : (walk b [n]).filter keep = (walk b ms).filter keep := by
  rw [walk_of_held h, List.filter_cons_of_neg (by simp [hk])]

theorem isBound_walk_cases (cs : List SwitchCase) :
    ((cs.map .switchCase).flatMap (Visit.preorder b)).filter Visit.isBound =
      (walk b (cs.flatMap (·.children))).filter Visit.isBound := by
  induction cs with
  | nil => simp [walk_eq, Node.preorderAll]
  | cons c rest ih =>
    rw [List.map_cons, List.flatMap_cons, List.flatMap_cons, preorder_switchCase, walk_append,
      List.filter_append, List.filter_append, ih]
    rfl

theorem isBound_walk_empty (e : Option EmptyBranch) :
    ((e.toList.map .emptyBranch).flatMap (Visit.preorder b)).filter Visit.isBound =
      (walk b ((e.map (·.children)).getD [])).filter Visit.isBound := by
  cases e with
  | none => simp [walk_eq, Node.preorderAll]
  | some e =>
    rw [Option.toList_some, List.map_singleton, List.flatMap_singleton, preorder_emptyBranch]
    rfl

theorem isBound_walk_of_decided (h : n.decided? b = some ms) :
    (walk b [n]).filter Visit.isBound = (walk b ms).filter Visit.isBound := by
  rw [walk_singleton]
  cases n with
  | ifBlock n =>
    cases h
    rw [Visit.children, flatMap_preorder_nodes]
    rfl
  | forBlock n =>
    cases h
    rw [Visit.children, List.flatMap_append, flatMap_preorder_nodes, walk_append]
    cases b with
    | false => simp [Visit.isBound, walk_eq, Node.preorderAll]
    | true =>
      rw [if_pos rfl, if_pos rfl, List.filter_cons, List.filter_append, List.filter_append,
        isBound_walk_empty]
      rfl
  | switchBlock n =>
    cases h
    rw [Visit.children, List.filter_cons, isBound_walk_cases]
    rfl
  | _ => cases h

end Unwrap

section SameBut

variable {R : List Node → List Node → Prop} {v w : Visit}

def Element.SameBut (R : List Node → List Node → Prop) (e e' : Element) : Prop :=
  e = e' ∨ R e.children e'.children ∧ { e with children := e'.children } = e'

theorem Element.SameBut.exists_eq {e e' : Element} (h : e.SameBut R e') :
    ∃ ns, e' = { e with children := ns } := by
  rcases h with rfl | ⟨-, h⟩
  · exact ⟨e.children, by cases e; rfl⟩
  · exact ⟨e'.children, h.symm⟩

theorem Element.SameBut.record_eq {e e' : Element} (h : e.SameBut R e') : e.record = e'.record := by
  obtain ⟨ns, rfl⟩ := h.exists_eq
  rfl

theorem Element.SameBut.inputs_eq {e e' : Element} (h : e.SameBut R e') : e.inputs = e'.inputs := by
  obtain ⟨ns, rfl⟩ := h.exists_eq
  rfl

theorem Element.SameBut.outputs_eq {e e' : Element} (h : e.SameBut R e') :
    e.outputs = e'.outputs := by
  obtain ⟨ns, rfl⟩ := h.exists_eq
  rfl

namespace Visit.SameBut

theorem congr {β : Type} {f : Visit → β}
    (hn : ∀ (frame : Frame) ns ns', f (.node (frame.fill ns)) = f (.node (frame.fill ns')))
    (he : ∀ (e : EmptyBranch) ns ns',
      f (.emptyBranch { e with children := ns }) = f (.emptyBranch { e with children := ns' }))
    (hc : ∀ (c : SwitchCase) ns ns',
      f (.switchCase { c with children := ns }) = f (.switchCase { c with children := ns' }))
    (h : v.SameBut R w) : f v = f w := by
  cases h with
  | refl => rfl
  | node frame h => exact hn frame _ _
  | emptyBranch e h => exact he e _ _
  | switchCase c h => exact hc c _ _

theorem isBound_eq (h : v.SameBut R w) : v.isBound = w.isBound :=
  h.congr (fun frame _ _ => by cases frame <;> rfl) (fun _ _ _ => rfl) fun _ _ _ => rfl

theorem decides_eq (h : v.SameBut R w) : v.decides = w.decides :=
  h.congr (fun frame _ _ => by cases frame <;> rfl) (fun _ _ _ => rfl) fun _ _ _ => rfl

theorem boundText?_eq (h : v.SameBut R w) : v.boundText? = w.boundText? :=
  h.congr (fun frame _ _ => by cases frame <;> rfl) (fun _ _ _ => rfl) fun _ _ _ => rfl

theorem expressions_eq (h : v.SameBut R w) : v.expressions = w.expressions :=
  h.congr (fun frame _ _ => by cases frame <;> rfl) (fun _ _ _ => rfl) fun _ _ _ => rfl

theorem bindingTexts_eq (h : v.SameBut R w) : v.bindingTexts = w.bindingTexts :=
  h.congr (fun frame _ _ => by cases frame <;> rfl) (fun _ _ _ => rfl) fun _ _ _ => rfl

theorem controlFlow?_eq (h : v.SameBut R w) : v.controlFlow? = w.controlFlow? := by
  refine h.congr (fun frame _ _ => ?_) (fun _ _ _ => rfl) fun _ _ _ => rfl
  cases frame with
  | ifBranch n before branch after => cases before <;> rfl
  | _ => rfl

theorem element?_rel (h : v.SameBut R w) :
    List.Forall₂ (Element.SameBut R) v.element?.toList w.element?.toList := by
  cases h with
  | refl => exact List.forall₂_same.2 fun e _ => .inl rfl
  | node frame h =>
    cases frame with
    | element n => exact .cons (.inr ⟨h, rfl⟩) .nil
    | _ => exact .nil
  | emptyBranch | switchCase => exact .nil

end Visit.SameBut

theorem flatMap_filter_of_nil {α β : Type} {keep : α → Bool} {f : α → List β}
    (h : ∀ a, keep a = false → f a = []) (l : List α) :
    (l.filter keep).flatMap f = l.flatMap f := by
  induction l with
  | nil => rfl
  | cons a l ih =>
    cases hk : keep a with
    | true => rw [List.filter_cons_of_pos hk, List.flatMap_cons, List.flatMap_cons, ih]
    | false =>
      rw [List.filter_cons_of_neg (by simp [hk]), List.flatMap_cons, h a hk, List.nil_append, ih]

theorem flatMap_eq_of_forall₂ {α β : Type} {S : α → α → Prop} {f : α → List β} {l l' : List α}
    (hf : ∀ a a', S a a' → f a = f a') (h : List.Forall₂ S l l') : l.flatMap f = l'.flatMap f := by
  induction h with
  | nil => rfl
  | cons ha _ ih => rw [List.flatMap_cons, List.flatMap_cons, hf _ _ ha, ih]

namespace KeptBut

variable {β : Type} {keep : Visit → Bool} {vs ws : List Visit}

theorem flatMap_eq {f : Visit → List β} (h : KeptBut keep R vs ws)
    (hf : ∀ v w, v.SameBut R w → f v = f w) (hn : ∀ v, keep v = false → f v = []) :
    vs.flatMap f = ws.flatMap f := by
  rw [← flatMap_filter_of_nil hn, flatMap_eq_of_forall₂ hf h, flatMap_filter_of_nil hn]

theorem filterMap_eq {f : Visit → Option β} (h : KeptBut keep R vs ws)
    (hf : ∀ v w, v.SameBut R w → f v = f w) (hn : ∀ v, keep v = false → f v = none) :
    vs.filterMap f = ws.filterMap f := by
  rw [List.filterMap_eq_flatMap_toList, List.filterMap_eq_flatMap_toList]
  refine h.flatMap_eq (fun v w hvw => ?_) fun v hv => ?_
  · rw [hf v w hvw]
  · rw [hn v hv, Option.toList_none]

end KeptBut

end SameBut

inductive Answer.SameBut (R : List Node → List Node → Prop) : Answer → Answer → Prop
  | refl (a : Answer) : SameBut R a a
  | elements {found found' : List Element} (h : List.Forall₂ (Element.SameBut R) found found') :
    SameBut R (.elements (.ok found)) (.elements (.ok found'))

namespace Analysis

variable {R : List Node → List Node → Prop} {a a' : Analysis}

theorem elements_rel (h : KeptBut Visit.isBound R a.visits a'.visits) :
    List.Forall₂ (Element.SameBut R) a.elements a'.elements := by
  have hn : ∀ v : Visit, v.isBound = false → v.element?.toList = [] := fun v hv => by
    rw [(Visit.of_not_isBound hv).1, Option.toList_none]
  rw [elements, elements, List.filterMap_eq_flatMap_toList, List.filterMap_eq_flatMap_toList,
    ← flatMap_filter_of_nil hn, ← flatMap_filter_of_nil hn a'.visits]
  exact List.rel_flatMap h fun _ _ hv => hv.element?_rel

theorem answer_sameBut (hv : KeptBut Visit.isBound R a.visits a'.visits)
    (hd : a.diagnostics = a'.diagnostics) {q : Query} (hq : q ≠ .controlFlowExpressions) :
    (a.answer q).SameBut R (a'.answer q) := by
  have he := elements_rel hv
  have hi : a.elements.flatMap (·.inputs) = a'.elements.flatMap (·.inputs) :=
    flatMap_eq_of_forall₂ (fun _ _ h => h.inputs_eq) he
  have ho : a.elements.flatMap (·.outputs) = a'.elements.flatMap (·.outputs) :=
    flatMap_eq_of_forall₂ (fun _ _ h => h.outputs_eq) he
  have hx : ∀ {β : Type} (f : SourcedExpr → List β),
      (a.visits.flatMap fun v => v.expressions.flatMap f) =
        a'.visits.flatMap fun v => v.expressions.flatMap f := fun f =>
    hv.flatMap_eq (fun _ _ h => by rw [h.expressions_eq]) fun v hn => by
      rw [(Visit.of_not_isBound hn).2.2.1, List.flatMap_nil]
  have hp : a.problems = a'.problems := by rw [problems, problems, hd]
  cases q with
  | findElements selector =>
    rw [answer, answer, findElements, findElements]
    cases Selector.parse selector with
    | error e => exact .refl _
    | ok alternatives =>
      exact .elements (List.rel_filter (fun _ _ h => by simp only [h.record_eq]) he)
  | findPropertyBindings name =>
    rw [answer, answer, findPropertyBindings, findPropertyBindings, hi]
    exact .refl _
  | findEventBindings name =>
    rw [answer, answer, findEventBindings, findEventBindings, ho]
    exact .refl _
  | findInterpolations =>
    have ht : a.findInterpolations = a'.findInterpolations :=
      hv.filterMap_eq (fun _ _ h => h.boundText?_eq) fun v hn => (Visit.of_not_isBound hn).2.1
    rw [answer, answer, ht]
    exact .refl _
  | bindingDependencies =>
    have ht : a.visits.flatMap Visit.bindingTexts = a'.visits.flatMap Visit.bindingTexts :=
      hv.flatMap_eq (fun _ _ h => h.bindingTexts_eq) fun v hn => (Visit.of_not_isBound hn).2.2.2
    rw [answer, answer, bindingDependencies, bindingDependencies, ht]
    exact .refl _
  | referencedIdentifiers =>
    rw [answer, answer, referencedIdentifiers, referencedIdentifiers, hx]
    exact .refl _
  | propertyBindings =>
    rw [answer, answer, propertyBindings, propertyBindings, hi]
    exact .refl _
  | eventHandlers =>
    rw [answer, answer, eventHandlers, eventHandlers, ho]
    exact .refl _
  | controlFlowExpressions => exact absurd rfl hq
  | validateBindings =>
    rw [answer, answer, validateBindings, validateBindings, hx, hp]
    exact .refl _
  | problems =>
    rw [answer, answer, hp]
    exact .refl _

theorem controlFlowExpressions_eq (h : KeptBut Visit.decides R a.visits a'.visits) :
    a.controlFlowExpressions = a'.controlFlowExpressions :=
  h.filterMap_eq (fun _ _ h => h.controlFlow?_eq) fun _ hv => Visit.of_not_decides hv

theorem answer_of_replaces (config : Config) (diagnostics : List Diagnostic) (n : Node)
    (ms nodes : List Node) :
    (.node n ∈ walk true nodes → ∃ bare, Replaces n ms nodes bare) ∧
      ∀ bare, Replaces n ms nodes bare →
        let whole : Analysis := { nodes, diagnostics, config }
        let rest : Analysis := { nodes := bare, diagnostics, config }
        (n.held? = some ms → ∀ q, (whole.answer q).SameBut (Replaces n ms) (rest.answer q)) ∧
          (n.decided? config.includeEmptyBranches = some ms →
            ∀ q, q ≠ .controlFlowExpressions →
              (whole.answer q).SameBut (Replaces n ms) (rest.answer q)) := by
  refine ⟨exists_replaces, ?_⟩
  intro bare hb whole rest
  refine ⟨fun hh q => ?_, fun hd q hq => ?_⟩
  · by_cases hq : q = .controlFlowExpressions
    · have hv : KeptBut Visit.decides (Replaces n ms) whole.visits rest.visits :=
        keptBut_walk (fun _ _ h => h.decides_eq) (filter_walk_of_held hh (not_seen_of_held hh).2) hb
      rw [hq, answer, answer, controlFlowExpressions_eq hv]
      exact .refl _
    · have hv : KeptBut Visit.isBound (Replaces n ms) whole.visits rest.visits :=
        keptBut_walk (fun _ _ h => h.isBound_eq) (filter_walk_of_held hh (not_seen_of_held hh).1) hb
      exact answer_sameBut hv rfl hq
  · have hv : KeptBut Visit.isBound (Replaces n ms) whole.visits rest.visits :=
      keptBut_walk (fun _ _ h => h.isBound_eq) (isBound_walk_of_decided hd) hb
    exact answer_sameBut hv rfl hq

theorem answer_of_replaces_deferred :
    let shown : Node := .element { name := "b", inputs := [{ name := "x" }] }
    let loop : Node := .forBlock { expression := { expr := .identifier "rows" },
                                   children := [.boundText {}],
                                   empty := some { children := [shown] } }
    let defer : Node := .deferBlock { placeholder := some { children := [loop] } }
    let a (ns : List Node) : Analysis :=
      { nodes := [.element { name := "a", children := ns }], diagnostics := [], config := ⟨true⟩ }
    .node loop ∈ walk true (a [defer]).nodes ∧
      (Replaces defer [loop] (a [defer]).nodes (a [loop]).nodes ∧ defer.held? = some [loop] ∧
        ∀ q, ((a [defer]).answer q).SameBut (Replaces defer [loop]) ((a [loop]).answer q)) ∧
      Replaces loop [.boundText {}, shown] (a [loop]).nodes (a [.boundText {}, shown]).nodes ∧
        loop.decided? true = some [.boundText {}, shown] ∧
        ∀ q, q ≠ .controlFlowExpressions →
          ((a [loop]).answer q).SameBut (Replaces loop [.boundText {}, shown])
            ((a [.boundText {}, shown]).answer q) := by
  intro shown loop defer a
  have hw : .node loop ∈ walk true (a [defer]).nodes := by
    simp [a, defer, walk_eq, Node.preorderAll, Node.preorder, Element.preorderBelow,
      DeferBlock.preorderBelow, DeferPlaceholder.preorderBelow?, DeferPlaceholder.preorderBelow,
      loop]
  have hd : Replaces defer [loop] (a [defer]).nodes (a [loop]).nodes :=
    .inside [] [] (.element { name := "a" }) (.here [] [])
  have hl : Replaces loop [.boundText {}, shown] (a [loop]).nodes
      (a [.boundText {}, shown]).nodes :=
    .inside [] [] (.element { name := "a" }) (.here [] [])
  obtain ⟨-, hdefer⟩ := answer_of_replaces ⟨true⟩ [] defer [loop] (a [defer]).nodes
  obtain ⟨-, hloop⟩ :=
    answer_of_replaces ⟨true⟩ [] loop [.boundText {}, shown] (a [loop]).nodes
  exact ⟨hw, ⟨hd, rfl, (hdefer _ hd).1 rfl⟩, hl, rfl, (hloop _ hl).2 rfl⟩

end Analysis

end TemplateQuery
