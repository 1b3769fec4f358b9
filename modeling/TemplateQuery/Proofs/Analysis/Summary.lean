import Mathlib.Tactic
import TemplateQuery.Analysis.Basic
import TemplateQuery.OrderedSet
import TemplateQuery.Proofs.Node.Preorder

namespace TemplateQuery

def Visit.met {α : Type} (ofInput : InputBinding → List α) (ofOutput : OutputBinding → List α)
    (ofText : BoundText → List α) : Visit → List α
  | .node (.element e) => e.inputs.flatMap ofInput ++ e.outputs.flatMap ofOutput
  | .node (.boundText t) => ofText t
  | _ => []

namespace Analysis

def namesMet (a : Analysis) : List String :=
  a.visits.flatMap (Visit.met (·.value.expr.dependencies.toList)
    (·.handler.expr.dependencies.toList) (·.value.expr.dependencies.toList))

def textsMet (a : Analysis) : List String :=
  a.visits.flatMap (Visit.met ([·.name]) ([·.handler.text]) ([·.value.text]))

theorem referencedIdentifiers_eq (a : Analysis) : a.referencedIdentifiers = .ofList a.namesMet := by
  rw [referencedIdentifiers, namesMet]
  congr 2
  funext v
  unfold Visit.expressions Visit.met
  split <;> simp [List.flatMap_map]

theorem bindingDependencies_eq (a : Analysis) : a.bindingDependencies = .ofList a.textsMet := by
  rw [bindingDependencies, textsMet]
  congr 2
  funext v
  unfold Visit.bindingTexts Visit.met
  split <;> simp [List.map_eq_flatMap]

theorem visits_append (a : Analysis) (more : List Node) :
    ({ a with nodes := a.nodes ++ more } : Analysis).visits =
      a.visits ++ ({ a with nodes := more } : Analysis).visits :=
  walk_append a.nodes more

section Met

variable {α : Type} {x : α} {ofInput : InputBinding → List α}
variable {ofOutput : OutputBinding → List α} {ofText : BoundText → List α}

theorem mem_met {v : Visit} :
    x ∈ v.met ofInput ofOutput ofText ↔
      (∃ e, v.element? = some e ∧ ∃ b ∈ e.inputs, x ∈ ofInput b) ∨
        (∃ e, v.element? = some e ∧ ∃ b ∈ e.outputs, x ∈ ofOutput b) ∨
          ∃ t, v.boundText? = some t ∧ x ∈ ofText t := by
  unfold Visit.met
  split <;> simp_all [Visit.element?, Visit.boundText?]

theorem mem_elements {a : Analysis} {e : Element} :
    e ∈ a.elements ↔ ∃ v ∈ a.visits, v.element? = some e :=
  List.mem_filterMap

theorem mem_findInterpolations {a : Analysis} {t : BoundText} :
    t ∈ a.findInterpolations ↔ ∃ v ∈ a.visits, v.boundText? = some t :=
  List.mem_filterMap

theorem mem_flatMap_met (a : Analysis) :
    x ∈ a.visits.flatMap (Visit.met ofInput ofOutput ofText) ↔
      (∃ e ∈ a.elements, ∃ b ∈ e.inputs, x ∈ ofInput b) ∨
        (∃ e ∈ a.elements, ∃ b ∈ e.outputs, x ∈ ofOutput b) ∨
          ∃ t ∈ a.findInterpolations, x ∈ ofText t := by
  rw [List.mem_flatMap]
  constructor
  · rintro ⟨v, hv, hx⟩
    rcases mem_met.1 hx with ⟨e, he, h⟩ | ⟨e, he, h⟩ | ⟨t, ht, h⟩
    · exact .inl ⟨e, mem_elements.2 ⟨v, hv, he⟩, h⟩
    · exact .inr (.inl ⟨e, mem_elements.2 ⟨v, hv, he⟩, h⟩)
    · exact .inr (.inr ⟨t, mem_findInterpolations.2 ⟨v, hv, ht⟩, h⟩)
  · rintro (⟨e, he, h⟩ | ⟨e, he, h⟩ | ⟨t, ht, h⟩)
    · obtain ⟨v, hv, hve⟩ := mem_elements.1 he
      exact ⟨v, hv, mem_met.2 (.inl ⟨e, hve, h⟩)⟩
    · obtain ⟨v, hv, hve⟩ := mem_elements.1 he
      exact ⟨v, hv, mem_met.2 (.inr (.inl ⟨e, hve, h⟩))⟩
    · obtain ⟨v, hv, hvt⟩ := mem_findInterpolations.1 ht
      exact ⟨v, hv, mem_met.2 (.inr (.inr ⟨t, hvt, h⟩))⟩

end Met

theorem exists_mem_map_flatMap {α β γ : Type} {l : List α} {f : α → List β} {g : β → γ}
    {p : γ → Prop} : (∃ y ∈ (l.flatMap f).map g, p y) ↔ ∃ a ∈ l, ∃ b ∈ f a, p (g b) := by
  simp only [List.mem_map, List.mem_flatMap]
  constructor
  · rintro ⟨_, ⟨b, ⟨a, ha, hb⟩, rfl⟩, h⟩
    exact ⟨a, ha, b, hb, h⟩
  · rintro ⟨a, ha, b, hb, h⟩
    exact ⟨_, ⟨b, ⟨a, ha, hb⟩, rfl⟩, h⟩

theorem mem_referencedIdentifiers (a : Analysis) {name : String} :
    name ∈ a.referencedIdentifiers.toList ↔
      (∃ b ∈ a.propertyBindings, name ∈ b.referencedProperties.toList) ∨
        (∃ e ∈ a.elements, ∃ b ∈ e.outputs, name ∈ b.handler.expr.dependencies.toList) ∨
          ∃ t ∈ a.findInterpolations, name ∈ t.value.expr.dependencies.toList := by
  rw [referencedIdentifiers_eq, OrderedSet.toList_ofList, mem_firstSeen, namesMet,
    mem_flatMap_met, propertyBindings, exists_mem_map_flatMap]
  rfl

theorem mem_bindingDependencies (a : Analysis) {text : String} :
    text ∈ a.bindingDependencies.toList ↔
      text ∈ a.propertyBindings.map (·.name) ∨ text ∈ a.eventHandlers.map (·.fullText) ∨
        text ∈ a.findInterpolations.map (·.value.text) := by
  rw [bindingDependencies_eq, OrderedSet.toList_ofList, mem_firstSeen, textsMet,
    mem_flatMap_met, List.mem_map, List.mem_map, List.mem_map, propertyBindings, eventHandlers,
    exists_mem_map_flatMap, exists_mem_map_flatMap]
  simp only [List.mem_singleton, eq_comm (a := text), PropertyBinding.ofInput,
    EventHandler.ofOutput]

theorem summaries_agree (a : Analysis) :
    (IsSummary a.namesMet a.referencedIdentifiers.toList ∧
      ∀ name, name ∈ a.referencedIdentifiers.toList ↔
        (∃ b ∈ a.propertyBindings, name ∈ b.referencedProperties.toList) ∨
          (∃ e ∈ a.elements, ∃ b ∈ e.outputs, name ∈ b.handler.expr.dependencies.toList) ∨
            ∃ t ∈ a.findInterpolations, name ∈ t.value.expr.dependencies.toList) ∧
    (IsSummary a.textsMet a.bindingDependencies.toList ∧
      ∀ text, text ∈ a.bindingDependencies.toList ↔
        text ∈ a.propertyBindings.map (·.name) ∨ text ∈ a.eventHandlers.map (·.fullText) ∨
          text ∈ a.findInterpolations.map (·.value.text)) ∧
    ∀ more : List Node,
      let whole : Analysis := { a with nodes := a.nodes ++ more }
      let rest : Analysis := { a with nodes := more }
      whole.referencedIdentifiers.toList =
          a.referencedIdentifiers.toList ++
            rest.referencedIdentifiers.toList.filter (· ∉ a.referencedIdentifiers.toList) ∧
        whole.bindingDependencies.toList =
          a.bindingDependencies.toList ++
            rest.bindingDependencies.toList.filter (· ∉ a.bindingDependencies.toList) := by
  refine ⟨⟨?_, fun _ => mem_referencedIdentifiers a⟩,
    ⟨?_, fun _ => mem_bindingDependencies a⟩, ?_⟩
  · rw [referencedIdentifiers_eq]
    exact isSummary_ofList _
  · rw [bindingDependencies_eq]
    exact isSummary_ofList _
  · intro more whole rest
    have hv : whole.visits = a.visits ++ rest.visits := visits_append a more
    constructor
    · rw [referencedIdentifiers, hv, List.flatMap_append, toList_ofList_append]
      rfl
    · rw [bindingDependencies, hv, List.flatMap_append, toList_ofList_append]
      rfl

end Analysis

end TemplateQuery
