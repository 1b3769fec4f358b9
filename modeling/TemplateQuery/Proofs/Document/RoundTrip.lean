import Mathlib.Tactic
import TemplateQuery.Document.Reader
import TemplateQuery.Proofs.Analysis.RoundTrip
import TemplateQuery.Proofs.Node.RoundTrip

namespace TemplateQuery

open Json Schema

namespace ParsedTemplate

variable {t : ParsedTemplate}

def IsFinite (t : ParsedTemplate) : Prop :=
  ∀ v ∈ walk true t.nodes, ∀ e ∈ v.sources, e.IsFinite

instance : DecidablePred IsFinite := fun t =>
  inferInstanceAs (Decidable (∀ v ∈ walk true t.nodes, ∀ e ∈ v.sources, e.IsFinite))

theorem IsFinite.of_mem_nodes (h : t.IsFinite) {n : Node} (hn : n ∈ t.nodes) :
    (Visit.node n).IsFinite := by
  intro w hw
  refine h w ?_
  rw [walk_eq, preorderAll_eq]
  exact List.mem_flatMap.2 ⟨.node n, List.mem_map_of_mem hn, hw⟩

theorem settled (h : t.IsFinite) : Settled (.record .document) t.toJson :=
  .record <|
    .cons (.value (Node.settled_allToJson fun _ hn => Visit.settled (h.of_mem_nodes hn))) <|
    .cons (.value (.list fun d _ => d.settled)) .nil

theorem ofJson?_toJson (h : t.IsFinite) : ofJson? t.toJson = some t := by
  have hn : decodeAll Node.ofJson? (Node.allToJson t.nodes) = some t.nodes := by
    refine Node.decodeAll_allToJson ?_
    intro n hn
    exact Visit.reads (h.of_mem_nodes hn) le_rfl
  have hd : list? Diagnostic.ofJson? (list Diagnostic.toJson t.diagnostics) =
      some t.diagnostics := list?_list fun d _ => d.ofJson?_toJson
  simp [ofJson?, toJson, hn, hd]

theorem ofValue?_toJson (h : t.IsFinite) : ofValue? t.toJson = some t := by
  rw [ofValue?, ofValue?_of_settled (settled h), ofJson?_toJson h]

end ParsedTemplate

theorem read_written :
    (∀ t : ParsedTemplate, t.IsFinite → ParsedTemplate.ofValue? t.toJson = some t) ∧
      (∀ s : Selector, Selector.ofJson? s.toJson = some s) ∧
      (∀ r : ElementRecord, ElementRecord.ofJson? r.toJson = some r) ∧
      (∀ b : PropertyBinding, PropertyBinding.ofJson? b.toJson = some b) ∧
      (∀ h : EventHandler, EventHandler.ofJson? h.toJson = some h) ∧
      (∀ e : ControlFlowExpression, ControlFlowExpression.ofJson? e.toJson = some e) ∧
      (∀ p : Problem, Problem.ofJson? p.toJson = some p) ∧
      ∀ c : Config, Config.ofJson? c.toJson = some c :=
  ⟨fun _ h => ParsedTemplate.ofValue?_toJson h, Selector.ofJson?_toJson,
    ElementRecord.ofJson?_toJson, PropertyBinding.ofJson?_toJson, EventHandler.ofJson?_toJson,
    ControlFlowExpression.ofJson?_toJson, Problem.ofJson?_toJson, Config.ofJson?_toJson⟩

def ParsedTemplate.sample : ParsedTemplate where
  nodes := [
    .embedded {
      templateAttributes := [.bound { value := { expr := .literalPrimitive {} (.number 0.5) } }],
      children := [.forBlock {
        trackBy := some { expr := .unary {} "-" (.literalPrimitive {} (.number 2)) },
        empty := some { children := [.boundText {
          value := { expr := .literalArray {} [.literalPrimitive {} (.number 1e300)] } }] } }] }]
  diagnostics := [{ span := { details := some "" }, message := "m", level := .warning }]

theorem read_written_sample :
    ParsedTemplate.sample.IsFinite ∧
      ParsedTemplate.ofValue? ParsedTemplate.sample.toJson = some ParsedTemplate.sample := by
  have h : ParsedTemplate.sample.IsFinite := by
    rw [ParsedTemplate.IsFinite, walk_eq]
    decide +kernel
  exact ⟨h, read_written.1 _ h⟩

end TemplateQuery
