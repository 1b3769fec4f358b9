import Mathlib.Tactic
import TemplateQuery.Analysis.Basic
import TemplateQuery.Proofs.Node.EmptyBranch

namespace TemplateQuery

inductive Answer.Within : Answer → Answer → Prop
  | failed (e : SelectorError) : Within (.elements (.error e)) (.elements (.error e))
  | elements {less more : List Element} (h : less.Sublist more) :
    Within (.elements (.ok less)) (.elements (.ok more))
  | inputs {less more : List InputBinding} (h : less.Sublist more) :
    Within (.inputs less) (.inputs more)
  | outputs {less more : List OutputBinding} (h : less.Sublist more) :
    Within (.outputs less) (.outputs more)
  | texts {less more : List BoundText} (h : less.Sublist more) :
    Within (.texts less) (.texts more)
  | names {less more : OrderedSet String} (h : less.toList ⊆ more.toList) :
    Within (.names less) (.names more)
  | properties {less more : List PropertyBinding} (h : less.Sublist more) :
    Within (.properties less) (.properties more)
  | handlers {less more : List EventHandler} (h : less.Sublist more) :
    Within (.handlers less) (.handlers more)
  | controlFlow {less more : List ControlFlowExpression} (h : less.Sublist more) :
    Within (.controlFlow less) (.controlFlow more)
  | problems {less more : List Problem} (h : less.Sublist more) :
    Within (.problems less) (.problems more)

theorem toList_ofList_subset {α : Type} [DecidableEq α] {l m : List α} (h : l.Sublist m) :
    (OrderedSet.ofList l).toList ⊆ (OrderedSet.ofList m).toList := by
  intro x hx
  exact mem_firstSeen.2 (h.subset (mem_firstSeen.1 hx))

namespace Analysis

variable {less more : Analysis}

theorem answer_within (hv : less.visits.Sublist more.visits)
    (hd : less.diagnostics = more.diagnostics) (q : Query) :
    (less.answer q).Within (more.answer q) := by
  have he : less.elements.Sublist more.elements := hv.filterMap _
  have hi := he.flatMap (·.inputs)
  have ho := he.flatMap (·.outputs)
  cases q with
  | findElements selector =>
    cases hp : Selector.parse selector with
    | error e =>
      simp only [answer, findElements, hp]
      exact .failed e
    | ok alternatives =>
      simp only [answer, findElements, hp]
      exact .elements (he.filter _)
  | findPropertyBindings name => exact .inputs (hi.filter _)
  | findEventBindings name => exact .outputs (ho.filter _)
  | findInterpolations => exact .texts (hv.filterMap _)
  | bindingDependencies => exact .names (toList_ofList_subset (hv.flatMap _))
  | referencedIdentifiers => exact .names (toList_ofList_subset (hv.flatMap _))
  | propertyBindings => exact .properties (hi.map _)
  | eventHandlers => exact .handlers (ho.map _)
  | controlFlowExpressions => exact .controlFlow (hv.filterMap _)
  | validateBindings =>
    refine .problems ?_
    rw [validateBindings, validateBindings, problems, problems, hd]
    exact (hv.flatMap _).append_left _
  | problems =>
    refine .problems ?_
    rw [problems, problems, hd]

theorem answer_congr (hv : less.visits = more.visits) (hd : less.diagnostics = more.diagnostics)
    (q : Query) : less.answer q = more.answer q := by
  cases q <;>
    simp only [answer, findElements, findPropertyBindings, findEventBindings, findInterpolations,
      bindingDependencies, referencedIdentifiers, propertyBindings, eventHandlers,
      controlFlowExpressions, validateBindings, problems, elements, hv, hd]

theorem emptyBranches_only_add (nodes : List Node) (diagnostics : List Diagnostic) :
    let less : Analysis := { nodes, diagnostics, config := ⟨false⟩ }
    let more : Analysis := { nodes, diagnostics, config := ⟨true⟩ }
    (∃ places, IsTour (visitAt? true (nodes.map .node)) places more.visits ∧
      less.visits.map some =
        (places.filter fun place => !inEmptyBranch (nodes.map .node) place).map
          (visitAt? true (nodes.map .node))) ∧
    (∀ q, (less.answer q).Within (more.answer q)) ∧
    ((∀ n, .node (.forBlock n) ∈ less.visits → n.empty = none) →
      ∀ q, less.answer q = more.answer q) := by
  refine ⟨exists_isTour_walk_false nodes, ?_, ?_⟩
  · exact answer_within (walk_false_sublist nodes) rfl
  · intro h
    exact answer_congr (walk_true_of_empty h).symm rfl

theorem emptyBranches_only_add_loop :
    let nodes : List Node := [.forBlock { children := [.text { value := "row" }] }]
    let less : Analysis := { nodes, diagnostics := [], config := ⟨false⟩ }
    let more : Analysis := { nodes, diagnostics := [], config := ⟨true⟩ }
    (∀ n, .node (.forBlock n) ∈ less.visits → n.empty = none) ∧
      ∀ q, less.answer q = more.answer q := by
  intro nodes less more
  have h : ∀ n, .node (.forBlock n) ∈ less.visits → n.empty = none := by
    intro n hn
    obtain rfl : n = { children := [.text { value := "row" }] } := by
      simpa [visits, less, nodes, walk_eq, Node.preorderAll, Node.preorder,
        ForBlock.preorderBelow] using hn
    rfl
  exact ⟨h, (emptyBranches_only_add nodes []).2.2 h⟩

end Analysis

end TemplateQuery
