import Mathlib.Data.List.Basic
import Mathlib.Tactic
import TemplateQuery.Node.Walk
import TemplateQuery.Proofs.Tour

namespace TemplateQuery

mutual

def Node.preorder (b : Bool) : Node → List Visit
  | .comment n => [.node (.comment n)]
  | .text n => [.node (.text n)]
  | .boundText n => [.node (.boundText n)]
  | .element n => .node (.element n) :: Element.preorderBelow b n
  | .embedded n => .node (.embedded n) :: Embedded.preorderBelow b n
  | .content n => .node (.content n) :: ContentSlot.preorderBelow b n
  | .ifBlock n => .node (.ifBlock n) :: IfBlock.preorderBelow b n
  | .forBlock n => .node (.forBlock n) :: ForBlock.preorderBelow b n
  | .switchBlock n => .node (.switchBlock n) :: SwitchBlock.preorderBelow b n
  | .deferBlock n => .node (.deferBlock n) :: DeferBlock.preorderBelow b n
  | .letDeclaration n => [.node (.letDeclaration n)]
  | .unknownBlock n => [.node (.unknownBlock n)]

def Node.preorderAll (b : Bool) : List Node → List Visit
  | [] => []
  | n :: rest => Node.preorder b n ++ Node.preorderAll b rest

def Element.preorderBelow (b : Bool) : Element → List Visit
  | ⟨_, _, _, _, children, _, _, _, _, _⟩ => Node.preorderAll b children

def Embedded.preorderBelow (b : Bool) : Embedded → List Visit
  | ⟨_, _, _, _, _, children, _, _, _, _, _, _⟩ => Node.preorderAll b children

def ContentSlot.preorderBelow (b : Bool) : ContentSlot → List Visit
  | ⟨_, _, children, _, _, _, _⟩ => Node.preorderAll b children

def IfBlock.preorderBelow (b : Bool) : IfBlock → List Visit
  | ⟨branches, _⟩ => IfBranch.preorderBelowAll b branches

def IfBranch.preorderBelow (b : Bool) : IfBranch → List Visit
  | ⟨_, children, _, _⟩ => Node.preorderAll b children

def IfBranch.preorderBelowAll (b : Bool) : List IfBranch → List Visit
  | [] => []
  | branch :: rest => IfBranch.preorderBelow b branch ++ IfBranch.preorderBelowAll b rest

def ForBlock.preorderBelow (b : Bool) : ForBlock → List Visit
  | ⟨_, _, _, _, children, empty, _, _⟩ =>
    Node.preorderAll b children ++ if b then EmptyBranch.preorder? b empty else []

def EmptyBranch.preorder (b : Bool) : EmptyBranch → List Visit
  | ⟨children, block⟩ => .emptyBranch ⟨children, block⟩ :: Node.preorderAll b children

def EmptyBranch.preorder? (b : Bool) : Option EmptyBranch → List Visit
  | none => []
  | some e => EmptyBranch.preorder b e

def SwitchBlock.preorderBelow (b : Bool) : SwitchBlock → List Visit
  | ⟨_, cases, _, _⟩ => SwitchCase.preorderAll b cases

def SwitchCase.preorder (b : Bool) : SwitchCase → List Visit
  | ⟨expression, children, block⟩ =>
    .switchCase ⟨expression, children, block⟩ :: Node.preorderAll b children

def SwitchCase.preorderAll (b : Bool) : List SwitchCase → List Visit
  | [] => []
  | c :: rest => SwitchCase.preorder b c ++ SwitchCase.preorderAll b rest

def DeferBlock.preorderBelow (b : Bool) : DeferBlock → List Visit
  | ⟨children, placeholder, loading, error, _, _⟩ =>
    Node.preorderAll b children ++ DeferPlaceholder.preorderBelow? b placeholder ++
      DeferLoading.preorderBelow? b loading ++ DeferError.preorderBelow? b error

def DeferPlaceholder.preorderBelow (b : Bool) : DeferPlaceholder → List Visit
  | ⟨children, _, _⟩ => Node.preorderAll b children

def DeferPlaceholder.preorderBelow? (b : Bool) : Option DeferPlaceholder → List Visit
  | none => []
  | some p => DeferPlaceholder.preorderBelow b p

def DeferLoading.preorderBelow (b : Bool) : DeferLoading → List Visit
  | ⟨children, _, _, _⟩ => Node.preorderAll b children

def DeferLoading.preorderBelow? (b : Bool) : Option DeferLoading → List Visit
  | none => []
  | some l => DeferLoading.preorderBelow b l

def DeferError.preorderBelow (b : Bool) : DeferError → List Visit
  | ⟨children, _⟩ => Node.preorderAll b children

def DeferError.preorderBelow? (b : Bool) : Option DeferError → List Visit
  | none => []
  | some e => DeferError.preorderBelow b e

end

def Visit.preorder (b : Bool) : Visit → List Visit
  | .node n => n.preorder b
  | .emptyBranch e => e.preorder b
  | .switchCase c => c.preorder b

variable {b : Bool}

theorem preorderAll_eq (ns : List Node) :
    Node.preorderAll b ns = (ns.map .node).flatMap (Visit.preorder b) := by
  induction ns with
  | nil => simp [Node.preorderAll]
  | cons n rest ih => simp [Node.preorderAll, Visit.preorder, ih]

theorem preorderAll_append (ns ms : List Node) :
    Node.preorderAll b (ns ++ ms) = Node.preorderAll b ns ++ Node.preorderAll b ms := by
  simp [preorderAll_eq]

theorem preorderBelowAll_eq (branches : List IfBranch) :
    IfBranch.preorderBelowAll b branches = Node.preorderAll b (branches.flatMap (·.children)) := by
  induction branches with
  | nil => simp [IfBranch.preorderBelowAll, Node.preorderAll]
  | cons branch rest ih =>
    obtain ⟨e, ns, a, s⟩ := branch
    simp [IfBranch.preorderBelowAll, IfBranch.preorderBelow, preorderAll_append, ih]

theorem casePreorderAll_eq (cs : List SwitchCase) :
    SwitchCase.preorderAll b cs = (cs.map .switchCase).flatMap (Visit.preorder b) := by
  induction cs with
  | nil => simp [SwitchCase.preorderAll]
  | cons c rest ih => simp [SwitchCase.preorderAll, Visit.preorder, ih]

theorem emptyPreorder_eq (e : Option EmptyBranch) :
    EmptyBranch.preorder? b e = (e.toList.map .emptyBranch).flatMap (Visit.preorder b) := by
  cases e <;> simp [EmptyBranch.preorder?, Visit.preorder]

theorem deferPreorder_eq (n : DeferBlock) :
    DeferBlock.preorderBelow b n =
      Node.preorderAll b (n.children ++ (n.placeholder.map (·.children)).getD [] ++
        (n.loading.map (·.children)).getD [] ++ (n.error.map (·.children)).getD []) := by
  obtain ⟨ns, p, l, e, s, m⟩ := n
  have hp : DeferPlaceholder.preorderBelow? b p =
      Node.preorderAll b ((p.map (·.children)).getD []) := by
    cases p with
    | none => rfl
    | some p =>
      cases p
      rfl
  have hl : DeferLoading.preorderBelow? b l =
      Node.preorderAll b ((l.map (·.children)).getD []) := by
    cases l with
    | none => rfl
    | some l =>
      cases l
      rfl
  have he : DeferError.preorderBelow? b e =
      Node.preorderAll b ((e.map (·.children)).getD []) := by
    cases e with
    | none => rfl
    | some e =>
      cases e
      rfl
  rw [DeferBlock.preorderBelow, hp, hl, he, preorderAll_append, preorderAll_append,
    preorderAll_append]

theorem preorder_eq (v : Visit) :
    v.preorder b = v :: (v.children b).flatMap (Visit.preorder b) := by
  cases v with
  | emptyBranch e =>
    obtain ⟨ns, s⟩ := e
    simp [Visit.preorder, EmptyBranch.preorder, Visit.children, preorderAll_eq]
  | switchCase c =>
    obtain ⟨e, ns, s⟩ := c
    simp [Visit.preorder, SwitchCase.preorder, Visit.children, preorderAll_eq]
  | node n =>
    cases n with
    | comment n => simp [Visit.preorder, Node.preorder, Visit.children]
    | text n => simp [Visit.preorder, Node.preorder, Visit.children]
    | boundText n => simp [Visit.preorder, Node.preorder, Visit.children]
    | letDeclaration n => simp [Visit.preorder, Node.preorder, Visit.children]
    | unknownBlock n => simp [Visit.preorder, Node.preorder, Visit.children]
    | element n =>
      cases n
      rw [Visit.preorder, Node.preorder, Element.preorderBelow, preorderAll_eq]
      rfl
    | embedded n =>
      cases n
      rw [Visit.preorder, Node.preorder, Embedded.preorderBelow, preorderAll_eq]
      rfl
    | content n =>
      cases n
      rw [Visit.preorder, Node.preorder, ContentSlot.preorderBelow, preorderAll_eq]
      rfl
    | ifBlock n =>
      cases n
      rw [Visit.preorder, Node.preorder, IfBlock.preorderBelow, preorderBelowAll_eq,
        preorderAll_eq]
      rfl
    | switchBlock n =>
      cases n
      rw [Visit.preorder, Node.preorder, SwitchBlock.preorderBelow, casePreorderAll_eq]
      rfl
    | deferBlock n =>
      rw [Visit.preorder, Node.preorder, deferPreorder_eq, preorderAll_eq]
      rfl
    | forBlock n =>
      cases n
      rw [Visit.preorder, Node.preorder, ForBlock.preorderBelow, preorderAll_eq,
        emptyPreorder_eq, Visit.children, List.flatMap_append]
      cases b <;> simp

theorem walkStack_eq (stack : Array Visit) :
    walkStack b stack = stack.toList.reverse.flatMap (Visit.preorder b) := by
  fun_induction walkStack b stack with
  | case1 stack h =>
    rw [Array.back?_eq_none_iff] at h
    simp [h]
  | case2 stack v h rest ih =>
    have hs : stack = rest.push v := by
      obtain ⟨ys, rfl⟩ := Array.back?_eq_some_iff.1 h
      simp [rest]
    rw [ih, toList_reverseFrom_pushChildren, hs, Array.toList_push, List.reverse_append,
      List.reverse_reverse, List.reverse_append, List.reverse_singleton, List.flatMap_append,
      List.flatMap_append, List.flatMap_singleton, preorder_eq v, List.cons_append]

theorem walk_eq (forest : List Node) : walk b forest = Node.preorderAll b forest := by
  rw [walk, walkStack_eq, preorderAll_eq, List.map_reverse, List.reverse_reverse]

theorem walk_append (ns ms : List Node) : walk b (ns ++ ms) = walk b ns ++ walk b ms := by
  rw [walk_eq, walk_eq, walk_eq, preorderAll_append]

theorem flatMap_preorder_nodes (ns : List Node) :
    (ns.map .node).flatMap (Visit.preorder b) = walk b ns := by
  rw [walk_eq, preorderAll_eq]

def Visit.at? (b : Bool) (v : Visit) : List Nat → Option Visit
  | [] => some v
  | i :: place => (v.children b)[i]?.bind (Visit.at? b · place)

def visitAt? (b : Bool) (vs : List Visit) : List Nat → Option Visit
  | [] => none
  | i :: place => vs[i]?.bind (·.at? b place)

theorem Visit.at?_eq (v : Visit) : v.at? b = nodeAt? (Visit.children b) v := by
  funext place
  induction place generalizing v with
  | nil => rfl
  | cons i place ih => simp only [Visit.at?, nodeAt?, ih]

theorem visitAt?_eq (vs : List Visit) : visitAt? b vs = forestAt? (Visit.children b) vs := by
  funext place
  cases place with
  | nil => rfl
  | cons i place => simp only [visitAt?, forestAt?, Visit.at?_eq]

theorem exists_isTour_walk (forest : List Node) :
    ∃ places, IsTour (visitAt? b (forest.map .node)) places (walk b forest) := by
  rw [walk_eq, preorderAll_eq, visitAt?_eq]
  exact exists_isTour_forest preorder_eq _

theorem walk_eq_preorder (b : Bool) (forest : List Node) :
    walk b forest = Node.preorderAll b forest ∧
      (∃ places, IsTour (visitAt? b (forest.map .node)) places (walk b forest)) ∧
      ∀ more, walk b (forest ++ more) = walk b forest ++ walk b more := by
  refine ⟨walk_eq forest, exists_isTour_walk forest, ?_⟩
  intro more
  rw [walk_eq, walk_eq, walk_eq, preorderAll_append]

end TemplateQuery
