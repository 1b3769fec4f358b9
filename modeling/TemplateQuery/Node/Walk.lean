import TemplateQuery.Node.Basic

namespace TemplateQuery

inductive Visit where
  | node (n : Node)
  | emptyBranch (b : EmptyBranch)
  | switchCase (c : SwitchCase)

namespace Visit

def kind : Visit → String
  | .node (.comment _) => "Comment"
  | .node (.text _) => "Text"
  | .node (.boundText _) => "BoundText"
  | .node (.element _) => "Element"
  | .node (.embedded _) => "Template"
  | .node (.content _) => "Content"
  | .node (.ifBlock _) => "IfBlock"
  | .node (.forBlock _) => "ForLoopBlock"
  | .emptyBranch _ => "ForLoopBlockEmpty"
  | .node (.switchBlock _) => "SwitchBlock"
  | .switchCase _ => "SwitchBlockCase"
  | .node (.deferBlock _) => "DeferredBlock"
  | .node (.letDeclaration _) => "LetDeclaration"
  | .node (.unknownBlock _) => "UnknownBlock"

def sourceSpan : Visit → Span
  | .node (.comment n) => n.sourceSpan
  | .node (.text n) => n.sourceSpan
  | .node (.boundText n) => n.sourceSpan
  | .node (.element n) => n.sourceSpan
  | .node (.embedded n) => n.sourceSpan
  | .node (.content n) => n.sourceSpan
  | .node (.ifBlock n) => n.block.sourceSpan
  | .node (.forBlock n) => n.block.sourceSpan
  | .emptyBranch b => b.block.sourceSpan
  | .node (.switchBlock n) => n.block.sourceSpan
  | .switchCase c => c.block.sourceSpan
  | .node (.deferBlock n) => n.block.sourceSpan
  | .node (.letDeclaration n) => n.sourceSpan
  | .node (.unknownBlock n) => n.sourceSpan

def element? : Visit → Option Element
  | .node (.element e) => some e
  | _ => none

def boundText? : Visit → Option BoundText
  | .node (.boundText t) => some t
  | _ => none

def children (enterEmpty : Bool) : Visit → List Visit
  | .node (.comment _) => []
  | .node (.text _) => []
  | .node (.boundText _) => []
  | .node (.element n) => n.children.map .node
  | .node (.embedded n) => n.children.map .node
  | .node (.content n) => n.children.map .node
  | .node (.ifBlock n) => (n.branches.flatMap (·.children)).map .node
  | .node (.forBlock n) =>
    n.children.map .node ++ if enterEmpty then n.empty.toList.map .emptyBranch else []
  | .emptyBranch b => b.children.map .node
  | .node (.switchBlock n) => n.cases.map .switchCase
  | .switchCase c => c.children.map .node
  | .node (.deferBlock n) =>
    (n.children ++ (n.placeholder.map (·.children)).getD [] ++ (n.loading.map (·.children)).getD []
      ++ (n.error.map (·.children)).getD []).map .node
  | .node (.letDeclaration _) => []
  | .node (.unknownBlock _) => []

noncomputable def weight : Visit → Nat
  | .node n => sizeOf n
  | .emptyBranch b => sizeOf b
  | .switchCase c => sizeOf c

end Visit

noncomputable def weight : List Visit → Nat
  | [] => 0
  | v :: rest => v.weight + weight rest

theorem weight_cons (v : Visit) (vs : List Visit) : weight (v :: vs) = v.weight + weight vs :=
  rfl

theorem weight_append (vs ws : List Visit) : weight (vs ++ ws) = weight vs + weight ws := by
  induction vs with
  | nil => simp [weight]
  | cons v rest ih => simp [weight, ih, Nat.add_assoc]

theorem weight_reverse (vs : List Visit) : weight vs.reverse = weight vs := by
  induction vs with
  | nil => rfl
  | cons v rest ih =>
    rw [List.reverse_cons, weight_append, ih, weight_cons, weight_cons, weight]
    omega

theorem weight_le_of_mem {v : Visit} {vs : List Visit} (h : v ∈ vs) : v.weight ≤ weight vs := by
  induction vs with
  | nil => simp at h
  | cons w rest ih =>
    rw [weight_cons]
    rcases List.mem_cons.1 h with rfl | h
    · omega
    · have := ih h
      omega

theorem weight_nodes_lt (ns : List Node) : weight (ns.map .node) < sizeOf ns := by
  induction ns with
  | nil => simp [weight]
  | cons n rest ih =>
    simp only [List.map_cons, weight_cons, Visit.weight, List.cons.sizeOf_spec]
    omega

theorem weight_cases_lt (cs : List SwitchCase) : weight (cs.map .switchCase) < sizeOf cs := by
  induction cs with
  | nil => simp [weight]
  | cons c rest ih =>
    simp only [List.map_cons, weight_cons, Visit.weight, List.cons.sizeOf_spec]
    omega

theorem weight_branches_lt (bs : List IfBranch) :
    weight ((bs.flatMap (·.children)).map .node) < sizeOf bs := by
  induction bs with
  | nil => simp [weight]
  | cons b rest ih =>
    obtain ⟨e, ns, a, s⟩ := b
    have := weight_nodes_lt ns
    simp only [List.flatMap_cons, List.map_append, weight_append, List.cons.sizeOf_spec,
      IfBranch.mk.sizeOf_spec]
    omega

theorem weight_children_lt (enterEmpty : Bool) (v : Visit) :
    weight (v.children enterEmpty) < v.weight := by
  cases v with
  | node n =>
    cases n with
    | comment n =>
      simp only [Visit.children, Visit.weight, weight, Node.comment.sizeOf_spec]
      omega
    | text n =>
      simp only [Visit.children, Visit.weight, weight, Node.text.sizeOf_spec]
      omega
    | boundText n =>
      simp only [Visit.children, Visit.weight, weight, Node.boundText.sizeOf_spec]
      omega
    | letDeclaration n =>
      simp only [Visit.children, Visit.weight, weight, Node.letDeclaration.sizeOf_spec]
      omega
    | unknownBlock n =>
      simp only [Visit.children, Visit.weight, weight, Node.unknownBlock.sizeOf_spec]
      omega
    | element n =>
      have := weight_nodes_lt n.children
      cases n
      simp only [Visit.children, Visit.weight, Node.element.sizeOf_spec,
        Element.mk.sizeOf_spec] at *
      omega
    | embedded n =>
      have := weight_nodes_lt n.children
      cases n
      simp only [Visit.children, Visit.weight, Node.embedded.sizeOf_spec,
        Embedded.mk.sizeOf_spec] at *
      omega
    | content n =>
      have := weight_nodes_lt n.children
      cases n
      simp only [Visit.children, Visit.weight, Node.content.sizeOf_spec,
        ContentSlot.mk.sizeOf_spec] at *
      omega
    | ifBlock n =>
      have := weight_branches_lt n.branches
      cases n
      simp only [Visit.children, Visit.weight, Node.ifBlock.sizeOf_spec,
        IfBlock.mk.sizeOf_spec] at *
      omega
    | switchBlock n =>
      have := weight_cases_lt n.cases
      cases n
      simp only [Visit.children, Visit.weight, Node.switchBlock.sizeOf_spec,
        SwitchBlock.mk.sizeOf_spec] at *
      omega
    | forBlock n =>
      have := weight_nodes_lt n.children
      obtain ⟨i, e, t, vs, ns, empty, b, m⟩ := n
      simp only [Visit.children, Visit.weight, weight_append, Node.forBlock.sizeOf_spec,
        ForBlock.mk.sizeOf_spec] at *
      cases enterEmpty <;> cases empty <;>
        simp [weight, Visit.weight] at * <;> omega
    | deferBlock n =>
      obtain ⟨ns, p, l, e, b, m⟩ := n
      have hn := weight_nodes_lt ns
      have hp : weight (((p.map (·.children)).getD []).map .node) ≤ sizeOf p := by
        cases p with
        | none => simp [weight]
        | some p =>
          have := weight_nodes_lt p.children
          cases p
          simp only [Option.map_some, Option.getD_some, Option.some.sizeOf_spec,
            DeferPlaceholder.mk.sizeOf_spec] at *
          omega
      have hl : weight (((l.map (·.children)).getD []).map .node) ≤ sizeOf l := by
        cases l with
        | none => simp [weight]
        | some l =>
          have := weight_nodes_lt l.children
          cases l
          simp only [Option.map_some, Option.getD_some, Option.some.sizeOf_spec,
            DeferLoading.mk.sizeOf_spec] at *
          omega
      have he : weight (((e.map (·.children)).getD []).map .node) ≤ sizeOf e := by
        cases e with
        | none => simp [weight]
        | some e =>
          have := weight_nodes_lt e.children
          cases e
          simp only [Option.map_some, Option.getD_some, Option.some.sizeOf_spec,
            DeferError.mk.sizeOf_spec] at *
          omega
      simp only [Visit.children, Visit.weight, List.map_append, weight_append,
        Node.deferBlock.sizeOf_spec, DeferBlock.mk.sizeOf_spec]
      omega
  | emptyBranch b =>
    have := weight_nodes_lt b.children
    cases b
    simp only [Visit.children, Visit.weight, EmptyBranch.mk.sizeOf_spec] at *
    omega
  | switchCase c =>
    have := weight_nodes_lt c.children
    cases c
    simp only [Visit.children, Visit.weight, SwitchCase.mk.sizeOf_spec] at *
    omega

def pushChildren (enterEmpty : Bool) (v : Visit) (stack : Array Visit) : Array Visit :=
  stack ++ v.children enterEmpty

def reverseFrom (n : Nat) (stack : Array Visit) : Array Visit :=
  let pushed := stack.extract n stack.size
  stack.shrink n ++ pushed.reverse

theorem toList_reverseFrom_pushChildren (enterEmpty : Bool) (v : Visit) (stack : Array Visit) :
    (reverseFrom stack.size (pushChildren enterEmpty v stack)).toList =
      stack.toList ++ (v.children enterEmpty).reverse := by
  obtain ⟨vs⟩ := stack
  simp [reverseFrom, pushChildren]

def walkStack (enterEmpty : Bool) (stack : Array Visit) : List Visit :=
  match _h : stack.back? with
  | none => []
  | some v =>
    let rest := stack.pop
    v :: walkStack enterEmpty (reverseFrom rest.size (pushChildren enterEmpty v rest))
termination_by weight stack.toList
decreasing_by
  obtain ⟨rest, rfl⟩ := Array.back?_eq_some_iff.1 _h
  have := weight_children_lt enterEmpty v
  rw [Array.pop_push, toList_reverseFrom_pushChildren, Array.toList_push, weight_append,
    weight_append, weight_reverse, weight_cons]
  omega

def walk (enterEmpty : Bool) (forest : List Node) : List Visit :=
  walkStack enterEmpty (forest.reverse.map .node).toArray

end TemplateQuery
