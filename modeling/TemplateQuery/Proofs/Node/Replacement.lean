import Mathlib.Data.List.Forall2
import Mathlib.Tactic
import TemplateQuery.Proofs.Node.Preorder

namespace TemplateQuery

inductive Frame where
  | element (n : Element)
  | embedded (n : Embedded)
  | content (n : ContentSlot)
  | ifBranch (n : IfBlock) (before : List IfBranch) (branch : IfBranch) (after : List IfBranch)
  | forBody (n : ForBlock)
  | forEmpty (n : ForBlock) (branch : EmptyBranch)
  | switchCase (n : SwitchBlock) (before : List SwitchCase) (c : SwitchCase)
    (after : List SwitchCase)
  | deferBody (n : DeferBlock)
  | deferPlaceholder (n : DeferBlock) (part : DeferPlaceholder)
  | deferLoading (n : DeferBlock) (part : DeferLoading)
  | deferError (n : DeferBlock) (part : DeferError)

def Frame.fill : Frame → List Node → Node
  | .element n, ns => .element { n with children := ns }
  | .embedded n, ns => .embedded { n with children := ns }
  | .content n, ns => .content { n with children := ns }
  | .ifBranch n before branch after, ns =>
    .ifBlock { n with branches := before ++ { branch with children := ns } :: after }
  | .forBody n, ns => .forBlock { n with children := ns }
  | .forEmpty n branch, ns => .forBlock { n with empty := some { branch with children := ns } }
  | .switchCase n before c after, ns =>
    .switchBlock { n with cases := before ++ { c with children := ns } :: after }
  | .deferBody n, ns => .deferBlock { n with children := ns }
  | .deferPlaceholder n part, ns =>
    .deferBlock { n with placeholder := some { part with children := ns } }
  | .deferLoading n part, ns => .deferBlock { n with loading := some { part with children := ns } }
  | .deferError n part, ns => .deferBlock { n with error := some { part with children := ns } }

inductive Replaces (n : Node) (ms : List Node) : List Node → List Node → Prop
  | here (before after : List Node) : Replaces n ms (before ++ n :: after) (before ++ ms ++ after)
  | inside (before after : List Node) (frame : Frame) {ns ns' : List Node}
    (h : Replaces n ms ns ns') :
    Replaces n ms (before ++ frame.fill ns :: after) (before ++ frame.fill ns' :: after)

inductive Visit.SameBut (R : List Node → List Node → Prop) : Visit → Visit → Prop
  | refl (v : Visit) : SameBut R v v
  | node (frame : Frame) {ns ns' : List Node} (h : R ns ns') :
    SameBut R (.node (frame.fill ns)) (.node (frame.fill ns'))
  | emptyBranch (e : EmptyBranch) {ns ns' : List Node} (h : R ns ns') :
    SameBut R (.emptyBranch { e with children := ns }) (.emptyBranch { e with children := ns' })
  | switchCase (c : SwitchCase) {ns ns' : List Node} (h : R ns ns') :
    SameBut R (.switchCase { c with children := ns }) (.switchCase { c with children := ns' })

section Walk

variable {b : Bool}

theorem walk_singleton (n : Node) :
    walk b [n] = .node n :: ((Visit.node n).children b).flatMap (Visit.preorder b) := by
  rw [← flatMap_preorder_nodes, List.map_singleton, List.flatMap_singleton, preorder_eq]

theorem walk_around (before after : List Node) (n : Node) :
    walk b (before ++ n :: after) = walk b before ++ (walk b [n] ++ walk b after) := by
  rw [List.append_cons, walk_append, walk_append, List.append_assoc]

theorem preorder_emptyBranch (e : EmptyBranch) :
    (Visit.emptyBranch e).preorder b = .emptyBranch e :: walk b e.children := by
  rw [preorder_eq, Visit.children, flatMap_preorder_nodes]

theorem preorder_switchCase (c : SwitchCase) :
    (Visit.switchCase c).preorder b = .switchCase c :: walk b c.children := by
  rw [preorder_eq, Visit.children, flatMap_preorder_nodes]

end Walk

def KeptBut (keep : Visit → Bool) (R : List Node → List Node → Prop) (vs ws : List Visit) : Prop :=
  List.Forall₂ (Visit.SameBut R) (vs.filter keep) (ws.filter keep)

namespace KeptBut

variable {keep : Visit → Bool} {R : List Node → List Node → Prop} {v w : Visit}
variable {vs ws vs' ws' : List Visit}

theorem of_eq (h : vs.filter keep = ws.filter keep) : KeptBut keep R vs ws := by
  rw [KeptBut, h]
  exact List.forall₂_same.2 fun v _ => .refl v

theorem refl (vs : List Visit) : KeptBut keep R vs vs :=
  of_eq rfl

theorem append (h : KeptBut keep R vs ws) (h' : KeptBut keep R vs' ws') :
    KeptBut keep R (vs ++ vs') (ws ++ ws') := by
  rw [KeptBut, List.filter_append, List.filter_append]
  exact List.rel_append h h'

theorem cons (hk : keep v = keep w) (hv : v.SameBut R w) (h : KeptBut keep R vs ws) :
    KeptBut keep R (v :: vs) (w :: ws) := by
  rw [KeptBut, List.filter_cons, List.filter_cons, hk]
  split
  · exact .cons hv h
  · exact h

end KeptBut

section Replacement

variable {keep : Visit → Bool} {R : List Node → List Node → Prop} {b : Bool}
variable {ns ns' : List Node}

theorem keptBut_fill (hk : ∀ v w, v.SameBut R w → keep v = keep w) (frame : Frame) (h : R ns ns')
    (hw : KeptBut keep R (walk b ns) (walk b ns')) :
    KeptBut keep R (walk b [frame.fill ns]) (walk b [frame.fill ns']) := by
  have hn : (Visit.node (frame.fill ns)).SameBut R (.node (frame.fill ns')) := .node frame h
  rw [walk_singleton, walk_singleton]
  refine .cons (hk _ _ hn) hn ?_
  cases frame with
  | element n => simpa only [Frame.fill, Visit.children, flatMap_preorder_nodes] using hw
  | embedded n => simpa only [Frame.fill, Visit.children, flatMap_preorder_nodes] using hw
  | content n => simpa only [Frame.fill, Visit.children, flatMap_preorder_nodes] using hw
  | ifBranch n before branch after =>
    simp only [Frame.fill, Visit.children, flatMap_preorder_nodes, List.flatMap_append,
      List.flatMap_cons, walk_append]
    exact (KeptBut.refl _).append (hw.append (.refl _))
  | forBody n =>
    simp only [Frame.fill, Visit.children, flatMap_preorder_nodes, List.flatMap_append]
    exact hw.append (.refl _)
  | forEmpty n branch =>
    have he := Visit.SameBut.emptyBranch branch h
    simp only [Frame.fill, Visit.children, flatMap_preorder_nodes, List.flatMap_append]
    refine (KeptBut.refl _).append ?_
    cases b with
    | false => exact .refl _
    | true =>
      simp only [Option.toList_some, List.map_singleton, if_true, List.flatMap_singleton,
        preorder_emptyBranch]
      exact .cons (hk _ _ he) he hw
  | switchCase n before c after =>
    have hc := Visit.SameBut.switchCase c h
    simp only [Frame.fill, Visit.children, List.map_append, List.map_cons, List.flatMap_append,
      List.flatMap_cons, preorder_switchCase]
    exact (KeptBut.refl _).append ((KeptBut.cons (hk _ _ hc) hc hw).append (.refl _))
  | deferBody n =>
    simp only [Frame.fill, Visit.children, flatMap_preorder_nodes, walk_append]
    exact ((hw.append (.refl _)).append (.refl _)).append (.refl _)
  | deferPlaceholder n part =>
    simp only [Frame.fill, Visit.children, flatMap_preorder_nodes, walk_append, Option.map_some,
      Option.getD_some]
    exact (((KeptBut.refl _).append hw).append (.refl _)).append (.refl _)
  | deferLoading n part =>
    simp only [Frame.fill, Visit.children, flatMap_preorder_nodes, walk_append, Option.map_some,
      Option.getD_some]
    exact ((KeptBut.refl _).append hw).append (.refl _)
  | deferError n part =>
    simp only [Frame.fill, Visit.children, flatMap_preorder_nodes, walk_append, Option.map_some,
      Option.getD_some]
    exact (KeptBut.refl _).append hw

theorem keptBut_walk {n : Node} {ms : List Node}
    (hk : ∀ v w, v.SameBut (Replaces n ms) w → keep v = keep w)
    (hn : (walk b [n]).filter keep = (walk b ms).filter keep) (h : Replaces n ms ns ns') :
    KeptBut keep (Replaces n ms) (walk b ns) (walk b ns') := by
  induction h with
  | here before after =>
    rw [walk_around, List.append_assoc, walk_append, walk_append]
    exact (KeptBut.refl _).append ((KeptBut.of_eq hn).append (.refl _))
  | inside before after frame h ih =>
    rw [walk_around, walk_around]
    exact (KeptBut.refl _).append ((keptBut_fill hk frame h ih).append (.refl _))

end Replacement

section Existence

variable {n m : Node} {ms ns : List Node}

theorem Replaces.around {ns' : List Node} (h : Replaces n ms ns ns') (left right : List Node) :
    Replaces n ms (left ++ ns ++ right) (left ++ ns' ++ right) := by
  cases h with
  | here before after => simpa using Replaces.here (left ++ before) (after ++ right)
  | inside before after frame h =>
    simpa using Replaces.inside (left ++ before) (after ++ right) frame h

theorem exists_replaces_of_mem (hm : m ∈ ns) (h : ∃ ns', Replaces n ms [m] ns') :
    ∃ ns', Replaces n ms ns ns' := by
  obtain ⟨before, after, rfl⟩ := List.append_of_mem hm
  obtain ⟨ns', h⟩ := h
  exact ⟨_, by simpa using h.around before after⟩

theorem exists_replaces_fill {frame : Frame} (hm : frame.fill ns = m)
    (h : ∃ ns', Replaces n ms ns ns') : ∃ ns', Replaces n ms [m] ns' := by
  obtain ⟨ns', h⟩ := h
  rw [← hm]
  exact ⟨_, .inside [] [] frame h⟩

def Visit.nodes : Visit → List Node
  | .node n => [n]
  | .emptyBranch e => e.children
  | .switchCase c => c.children

theorem exists_replaces_of_mem_nodes {c : Visit} (hc : c ∈ ns.map .node)
    (h : ∃ ns', Replaces n ms c.nodes ns') : ∃ ns', Replaces n ms ns ns' := by
  obtain ⟨m, hm, rfl⟩ := List.mem_map.1 hc
  exact exists_replaces_of_mem hm h

theorem exists_replaces_of_mem_part {P : Type} {children : P → List Node} {part? : Option P}
    {c : Visit} (frame : P → Frame)
    (hm : ∀ part, part? = some part → (frame part).fill (children part) = m)
    (hc : c ∈ ((part?.map children).getD []).map .node)
    (h : ∃ ns', Replaces n ms c.nodes ns') : ∃ ns', Replaces n ms [m] ns' := by
  cases part? with
  | none => cases hc
  | some part => exact exists_replaces_fill (hm part rfl) (exists_replaces_of_mem_nodes hc h)

theorem exists_replaces_of_mem_children {v c : Visit} (hc : c ∈ v.children true)
    (h : ∃ ns', Replaces n ms c.nodes ns') : ∃ ns', Replaces n ms v.nodes ns' := by
  cases v with
  | emptyBranch e => exact exists_replaces_of_mem_nodes hc h
  | switchCase k => exact exists_replaces_of_mem_nodes hc h
  | node m =>
    cases m with
    | comment m => cases hc
    | text m => cases hc
    | boundText m => cases hc
    | letDeclaration m => cases hc
    | unknownBlock m => cases hc
    | element m =>
      have hm : (Frame.element m).fill m.children = .element m := by cases m; rfl
      exact exists_replaces_fill hm (exists_replaces_of_mem_nodes hc h)
    | embedded m =>
      have hm : (Frame.embedded m).fill m.children = .embedded m := by cases m; rfl
      exact exists_replaces_fill hm (exists_replaces_of_mem_nodes hc h)
    | content m =>
      have hm : (Frame.content m).fill m.children = .content m := by cases m; rfl
      exact exists_replaces_fill hm (exists_replaces_of_mem_nodes hc h)
    | ifBlock m =>
      obtain ⟨branches, block⟩ := m
      obtain ⟨k, hflat, rfl⟩ := List.mem_map.1 hc
      obtain ⟨branch, hb, hk⟩ := List.mem_flatMap.1 hflat
      obtain ⟨before, after, rfl⟩ := List.append_of_mem hb
      have hm : (Frame.ifBranch ⟨[], block⟩ before branch after).fill branch.children =
          .ifBlock ⟨before ++ branch :: after, block⟩ := by cases branch; rfl
      exact exists_replaces_fill hm (exists_replaces_of_mem hk h)
    | forBlock m =>
      rcases List.mem_append.1 hc with hc | hc
      · have hm : (Frame.forBody m).fill m.children = .forBlock m := by cases m; rfl
        exact exists_replaces_fill hm (exists_replaces_of_mem_nodes hc h)
      · obtain ⟨branch, hb, rfl⟩ := List.mem_map.1 hc
        have he : m.empty = some branch := by simpa using hb
        have hm : (Frame.forEmpty m branch).fill branch.children = .forBlock m := by
          cases m; cases branch; cases he; rfl
        exact exists_replaces_fill hm h
    | switchBlock m =>
      obtain ⟨e, cases, unknown, block⟩ := m
      obtain ⟨k, hk, rfl⟩ := List.mem_map.1 hc
      obtain ⟨before, after, rfl⟩ := List.append_of_mem hk
      have hm : (Frame.switchCase ⟨e, [], unknown, block⟩ before k after).fill k.children =
          .switchBlock ⟨e, before ++ k :: after, unknown, block⟩ := by cases k; rfl
      exact exists_replaces_fill hm h
    | deferBlock m =>
      simp only [Visit.children, List.map_append, List.mem_append] at hc
      rcases hc with ((hc | hc) | hc) | hc
      · have hm : (Frame.deferBody m).fill m.children = .deferBlock m := by cases m; rfl
        exact exists_replaces_fill hm (exists_replaces_of_mem_nodes hc h)
      · refine exists_replaces_of_mem_part (.deferPlaceholder m) (fun part hp => ?_) hc h
        cases m; cases part; cases hp; rfl
      · refine exists_replaces_of_mem_part (.deferLoading m) (fun part hp => ?_) hc h
        cases m; cases part; cases hp; rfl
      · refine exists_replaces_of_mem_part (.deferError m) (fun part hp => ?_) hc h
        cases m; cases part; cases hp; rfl

theorem exists_replaces_of_mem_preorder (v : Visit) (h : .node n ∈ v.preorder true) :
    ∃ ns', Replaces n ms v.nodes ns' := by
  rw [preorder_eq, List.mem_cons, List.mem_flatMap] at h
  rcases h with rfl | ⟨c, hc, h⟩
  · exact ⟨_, .here [] []⟩
  · have := weight_children_lt true v
    have := weight_le_of_mem hc
    exact exists_replaces_of_mem_children hc (exists_replaces_of_mem_preorder c h)
termination_by v.weight

theorem exists_replaces (h : .node n ∈ walk true ns) : ∃ ns', Replaces n ms ns ns' := by
  rw [← flatMap_preorder_nodes, List.mem_flatMap] at h
  obtain ⟨v, hv, h⟩ := h
  exact exists_replaces_of_mem_nodes hv (exists_replaces_of_mem_preorder v h)

end Existence

end TemplateQuery
