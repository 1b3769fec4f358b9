import Mathlib.Tactic
import TemplateQuery.Proofs.Node.Preorder
import TemplateQuery.Proofs.Node.Record

namespace TemplateQuery

open Json Schema

theorem Schema.UnionKind.content?_node {k : RecordKind} (hk : k ∈ nodeRecords) :
    UnionKind.node.content? k.name = some (.record k) := by
  revert k
  decide

theorem Schema.UnionKind.find?_nodeRecords {k : RecordKind} (hk : k ∈ nodeRecords) :
    nodeRecords.find? (·.name = k.name) = some k := by
  revert k
  decide

theorem Node.settled_write {k : RecordKind} {j : Json} (hk : k ∈ UnionKind.nodeRecords)
    (h : Settled (.record k) j) : Settled (.union .node) (UnionKind.node.write k.name j) :=
  .variant (UnionKind.content?_node hk) h

theorem Node.decode_write {α : Type} {k : RecordKind} {j : Json} {n : Nat} {o : Option α}
    {make : α → Node} {a : α} (hk : k ∈ UnionKind.nodeRecords)
    (hr : read? (decode n) k j = o.map make) (ho : o = some a) :
    decode (n + 1) (UnionKind.node.write k.name j) = some (make a) := by
  have hread : UnionKind.node.read? (UnionKind.node.write k.name j) = some (k.name, some j) := rfl
  rw [decode, hread]
  simp only [Option.bind_eq_bind, Option.bind_some, UnionKind.find?_nodeRecords hk, hr, ho,
    Option.map_some]

theorem depth_lt_write (k : UnionKind) (name : String) (j : Json) :
    j.depth < (k.write name j).depth :=
  depth_lt_object (m := (k.keys.2, j)) (by simp)

namespace Visit

def sources : Visit → List SourcedExpr
  | .node (.boundText n) => [n.value]
  | .node (.letDeclaration n) => [n.value]
  | .node (.element n) => n.inputs.map (·.value) ++ n.outputs.map (·.handler)
  | .node (.embedded n) =>
    n.inputs.map (·.value) ++ n.outputs.map (·.handler) ++
      n.templateAttributes.filterMap (·.source?)
  | .node (.ifBlock n) => n.branches.filterMap (·.expression)
  | .node (.forBlock n) => n.expression :: n.trackBy.toList
  | .node (.switchBlock n) => [n.expression]
  | .switchCase c => c.expression.toList
  | _ => []

def IsFinite (v : Visit) : Prop :=
  ∀ w ∈ v.preorder true, ∀ e ∈ w.sources, e.IsFinite

variable {v c : Visit}

theorem IsFinite.sources (h : v.IsFinite) : ∀ e ∈ v.sources, e.IsFinite :=
  h v (by rw [preorder_eq]; simp)

theorem IsFinite.of_mem_children (h : v.IsFinite) (hc : c ∈ v.children true) : c.IsFinite := by
  intro w hw
  refine h w ?_
  rw [preorder_eq]
  exact List.mem_cons_of_mem _ (List.mem_flatMap.2 ⟨c, hc, hw⟩)

theorem mem_children_ifBlock {n : IfBlock} {b : IfBranch} (hb : b ∈ n.branches) {c : Node}
    (hc : c ∈ b.children) : node c ∈ (node (.ifBlock n)).children true :=
  List.mem_map_of_mem (List.mem_flatMap.2 ⟨b, hb, hc⟩)

def shape : Visit → Shape
  | .node _ => .union .node
  | .emptyBranch _ => .record .emptyBranch
  | .switchCase _ => .record .switchCase

def toJson : Visit → Json
  | .node n => n.toJson
  | .emptyBranch b => b.toJson
  | .switchCase c => c.toJson

def Reads (n : Nat) : Visit → Prop
  | .node m => Node.decode n m.toJson = some m
  | .emptyBranch b => EmptyBranch.read? (Node.decode n) b.toJson = some b
  | .switchCase c => SwitchCase.read? (Node.decode n) c.toJson = some c

theorem settled_of_children (hv : ∀ e ∈ v.sources, e.IsFinite)
    (h : ∀ c ∈ v.children true, Settled c.shape c.toJson) : Settled v.shape v.toJson := by
  cases v with
  | emptyBranch b => exact EmptyBranch.settled fun c hc => h (.node c) (List.mem_map_of_mem hc)
  | switchCase s =>
    simp only [sources, Option.mem_toList] at hv
    exact SwitchCase.settled hv fun c hc => h (.node c) (List.mem_map_of_mem hc)
  | node n =>
    rw [shape, toJson]
    cases n with
    | comment n =>
      rw [Node.toJson]
      exact Node.settled_write (by decide) n.settled
    | text n =>
      rw [Node.toJson]
      exact Node.settled_write (by decide) n.settled
    | boundText n =>
      rw [Node.toJson]
      exact Node.settled_write (by decide) (BoundText.settled (hv n.value (by simp [sources])))
    | letDeclaration n =>
      rw [Node.toJson]
      exact Node.settled_write (by decide)
        (LetDeclaration.settled (hv n.value (by simp [sources])))
    | unknownBlock n =>
      rw [Node.toJson]
      exact Node.settled_write (by decide) n.settled
    | element n =>
      simp only [sources, List.forall_mem_append, List.forall_mem_map] at hv
      rw [Node.toJson]
      refine Node.settled_write (by decide) (Element.settled hv.1 hv.2 ?_)
      intro c hc
      exact h (.node c) (List.mem_map_of_mem hc)
    | embedded n =>
      simp only [sources, List.forall_mem_append, List.forall_mem_map] at hv
      rw [Node.toJson]
      refine Node.settled_write (by decide) (Embedded.settled hv.1.1 hv.1.2 ?_ ?_)
      · intro a ha e he
        exact hv.2 e (List.mem_filterMap.2 ⟨a, ha, he⟩)
      · intro c hc
        exact h (.node c) (List.mem_map_of_mem hc)
    | content n =>
      rw [Node.toJson]
      refine Node.settled_write (by decide) (ContentSlot.settled ?_)
      intro c hc
      exact h (.node c) (List.mem_map_of_mem hc)
    | ifBlock n =>
      rw [Node.toJson]
      refine Node.settled_write (by decide) (IfBlock.settled ?_ ?_)
      · intro b hb e he
        exact hv e (List.mem_filterMap.2 ⟨b, hb, he⟩)
      · intro b hb c hc
        exact h (.node c) (mem_children_ifBlock hb hc)
    | forBlock n =>
      simp only [sources, List.forall_mem_cons, Option.mem_toList] at hv
      rw [Node.toJson]
      refine Node.settled_write (by decide) (ForBlock.settled hv.1 hv.2 ?_ ?_)
      · intro c hc
        exact h (.node c) (by simp [children, hc])
      · intro b hb
        exact h (.emptyBranch b) (by simpa [children] using hb)
    | switchBlock n =>
      rw [Node.toJson]
      refine Node.settled_write (by decide) (SwitchBlock.settled (hv n.expression ?_) ?_)
      · simp [sources]
      · intro c hc
        exact h (.switchCase c) (List.mem_map_of_mem hc)
    | deferBlock n =>
      rw [Node.toJson]
      refine Node.settled_write (by decide) (DeferBlock.settled ?_ ?_ ?_ ?_)
      · intro c hc
        exact h (.node c) (by simp [children, hc])
      · intro p hp c hc
        exact h (.node c) (by simp [children, Option.mem_def.1 hp, hc])
      · intro l hl c hc
        exact h (.node c) (by simp [children, Option.mem_def.1 hl, hc])
      · intro e he c hc
        exact h (.node c) (by simp [children, Option.mem_def.1 he, hc])

theorem settled {v : Visit} (h : v.IsFinite) : Settled v.shape v.toJson :=
  settled_of_children h.sources fun _ hc => settled (h.of_mem_children hc)
termination_by v.weight
decreasing_by exact (weight_le_of_mem hc).trans_lt (weight_children_lt true v)

theorem reads_emptyBranch {n : Nat} {b : EmptyBranch}
    (h : ∀ c ∈ (emptyBranch b).children true, c.Reads n) : (emptyBranch b).Reads n :=
  EmptyBranch.read?_toJson fun c hc => h (.node c) (List.mem_map_of_mem hc)

theorem reads_switchCase {n : Nat} {s : SwitchCase}
    (hv : ∀ e ∈ (switchCase s).sources, e.IsFinite)
    (h : ∀ c ∈ (switchCase s).children true, c.Reads n) : (switchCase s).Reads n := by
  simp only [sources, Option.mem_toList] at hv
  exact SwitchCase.read?_toJson hv fun c hc => h (.node c) (List.mem_map_of_mem hc)

theorem reads_node_succ {n : Nat} {m : Node} (hv : ∀ e ∈ (node m).sources, e.IsFinite)
    (h : ∀ c ∈ (node m).children true, c.Reads n) : (node m).Reads (n + 1) := by
  rw [Reads]
  cases m with
  | comment m =>
    rw [Node.toJson]
    exact Node.decode_write (by decide) rfl m.ofJson?_toJson
  | text m =>
    rw [Node.toJson]
    exact Node.decode_write (by decide) rfl m.ofJson?_toJson
  | boundText m =>
    have hm : BoundText.ofJson? m.toJson = some m :=
      BoundText.ofJson?_toJson (hv m.value (by simp [sources]))
    rw [Node.toJson]
    exact Node.decode_write (by decide) rfl hm
  | letDeclaration m =>
    have hm : LetDeclaration.ofJson? m.toJson = some m :=
      LetDeclaration.ofJson?_toJson (hv m.value (by simp [sources]))
    rw [Node.toJson]
    exact Node.decode_write (by decide) rfl hm
  | unknownBlock m =>
    rw [Node.toJson]
    exact Node.decode_write (by decide) rfl m.ofJson?_toJson
  | element m =>
    simp only [sources, List.forall_mem_append, List.forall_mem_map] at hv
    have hm : Element.read? (Node.decode n) m.toJson = some m := by
      refine Element.read?_toJson hv.1 hv.2 ?_
      intro c hc
      exact h (.node c) (List.mem_map_of_mem hc)
    rw [Node.toJson]
    exact Node.decode_write (by decide) rfl hm
  | embedded m =>
    simp only [sources, List.forall_mem_append, List.forall_mem_map] at hv
    have hm : Embedded.read? (Node.decode n) m.toJson = some m := by
      refine Embedded.read?_toJson hv.1.1 hv.1.2 ?_ ?_
      · intro a ha e he
        exact hv.2 e (List.mem_filterMap.2 ⟨a, ha, he⟩)
      · intro c hc
        exact h (.node c) (List.mem_map_of_mem hc)
    rw [Node.toJson]
    exact Node.decode_write (by decide) rfl hm
  | content m =>
    have hm : ContentSlot.read? (Node.decode n) m.toJson = some m := by
      refine ContentSlot.read?_toJson ?_
      intro c hc
      exact h (.node c) (List.mem_map_of_mem hc)
    rw [Node.toJson]
    exact Node.decode_write (by decide) rfl hm
  | ifBlock m =>
    have hm : IfBlock.read? (Node.decode n) m.toJson = some m := by
      refine IfBlock.read?_toJson ?_ ?_
      · intro b hb e he
        exact hv e (List.mem_filterMap.2 ⟨b, hb, he⟩)
      · intro b hb c hc
        exact h (.node c) (mem_children_ifBlock hb hc)
    rw [Node.toJson]
    exact Node.decode_write (by decide) rfl hm
  | forBlock m =>
    simp only [sources, List.forall_mem_cons, Option.mem_toList] at hv
    have hm : ForBlock.read? (Node.decode n) m.toJson = some m := by
      refine ForBlock.read?_toJson hv.1 hv.2 ?_ ?_
      · intro c hc
        exact h (.node c) (by simp [children, hc])
      · intro b hb
        exact h (.emptyBranch b) (by simpa [children] using hb)
    rw [Node.toJson]
    exact Node.decode_write (by decide) rfl hm
  | switchBlock m =>
    have hm : SwitchBlock.read? (Node.decode n) m.toJson = some m := by
      refine SwitchBlock.read?_toJson (hv m.expression ?_) ?_
      · simp [sources]
      · intro c hc
        exact h (.switchCase c) (List.mem_map_of_mem hc)
    rw [Node.toJson]
    exact Node.decode_write (by decide) rfl hm
  | deferBlock m =>
    have hm : DeferBlock.read? (Node.decode n) m.toJson = some m := by
      refine DeferBlock.read?_toJson ?_ ?_ ?_ ?_
      · intro c hc
        exact h (.node c) (by simp [children, hc])
      · intro p hp c hc
        exact h (.node c) (by simp [children, Option.mem_def.1 hp, hc])
      · intro l hl c hc
        exact h (.node c) (by simp [children, Option.mem_def.1 hl, hc])
      · intro e he c hc
        exact h (.node c) (by simp [children, Option.mem_def.1 he, hc])
    rw [Node.toJson]
    exact Node.decode_write (by decide) rfl hm

theorem mem_getD_map {α β : Type} {f : α → List β} {o : Option α} {b : β} :
    b ∈ (o.map f).getD [] ↔ ∃ a ∈ o, b ∈ f a := by
  cases o <;> simp

theorem depth_toJson_lt (h : c ∈ v.children true) : c.toJson.depth < v.toJson.depth := by
  cases v with
  | emptyBranch b =>
    obtain ⟨n, hn, rfl⟩ := List.mem_map.1 h
    exact b.depth_lt hn
  | switchCase s =>
    obtain ⟨n, hn, rfl⟩ := List.mem_map.1 h
    exact s.depth_lt hn
  | node m =>
    cases m with
    | comment m => contradiction
    | text m => contradiction
    | boundText m => contradiction
    | letDeclaration m => contradiction
    | unknownBlock m => contradiction
    | element m =>
      obtain ⟨n, hn, rfl⟩ := List.mem_map.1 h
      rw [toJson, toJson, Node.toJson]
      exact (m.depth_lt hn).trans (depth_lt_write _ _ _)
    | embedded m =>
      obtain ⟨n, hn, rfl⟩ := List.mem_map.1 h
      rw [toJson, toJson, Node.toJson]
      exact (m.depth_lt hn).trans (depth_lt_write _ _ _)
    | content m =>
      obtain ⟨n, hn, rfl⟩ := List.mem_map.1 h
      rw [toJson, toJson, Node.toJson]
      exact (m.depth_lt hn).trans (depth_lt_write _ _ _)
    | ifBlock m =>
      obtain ⟨n, hn, rfl⟩ := List.mem_map.1 h
      obtain ⟨b, hb, hc⟩ := List.mem_flatMap.1 hn
      rw [toJson, toJson, Node.toJson]
      exact (m.depth_lt hb hc).trans (depth_lt_write _ _ _)
    | forBlock m =>
      rcases List.mem_append.1 h with hc | hc
      · obtain ⟨n, hn, rfl⟩ := List.mem_map.1 hc
        rw [toJson, toJson, Node.toJson]
        exact (m.depth_lt hn).trans (depth_lt_write _ _ _)
      · obtain ⟨b, hb, rfl⟩ := List.mem_map.1 hc
        rw [toJson, toJson, Node.toJson]
        exact (m.depth_empty_lt (Option.mem_toList.1 hb)).trans (depth_lt_write _ _ _)
    | switchBlock m =>
      obtain ⟨s, hs, rfl⟩ := List.mem_map.1 h
      rw [toJson, toJson, Node.toJson]
      exact (m.depth_lt hs).trans (depth_lt_write _ _ _)
    | deferBlock m =>
      obtain ⟨n, hn, rfl⟩ := List.mem_map.1 h
      rw [toJson, toJson, Node.toJson]
      refine lt_trans ?_ (depth_lt_write _ _ _)
      simp only [List.mem_append] at hn
      rcases hn with ((hn | hn) | hn) | hn
      · exact m.depth_lt hn
      · obtain ⟨p, hp, hc⟩ := mem_getD_map.1 hn
        exact (p.depth_lt hc).trans (m.depth_placeholder_lt hp)
      · obtain ⟨l, hl, hc⟩ := mem_getD_map.1 hn
        exact (l.depth_lt hc).trans (m.depth_loading_lt hl)
      · obtain ⟨e, he, hc⟩ := mem_getD_map.1 hn
        exact (e.depth_lt hc).trans (m.depth_error_lt he)

theorem reads {v : Visit} (h : v.IsFinite) {n : Nat} (hn : v.toJson.depth ≤ n) : v.Reads n := by
  have hc : ∀ c ∈ v.children true, ∀ m, v.toJson.depth ≤ m + 1 → c.Reads m := by
    intro c hc m hm
    have hd : c.toJson.depth < v.toJson.depth := depth_toJson_lt hc
    have hw : c.weight < v.weight := (weight_le_of_mem hc).trans_lt (weight_children_lt true v)
    exact reads (h.of_mem_children hc) (by omega)
  cases v with
  | emptyBranch b => exact reads_emptyBranch fun c hm => hc c hm n (by omega)
  | switchCase s => exact reads_switchCase h.sources fun c hm => hc c hm n (by omega)
  | node m =>
    cases n with
    | zero =>
      have hd : m.toJson.depth ≤ 0 := hn
      cases m <;> simp [Node.toJson, UnionKind.write, depth] at hd
    | succ n => exact reads_node_succ h.sources fun c hm => hc c hm n hn
termination_by v.weight

end Visit

end TemplateQuery
