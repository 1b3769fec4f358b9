import TemplateQuery.Proofs.Schema.Step

namespace TemplateQuery.Schema

open Json

theorem exists_of_forall₂_middle {α β : Type} {R : α → β → Prop} {before after : List α} {a : α}
    {bs : List β} (h : List.Forall₂ R (before ++ a :: after) bs) :
    ∃ front b back, bs = front ++ b :: back ∧ List.Forall₂ R before front ∧ R a b ∧
      List.Forall₂ R after back := by
  induction before generalizing bs with
  | nil =>
    obtain ⟨b, back, hab, hback, rfl⟩ := List.forall₂_cons_left_iff.1 h
    exact ⟨[], b, back, rfl, .nil, hab, hback⟩
  | cons x before ih =>
    obtain ⟨y, rest, hxy, hrest, rfl⟩ := List.forall₂_cons_left_iff.1 h
    obtain ⟨front, b, back, rfl, hfront, hab, hback⟩ := ih hrest
    exact ⟨y :: front, b, back, rfl, .cons hxy hfront, hab, hback⟩

section

variable {S : Shape → Json → Json → Prop} {f : Field} {fs : List Field}
variable {before after cs : List Json} {j : Json}

theorem ItemsStep.length_le (h : ItemsStep S fs before cs) : cs.length ≤ fs.length := by
  induction h with
  | nil => simp
  | cons hj hr ih => simpa using ih

theorem ItemsStep.exists_middle (h : ItemsStep S fs (before ++ j :: after) cs)
    (hf : fs[before.length]? = some f) :
    ∃ front c back, cs = front ++ c :: back ∧ front.length = before.length ∧ FieldStep S f j c ∧
      ∀ j' c', FieldStep S f j' c' →
        ItemsStep S fs (before ++ j' :: after) (front ++ c' :: back) := by
  induction before generalizing fs cs with
  | nil =>
    cases h with
    | @cons g fs j js c cs hj hr =>
      obtain rfl : g = f := by simpa using hf
      exact ⟨[], c, cs, rfl, rfl, hj, fun j' c' hj' => .cons hj' hr⟩
  | cons i before ih =>
    cases h with
    | @cons g fs i js d cs hi hr =>
      obtain ⟨front, c, back, rfl, hl, hj, hreplace⟩ := ih hr (by simpa using hf)
      exact ⟨d :: front, c, back, rfl, by simp [hl], hj,
        fun j' c' hj' => .cons hi (hreplace j' c' hj')⟩

theorem ItemsStep.exists_last (h : ItemsStep S fs (before ++ [j]) cs)
    (hf : fs[before.length]? = some f) (hp : f.presence ≠ .required) :
    ∃ front c, cs = front ++ [c] ∧ front.length = before.length ∧ FieldStep S f j c ∧
      ItemsStep S fs before front := by
  induction before generalizing fs cs with
  | nil =>
    cases h with
    | @cons g fs j js c cs hj hr =>
      obtain rfl : g = f := by simpa using hf
      cases hr with
      | nil hfs => exact ⟨[], c, rfl, rfl, hj, .nil (List.forall_mem_cons.2 ⟨hp, hfs⟩)⟩
  | cons i before ih =>
    cases h with
    | @cons g fs i js d cs hi hr =>
      obtain ⟨front, c, rfl, hl, hj, hfront⟩ := ih hr (by simpa using hf)
      exact ⟨d :: front, c, rfl, by simp [hl], hj, .cons hi hfront⟩

end

section

variable {S : Shape → Json → Json → Prop} {fields : List Field} {f : Field} {names : List String}
variable {before after ms ms' cs : List (String × Json)} {j : Json}

theorem known_append : known names (before ++ after) = known names before ++ known names after :=
  List.filter_append ..

theorem known_middle (hf : f ∈ fields) :
    known (fields.map (·.name)) (before ++ (f.name, j) :: after) =
      known (fields.map (·.name)) before ++ (f.name, j) :: known (fields.map (·.name)) after := by
  rw [known_append, known_cons_of_mem (List.mem_map_of_mem hf)]

theorem name_mem_known {name : String} (hn : name ∈ names) :
    name ∈ (known names ms).map Prod.fst ↔ name ∈ ms.map Prod.fst := by
  simp only [List.mem_map, mem_known_iff]
  constructor
  · rintro ⟨m, ⟨hm, -⟩, he⟩
    exact ⟨m, hm, he⟩
  · rintro ⟨m, hm, he⟩
    exact ⟨m, ⟨hm, he ▸ hn⟩, he⟩

theorem MembersStep.names_settled (h : MembersStep S fields ms cs) :
    cs.map Prod.fst = (known (fields.map (·.name)) ms).map Prod.fst := by
  have hms := h.members
  clear h
  generalize known (fields.map (·.name)) ms = known at hms ⊢
  induction hms with
  | nil => rfl
  | cons hm h ih => rw [List.map_cons, List.map_cons, ih, hm.1]

theorem MembersStep.nodup_settled (h : MembersStep S fields ms cs) : (cs.map Prod.fst).Nodup :=
  h.names_settled ▸ h.nodup

theorem MembersStep.exists_middle (hn : (fields.map (·.name)).Nodup) (hf : f ∈ fields)
    (h : MembersStep S fields (before ++ (f.name, j) :: after) cs) :
    ∃ front c back, cs = front ++ (f.name, c) :: back ∧ FieldStep S f j c ∧
      List.Forall₂ (MemberStep S fields) (known (fields.map (·.name)) before) front ∧
      List.Forall₂ (MemberStep S fields) (known (fields.map (·.name)) after) back := by
  have hm := h.members
  rw [known_middle hf] at hm
  obtain ⟨front, ⟨name, c⟩, back, rfl, hfront, ⟨rfl, g, hg, hname, hj⟩, hback⟩ :=
    exists_of_forall₂_middle hm
  obtain rfl : g = f := List.inj_on_of_nodup_map hn hg hf hname
  exact ⟨front, c, back, rfl, hj, hfront, hback⟩

theorem MembersStep.replace (hn : (fields.map (·.name)).Nodup) (hf : f ∈ fields)
    (h : MembersStep S fields (before ++ (f.name, j) :: after) cs) :
    ∃ front c back, cs = front ++ (f.name, c) :: back ∧ FieldStep S f j c ∧
      ∀ j' c', FieldStep S f j' c' →
        MembersStep S fields (before ++ (f.name, j') :: after) (front ++ (f.name, c') :: back) := by
  obtain ⟨front, c, back, rfl, hj, hfront, hback⟩ := h.exists_middle hn hf
  refine ⟨front, c, back, rfl, hj, fun j' c' hj' => ⟨?_, ?_, ?_⟩⟩
  · simpa [known_middle hf] using h.nodup
  · simpa using h.complete
  · rw [known_middle hf]
    exact List.rel_append hfront (.cons ⟨rfl, f, hf, rfl, hj'⟩ hback)

theorem MembersStep.leaveOut (hn : (fields.map (·.name)).Nodup) (hf : f ∈ fields)
    (hp : f.presence ≠ .required)
    (h : MembersStep S fields (before ++ (f.name, j) :: after) cs) :
    ∃ front c back, cs = front ++ (f.name, c) :: back ∧ FieldStep S f j c ∧
      MembersStep S fields (before ++ after) (front ++ back) := by
  obtain ⟨front, c, back, rfl, hj, hfront, hback⟩ := h.exists_middle hn hf
  refine ⟨front, c, back, rfl, hj, ?_, ?_, ?_⟩
  · have hnodup := h.nodup
    rw [known_middle hf, List.map_append, List.map_cons] at hnodup
    rw [known_append, List.map_append]
    exact hnodup.sublist ((List.sublist_cons_self _ _).append_left _)
  · intro g hg hreq
    have hne : g.name ≠ f.name := fun he => hp (List.inj_on_of_nodup_map hn hg hf he ▸ hreq)
    simpa [hne] using h.complete g hg hreq
  · rw [known_append]
    exact List.rel_append hfront hback

theorem MembersStep.exists_perm (h : MembersStep S fields ms cs)
    (hp : (known (fields.map (·.name)) ms).Perm (known (fields.map (·.name)) ms')) :
    ∃ cs', cs.Perm cs' ∧ MembersStep S fields ms' cs' := by
  obtain ⟨cs', hcs', hperm⟩ := List.perm_comp_forall₂ hp.symm h.members
  refine ⟨cs', hperm.symm, (hp.map _).nodup_iff.1 h.nodup, ?_, hcs'⟩
  intro f hf hreq
  have hname : f.name ∈ fields.map (·.name) := List.mem_map_of_mem hf
  rw [← name_mem_known hname, ← (hp.map _).mem_iff, name_mem_known hname]
  exact h.complete f hf hreq

end

theorem append_cons_eq_pair {α : Type} {front back : List α} {x a b : α}
    (h : front ++ x :: back = [a, b]) :
    (front = [] ∧ x = a ∧ back = [b]) ∨ (front = [a] ∧ x = b ∧ back = []) := by
  match front with
  | [] => simpa using h
  | [y] => simpa [eq_comm] using h
  | y :: z :: front => simp at h

theorem VariantStep.replace {S : Settling} {held : Bool} {k : UnionKind}
    {front back : List (String × Json)} {j c : Json}
    (h : VariantStep S held k (front ++ (k.keys.2, j) :: back) c) :
    ∃ t name d, (∀ t', (k.keys.1, t') ∈ front ++ back → t' = t) ∧
      settleName k.variantNames held t = .ok name ∧ c = k.write name d ∧
      ContentStep (S (held || k.keys.1 ∉ front.map Prod.fst)) k name j d ∧
      ∀ j' d', ContentStep (S (held || k.keys.1 ∉ front.map Prod.fst)) k name j' d' →
        VariantStep S held k (front ++ (k.keys.2, j') :: back) (k.write name d') := by
  generalize hm : front ++ (k.keys.2, j) :: back = members at h
  cases h with
  | bare ht hn =>
    match front with
    | [] =>
      have he : k.keys.2 = k.keys.1 := congrArg Prod.fst (List.cons.inj hm).1
      exact absurd he k.keys_ne
    | m :: front => simp at hm
  | @tagFirst t name i d ht hd =>
    rcases append_cons_eq_pair hm with ⟨rfl, he, rfl⟩ | ⟨rfl, he, rfl⟩
    · exact absurd (congrArg Prod.fst he) k.keys_ne
    · obtain rfl : j = i := congrArg Prod.snd he
      have hheld : (held || decide (k.keys.1 ∉ [(k.keys.1, t)].map Prod.fst)) = held := by simp
      rw [hheld]
      exact ⟨t, name, d, by simp, ht, rfl, hd, fun j' d' hd' => .tagFirst ht hd'⟩
  | @contentFirst t name i d ht hd =>
    rcases append_cons_eq_pair hm with ⟨rfl, he, rfl⟩ | ⟨rfl, he, rfl⟩
    · obtain rfl : j = i := congrArg Prod.snd he
      have hheld : (held || decide (k.keys.1 ∉ List.map Prod.fst ([] : List (String × Json)))) =
          true := by
        simp
      rw [hheld]
      exact ⟨t, name, d, by simp, ht, rfl, hd, fun j' d' hd' => .contentFirst ht hd'⟩
    · exact absurd (congrArg Prod.fst he) k.keys_ne

end TemplateQuery.Schema
