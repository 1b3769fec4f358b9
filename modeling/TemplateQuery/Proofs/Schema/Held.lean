import TemplateQuery.Proofs.Schema.Step

namespace TemplateQuery.Schema

open Json

inductive Part : Shape → Json → Bool → Shape → Json → Prop
  | item {s items j} (hj : j ∈ items) : Part (.list s) (.array items) false s j
  | field {k items f j} (hj : (f, j) ∈ k.fields.zip items) :
    Part (.record k) (.array items) false f.shape j
  | member {k ms f j} (hf : f ∈ k.fields) (hj : (f.name, j) ∈ ms) :
    Part (.record k) (.object ms) false f.shape j
  | second {k head name s j} (hh : settleHead k.variantNames true head = .ok name)
    (hs : k.content? name = some s) : Part (.union k) (.array [head, j]) false s j
  | tagFirst {k ms t name s j} (hm : known k.keyNames ms = [(k.keys.1, t), (k.keys.2, j)])
    (ht : settleName k.variantNames true t = .ok name) (hs : k.content? name = some s) :
    Part (.union k) (.object ms) false s j
  | contentFirst {k ms t name s j} (hm : known k.keyNames ms = [(k.keys.2, j), (k.keys.1, t)])
    (ht : settleName k.variantNames true t = .ok name) (hs : k.content? name = some s) :
    Part (.union k) (.object ms) true s j

inductive NeedsHolding : Shape → Json → Prop
  | position {k i rest} : NeedsHolding (.union k) (.array (.number i :: rest))
  | tag {k name ms} (hm : (k.keys.1, .object [(name, .object [])]) ∈ ms) :
    NeedsHolding (.union k) (.object ms)
  | choice {k name} : NeedsHolding (.choice k) (.object [(name, .object [])])
  | part {s j s' j'} (hp : Part s j false s' j') (h : NeedsHolding s' j') : NeedsHolding s j

theorem Part.depth_lt {s s' : Shape} {j j' : Json} {b : Bool} (h : Part s j b s' j') :
    j'.depth < j.depth := by
  have hvalue : ∀ {k : UnionKind} {ms : List (String × Json)} {m : String × Json},
      m ∈ known k.keyNames ms → m.2.depth < (Json.object ms).depth :=
    fun hm => depth_lt_object (mem_known_iff.1 hm).1
  cases h with
  | item hj => exact depth_lt_array hj
  | field hj => exact depth_lt_array (List.of_mem_zip hj).2
  | member hf hj => exact depth_lt_object hj
  | second hh hs => exact depth_lt_array (by simp)
  | @tagFirst k ms t name s j hm ht hs =>
    have hj : (k.keys.2, j') ∈ known k.keyNames ms := by simp [hm]
    exact hvalue hj
  | @contentFirst k ms t name s j hm ht hs =>
    have hj : (k.keys.2, j') ∈ known k.keyNames ms := by simp [hm]
    exact hvalue hj

section

variable {names : List String} {held held' : Bool} {j : Json} {name : String}

theorem isNothing_of_held (h : isNothing held j = true)
    (hh : (held = true → held' = true) ∨ j ≠ .object []) : isNothing held' j = true := by
  unfold isNothing at h ⊢
  split at h
  · rfl
  · rcases hh with hh | hh
    · exact hh h
    · contradiction
  · contradiction

theorem settleName_of_held (h : settleName names held j = .ok name)
    (hh : (held = true → held' = true) ∨ ∀ n, j ≠ .object [(n, .object [])]) :
    settleName names held' j = .ok name := by
  unfold settleName at h ⊢
  split at h
  case h_1 => exact h
  case h_2 s inner =>
    by_cases hs : names.contains s = true
    · rw [if_pos hs] at h ⊢
      by_cases hi : isNothing held inner = true
      · have hi' : isNothing held' inner = true := by
          refine isNothing_of_held hi (hh.imp_right fun hh he => hh s ?_)
          rw [he]
        rw [if_pos hi] at h
        rw [if_pos hi', h]
      · rw [if_neg hi] at h
        contradiction
    · rw [if_neg hs] at h
      contradiction
  case h_3 => contradiction
  case h_4 => contradiction

theorem settleHead_of_held (h : settleHead names held j = .ok name)
    (hh : (held = true → held' = true) ∨ ∀ i, j ≠ .number i) :
    settleHead names held' j = .ok name := by
  unfold settleHead at h ⊢
  split at h
  case h_1 => exact h
  case h_2 i =>
    rcases hh with hh | hh
    · cases held with
      | false => simp at h
      | true => rwa [hh rfl]
    · exact absurd rfl (hh _)
  case h_3 => contradiction

end

section

variable {S S' : Shape → Json → Json → Prop}

theorem FieldStep.imp {f : Field} {j c : Json} (h : FieldStep S f j c)
    (hs : S f.shape j c → S' f.shape j c) : FieldStep S' f j c := by
  cases h with
  | null hf => exact .null hf
  | value hf h => exact .value hf (hs h)

theorem ItemsStep.imp {fs : List Field} {js cs : List Json} (h : ItemsStep S fs js cs)
    (hs : ∀ f j c, (f, j) ∈ fs.zip js → S f.shape j c → S' f.shape j c) :
    ItemsStep S' fs js cs := by
  induction h with
  | nil hf => exact .nil hf
  | @cons f fs j js c cs hj hr ih =>
    refine .cons (hj.imp (hs f j c (by simp))) (ih ?_)
    intro g i d hm
    exact hs g i d (by simp [hm])

theorem forall₂_imp_of_mem {α β : Type} {R R' : α → β → Prop} {as : List α} {bs : List β}
    (h : List.Forall₂ R as bs) (hr : ∀ a ∈ as, ∀ b, R a b → R' a b) : List.Forall₂ R' as bs :=
  ((List.forall₂_and_left _ _).2 ⟨fun _ ha => ha, h⟩).imp fun _ _ ⟨ha, hab⟩ => hr _ ha _ hab

theorem MembersStep.imp {fields : List Field} {ms cs : List (String × Json)}
    (h : MembersStep S fields ms cs)
    (hs : ∀ f ∈ fields, ∀ j c, (f.name, j) ∈ ms → S f.shape j c → S' f.shape j c) :
    MembersStep S' fields ms cs where
  nodup := h.nodup
  complete := h.complete
  members := by
    refine forall₂_imp_of_mem h.members ?_
    rintro ⟨name, j⟩ hm ⟨name', c⟩ ⟨hname, f, hf, rfl, hj⟩
    exact ⟨hname, f, hf, rfl, hj.imp (hs f hf j c (mem_known_iff.1 hm).1)⟩

theorem ContentStep.imp {k : UnionKind} {name : String} {j c : Json}
    (h : ContentStep S k name j c)
    (hs : ∀ s, k.content? name = some s → S s j c → S' s j c) : ContentStep S' k name j c := by
  cases h with
  | value hc h => exact .value hc (hs _ hc h)
  | bare hc => exact .bare hc

end

section

variable {S S' : Settling} {held held' : Bool} {s : Shape} {j c : Json}

theorem Step.transfer (h : Step S held s j c)
    (hh : (held = true → held' = true) ∨ ¬ NeedsHolding s j)
    (hp : ∀ b s' j' c', Part s j b s' j' → S (held || b) s' j' c' → S' (held' || b) s' j' c') :
    Step S' held' s j c := by
  have hpart : ∀ s' j' c', Part s j false s' j' → S held s' j' c' → S' held' s' j' c' := by
    intro s' j' c' hpart hs
    simpa using hp false s' j' c' hpart (by simpa using hs)
  have hback : ∀ s' j' c', Part s j true s' j' → S true s' j' c' → S' true s' j' c' := by
    intro s' j' c' hpart hs
    simpa using hp true s' j' c' hpart (by simpa using hs)
  have hany : ∀ {b : Bool}, b = true → true = true := fun _ => rfl
  cases h with
  | scalar h => exact .scalar h
  | choice h =>
    refine .choice (settleName_of_held h (hh.imp_right fun hn n he => hn ?_))
    exact he ▸ .choice
  | list h =>
    exact .list (forall₂_imp_of_mem h fun i hi d => hpart _ i d (.item hi))
  | items h =>
    exact .items (h.imp fun f i d hi => hpart _ i d (.field hi))
  | members h =>
    exact .members (h.imp fun f hf i d hi => hpart _ i d (.member hf hi))
  | pair hhead hc =>
    have hfull := settleHead_of_held hhead (.inl hany)
    refine .pair (settleHead_of_held hhead (hh.imp_right fun hn i he => hn ?_))
      (hc.imp fun s' hs => hpart s' _ _ (.second hfull hs))
    exact he ▸ .position
  | @variant k ms _ h =>
    have htag : ∀ {t name}, (k.keys.1, t) ∈ known k.keyNames ms →
        settleName k.variantNames held t = .ok name →
          settleName k.variantNames held' t = .ok name := by
      intro t name hm ht
      refine settleName_of_held ht (hh.imp_right fun hn n he => hn ?_)
      exact .tag (he ▸ (mem_known_iff.1 hm).1)
    refine .variant ?_
    generalize hm : known k.keyNames ms = known at h htag
    cases h with
    | bare ht hc => exact .bare (htag (by simp) ht) hc
    | tagFirst ht hc =>
      have hfull := settleName_of_held ht (.inl hany)
      exact .tagFirst (htag (by simp) ht)
        (hc.imp fun s' hs => hpart s' _ _ (.tagFirst hm hfull hs))
    | contentFirst ht hc =>
      have hfull := settleName_of_held ht (.inl hany)
      exact .contentFirst (htag (by simp) ht)
        (hc.imp fun s' hs => hback s' _ _ (.contentFirst hm hfull hs))

end

section

variable {n m : Nat} {held held' : Bool} {s : Shape} {j c : Json}

theorem settle_of_scalar (h : settleScalar s j = .ok c) (n : Nat) (held : Bool) :
    settle n held s j = .ok c := by
  cases s with
  | list | record | union | choice => contradiction
  | _ => cases n <;> exact h

theorem settle_of_zero (h : settle 0 held s j = .ok c) (n : Nat) : settle n held s j = .ok c := by
  cases s with
  | choice k => exact settle_choice.2 (settle_choice.1 h)
  | _ => exact settle_of_scalar h n held

theorem settle_of_depth_le (h : settle m held s j = .ok c) (hn : j.depth ≤ n) :
    settle n held s j = .ok c := by
  induction m generalizing n held s j c with
  | zero => exact settle_of_zero h n
  | succ m ih =>
    have hstep := settle_succ_eq_ok_iff.1 h
    cases n with
    | zero =>
      cases hstep with
      | scalar hs => exact settle_of_scalar hs 0 held
      | choice hs => exact settle_choice.2 ⟨_, hs, rfl⟩
      | _ => simp [depth] at hn
    | succ n =>
      refine settle_succ_eq_ok_iff.2 (hstep.transfer (.inl id) fun b s' j' c' hp hs => ?_)
      have hd : j'.depth < j.depth := hp.depth_lt
      exact ih hs (by omega)

def Settles : Settling :=
  fun held s j c => settle j.depth held s j = .ok c

theorem settles_iff : Settles held s j c ↔ Step Settles held s j c := by
  constructor
  · intro h
    have hstep := settle_succ_eq_ok_iff.1 (settle_of_depth_le h (Nat.le_succ _))
    exact hstep.transfer (.inl id) fun b s' j' c' _ hs => settle_of_depth_le hs le_rfl
  · intro h
    have hstep : Step (Checks (settle j.depth)) held s j c :=
      h.transfer (.inl id) fun b s' j' c' hp hs => settle_of_depth_le hs hp.depth_lt.le
    exact settle_of_depth_le (settle_succ_eq_ok_iff.2 hstep) le_rfl

theorem settles_list_iff {items : List Json} :
    Settles held (.list s) (.array items) c ↔
      ∃ cs, List.Forall₂ (Settles held s) items cs ∧ c = .array cs := by
  rw [settles_iff]
  constructor
  · rintro (h | - | h)
    · contradiction
    · exact ⟨_, h, rfl⟩
  · rintro ⟨cs, h, rfl⟩
    exact .list h

theorem settles_items_iff {k : RecordKind} {items : List Json} :
    Settles held (.record k) (.array items) c ↔
      ∃ cs, ItemsStep (Settles held) k.fields items cs ∧ c = .array cs := by
  rw [settles_iff]
  constructor
  · rintro (h | - | - | h)
    · contradiction
    · exact ⟨_, h, rfl⟩
  · rintro ⟨cs, h, rfl⟩
    exact .items h

theorem settles_members_iff {k : RecordKind} {ms : List (String × Json)} :
    Settles held (.record k) (.object ms) c ↔
      ∃ cs, MembersStep (Settles held) k.fields ms cs ∧ c = .object cs := by
  rw [settles_iff]
  constructor
  · rintro (h | - | - | - | h)
    · contradiction
    · exact ⟨_, h, rfl⟩
  · rintro ⟨cs, h, rfl⟩
    exact .members h

theorem settles_pair_iff {k : UnionKind} {head : Json} :
    Settles held (.union k) (.array [head, j]) c ↔
      ∃ name d, settleHead k.variantNames held head = .ok name ∧
        ContentStep (Settles held) k name j d ∧ c = k.write name d := by
  rw [settles_iff]
  constructor
  · intro h
    cases h with
    | scalar h => contradiction
    | pair hh hc => exact ⟨_, _, hh, hc, rfl⟩
  · rintro ⟨name, d, hh, hc, rfl⟩
    exact .pair hh hc

theorem settles_variant_iff {k : UnionKind} {ms : List (String × Json)} :
    Settles held (.union k) (.object ms) c ↔
      VariantStep Settles held k (known k.keyNames ms) c := by
  rw [settles_iff]
  constructor
  · intro h
    cases h with
    | scalar h => contradiction
    | variant h => exact h
  · exact .variant

theorem Settles.of_held (h : Settles held s j c)
    (hh : (held = true → held' = true) ∨ ¬ NeedsHolding s j) : Settles held' s j c := by
  induction hd : j.depth using Nat.strong_induction_on generalizing held held' s j c with
  | _ n ih =>
    subst hd
    refine settles_iff.2 ((settles_iff.1 h).transfer hh fun b s' j' c' hp hs => ?_)
    refine ih _ hp.depth_lt hs ?_ rfl
    cases b with
    | true => exact .inl fun _ => by simp
    | false => simpa using hh.imp_right fun hn hn' => hn (.part hp hn')

theorem ofValue?_of_settles {α : Type} {read : Json → Option α} (h : Settles false s j c) :
    ofValue? s read j = read c := by
  rw [ofValue?, h]

theorem exists_settles_of_ofValue? {α : Type} {read : Json → Option α} {a : α}
    (h : ofValue? s read j = some a) : ∃ c, Settles false s j c ∧ read c = some a := by
  rw [ofValue?] at h
  split at h
  case h_1 c hc => exact ⟨c, hc, h⟩
  case h_2 => contradiction

theorem settleScalar_ne_null (h : settleScalar s j = .ok c) : c ≠ .null := by
  rintro rfl
  unfold settleScalar at h
  split at h
  case h_3 => split at h <;> cases h
  case h_4 => split at h <;> cases h
  all_goals cases h

theorem Settles.ne_null (h : Settles held s j c) : c ≠ .null := by
  cases settles_iff.1 h with
  | scalar h => exact settleScalar_ne_null h
  | @variant k ms c h =>
    generalize known k.keyNames ms = known at h
    cases h <;> nofun
  | _ => nofun

end

end TemplateQuery.Schema
