import Mathlib.Tactic
import TemplateQuery.Proofs.Json.Cursor
import TemplateQuery.Proofs.Schema.Settled

namespace TemplateQuery.Schema

open Json

abbrev Settling : Type :=
  Bool → Shape → Json → Json → Prop

def known (names : List String) (members : List (String × Json)) : List (String × Json) :=
  members.filter fun m => m.1 ∈ names

namespace UnionKind

def keyNames (k : UnionKind) : List String :=
  [k.keys.1, k.keys.2]

end UnionKind

section

variable (S : Shape → Json → Json → Prop)

inductive FieldStep (f : Field) : Json → Json → Prop
  | null (hf : f.presence = .nullable) : FieldStep f .null .null
  | value {j c} (hf : f.presence = .nullable → j ≠ .null) (h : S f.shape j c) : FieldStep f j c

inductive ItemsStep : List Field → List Json → List Json → Prop
  | nil {fs} (hf : ∀ f ∈ fs, f.presence ≠ .required) : ItemsStep fs [] []
  | cons {f fs j js c cs} (hj : FieldStep S f j c) (hr : ItemsStep fs js cs) :
    ItemsStep (f :: fs) (j :: js) (c :: cs)

def MemberStep (fields : List Field) (m c : String × Json) : Prop :=
  c.1 = m.1 ∧ ∃ f ∈ fields, f.name = m.1 ∧ FieldStep S f m.2 c.2

structure MembersStep (fields : List Field) (ms cs : List (String × Json)) : Prop where
  nodup : ((known (fields.map (·.name)) ms).map Prod.fst).Nodup
  complete : ∀ f ∈ fields, f.presence = .required → f.name ∈ ms.map Prod.fst
  members : List.Forall₂ (MemberStep S fields) (known (fields.map (·.name)) ms) cs

inductive ContentStep (k : UnionKind) (name : String) : Json → Json → Prop
  | value {s j c} (hs : k.content? name = some s) (h : S s j c) : ContentStep k name j c
  | bare (hs : k.content? name = none) : ContentStep k name .null .null

end

section

variable (S : Settling) (held : Bool)

inductive VariantStep (k : UnionKind) : List (String × Json) → Json → Prop
  | bare {t name} (ht : settleName k.variantNames held t = .ok name)
    (hc : k.content? name = none) : VariantStep k [(k.keys.1, t)] (k.writeBare name)
  | tagFirst {t name j c} (ht : settleName k.variantNames held t = .ok name)
    (hc : ContentStep (S held) k name j c) :
    VariantStep k [(k.keys.1, t), (k.keys.2, j)] (k.write name c)
  | contentFirst {t name j c} (ht : settleName k.variantNames held t = .ok name)
    (hc : ContentStep (S true) k name j c) :
    VariantStep k [(k.keys.2, j), (k.keys.1, t)] (k.write name c)

inductive Step : Shape → Json → Json → Prop
  | scalar {s j c} (h : settleScalar s j = .ok c) : Step s j c
  | choice {k j name} (h : settleName k.names held j = .ok name) :
    Step (.choice k) j (.string name)
  | list {s items cs} (h : List.Forall₂ (S held s) items cs) :
    Step (.list s) (.array items) (.array cs)
  | items {k items cs} (h : ItemsStep (S held) k.fields items cs) :
    Step (.record k) (.array items) (.array cs)
  | members {k ms cs} (h : MembersStep (S held) k.fields ms cs) :
    Step (.record k) (.object ms) (.object cs)
  | pair {k head name j c} (hh : settleHead k.variantNames held head = .ok name)
    (hc : ContentStep (S held) k name j c) :
    Step (.union k) (.array [head, j]) (k.write name c)
  | variant {k ms c} (h : VariantStep S held k (known k.keyNames ms) c) :
    Step (.union k) (.object ms) c

end

section

variable {F : Shape → Json → Except Mismatch Json}

def Passes (F : Shape → Json → Except Mismatch Json) (s : Shape) (j c : Json) : Prop :=
  F s j = .ok c

theorem settleField_eq_ok_iff {f : Field} {j c : Json} :
    settleField F f j = .ok c ↔ FieldStep (Passes F) f j c := by
  unfold settleField
  split
  case h_1 hf =>
    constructor
    · intro h
      obtain rfl : .null = c := Except.ok.inj h
      exact .null hf
    · rintro (- | ⟨hj, -⟩)
      · rfl
      · exact absurd rfl (hj hf)
  case h_2 hn =>
    constructor
    · exact fun h => .value (fun hf hj => hn hf hj) h
    · rintro (hf | ⟨-, h⟩)
      · exact absurd rfl (hn hf)
      · exact h

theorem settleAll_eq_ok_iff {item : Shape} {items cs : List Json} :
    settleAll F item items = .ok cs ↔ List.Forall₂ (Passes F item) items cs := by
  induction items generalizing cs with
  | nil =>
    rw [List.forall₂_nil_left_iff, settleAll]
    exact ⟨fun h => (Except.ok.inj h).symm, fun h => h ▸ rfl⟩
  | cons j rest ih =>
    rw [List.forall₂_cons_left_iff, settleAll]
    simp only [bind_eq_ok_iff, ih, Except.ok.injEq]
    constructor
    · rintro ⟨c, hj, ds, hr, rfl⟩
      exact ⟨c, ds, hj, hr, rfl⟩
    · rintro ⟨c, ds, hj, hr, rfl⟩
      exact ⟨c, hj, ds, hr, rfl⟩

theorem settleItems_eq_ok_iff {k : RecordKind} {read : Nat} {fs : List Field}
    {items cs : List Json} :
    settleItems F k read fs items = .ok cs ↔ ItemsStep (Passes F) fs items cs := by
  induction fs generalizing read items cs with
  | nil =>
    cases items with
    | nil =>
      constructor
      · intro h
        obtain rfl : [] = cs := Except.ok.inj h
        exact .nil (by simp)
      · rintro ⟨-⟩
        rfl
    | cons j rest =>
      constructor
      · intro h
        contradiction
      · nofun
  | cons f fs ih =>
    cases items with
    | nil =>
      rw [settleItems]
      by_cases hf : f.presence = .required
      · rw [if_pos hf]
        constructor
        · intro h
          contradiction
        · rintro ⟨h⟩
          exact absurd hf (h f (by simp))
      · rw [if_neg hf, ih]
        constructor
        · rintro ⟨h⟩
          exact .nil (List.forall_mem_cons.2 ⟨hf, h⟩)
        · rintro ⟨h⟩
          exact .nil fun g hg => h g (by simp [hg])
    | cons j rest =>
      rw [settleItems]
      simp only [bind_eq_ok_iff, settleField_eq_ok_iff, ih, Except.ok.injEq]
      constructor
      · rintro ⟨c, hj, ds, hr, rfl⟩
        exact .cons hj hr
      · rintro (- | ⟨hj, hr⟩)
        exact ⟨_, hj, _, hr, rfl⟩

theorem firstMissing_eq_none_iff {fields : List Field} {done : List (String × Json)} :
    firstMissing fields done = none ↔
      ∀ f ∈ fields, f.presence = .required → (done.lookup f.name).isSome := by
  simp [firstMissing, List.find?_eq_none]

theorem lookup_cons_of_ne {name other : String} {j : Json} {ms : List (String × Json)}
    (h : name ≠ other) : ((other, j) :: ms).lookup name = ms.lookup name := by
  rw [List.lookup_cons, beq_false_of_ne h]

theorem known_cons_of_mem {names : List String} {name : String} {j : Json}
    {ms : List (String × Json)} (h : name ∈ names) :
    known names ((name, j) :: ms) = (name, j) :: known names ms :=
  List.filter_cons_of_pos (by simpa using h)

theorem known_cons_of_not_mem {names : List String} {name : String} {j : Json}
    {ms : List (String × Json)} (h : name ∉ names) :
    known names ((name, j) :: ms) = known names ms :=
  List.filter_cons_of_neg (by simpa using h)

theorem mem_known_iff {names : List String} {ms : List (String × Json)} {m : String × Json} :
    m ∈ known names ms ↔ m ∈ ms ∧ m.1 ∈ names := by
  simp [known]

-- The members before are done; of those to come, none may be a field that is.
theorem settleMembers_eq_ok_iff {fields : List Field} (hn : (fields.map (·.name)).Nodup)
    {done ms out : List (String × Json)} :
    settleMembers F fields done ms = .ok out ↔
      ∃ cs, out = done.reverse ++ cs ∧
        (∀ m ∈ known (fields.map (·.name)) ms, done.lookup m.1 = none) ∧
        ((known (fields.map (·.name)) ms).map Prod.fst).Nodup ∧
        (∀ f ∈ fields, f.presence = .required →
          (done.lookup f.name).isSome ∨ f.name ∈ ms.map Prod.fst) ∧
        List.Forall₂ (MemberStep (Passes F) fields) (known (fields.map (·.name)) ms) cs := by
  induction ms generalizing done with
  | nil =>
    rw [settleMembers]
    cases hm : firstMissing fields done with
    | some f =>
      constructor
      · intro h
        contradiction
      · rintro ⟨-, -, -, -, hreq, -⟩
        have hnone : firstMissing fields done = none :=
          firstMissing_eq_none_iff.2 fun f hf hp => by simpa using hreq f hf hp
        rw [hm] at hnone
        contradiction
    | none =>
      have hreq := firstMissing_eq_none_iff.1 hm
      constructor
      · intro h
        refine ⟨[], by simpa using (Except.ok.inj h).symm, by simp [known], by simp [known], ?_,
          .nil⟩
        exact fun f hf hp => .inl (hreq f hf hp)
      · rintro ⟨cs, rfl, -, -, -, h⟩
        obtain rfl : cs = [] := List.forall₂_nil_left_iff.1 h
        simp
  | cons m rest ih =>
    obtain ⟨name, j⟩ := m
    rw [settleMembers]
    cases hf : fields.find? (·.name = name) with
    | none =>
      have hmem : name ∉ fields.map (·.name) := by
        simpa [List.find?_eq_none] using hf
      have hname : ∀ f ∈ fields, f.name ≠ name := fun f hf he =>
        hmem (he ▸ List.mem_map_of_mem hf)
      rw [known_cons_of_not_mem hmem]
      refine ih.trans (exists_congr fun cs => and_congr_right' <| and_congr_right' <|
        and_congr_right' <| and_congr_left' <| forall₂_congr fun f hf => ?_)
      simp [hname f hf]
    | some f =>
      have hmem : f ∈ fields := List.mem_of_find?_eq_some hf
      obtain rfl : f.name = name := by simpa using List.find?_some hf
      rw [known_cons_of_mem (List.mem_map_of_mem hmem)]
      simp only
      by_cases hd : (done.lookup f.name).isSome
      · rw [if_pos hd]
        constructor
        · intro h
          contradiction
        · rintro ⟨-, -, hdone, -⟩
          simp [hdone (f.name, j) (by simp)] at hd
      · have hnone : done.lookup f.name = none := Option.not_isSome_iff_eq_none.1 hd
        rw [if_neg hd]
        simp only [bind_eq_ok_iff, settleField_eq_ok_iff, ih]
        constructor
        · rintro ⟨c, hj, cs, rfl, hdone, hnodup, hreq, hcs⟩
          have hne : ∀ m ∈ known (fields.map (·.name)) rest, m.1 ≠ f.name := by
            intro m hm he
            simpa [he] using hdone m hm
          refine ⟨(f.name, c) :: cs, by simp, ?_, ?_, ?_, .cons ⟨rfl, f, hmem, rfl, hj⟩ hcs⟩
          · refine List.forall_mem_cons.2 ⟨hnone, fun m hm => ?_⟩
            rw [← lookup_cons_of_ne (hne m hm)]
            exact hdone m hm
          · rw [List.map_cons, List.nodup_cons]
            refine ⟨?_, hnodup⟩
            intro hin
            obtain ⟨m, hm, he⟩ := List.mem_map.1 hin
            exact hne m hm he
          · intro g hg hp
            by_cases he : g.name = f.name
            · exact .inr (by simp [he])
            · rcases hreq g hg hp with hs | hin
              · exact .inl (by rwa [lookup_cons_of_ne he] at hs)
              · exact .inr (List.mem_cons_of_mem _ hin)
        · rintro ⟨cs, rfl, hdone, hnodup, hreq, hcs⟩
          rw [List.map_cons, List.nodup_cons] at hnodup
          rw [List.forall_mem_cons] at hdone
          obtain ⟨⟨name, c⟩, ds, ⟨rfl, g, hg, hname, hj⟩, hds, rfl⟩ :=
            List.forall₂_cons_left_iff.1 hcs
          obtain rfl : g = f := List.inj_on_of_nodup_map hn hg hmem hname
          refine ⟨c, hj, ds, by simp, ?_, hnodup.2, ?_, hds⟩
          · intro m hm
            have hin : m.1 ∈ (known (fields.map (·.name)) rest).map Prod.fst :=
              List.mem_map_of_mem hm
            have hne : m.1 ≠ g.name := fun he => hnodup.1 (he ▸ hin)
            rw [lookup_cons_of_ne hne]
            exact hdone.2 m hm
          · intro f hf hp
            by_cases he : f.name = g.name
            · exact .inl (by simp [he])
            · rcases hreq f hf hp with hs | hin
              · exact .inl (by rwa [lookup_cons_of_ne he])
              · exact .inr (by simpa [he] using hin)

theorem settleMembers_eq_ok_iff_step {fields : List Field} (hn : (fields.map (·.name)).Nodup)
    {ms cs : List (String × Json)} :
    settleMembers F fields [] ms = .ok cs ↔ MembersStep (Passes F) fields ms cs := by
  rw [settleMembers_eq_ok_iff hn]
  constructor
  · rintro ⟨cs, rfl, -, hnodup, hreq, hcs⟩
    exact ⟨hnodup, fun f hf hp => by simpa using hreq f hf hp, hcs⟩
  · rintro ⟨hnodup, hreq, hcs⟩
    exact ⟨cs, rfl, by simp, hnodup, fun f hf hp => .inr (hreq f hf hp), hcs⟩

theorem settleContent_eq_ok_iff {k : UnionKind} {name : String} {j c : Json} :
    settleContent F k name j = .ok c ↔ ContentStep (Passes F) k name j c := by
  unfold settleContent
  cases hs : k.content? name with
  | some s =>
    constructor
    · exact fun h => .value hs h
    · rintro (⟨hs', h⟩ | hs')
      · rw [hs] at hs'
        obtain rfl := Option.some.inj hs'
        exact h
      · rw [hs] at hs'
        contradiction
  | none =>
    constructor
    · intro h
      cases j with
      | null =>
        obtain rfl : .null = c := Except.ok.inj h
        exact .bare hs
      | _ => contradiction
    · rintro (⟨hs', -⟩ | -)
      · rw [hs] at hs'
        contradiction
      · rfl

end

section

variable {F : Bool → Shape → Json → Except Mismatch Json} {k : UnionKind} {held : Bool}

def Checks (F : Bool → Shape → Json → Except Mismatch Json) : Settling :=
  fun held => Passes (F held)

theorem settleVariant_known (p : Progress) (ms : List (String × Json)) :
    settleVariant F k held p ms = settleVariant F k held p (known k.keyNames ms) := by
  induction ms generalizing p with
  | nil => rfl
  | cons m rest ih =>
    obtain ⟨key, j⟩ := m
    by_cases hk : key ∈ k.keyNames
    · rw [known_cons_of_mem hk, settleVariant.eq_def,
        settleVariant.eq_def F k held p (_ :: known _ _)]
      simp only [ih]
    · have hkeys : key ≠ k.keys.1 ∧ key ≠ k.keys.2 := by
        simpa [UnionKind.keyNames] using hk
      rw [known_cons_of_not_mem hk, settleVariant.eq_def]
      simp only [if_neg hkeys.1, if_neg hkeys.2]
      exact ih p

theorem settleVariant_nil (p : Progress) : settleVariant F k held p [] = finishVariant k p := by
  rw [settleVariant.eq_def]

theorem settleVariant_tag (p : Progress) (t : Json) (ms : List (String × Json)) :
    settleVariant F k held p ((k.keys.1, t) :: ms) =
      match p with
      | .nothing => do
        let name ← settleName k.variantNames held t
        settleVariant F k held (.variant name) ms
      | .waiting j => do
        let name ← settleName k.variantNames held t
        let c ← settleContent (F true) k name j
        settleVariant F k held (.complete name c) ms
      | _ => .error (.duplicateField k.keys.1) := by
  rw [settleVariant.eq_def]
  exact if_pos rfl

theorem settleVariant_content (p : Progress) (j : Json) (ms : List (String × Json)) :
    settleVariant F k held p ((k.keys.2, j) :: ms) =
      match p with
      | .nothing => settleVariant F k held (.waiting j) ms
      | .variant name => do
        let c ← settleContent (F held) k name j
        settleVariant F k held (.complete name c) ms
      | _ => .error (.duplicateField k.keys.2) := by
  rw [settleVariant.eq_def]
  exact (if_neg k.keys_ne).trans (if_pos rfl)

-- Nothing is known to follow once a variant and its content are there.
theorem settleVariant_complete_eq_ok {name : String} {c out : Json} {ms : List (String × Json)}
    (hk : ∀ m ∈ ms, m.1 ∈ k.keyNames)
    (h : settleVariant F k held (.complete name c) ms = .ok out) :
    ms = [] ∧ out = k.write name c := by
  cases ms with
  | nil =>
    rw [settleVariant_nil] at h
    exact ⟨rfl, (Except.ok.inj h).symm⟩
  | cons m rest =>
    obtain ⟨key, j⟩ := m
    have hkey : key = k.keys.1 ∨ key = k.keys.2 := by
      simpa [UnionKind.keyNames] using hk (key, j) (by simp)
    rcases hkey with rfl | rfl
    · rw [settleVariant_tag] at h
      contradiction
    · rw [settleVariant_content] at h
      contradiction

theorem settleVariant_variant_eq_ok {t : Json} {name : String} {out : Json}
    {ms : List (String × Json)} (hk : ∀ m ∈ ms, m.1 ∈ k.keyNames)
    (ht : settleName k.variantNames held t = .ok name)
    (h : settleVariant F k held (.variant name) ms = .ok out) :
    VariantStep (Checks F) held k ((k.keys.1, t) :: ms) out := by
  cases ms with
  | nil =>
    rw [settleVariant_nil, finishVariant] at h
    cases hc : k.content? name with
    | some s => simp [hc] at h
    | none =>
      simp only [hc, Option.isSome_none, Bool.false_eq_true, if_false] at h
      obtain rfl := Except.ok.inj h
      exact .bare ht hc
  | cons m rest =>
    obtain ⟨key, j⟩ := m
    rw [List.forall_mem_cons] at hk
    have hkey : key = k.keys.1 ∨ key = k.keys.2 := by
      simpa [UnionKind.keyNames] using hk.1
    rcases hkey with rfl | rfl
    · rw [settleVariant_tag] at h
      contradiction
    · rw [settleVariant_content] at h
      obtain ⟨c, hc, h⟩ := bind_eq_ok_iff.1 h
      obtain ⟨rfl, rfl⟩ := settleVariant_complete_eq_ok hk.2 h
      exact .tagFirst ht (settleContent_eq_ok_iff.1 hc)

theorem settleVariant_waiting_eq_ok {j out : Json} {ms : List (String × Json)}
    (hk : ∀ m ∈ ms, m.1 ∈ k.keyNames)
    (h : settleVariant F k held (.waiting j) ms = .ok out) :
    VariantStep (Checks F) held k ((k.keys.2, j) :: ms) out := by
  cases ms with
  | nil =>
    rw [settleVariant_nil] at h
    contradiction
  | cons m rest =>
    obtain ⟨key, t⟩ := m
    rw [List.forall_mem_cons] at hk
    have hkey : key = k.keys.1 ∨ key = k.keys.2 := by
      simpa [UnionKind.keyNames] using hk.1
    rcases hkey with rfl | rfl
    · rw [settleVariant_tag] at h
      obtain ⟨name, ht, h⟩ := bind_eq_ok_iff.1 h
      obtain ⟨c, hc, h⟩ := bind_eq_ok_iff.1 h
      obtain ⟨rfl, rfl⟩ := settleVariant_complete_eq_ok hk.2 h
      exact .contentFirst ht (settleContent_eq_ok_iff.1 hc)
    · rw [settleVariant_content] at h
      contradiction

theorem settleVariant_eq_ok_iff {ms : List (String × Json)} {out : Json} :
    settleVariant F k held .nothing ms = .ok out ↔
      VariantStep (Checks F) held k (known k.keyNames ms) out := by
  have hk : ∀ m ∈ known k.keyNames ms, m.1 ∈ k.keyNames := fun m hm => (mem_known_iff.1 hm).2
  rw [settleVariant_known]
  generalize known k.keyNames ms = ms at hk
  constructor
  · intro h
    cases ms with
    | nil =>
      rw [settleVariant_nil] at h
      contradiction
    | cons m rest =>
      obtain ⟨key, j⟩ := m
      rw [List.forall_mem_cons] at hk
      have hkey : key = k.keys.1 ∨ key = k.keys.2 := by
        simpa [UnionKind.keyNames] using hk.1
      rcases hkey with rfl | rfl
      · rw [settleVariant_tag] at h
        obtain ⟨name, ht, h⟩ := bind_eq_ok_iff.1 h
        exact settleVariant_variant_eq_ok hk.2 ht h
      · rw [settleVariant_content] at h
        exact settleVariant_waiting_eq_ok hk.2 h
  · intro h
    cases h with
    | @bare t name ht hc =>
      simp only [settleVariant_tag, ht, bind, Except.bind, settleVariant_nil, finishVariant, hc]
      rfl
    | @tagFirst t name j c ht hc =>
      have hc : settleContent (F held) k name j = .ok c := settleContent_eq_ok_iff.2 hc
      simp only [settleVariant_tag, settleVariant_content, ht, hc, bind, Except.bind,
        settleVariant_nil]
      rfl
    | @contentFirst t name j c ht hc =>
      have hc : settleContent (F true) k name j = .ok c := settleContent_eq_ok_iff.2 hc
      simp only [settleVariant_tag, settleVariant_content, ht, hc, bind, Except.bind,
        settleVariant_nil]
      rfl

theorem settlePair_eq_ok_iff {items : List Json} {out : Json} :
    settlePair F k held items = .ok out ↔
      ∃ head name j c, items = [head, j] ∧ settleHead k.variantNames held head = .ok name ∧
        ContentStep (Checks F held) k name j c ∧ k.write name c = out := by
  match items with
  | [] => simp [settlePair]
  | [head] => simp [settlePair, bind_eq_ok_iff]
  | [head, j] =>
    simp only [settlePair, bind_eq_ok_iff, settleContent_eq_ok_iff, List.isEmpty_nil, if_true,
      Except.ok.injEq]
    constructor
    · rintro ⟨name, hh, c, hc, rfl⟩
      exact ⟨head, name, j, c, rfl, hh, hc, rfl⟩
    · rintro ⟨head, name, j, c, he, hh, hc, rfl⟩
      obtain ⟨rfl, rfl⟩ : _ = head ∧ _ = j := by simpa using he
      exact ⟨name, hh, c, hc, rfl⟩
  | head :: j :: i :: rest => simp [settlePair, bind_eq_ok_iff]

end

section

variable {n m : Nat} {held : Bool} {s : Shape} {j c : Json}

theorem settle_array_list {item : Shape} {items : List Json} :
    settle (n + 1) held (.list item) (.array items) = .ok c ↔
      ∃ cs, List.Forall₂ (Checks (settle n) held item) items cs ∧ .array cs = c := by
  rw [settle]
  simp only [bind_eq_ok_iff, settleAll_eq_ok_iff, Except.ok.injEq]
  rfl

theorem settle_array_record {k : RecordKind} {items : List Json} :
    settle (n + 1) held (.record k) (.array items) = .ok c ↔
      ∃ cs, ItemsStep (Checks (settle n) held) k.fields items cs ∧ .array cs = c := by
  rw [settle]
  simp only [bind_eq_ok_iff, settleItems_eq_ok_iff, Except.ok.injEq]
  rfl

theorem settle_object_record {k : RecordKind} {ms : List (String × Json)} :
    settle (n + 1) held (.record k) (.object ms) = .ok c ↔
      ∃ cs, MembersStep (Checks (settle n) held) k.fields ms cs ∧ .object cs = c := by
  rw [settle]
  simp only [bind_eq_ok_iff, settleMembers_eq_ok_iff_step k.nodup_fieldNames, Except.ok.injEq]
  rfl

theorem settle_choice {k : ChoiceKind} :
    settle n held (.choice k) j = .ok c ↔
      ∃ name, settleName k.names held j = .ok name ∧ .string name = c := by
  have h : settle n held (.choice k) j =
      settleName k.names held j >>= fun name => .ok (.string name) := by
    cases n <;> rfl
  rw [h, bind_eq_ok_iff]
  simp only [Except.ok.injEq]

theorem settle_succ_eq_ok_iff :
    settle (n + 1) held s j = .ok c ↔ Step (Checks (settle n)) held s j c := by
  constructor
  · intro h
    cases s with
    | list item =>
      cases j with
      | array items =>
        obtain ⟨cs, hcs, rfl⟩ := settle_array_list.1 h
        exact .list hcs
      | _ => exact .scalar h
    | record k =>
      cases j with
      | array items =>
        obtain ⟨cs, hcs, rfl⟩ := settle_array_record.1 h
        exact .items hcs
      | object ms =>
        obtain ⟨cs, hcs, rfl⟩ := settle_object_record.1 h
        exact .members hcs
      | _ => exact .scalar h
    | union k =>
      cases j with
      | array items =>
        obtain ⟨head, name, j, c, rfl, hh, hc, rfl⟩ := settlePair_eq_ok_iff.1 h
        exact .pair hh hc
      | object ms => exact .variant (settleVariant_eq_ok_iff.1 h)
      | _ => exact .scalar h
    | choice k =>
      obtain ⟨name, hn, rfl⟩ := settle_choice.1 h
      exact .choice hn
    | _ => exact .scalar h
  · intro h
    cases h with
    | scalar h => cases s <;> first | exact h | contradiction
    | choice hn => exact settle_choice.2 ⟨_, hn, rfl⟩
    | list hcs => exact settle_array_list.2 ⟨_, hcs, rfl⟩
    | items hcs => exact settle_array_record.2 ⟨_, hcs, rfl⟩
    | members hcs => exact settle_object_record.2 ⟨_, hcs, rfl⟩
    | pair hh hc => exact settlePair_eq_ok_iff.2 ⟨_, _, _, _, rfl, hh, hc, rfl⟩
    | variant h => exact settleVariant_eq_ok_iff.2 h

end

end TemplateQuery.Schema
