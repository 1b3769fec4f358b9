import Mathlib.Tactic
import TemplateQuery.Proofs.Json.Record
import TemplateQuery.Schema.Settle

namespace TemplateQuery.Schema

open Json

def Settled (s : Shape) (j : Json) : Prop :=
  ∀ n held, j.depth ≤ n → settle n held s j = .ok j

inductive SettledField (f : Field) : Json → Prop
  | value {j : Json} (h : Settled f.shape j) : SettledField f j
  | absent (h : f.presence = .nullable) : SettledField f .null

inductive SettledMembers : List Field → List (String × Json) → Prop
  | nil : SettledMembers [] []
  | cons {f fs j ms} (hf : SettledField f j) (h : SettledMembers fs ms) :
    SettledMembers (f :: fs) ((f.name, j) :: ms)
  | skip {f fs ms} (hf : f.presence ≠ .required) (h : SettledMembers fs ms) :
    SettledMembers (f :: fs) ms

namespace RecordKind

theorem nodup_fieldNames (k : RecordKind) : k.fieldNames.Nodup := by
  cases k <;> decide

@[simp] theorem read?_object (k : RecordKind) (members : List (String × Json)) :
    k.read? (.object members) = some ⟨members⟩ := rfl

end RecordKind

theorem SettledField.nullable {α : Type} {f : Field} {write : α → Json} {o : Option α}
    (hf : f.presence = .nullable) (h : ∀ a ∈ o, Settled f.shape (write a)) :
    SettledField f (Json.nullable write o) := by
  cases o with
  | none => exact .absent hf
  | some a => exact .value (h a rfl)

theorem UnionKind.keys_ne (k : UnionKind) : k.keys.2 ≠ k.keys.1 := by
  cases k <;> decide

theorem UnionKind.mem_variantNames {k : UnionKind} {name : String}
    (h : (k.content? name).isSome) : name ∈ k.variantNames := by
  rw [content?, Option.isSome_bind] at h
  obtain ⟨v, hv⟩ := Option.isSome_iff_exists.1 (Option.isSome_of_any h)
  have hname : v.name = name := by simpa using List.find?_some hv
  exact hname ▸ List.mem_map_of_mem (List.mem_of_find?_eq_some hv)

theorem settleName_of_mem {names : List String} {name : String} (h : name ∈ names)
    (held : Bool) : settleName names held (.string name) = .ok name := by
  rw [settleName, if_pos (by simpa using h)]

theorem find?_name {fields : List Field} (hn : (fields.map (·.name)).Nodup) {f : Field}
    (hf : f ∈ fields) : fields.find? (·.name = f.name) = some f := by
  have hs : (fields.find? (·.name = f.name)).isSome :=
    List.find?_isSome.2 ⟨f, hf, by simp⟩
  obtain ⟨g, hg⟩ := Option.isSome_iff_exists.1 hs
  have hname : g.name = f.name := by simpa using List.find?_some hg
  rw [hg, List.inj_on_of_nodup_map hn (List.mem_of_find?_eq_some hg) hf hname]

theorem settleField_of_settled {f : Field} {j : Json} (h : SettledField f j) {n : Nat}
    (hn : j.depth ≤ n) (held : Bool) : settleField (settle n held) f j = .ok j := by
  cases h with
  | value h =>
    unfold settleField
    split
    · rfl
    · exact h n held hn
  | absent h =>
    unfold settleField
    rw [h]

-- The induction is on the fields still to come; those before them are done.
theorem settleMembers_of_settled {fields fs : List Field} {done ms : List (String × Json)}
    (h : SettledMembers fs ms) (hn : (fields.map (·.name)).Nodup) (hsub : fs.Sublist fields)
    (hdone : ∀ f ∈ fs, done.lookup f.name = none)
    (hreq : ∀ f ∈ fields, f.presence = .required → f ∈ fs ∨ (done.lookup f.name).isSome)
    {n : Nat} (hd : ∀ m ∈ ms, m.2.depth ≤ n) (held : Bool) :
    settleMembers (settle n held) fields done ms = .ok (done.reverse ++ ms) := by
  induction h generalizing done with
  | nil =>
    have hm : firstMissing fields done = none := by
      rw [firstMissing, List.find?_eq_none]
      intro f hf hc
      simp only [Bool.and_eq_true, decide_eq_true_eq, Option.isNone_iff_eq_none] at hc
      rcases hreq f hf hc.1 with hin | hs
      · contradiction
      · simp [hc.2] at hs
    rw [settleMembers, hm, List.append_nil]
  | @cons f fs j ms hf h ih =>
    have hfs : (((f :: fs).map (·.name))).Nodup := hn.sublist (hsub.map _)
    rw [List.map_cons, List.nodup_cons] at hfs
    have hfind : fields.find? (·.name = f.name) = some f :=
      find?_name hn (hsub.subset (by simp))
    have hnone : done.lookup f.name = none := hdone f (by simp)
    have hfield : settleField (settle n held) f j = .ok j :=
      settleField_of_settled hf (hd (f.name, j) (by simp)) held
    have hrest : settleMembers (settle n held) fields ((f.name, j) :: done) ms =
        .ok (((f.name, j) :: done).reverse ++ ms) := by
      refine ih (List.sublist_of_cons_sublist hsub) ?_ ?_ fun m hm => hd m (by simp [hm])
      · intro g hg
        have hne : g.name ≠ f.name := fun h => hfs.1 (h ▸ List.mem_map_of_mem hg)
        rw [List.lookup_cons, beq_false_of_ne hne]
        exact hdone g (by simp [hg])
      · intro g hg hp
        rcases hreq g hg hp with hin | hs
        · rcases List.mem_cons.1 hin with rfl | hin
          · exact .inr (by simp)
          · exact .inl hin
        · refine .inr ?_
          rw [List.lookup_cons]
          split
          · rfl
          · exact hs
    rw [settleMembers, hfind]
    simp only [hnone, Option.isSome_none, Bool.false_eq_true, if_false, hfield]
    rw [List.reverse_cons, List.append_assoc] at hrest
    exact hrest
  | @skip f fs ms hf h ih =>
    refine ih (List.sublist_of_cons_sublist hsub) (fun g hg => hdone g (by simp [hg])) ?_ hd
    intro g hg hp
    rcases hreq g hg hp with hin | hs
    · rcases List.mem_cons.1 hin with rfl | hin
      · contradiction
      · exact .inl hin
    · exact .inr hs

theorem settleAll_of_settled {item : Shape} {items : List Json}
    (h : ∀ j ∈ items, Settled item j) {n : Nat} (hd : ∀ j ∈ items, j.depth ≤ n) (held : Bool) :
    settleAll (settle n held) item items = .ok items := by
  induction items with
  | nil => rfl
  | cons j rest ih =>
    have hj : settle n held item j = .ok j := h j (by simp) n held (hd j (by simp))
    have hr := ih (fun i hi => h i (by simp [hi])) fun i hi => hd i (by simp [hi])
    rw [settleAll, hj]
    simp only [bind, Except.bind, hr]

namespace Settled

theorem string (s : String) : Settled .string (.string s) := by
  intro n held _
  cases n <;> rfl

theorem bool (b : Bool) : Settled .bool (.bool b) := by
  intro n held _
  cases n <;> rfl

theorem nat (i : Nat) : Settled .index (.nat i) := by
  intro n held _
  have hs : settleScalar .index (.nat i) = .ok (.nat i) := by
    rw [Json.nat, settleScalar, if_neg (by omega)]
  cases n <;> exact hs

theorem time {i : Int} (hi : -(Number.signedBound : Int) ≤ i ∧ i < Number.signedBound) :
    Settled .time (.number (.int i)) := by
  intro n held _
  have hs : settleScalar .time (.number (.int i)) = .ok (.number (.int i)) := if_pos hi
  cases n <;> exact hs

theorem number (x : Number) : Settled .number (.number x) := by
  intro n held _
  cases n <;> rfl

theorem array {item : Shape} {items : List Json} (h : ∀ j ∈ items, Settled item j) :
    Settled (.list item) (.array items) := by
  intro n held hd
  cases n with
  | zero => simp [depth] at hd
  | succ n =>
    have ha : settleAll (settle n held) item items = .ok items :=
      settleAll_of_settled h (depth_array_le_succ_iff.1 hd) held
    rw [settle, ha]
    rfl

theorem list {α : Type} {item : Shape} {write : α → Json} {as : List α}
    (h : ∀ a ∈ as, Settled item (write a)) : Settled (.list item) (Json.list write as) := by
  refine array ?_
  intro j hj
  obtain ⟨a, ha, rfl⟩ := List.mem_map.1 hj
  exact h a ha

theorem record {k : RecordKind} {members : List (String × Json)}
    (h : SettledMembers k.fields members) : Settled (.record k) (.object members) := by
  intro n held hd
  cases n with
  | zero => simp [depth] at hd
  | succ n =>
    have hm : settleMembers (settle n held) k.fields [] members = .ok ([].reverse ++ members) :=
      settleMembers_of_settled h k.nodup_fieldNames (List.Sublist.refl _) (by simp)
        (fun f hf _ => .inl hf) (depth_object_le_succ_iff.1 hd) held
    rw [settle, hm]
    rfl

theorem choice {k : ChoiceKind} {name : String} (h : name ∈ k.names) :
    Settled (.choice k) (.string name) := by
  intro n held _
  have hs : settleName k.names held (.string name) = .ok name := settleName_of_mem h held
  cases n <;>
    · rw [settle, hs]
      rfl

theorem variant {k : UnionKind} {name : String} {s : Shape} {j : Json}
    (hc : k.content? name = some s) (h : Settled s j) : Settled (.union k) (k.write name j) := by
  intro n held hd
  cases n with
  | zero => simp [UnionKind.write, depth] at hd
  | succ n =>
    have hj : settle n held s j = .ok j :=
      h n held (depth_object_le_succ_iff.1 hd (k.keys.2, j) (by simp))
    have hname : settleName k.variantNames held (.string name) = .ok name :=
      settleName_of_mem (UnionKind.mem_variantNames (by simp [hc])) held
    have hcontent : settleContent (settle n held) k name j = .ok j := by
      unfold settleContent
      rw [hc]
      exact hj
    rw [UnionKind.write, settle, settleVariant.eq_def]
    simp only [if_true, hname, bind, Except.bind]
    rw [settleVariant.eq_def]
    simp only [if_neg k.keys_ne, if_true, hcontent, bind, Except.bind]
    rfl

theorem bareVariant {k : UnionKind} {name : String} (hv : name ∈ k.variantNames)
    (hc : k.content? name = none) : Settled (.union k) (k.writeBare name) := by
  intro n held hd
  cases n with
  | zero => simp [UnionKind.writeBare, depth] at hd
  | succ n =>
    rw [UnionKind.writeBare, settle, settleVariant.eq_def]
    simp only [if_true, settleName_of_mem hv, bind, Except.bind]
    rw [settleVariant.eq_def]
    simp only [finishVariant, hc]
    rfl

end Settled

theorem ofValue?_of_settled {α : Type} {s : Shape} {read : Json → Option α} {j : Json}
    (h : Settled s j) : ofValue? s read j = read j := by
  rw [ofValue?, h j.depth false le_rfl]

end TemplateQuery.Schema
