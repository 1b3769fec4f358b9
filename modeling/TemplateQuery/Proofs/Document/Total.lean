import TemplateQuery.Proofs.Document.Value
import TemplateQuery.Proofs.Schema.Held
import TemplateQuery.Proofs.Schema.Replace

namespace TemplateQuery.Schema

open Json

section

variable {held : Bool} {names : List String} {name : String} {s : Shape} {f : Field} {j c : Json}

theorem mem_of_settleName (h : settleName names held j = .ok name) : name ∈ names := by
  unfold settleName at h
  split at h
  case h_1 s =>
    split at h
    case isTrue hs =>
      obtain rfl := Except.ok.inj h
      simpa using hs
    case isFalse => contradiction
  case h_2 s inner =>
    split at h
    case isTrue hs =>
      split at h
      · obtain rfl := Except.ok.inj h
        simpa using hs
      · contradiction
    case isFalse => contradiction
  case h_3 => contradiction
  case h_4 => contradiction

theorem mem_of_settleHead (h : settleHead names held j = .ok name) : name ∈ names := by
  unfold settleHead at h
  split at h
  case h_1 s =>
    split at h
    case isTrue hs =>
      obtain rfl := Except.ok.inj h
      simpa using hs
    case isFalse => contradiction
  case h_2 i =>
    split at h
    case isTrue => contradiction
    case isFalse =>
      split at h
      case h_1 s hs =>
        obtain rfl := Except.ok.inj h
        exact List.mem_of_getElem? hs
      case h_2 => contradiction
  case h_3 => contradiction

theorem isSome_decode_of_scalar (h : settleScalar s j = .ok c) : (s.decode c).isSome := by
  unfold settleScalar at h
  split at h
  case h_1 =>
    obtain rfl := Except.ok.inj h
    rfl
  case h_2 =>
    obtain rfl := Except.ok.inj h
    rfl
  case h_3 i =>
    split at h
    case isTrue => contradiction
    case isFalse hi =>
      obtain rfl := Except.ok.inj h
      obtain ⟨n, rfl⟩ := Int.eq_ofNat_of_zero_le (not_lt.1 hi)
      rfl
  case h_4 i =>
    split at h
    case isTrue hi =>
      obtain rfl := Except.ok.inj h
      have hread : int64? (.number (.int i)) = some (Int64.ofInt i) := if_pos hi
      exact Option.isSome_of_eq_some hread
    case isFalse => contradiction
  case h_5 x =>
    obtain rfl := Except.ok.inj h
    cases x <;> rfl
  case h_6 => contradiction

theorem isSome_decode_of_name {k : ChoiceKind} (h : name ∈ k.names) :
    (k.decode (.string name)).isSome := by
  revert name
  cases k <;> decide

theorem isSome_decode_of_all {items : List Json} (h : ∀ j ∈ items, (s.decode j).isSome) :
    ((Shape.list s).decode (.array items)).isSome := by
  change (decodeAll s.decode items).isSome
  induction items with
  | nil => rfl
  | cons j rest ih =>
    obtain ⟨a, ha⟩ := Option.isSome_iff_exists.1 (h j (by simp))
    obtain ⟨as, has⟩ := Option.isSome_iff_exists.1 (ih fun i hi => h i (by simp [hi]))
    rw [decodeAll, ha, has]
    rfl

theorem isSome_absent? {k : RecordKind} (hf : f ∈ k.fields) (hp : f.presence ≠ .required) :
    f.absent?.isSome := by
  revert f
  cases k <;> decide

theorem isSome_decode_of_field (h : (f.shape.decode c).isSome) : (f.decode c).isSome := by
  obtain ⟨name, s, presence⟩ := f
  cases presence with
  | required => exact h
  | optional => exact h
  | nullable =>
    change (nullable? s.decode c).isSome
    unfold nullable?
    split
    · rfl
    · simpa using h

theorem isSome_decode_null (h : f.presence = .nullable) : (f.decode .null).isSome := by
  obtain ⟨name, s, presence⟩ := f
  obtain rfl : presence = .nullable := h
  rfl

theorem isSome_valueIn {k : RecordKind} {cs : List (String × Json)} (hf : f ∈ k.fields)
    (h : ∀ c, cs.lookup f.name = some c → (f.decode c).isSome)
    (hreq : f.presence = .required → (cs.lookup f.name).isSome) : (f.valueIn ⟨cs⟩).isSome := by
  unfold Field.valueIn Record.find?
  split
  case h_1 hnone => exact isSome_absent? hf fun hp => by simp [hnone] at hreq; exact hreq hp
  case h_2 c hc => exact h c hc

theorem isSome_decode_of_members {k : RecordKind} {cs : List (String × Json)}
    (h : ∀ m ∈ cs, ∃ f ∈ k.fields, f.name = m.1 ∧ (f.decode m.2).isSome)
    (hreq : ∀ f ∈ k.fields, f.presence = .required → (cs.lookup f.name).isSome) :
    (k.decode (.object cs)).isSome := by
  have hr : k.read? (.object cs) = some ⟨cs⟩ := k.read?_object cs
  refine k.decode_related isCongruence_isSome hr hr fun f hf => ?_
  refine isSome_valueIn hf (fun c hc => ?_) (hreq f hf)
  obtain ⟨front, back, rfl, -⟩ := List.lookup_eq_some_iff.1 hc
  obtain ⟨g, hg, hname, hdecode⟩ := h (f.name, c) (by simp)
  obtain rfl : g = f := List.inj_on_of_nodup_map k.nodup_fieldNames hg hf hname
  exact hdecode

inductive FieldsDecode : List Field → List Json → Prop
  | nil {fs} (hf : ∀ f ∈ fs, f.presence ≠ .required) : FieldsDecode fs []
  | cons {f fs c cs} (hc : (f.decode c).isSome) (h : FieldsDecode fs cs) :
    FieldsDecode (f :: fs) (c :: cs)

namespace FieldsDecode

variable {fs : List Field} {cs : List Json}

theorem length_le (h : FieldsDecode fs cs) : cs.length ≤ fs.length := by
  induction h with
  | nil => exact Nat.zero_le _
  | cons hc h ih => exact Nat.succ_le_succ ih

theorem lookup (h : FieldsDecode fs cs) (hn : (fs.map (·.name)).Nodup) (hf : f ∈ fs) :
    (∀ c, ((fs.map (·.name)).zip cs).lookup f.name = some c → (f.decode c).isSome) ∧
      (f.presence = .required → (((fs.map (·.name)).zip cs).lookup f.name).isSome) := by
  induction h with
  | nil hreq => exact ⟨by simp, fun hp => absurd hp (hreq f hf)⟩
  | @cons g fs c cs hc h ih =>
    rw [List.map_cons, List.nodup_cons] at hn
    rw [List.map_cons, List.zip_cons_cons]
    rcases List.mem_cons.1 hf with rfl | hf
    · rw [List.lookup_cons_self]
      exact ⟨fun d hd => Option.some.inj hd ▸ hc, fun _ => rfl⟩
    · have hne : f.name ≠ g.name := fun he => hn.1 (he ▸ List.mem_map_of_mem hf)
      rw [lookup_cons_of_ne hne]
      exact ih hn.2 hf

theorem isSome_decode {k : RecordKind} (h : FieldsDecode k.fields cs) :
    (k.decode (.array cs)).isSome := by
  have hr := RecordKind.read?_array h.length_le
  refine k.decode_related isCongruence_isSome hr hr fun f hf => ?_
  obtain ⟨hdecode, hreq⟩ := h.lookup k.nodup_fieldNames hf
  exact isSome_valueIn hf hdecode hreq

end FieldsDecode

section

variable {k : UnionKind}

theorem isSome_decode_write (hs : k.content? name = some s) (h : (s.decode c).isSome) :
    (k.decode (k.write name c)).isSome :=
  @UnionKind.decode_write_related k name s c c _ isCongruence_isSome hs h

theorem isSome_decode_bare (hn : name ∈ k.variantNames) (hc : k.content? name = none) :
    (k.decode (k.writeBare name)).isSome ∧ (k.decode (k.write name .null)).isSome := by
  revert name
  cases k <;> decide

end

end

def Decodes (s : Shape) (_ c : Json) : Prop :=
  (s.decode c).isSome

section

variable {held : Bool} {s : Shape} {j c : Json}

theorem FieldStep.isSome_decode {f : Field} (h : FieldStep Decodes f j c) :
    (f.decode c).isSome := by
  cases h with
  | null hf => exact isSome_decode_null hf
  | value hf h => exact isSome_decode_of_field h

theorem ItemsStep.fieldsDecode {fs : List Field} {js cs : List Json}
    (h : ItemsStep Decodes fs js cs) : FieldsDecode fs cs := by
  induction h with
  | nil hf => exact .nil hf
  | cons hj h ih => exact .cons hj.isSome_decode ih

theorem forall_mem_of_forall₂ {α β : Type} {R : α → β → Prop} {P : β → Prop} {as : List α}
    {bs : List β} (h : List.Forall₂ R as bs) (hr : ∀ a b, R a b → P b) : ∀ b ∈ bs, P b := by
  induction h with
  | nil => simp
  | cons hab h ih => exact List.forall_mem_cons.2 ⟨hr _ _ hab, ih⟩

theorem MembersStep.isSome_decode {k : RecordKind} {ms cs : List (String × Json)}
    (h : MembersStep Decodes k.fields ms cs) : (k.decode (.object cs)).isSome := by
  refine isSome_decode_of_members (forall_mem_of_forall₂ h.members ?_) fun f hf hp => ?_
  · rintro m c ⟨hname, f, hf, hfname, hstep⟩
    exact ⟨f, hf, hfname.trans hname.symm, hstep.isSome_decode⟩
  · have hin : f.name ∈ cs.map Prod.fst := by
      rw [h.names_settled, name_mem_known (List.mem_map_of_mem hf)]
      exact h.complete f hf hp
    obtain ⟨m, hm, he⟩ := List.mem_map.1 hin
    exact List.lookup_isSome_iff.2 ⟨m, hm, by simp [he]⟩

theorem ContentStep.isSome_decode {k : UnionKind} {name : String} (hn : name ∈ k.variantNames)
    (h : ContentStep Decodes k name j c) : (k.decode (k.write name c)).isSome := by
  cases h with
  | value hs h => exact isSome_decode_write hs h
  | bare hs => exact (isSome_decode_bare hn hs).2

theorem Step.isSome_decode (h : Step (fun _ => Decodes) held s j c) : (s.decode c).isSome := by
  cases h with
  | scalar h => exact isSome_decode_of_scalar h
  | choice h => exact isSome_decode_of_name (mem_of_settleName h)
  | list h => exact isSome_decode_of_all (forall_mem_of_forall₂ h fun _ _ => id)
  | items h => exact h.fieldsDecode.isSome_decode
  | members h => exact h.isSome_decode
  | pair hh hc => exact hc.isSome_decode (mem_of_settleHead hh)
  | @variant k ms c h =>
    generalize known k.keyNames ms = ms at h
    cases h with
    | bare ht hc => exact (isSome_decode_bare (mem_of_settleName ht) hc).1
    | tagFirst ht hc => exact hc.isSome_decode (mem_of_settleName ht)
    | contentFirst ht hc => exact hc.isSome_decode (mem_of_settleName ht)

theorem Settles.isSome_decode (h : Settles held s j c) : (s.decode c).isSome := by
  induction hd : j.depth using Nat.strong_induction_on generalizing held s j c with
  | _ n ih =>
    subst hd
    have hstep : Step (fun _ => Decodes) held s j c :=
      (settles_iff.1 h).transfer (.inl id) fun b s' j' c' hp hs => ih _ hp.depth_lt hs rfl
    exact hstep.isSome_decode

end

end TemplateQuery.Schema
