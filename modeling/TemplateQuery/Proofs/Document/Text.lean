import TemplateQuery.Document.Reader
import TemplateQuery.Proofs.Document.Total
import TemplateQuery.Proofs.Schema.Text

namespace TemplateQuery.Schema

open Json Cursor

section

variable {c c' : Cursor} {j : Json} {names : List String} {name : String}

theorem exists_of_readScalar {e : Expected} {check : Json → Except Mismatch Json}
    (h : readScalar e check c = .ok (j, c')) :
    ∃ i d, c.scalar = .ok (some (i, d)) ∧ check i = .ok j := by
  obtain ⟨read, hread, h⟩ := bind_eq_ok_iff.1 h
  split at h
  case h_1 i d =>
    split at h
    case h_1 v hv =>
      obtain ⟨rfl, -⟩ := Prod.mk.inj (Except.ok.inj h)
      exact ⟨i, d, hread, hv⟩
    case h_2 => contradiction
  case h_2 => contradiction

theorem mem_of_readHead (h : readHead names c = .ok (name, c')) : name ∈ names := by
  obtain ⟨⟨j, d⟩, hj, h⟩ := bind_eq_ok_iff.1 h
  obtain ⟨i, -, -, hi⟩ := exists_of_readScalar hj
  unfold checkName at hi
  split at hi
  case h_1 s =>
    split at hi
    case isTrue hs =>
      obtain rfl := Except.ok.inj hi
      obtain ⟨rfl, -⟩ := Prod.mk.inj (Except.ok.inj h)
      simpa using hs
    case isFalse => contradiction
  case h_2 => contradiction

theorem mem_of_readName {n : Nat} (h : readName names n c = .ok (name, c')) : name ∈ names := by
  unfold readName at h
  simp only at h
  split at h
  case h_1 => contradiction
  case h_2 =>
    split at h
    case isTrue => exact mem_of_readHead h
    case isFalse =>
      split at h
      case isTrue =>
        split at h
        case isTrue => contradiction
        case isFalse =>
          obtain ⟨⟨s, d⟩, hkey, h⟩ := bind_eq_ok_iff.1 h
          obtain ⟨e, -, h⟩ := bind_eq_ok_iff.1 h
          obtain ⟨⟨i, f⟩, -, h⟩ := bind_eq_ok_iff.1 h
          have hs : s ∈ names := by
            unfold readKey at hkey
            simp only at hkey
            split at hkey
            case h_1 => contradiction
            case h_2 =>
              split at hkey
              case isTrue => exact mem_of_readHead hkey
              case isFalse => contradiction
          simp only at h
          split at h
          case h_1 => contradiction
          case h_2 =>
            split at h
            case isTrue =>
              obtain ⟨rfl, -⟩ := Prod.mk.inj (Except.ok.inj h)
              exact hs
            case isFalse => contradiction
      case isFalse => contradiction

theorem eq_null_of_readNothing {e : Expected} {n : Nat} (h : readNothing e n c = .ok (j, c')) :
    j = .null := by
  obtain ⟨read, -, h⟩ := bind_eq_ok_iff.1 h
  split at h
  case h_1 => exact (Prod.mk.inj (Except.ok.inj h)).1.symm
  case h_2 => contradiction
  case h_3 =>
    simp only at h
    split at h
    · contradiction
    · split at h <;> contradiction

theorem eq_null_of_ahead (ha : c.ahead = some 'n') (h : c.scalar = .ok (some (j, c'))) :
    j = .null := by
  cases scalarText_of_scalar h with
  | null => rfl
  | number ha' hd =>
    rw [ha, Option.some.injEq] at ha'
    rw [← ha'] at hd
    contradiction
  | _ ha' => simp [ha] at ha'

end

def ProgressDecodes (k : UnionKind) : Progress → Prop
  | .variant name => name ∈ k.variantNames
  | .complete name j => (k.decode (k.write name j)).isSome
  | _ => True

theorem isSome_decode_of_finishVariant {k : UnionKind} {p : Progress} {j : Json}
    (hp : ProgressDecodes k p) (h : finishVariant k p = .ok j) : (k.decode j).isSome := by
  cases p with
  | nothing => contradiction
  | waiting => contradiction
  | variant name =>
    rw [finishVariant] at h
    split at h
    case isTrue => contradiction
    case isFalse hc =>
      obtain rfl := Except.ok.inj h
      exact (isSome_decode_bare hp (Option.not_isSome_iff_eq_none.1 hc)).1
  | complete name i =>
    obtain rfl := Except.ok.inj h
    exact hp

section

variable {n : Nat} {c c' : Cursor} {j : Json}
variable (hR : ∀ {s : Shape} {c c' : Cursor} {j : Json}, read n s c = .ok (j, c') →
  (s.decode j).isSome)
include hR

theorem isSome_decode_of_readField {f : Field} (h : readField (read n) f c = .ok (j, c')) :
    (f.decode j).isSome := by
  unfold readField at h
  split at h
  case isTrue hp =>
    simp only [Bool.and_eq_true, decide_eq_true_eq] at hp
    obtain ⟨i, d, hi, hj⟩ := exists_of_readScalar h
    obtain rfl := Except.ok.inj hj
    obtain rfl := eq_null_of_ahead hp.2 hi
    exact isSome_decode_null hp.1
  case isFalse => exact isSome_decode_of_field (hR h)

theorem fieldsDecode_of_readItems {k : RecordKind} {fs : List Field} {done : Nat}
    {items : List Json} (h : readItems (read n) k done fs c = .ok (items, c')) :
    FieldsDecode fs items ∧ (c.ahead = some ']' → items = []) := by
  induction fs generalizing done c c' items with
  | nil =>
    obtain ⟨rfl, -⟩ := Prod.mk.inj (Except.ok.inj h)
    exact ⟨.nil (by simp), fun _ => rfl⟩
  | cons f fs ih =>
    rw [readItems] at h
    obtain ⟨next, hnext, h⟩ := bind_eq_ok_iff.1 h
    cases next with
    | none =>
      simp only at h
      split at h
      case isTrue => contradiction
      case isFalse hp =>
        obtain ⟨hitems, hnil⟩ := ih h
        obtain rfl := hnil (nextItem_eq_none_iff.1 hnext)
        cases hitems with
        | nil hfs => exact ⟨.nil (List.forall_mem_cons.2 ⟨hp, hfs⟩), fun _ => rfl⟩
    | some c1 =>
      obtain ⟨⟨i, c2⟩, hi, h⟩ := bind_eq_ok_iff.1 h
      obtain ⟨⟨is, c3⟩, his, h⟩ := bind_eq_ok_iff.1 h
      obtain ⟨rfl, -⟩ := Prod.mk.inj (Except.ok.inj h)
      refine ⟨.cons (isSome_decode_of_readField hR hi) (ih his).1, fun ha => ?_⟩
      rw [nextItem_eq_none_iff.2 ha] at hnext
      simp at hnext

def MembersDecode (k : RecordKind) (done : List (String × Json)) : Prop :=
  ∀ m ∈ done, ∃ f ∈ k.fields, f.name = m.1 ∧ (f.decode m.2).isSome

theorem membersDecode_of_readMember {k : RecordKind} {done done' : List (String × Json)}
    {name : String} (hd : MembersDecode k done)
    (h : readMember (read n) k done name c = .ok (done', c')) : MembersDecode k done' := by
  unfold readMember at h
  split at h
  case h_1 =>
    obtain ⟨d, -, h⟩ := bind_eq_ok_iff.1 h
    obtain ⟨e, -, h⟩ := bind_eq_ok_iff.1 h
    obtain ⟨rfl, -⟩ := Prod.mk.inj (Except.ok.inj h)
    exact hd
  case h_2 f hf =>
    split at h
    case isTrue => contradiction
    case isFalse =>
      obtain ⟨d, -, h⟩ := bind_eq_ok_iff.1 h
      obtain ⟨⟨j, e⟩, hj, h⟩ := bind_eq_ok_iff.1 h
      obtain ⟨rfl, -⟩ := Prod.mk.inj (Except.ok.inj h)
      have hname : f.name = name := by simpa using List.find?_some hf
      exact List.forall_mem_cons.2 ⟨⟨f, List.mem_of_find?_eq_some hf, hname,
        isSome_decode_of_readField hR hj⟩, hd⟩

theorem isSome_decode_of_readContent {k : UnionKind} {name : String} (hn : name ∈ k.variantNames)
    (h : readContent (read n) k name n c = .ok (j, c')) : (k.decode (k.write name j)).isSome := by
  unfold readContent at h
  split at h
  case h_1 s hs => exact isSome_decode_write hs (hR h)
  case h_2 hs =>
    obtain rfl := eq_null_of_readNothing h
    exact (isSome_decode_bare hn hs).2

theorem progressDecodes_of_readVariantMember {k : UnionKind} {p p' : Progress} {key : String}
    (hp : ProgressDecodes k p) (h : readVariantMember (read n) k n p key c = .ok (p', c')) :
    ProgressDecodes k p' := by
  unfold readVariantMember at h
  split at h
  case isTrue =>
    cases p with
    | nothing =>
      obtain ⟨d, -, h⟩ := bind_eq_ok_iff.1 h
      obtain ⟨⟨name, e⟩, hname, h⟩ := bind_eq_ok_iff.1 h
      obtain ⟨rfl, -⟩ := Prod.mk.inj (Except.ok.inj h)
      exact mem_of_readName hname
    | waiting content =>
      obtain ⟨d, -, h⟩ := bind_eq_ok_iff.1 h
      obtain ⟨⟨name, e⟩, hname, h⟩ := bind_eq_ok_iff.1 h
      simp only at h
      split at h
      case h_1 v hv =>
        obtain ⟨rfl, -⟩ := Prod.mk.inj (Except.ok.inj h)
        have hstep : ContentStep Decodes k name content v :=
          (settleContent_eq_ok_iff.1 hv).imp fun s _ hs =>
            Settles.isSome_decode (settle_of_depth_le hs le_rfl)
        exact hstep.isSome_decode (mem_of_readName hname)
      case h_2 => contradiction
    | _ => contradiction
  case isFalse =>
    split at h
    case isTrue =>
      cases p with
      | nothing =>
        obtain ⟨d, -, h⟩ := bind_eq_ok_iff.1 h
        obtain ⟨⟨i, e⟩, -, h⟩ := bind_eq_ok_iff.1 h
        obtain ⟨rfl, -⟩ := Prod.mk.inj (Except.ok.inj h)
        trivial
      | variant name =>
        obtain ⟨d, -, h⟩ := bind_eq_ok_iff.1 h
        obtain ⟨⟨i, e⟩, hi, h⟩ := bind_eq_ok_iff.1 h
        obtain ⟨rfl, -⟩ := Prod.mk.inj (Except.ok.inj h)
        exact isSome_decode_of_readContent hR hp hi
      | _ => contradiction
    case isFalse =>
      obtain ⟨d, -, h⟩ := bind_eq_ok_iff.1 h
      obtain ⟨e, -, h⟩ := bind_eq_ok_iff.1 h
      obtain ⟨rfl, -⟩ := Prod.mk.inj (Except.ok.inj h)
      exact hp

theorem isSome_decode_of_readPair {k : UnionKind} (h : readPair (read n) k n c = .ok (j, c')) :
    (k.decode j).isSome := by
  obtain ⟨next, -, h⟩ := bind_eq_ok_iff.1 h
  cases next with
  | none => contradiction
  | some c1 =>
    obtain ⟨⟨name, d⟩, hname, h⟩ := bind_eq_ok_iff.1 h
    obtain ⟨next, -, h⟩ := bind_eq_ok_iff.1 h
    cases next with
    | none => contradiction
    | some c2 =>
      obtain ⟨⟨i, e⟩, hi, h⟩ := bind_eq_ok_iff.1 h
      obtain ⟨rfl, -⟩ := Prod.mk.inj (Except.ok.inj h)
      exact isSome_decode_of_readContent hR (mem_of_readHead hname) hi

end

theorem membersDecode_reverse {k : RecordKind} {done : List (String × Json)}
    (hd : MembersDecode k done) (hm : firstMissing k.fields done = none) :
    (k.decode (.object done.reverse)).isSome := by
  refine isSome_decode_of_members (fun m hm => hd m (List.mem_reverse.1 hm)) fun f hf hp => ?_
  obtain ⟨m, hin, he⟩ := List.lookup_isSome_iff.1 (firstMissing_eq_none_iff.1 hm f hf hp)
  exact List.lookup_isSome_iff.2 ⟨m, List.mem_reverse.2 hin, he⟩

theorem isSome_decode_of_read {n : Nat} {s : Shape} {c c' : Cursor} {j : Json}
    (h : read n s c = .ok (j, c')) : (s.decode j).isSome := by
  induction n using Nat.strong_induction_on generalizing s c c' j with
  | _ n ih =>
    cases s with
    | choice k =>
      rw [read] at h
      obtain ⟨⟨name, d⟩, hname, h⟩ := bind_eq_ok_iff.1 h
      obtain ⟨rfl, -⟩ := Prod.mk.inj (Except.ok.inj h)
      exact isSome_decode_of_name (mem_of_readName hname)
    | list item =>
      rw [read] at h
      obtain ⟨⟨bracket, d⟩, -, h⟩ := bind_eq_ok_iff.1 h
      cases bracket with
      | object => contradiction
      | array =>
        cases n with
        | zero => contradiction
        | succ n =>
          obtain ⟨⟨items, e⟩, hitems, h⟩ := bind_eq_ok_iff.1 h
          obtain ⟨f, -, h⟩ := bind_eq_ok_iff.1 h
          obtain ⟨rfl, -⟩ := Prod.mk.inj (Except.ok.inj h)
          have hall : ∀ j ∈ items, (item.decode j).isSome := by
            refine foldItems_preserves (P := fun items => ∀ j ∈ items, (item.decode j).isSome)
              (fun hs hstep => ?_) (by simp) hitems
            obtain ⟨⟨i, c1⟩, hi, hstep⟩ := bind_eq_ok_iff.1 hstep
            obtain ⟨rfl, -⟩ := Prod.mk.inj (Except.ok.inj hstep)
            exact List.forall_mem_cons.2 ⟨ih n (Nat.lt_succ_self n) hi, hs⟩
          exact isSome_decode_of_all fun j hj => hall j (List.mem_reverse.1 hj)
    | record k =>
      rw [read] at h
      obtain ⟨⟨bracket, d⟩, -, h⟩ := bind_eq_ok_iff.1 h
      cases n with
      | zero => contradiction
      | succ n =>
        have hR := fun {s c c' j} => @ih n (Nat.lt_succ_self n) s c c' j
        cases bracket with
        | array =>
          obtain ⟨⟨items, e⟩, hitems, h⟩ := bind_eq_ok_iff.1 h
          obtain ⟨f, -, h⟩ := bind_eq_ok_iff.1 h
          obtain ⟨rfl, -⟩ := Prod.mk.inj (Except.ok.inj h)
          exact (fieldsDecode_of_readItems hR hitems).1.isSome_decode
        | object =>
          obtain ⟨⟨members, e⟩, hmembers, h⟩ := bind_eq_ok_iff.1 h
          simp only at h
          split at h
          case h_1 => contradiction
          case h_2 hmissing =>
            obtain ⟨f, -, h⟩ := bind_eq_ok_iff.1 h
            obtain ⟨rfl, -⟩ := Prod.mk.inj (Except.ok.inj h)
            refine membersDecode_reverse ?_ hmissing
            exact foldMembers_preserves (fun hs => membersDecode_of_readMember hR hs)
              (by simp [MembersDecode]) hmembers
    | union k =>
      rw [read] at h
      obtain ⟨⟨bracket, d⟩, -, h⟩ := bind_eq_ok_iff.1 h
      cases n with
      | zero => contradiction
      | succ n =>
        have hR := fun {s c c' j} => @ih n (Nat.lt_succ_self n) s c c' j
        cases bracket with
        | array =>
          obtain ⟨⟨i, e⟩, hi, h⟩ := bind_eq_ok_iff.1 h
          obtain ⟨f, -, h⟩ := bind_eq_ok_iff.1 h
          obtain ⟨rfl, -⟩ := Prod.mk.inj (Except.ok.inj h)
          exact isSome_decode_of_readPair hR hi
        | object =>
          obtain ⟨⟨p, e⟩, hp, h⟩ := bind_eq_ok_iff.1 h
          simp only at h
          split at h
          case h_1 => contradiction
          case h_2 i hi =>
            obtain ⟨f, -, h⟩ := bind_eq_ok_iff.1 h
            obtain ⟨rfl, -⟩ := Prod.mk.inj (Except.ok.inj h)
            refine isSome_decode_of_finishVariant (p := p) ?_ hi
            have hnothing : ProgressDecodes k .nothing := trivial
            exact foldMembers_preserves (fun hs => progressDecodes_of_readVariantMember hR hs)
              hnothing hp
    | _ =>
      rw [read_of_isPlain] at h
      · obtain ⟨i, d, -, hj⟩ := exists_of_readScalar h
        exact isSome_decode_of_scalar hj
      · trivial

theorem isSome_decode_of_readText {s : Shape} {text : String} {j : Json}
    (h : readText s text = .ok j) : (s.decode j).isSome := by
  obtain ⟨⟨i, c⟩, hi, h⟩ := bind_eq_ok_iff.1 h
  obtain ⟨-, -, h⟩ := bind_eq_ok_iff.1 h
  obtain rfl := Except.ok.inj h
  exact isSome_decode_of_read hi

def Spelled (text : String) (j : Json) : Prop :=
  ∃ c, Spells maxDepth (Cursor.start text) j c ∧ c.finish = .ok ()

example : Spelled " [null] " (.array [.null]) := ⟨_, rfl, rfl⟩

theorem readText_eq_ok_iff {s : Shape} {text : String} {j v : Json} (h : Spelled text j) :
    readText s text = .ok v ↔ Settles false s j v := by
  obtain ⟨c, hc, hfinish⟩ := h
  have hread := read_agrees (s := s) (Cursor.sound_start text) hc
  have hdepth : settle maxDepth false s j = .ok v ↔ Settles false s j v :=
    ⟨fun h => settle_of_depth_le h le_rfl, fun h => settle_of_depth_le h (depth_le_of_spells hc)⟩
  rw [readText, bind_eq_ok_iff, ← hdepth]
  constructor
  · rintro ⟨⟨i, d⟩, hi, h⟩
    obtain ⟨-, -, h⟩ := bind_eq_ok_iff.1 h
    obtain rfl := Except.ok.inj h
    exact (hread.eq_ok_iff.1 hi).1
  · intro h
    refine ⟨(v, c), hread.eq_ok_iff.2 ⟨h, rfl⟩, ?_⟩
    simp only [hfinish]
    rfl

end TemplateQuery.Schema

namespace TemplateQuery.Document

open Json Schema

theorem read_eq_error_iff {text : String} {f : Fault} :
    read text = .error f ↔ readText (.record .document) text = .error f := by
  rw [read]
  cases h : readText (.record .document) text with
  | error e => simp
  | ok j =>
    have hread : (ParsedTemplate.ofJson? j).isSome := isSome_decode_of_readText h
    obtain ⟨t, ht⟩ := Option.isSome_iff_exists.1 hread
    simp [ht]

theorem read_eq_ok_iff {text : String} {j : Json} {t : ParsedTemplate} (h : Spelled text j) :
    read text = .ok t ↔ ParsedTemplate.ofValue? j = some t := by
  have hread : read text = .ok t ↔ ∃ v, readText (.record .document) text = .ok v ∧
      ParsedTemplate.ofJson? v = some t := by
    rw [read]
    cases readText (.record .document) text with
    | error f => simp
    | ok v => cases h : ParsedTemplate.ofJson? v <;> simp [h]
  simp only [hread, readText_eq_ok_iff h]
  constructor
  · rintro ⟨v, hv, ht⟩
    rw [ParsedTemplate.ofValue?, ofValue?_of_settles hv, ht]
  · exact exists_settles_of_ofValue?

end TemplateQuery.Document
