import TemplateQuery.Proofs.Json.Follows
import TemplateQuery.Proofs.Json.Record

namespace TemplateQuery.Json

open Cursor

section

variable (V : Cursor → Json → Cursor → Prop)

inductive ItemsText : Bool → Cursor → List Json → Cursor → Prop
  | nil {first c} (h : c.nextItem first = .ok none) : ItemsText first c [] c.skipBlanks
  | cons {first c c1 j c2 js c'} (h : c.nextItem first = .ok (some c1)) (hj : V c1 j c2)
    (hr : ItemsText false c2 js c') : ItemsText first c (j :: js) c'

inductive MembersText : Bool → Cursor → List (String × Json) → Cursor → Prop
  | nil {first c} (h : c.nextName first = .ok none) : MembersText first c [] c.skipBlanks
  | cons {first c c1 name c2 c3 j c4 ms c'} (h : c.nextName first = .ok (some c1))
    (hn : c1.next.string = .ok (name, c2)) (hc : c2.colon = .ok c3) (hj : V c3 j c4)
    (hr : MembersText false c4 ms c') : MembersText first c ((name, j) :: ms) c'

inductive ValueText : Cursor → Json → Cursor → Prop
  | scalar {c j c'} (h : c.scalar = .ok (some (j, c'))) : ValueText c j c'
  | array {c js d c'} (hs : c.scalar = .ok none) (ha : c.ahead = some '[')
    (h : ItemsText V true c.skipBlanks.next js d) (hn : js.length ≤ c.skipBlanks.next.left)
    (hc : d.closeArray = .ok c') : ValueText c (.array js) c'
  | object {c ms d c'} (hs : c.scalar = .ok none) (ha : c.ahead = some '\x7b')
    (h : MembersText V true c.skipBlanks.next ms d) (hn : ms.length ≤ c.skipBlanks.next.left)
    (hc : d.closeObject = .ok c') : ValueText c (.object ms) c'

end

def Spells (n : Nat) (c : Cursor) (j : Json) (c' : Cursor) : Prop :=
  c.value (fun members => members) n = .ok (j, c')

inductive ScalarText : Cursor → Json → Cursor → Prop
  | string {c s c'} (ha : c.ahead = some '"') (h : c.skipBlanks.next.string = .ok (s, c')) :
    ScalarText c (.string s) c'
  | negative {c x c'} (ha : c.ahead = some '-')
    (h : numeral true c.skipBlanks.next = .ok (x, c')) : ScalarText c (.number x) c'
  | number {c ch x c'} (ha : c.ahead = some ch) (hd : ch.isDigit)
    (h : numeral false c.skipBlanks = .ok (x, c')) : ScalarText c (.number x) c'
  | null {c c'} (ha : c.ahead = some 'n')
    (h : c.skipBlanks.next.word ['u', 'l', 'l'] = .ok c') : ScalarText c .null c'
  | true {c c'} (ha : c.ahead = some 't')
    (h : c.skipBlanks.next.word ['r', 'u', 'e'] = .ok c') : ScalarText c (.bool true) c'
  | false {c c'} (ha : c.ahead = some 'f')
    (h : c.skipBlanks.next.word ['a', 'l', 's', 'e'] = .ok c') : ScalarText c (.bool false) c'

theorem scalar_cases {c : Cursor} {read : Option (Json × Cursor)} (h : c.scalar = .ok read) :
    (read = none ∧ (c.ahead = some '[' ∨ c.ahead = some '\x7b')) ∨
      ∃ j c', read = some (j, c') ∧ ScalarText c j c' := by
  unfold Cursor.scalar at h
  simp only at h
  split at h
  case h_1 => contradiction
  case h_2 ch rest hr =>
    have ha : c.ahead = some ch := ahead_eq_some_iff.2 ⟨rest, hr⟩
    split at h
    case isTrue hb =>
      obtain rfl := Except.ok.inj h
      exact .inl ⟨rfl, by simpa [ha] using hb⟩
    case isFalse =>
      refine .inr ?_
      split at h
      case isTrue hc =>
        obtain ⟨⟨s, d⟩, hs, h⟩ := bind_eq_ok_iff.1 h
        exact ⟨_, _, (Except.ok.inj h).symm, .string (hc ▸ ha) hs⟩
      case isFalse =>
        split at h
        case isTrue hc =>
          obtain ⟨⟨x, d⟩, hx, h⟩ := bind_eq_ok_iff.1 h
          exact ⟨_, _, (Except.ok.inj h).symm, .negative (hc ▸ ha) hx⟩
        case isFalse =>
          split at h
          case isTrue hd =>
            obtain ⟨⟨x, d⟩, hx, h⟩ := bind_eq_ok_iff.1 h
            exact ⟨_, _, (Except.ok.inj h).symm, .number ha hd hx⟩
          case isFalse =>
            split at h
            case isTrue hc =>
              obtain ⟨d, hw, h⟩ := bind_eq_ok_iff.1 h
              exact ⟨_, _, (Except.ok.inj h).symm, .null (hc ▸ ha) hw⟩
            case isFalse =>
              split at h
              case isTrue hc =>
                obtain ⟨d, hw, h⟩ := bind_eq_ok_iff.1 h
                exact ⟨_, _, (Except.ok.inj h).symm, .true (hc ▸ ha) hw⟩
              case isFalse =>
                split at h
                case isTrue hc =>
                  obtain ⟨d, hw, h⟩ := bind_eq_ok_iff.1 h
                  exact ⟨_, _, (Except.ok.inj h).symm, .false (hc ▸ ha) hw⟩
                case isFalse => contradiction

section

variable {c c' : Cursor} {j : Json}

theorem ahead_of_bracket (h : c.scalar = .ok none) :
    c.ahead = some '[' ∨ c.ahead = some '\x7b' := by
  obtain ⟨-, ha⟩ | ⟨j, c', hread, -⟩ := scalar_cases h
  · exact ha
  · contradiction

theorem scalarText_of_scalar (h : c.scalar = .ok (some (j, c'))) : ScalarText c j c' := by
  obtain ⟨hread, -⟩ | ⟨j, c', hread, hs⟩ := scalar_cases h
  · contradiction
  · obtain ⟨rfl, rfl⟩ := Prod.mk.inj (Option.some.inj hread)
    exact hs

end

section

variable {V : Cursor → Json → Cursor → Prop} {read : Cursor → Except Fault (Json × Cursor)}
variable {n : Nat} {first : Bool} {c c' : Cursor}

theorem itemsText_of_foldItems (hread : ∀ {c j c'}, read c = .ok (j, c') → V c j c')
    {before items : List Json}
    (h : foldItems (fun items c => do
      let (j, c) ← read c
      .ok (j :: items, c)) n first before c = .ok (items, c')) :
    ∃ js, items = js.reverse ++ before ∧ js.length < n ∧ ItemsText V first c js c' := by
  induction n generalizing first before c with
  | zero => contradiction
  | succ n ih =>
    rw [foldItems] at h
    obtain ⟨next, hnext, h⟩ := bind_eq_ok_iff.1 h
    cases next with
    | none =>
      obtain ⟨rfl, rfl⟩ := Prod.mk.inj (Except.ok.inj h)
      exact ⟨[], rfl, Nat.succ_pos n, .nil hnext⟩
    | some c1 =>
      obtain ⟨⟨items1, c2⟩, hitem, h⟩ := bind_eq_ok_iff.1 h
      obtain ⟨⟨j, c3⟩, hj, hitem⟩ := bind_eq_ok_iff.1 hitem
      obtain ⟨rfl, rfl⟩ := Prod.mk.inj (Except.ok.inj hitem)
      obtain ⟨js, rfl, hl, hjs⟩ := ih h
      exact ⟨j :: js, by simp, Nat.succ_lt_succ hl, .cons hnext (hread hj) hjs⟩

theorem membersText_of_foldMembers (hread : ∀ {c j c'}, read c = .ok (j, c') → V c j c')
    {before members : List (String × Json)}
    (h : foldMembers (fun members name c => do
      let c ← c.colon
      let (j, c) ← read c
      .ok ((name, j) :: members, c)) n first before c = .ok (members, c')) :
    ∃ ms, members = ms.reverse ++ before ∧ ms.length < n ∧ MembersText V first c ms c' := by
  induction n generalizing first before c with
  | zero => contradiction
  | succ n ih =>
    rw [foldMembers] at h
    obtain ⟨next, hnext, h⟩ := bind_eq_ok_iff.1 h
    cases next with
    | none =>
      obtain ⟨rfl, rfl⟩ := Prod.mk.inj (Except.ok.inj h)
      exact ⟨[], rfl, Nat.succ_pos n, .nil hnext⟩
    | some c1 =>
      obtain ⟨⟨name, c2⟩, hname, h⟩ := bind_eq_ok_iff.1 h
      obtain ⟨⟨members1, c3⟩, hmember, h⟩ := bind_eq_ok_iff.1 h
      obtain ⟨c4, hcolon, hmember⟩ := bind_eq_ok_iff.1 hmember
      obtain ⟨⟨j, c5⟩, hj, hmember⟩ := bind_eq_ok_iff.1 hmember
      obtain ⟨rfl, rfl⟩ := Prod.mk.inj (Except.ok.inj hmember)
      obtain ⟨ms, rfl, hl, hms⟩ := ih h
      exact ⟨(name, j) :: ms, by simp, Nat.succ_lt_succ hl,
        .cons hnext hname hcolon (hread hj) hms⟩

end

section

variable {σ : Type} {P : σ → Prop} {n : Nat} {first : Bool} {s s' : σ} {c c' : Cursor}

theorem foldItems_preserves {step : σ → Cursor → Except Fault (σ × Cursor)}
    (hstep : ∀ {s c s' c'}, P s → step s c = .ok (s', c') → P s') (hs : P s)
    (h : foldItems step n first s c = .ok (s', c')) : P s' := by
  induction n generalizing first s c with
  | zero => contradiction
  | succ n ih =>
    rw [foldItems] at h
    obtain ⟨next, -, h⟩ := bind_eq_ok_iff.1 h
    cases next with
    | none =>
      obtain ⟨rfl, -⟩ := Prod.mk.inj (Except.ok.inj h)
      exact hs
    | some c1 =>
      obtain ⟨⟨s1, c2⟩, hs1, h⟩ := bind_eq_ok_iff.1 h
      exact ih (hstep hs hs1) h

theorem foldMembers_preserves {step : σ → String → Cursor → Except Fault (σ × Cursor)}
    (hstep : ∀ {s name c s' c'}, P s → step s name c = .ok (s', c') → P s') (hs : P s)
    (h : foldMembers step n first s c = .ok (s', c')) : P s' := by
  induction n generalizing first s c with
  | zero => contradiction
  | succ n ih =>
    rw [foldMembers] at h
    obtain ⟨next, -, h⟩ := bind_eq_ok_iff.1 h
    cases next with
    | none =>
      obtain ⟨rfl, -⟩ := Prod.mk.inj (Except.ok.inj h)
      exact hs
    | some c1 =>
      obtain ⟨⟨name, c2⟩, -, h⟩ := bind_eq_ok_iff.1 h
      obtain ⟨⟨s1, c3⟩, hs1, h⟩ := bind_eq_ok_iff.1 h
      exact ih (hstep hs hs1) h

end

section

variable {n : Nat} {c c' : Cursor} {j : Json}

theorem spells_zero (h : Spells 0 c j c') : c.scalar = .ok (some (j, c')) := by
  rw [Spells, value] at h
  obtain ⟨read, hread, h⟩ := bind_eq_ok_iff.1 h
  cases read with
  | none => contradiction
  | some r =>
    obtain rfl := Except.ok.inj h
    exact hread

theorem valueText_of_spells (h : Spells (n + 1) c j c') : ValueText (Spells n) c j c' := by
  rw [Spells, value] at h
  obtain ⟨read, hread, h⟩ := bind_eq_ok_iff.1 h
  cases read with
  | some r =>
    obtain rfl := Except.ok.inj h
    exact .scalar hread
  | none =>
    simp only at h
    split at h
    case isTrue ha =>
      obtain ⟨⟨items, d⟩, hitems, h⟩ := bind_eq_ok_iff.1 h
      obtain ⟨d', hclose, h⟩ := bind_eq_ok_iff.1 h
      obtain ⟨rfl, rfl⟩ := Prod.mk.inj (Except.ok.inj h)
      obtain ⟨js, rfl, hl, hjs⟩ := itemsText_of_foldItems (V := Spells n) id hitems
      rw [List.append_nil, List.reverse_reverse]
      exact .array hread ha hjs (Nat.le_of_lt_succ hl) hclose
    case isFalse ha =>
      obtain ⟨⟨members, d⟩, hmembers, h⟩ := bind_eq_ok_iff.1 h
      obtain ⟨d', hclose, h⟩ := bind_eq_ok_iff.1 h
      obtain ⟨rfl, rfl⟩ := Prod.mk.inj (Except.ok.inj h)
      obtain ⟨ms, rfl, hl, hms⟩ := membersText_of_foldMembers (V := Spells n) id hmembers
      rw [List.append_nil, List.reverse_reverse]
      exact .object hread ((ahead_of_bracket hread).resolve_left ha) hms (Nat.le_of_lt_succ hl)
        hclose

end

namespace Cursor.Follows

variable {n : Nat} {first : Bool} {c c' : Cursor} {j : Json} {V : Cursor → Json → Cursor → Prop}

theorem scalar (h : ScalarText c j c') : c.skipBlanks.next.Follows c' := by
  cases h with
  | string ha h => exact .string h
  | negative ha h => exact (Follows.digits _).trans (.skipNumber (skipNumber_of_numeral h))
  | number ha hd h =>
    obtain ⟨rest, hr⟩ := ahead_eq_some_iff.1 ha
    have hd : c.skipBlanks.next.Follows c.skipBlanks.digits.2 := by
      rw [← digits_next hr hd]
      exact .digits _
    exact hd.trans (.skipNumber (skipNumber_of_numeral h))
  | null ha h => exact .word h
  | true ha h => exact .word h
  | false ha h => exact .word h

theorem nextItem (h : c.nextItem first = .ok (some c')) : c.Follows c' := by
  cases first with
  | true =>
    obtain ⟨rfl, -⟩ := ahead_of_first_item h
    exact .skipBlanks c
  | false =>
    obtain ⟨-, rfl⟩ := ahead_of_next_item h
    exact (Follows.skipBlanks c).trans ((Follows.next _).trans (.skipBlanks _))

theorem nextName (h : c.nextName first = .ok (some c')) : c.Follows c' := by
  cases first with
  | true =>
    obtain ⟨rfl, -⟩ := ahead_of_first_name h
    exact .skipBlanks c
  | false =>
    obtain ⟨-, rfl, -⟩ := ahead_of_next_name h
    exact (Follows.skipBlanks c).trans ((Follows.next _).trans (.skipBlanks _))

theorem colon (h : c.colon = .ok c') : c.Follows c' := by
  obtain ⟨-, rfl⟩ := ahead_of_colon h
  exact (Follows.skipBlanks c).trans (.next _)

theorem closeArray (h : c.closeArray = .ok c') : c.Follows c' := by
  obtain ⟨-, rfl⟩ := ahead_of_closeArray h
  exact (Follows.skipBlanks c).trans (.next _)

theorem closeObject (h : c.closeObject = .ok c') : c.Follows c' := by
  obtain ⟨-, rfl⟩ := ahead_of_closeObject h
  exact (Follows.skipBlanks c).trans (.next _)

theorem items {js : List Json} (hV : ∀ {c j c'}, V c j c' → c.Follows c')
    (h : ItemsText V first c js c') : c.Follows c' := by
  induction h with
  | nil h => exact .skipBlanks _
  | cons h hj hr ih => exact (Follows.nextItem h).trans ((hV hj).trans ih)

theorem members {ms : List (String × Json)} (hV : ∀ {c j c'}, V c j c' → c.Follows c')
    (h : MembersText V first c ms c') : c.Follows c' := by
  induction h with
  | nil h => exact .skipBlanks _
  | cons h hn hc hj hr ih =>
    exact (Follows.nextName h).trans <| (Follows.next _).trans <| (Follows.string hn).trans <|
      (Follows.colon hc).trans <| (hV hj).trans ih

theorem value (hV : ∀ {c j c'}, V c j c' → c.Follows c') (h : ValueText V c j c') :
    c.skipBlanks.next.Follows c' := by
  cases h with
  | scalar h => exact .scalar (scalarText_of_scalar h)
  | array hs ha h hn hc => exact (Follows.items hV h).trans (.closeArray hc)
  | object hs ha h hn hc => exact (Follows.members hV h).trans (.closeObject hc)

theorem spells_next (h : Spells n c j c') : c.skipBlanks.next.Follows c' := by
  induction n generalizing c j c' with
  | zero => exact .scalar (scalarText_of_scalar (spells_zero h))
  | succ n ih =>
    refine .value (fun hj => ?_) (valueText_of_spells h)
    exact (Follows.skipBlanks _).trans ((Follows.next _).trans (ih hj))

theorem spells (h : Spells n c j c') : c.Follows c' :=
  (Follows.skipBlanks c).trans ((Follows.next _).trans (spells_next h))

end Cursor.Follows

theorem ItemsText.forall_mem {V : Cursor → Json → Cursor → Prop} {P : Json → Prop} {first : Bool}
    {c c' : Cursor} {js : List Json} (h : ItemsText V first c js c')
    (hV : ∀ {c j c'}, V c j c' → P j) : ∀ j ∈ js, P j := by
  induction h with
  | nil => simp
  | cons h hj hr ih => exact List.forall_mem_cons.2 ⟨hV hj, ih⟩

theorem MembersText.forall_mem {V : Cursor → Json → Cursor → Prop} {P : Json → Prop}
    {first : Bool} {c c' : Cursor} {ms : List (String × Json)} (h : MembersText V first c ms c')
    (hV : ∀ {c j c'}, V c j c' → P j) : ∀ m ∈ ms, P m.2 := by
  induction h with
  | nil => simp
  | cons h hn hc hj hr ih => exact List.forall_mem_cons.2 ⟨hV hj, ih⟩

theorem ScalarText.depth {c c' : Cursor} {j : Json} (h : ScalarText c j c') : j.depth = 0 := by
  cases h <;> rfl

theorem depth_le_of_spells {n : Nat} {c c' : Cursor} {j : Json} (h : Spells n c j c') :
    j.depth ≤ n := by
  induction n generalizing c j c' with
  | zero => exact (scalarText_of_scalar (spells_zero h)).depth.le
  | succ n ih =>
    cases valueText_of_spells h with
    | scalar h => exact (scalarText_of_scalar h).depth.le.trans (Nat.zero_le _)
    | array hs ha hjs hn hc => exact depth_array_le_succ_iff.2 (hjs.forall_mem ih)
    | object hs ha hms hn hc => exact depth_object_le_succ_iff.2 (hms.forall_mem ih)

end TemplateQuery.Json
