import TemplateQuery.Proofs.Json.Skip
import TemplateQuery.Schema.Reader

namespace TemplateQuery.Schema

open Json Cursor

inductive Agrees {α : Type} (c : Cursor) :
    Except Fault (α × Cursor) → Except Mismatch α → Prop
  | ok (a : α) : Agrees c (.ok (a, c)) (.ok a)
  | error (f : Fault) (m : Mismatch) : Agrees c (.error f) (.error m)

theorem Agrees.bind {α β : Type} {c d : Cursor} {x : Except Fault (α × Cursor)}
    {y : Except Mismatch α} {g : α × Cursor → Except Fault (β × Cursor)}
    {g' : α → Except Mismatch β} (h : Agrees c x y) (hg : ∀ a, Agrees d (g (a, c)) (g' a)) :
    Agrees d (x >>= g) (y >>= g') := by
  cases h with
  | ok a => exact hg a
  | error f m => exact .error f m

theorem Agrees.map {α β : Type} {c : Cursor} {x : Except Fault (α × Cursor)}
    {y : Except Mismatch α} (h : Agrees c x y) (f : α → β) :
    Agrees c (x >>= fun p => .ok (f p.1, p.2)) (y >>= fun a => .ok (f a)) :=
  h.bind fun a => .ok (f a)

theorem Agrees.eq_ok_iff {α : Type} {c : Cursor} {x : Except Fault (α × Cursor)}
    {y : Except Mismatch α} {a : α} {d : Cursor} (h : Agrees c x y) :
    x = .ok (a, d) ↔ y = .ok a ∧ d = c := by
  cases h with
  | ok b => simp [eq_comm]
  | error f m => simp

section

variable {S : Shape → Json → Except Mismatch Json} {fields : List Field}

def settleMember (S : Shape → Json → Except Mismatch Json) (fields : List Field)
    (done : List (String × Json)) (m : String × Json) :
    Except Mismatch (List (String × Json)) :=
  match fields.find? (·.name = m.1) with
  | none => .ok done
  | some f =>
    if (done.lookup m.1).isSome then .error (.duplicateField m.1)
    else do
      let j ← settleField S f m.2
      .ok ((m.1, j) :: done)

def finishMembers (fields : List Field) (done : List (String × Json)) :
    Except Mismatch (List (String × Json)) :=
  match firstMissing fields done with
  | some f => .error (.missingField f.name)
  | none => .ok done.reverse

theorem settleMembers_eq_foldlM (done ms : List (String × Json)) :
    settleMembers S fields done ms =
      ms.foldlM (settleMember S fields) done >>= finishMembers fields := by
  induction ms generalizing done with
  | nil => rfl
  | cons m rest ih =>
    obtain ⟨name, j⟩ := m
    rw [settleMembers, List.foldlM_cons, settleMember]
    cases fields.find? (·.name = name) with
    | none => exact ih done
    | some f =>
      simp only
      split
      case isTrue => rfl
      case isFalse =>
        cases settleField S f j with
        | error m => rfl
        | ok c => exact ih ((name, c) :: done)

end

section

variable (S : Bool → Shape → Json → Except Mismatch Json) (k : UnionKind) (held : Bool)

def settleTag (t : Json) : Progress → Except Mismatch Progress
  | .nothing => do
    let name ← settleName k.variantNames held t
    .ok (.variant name)
  | .waiting content => do
    let name ← settleName k.variantNames held t
    let content ← settleContent (S true) k name content
    .ok (.complete name content)
  | _ => .error (.duplicateField k.keys.1)

def settleSecond (j : Json) : Progress → Except Mismatch Progress
  | .nothing => .ok (.waiting j)
  | .variant name => do
    let j ← settleContent (S held) k name j
    .ok (.complete name j)
  | _ => .error (.duplicateField k.keys.2)

def settleVariantMember (p : Progress) (m : String × Json) : Except Mismatch Progress :=
  if m.1 = k.keys.1 then settleTag S k held m.2 p
  else if m.1 = k.keys.2 then settleSecond S k held m.2 p
  else .ok p

theorem settleVariant_eq_foldlM (p : Progress) (ms : List (String × Json)) :
    settleVariant S k held p ms =
      ms.foldlM (settleVariantMember S k held) p >>= finishVariant k := by
  induction ms generalizing p with
  | nil =>
    rw [settleVariant.eq_def]
    rfl
  | cons m rest ih =>
    obtain ⟨key, j⟩ := m
    rw [settleVariant.eq_def, List.foldlM_cons, settleVariantMember]
    simp only [ih]
    split
    case isTrue hk =>
      subst hk
      cases p with
      | nothing => simp only [settleTag, bind_assoc]; rfl
      | waiting content => simp only [settleTag, bind_assoc]; rfl
      | _ => rfl
    case isFalse =>
      split
      case isTrue hk =>
        subst hk
        cases p with
        | nothing => rfl
        | variant name => simp only [settleSecond, bind_assoc]; rfl
        | _ => rfl
      case isFalse => rfl

end

section

variable {V : Cursor → Json → Cursor → Prop} {first : Bool} {c c' : Cursor}

theorem foldMembers_agrees {σ : Type} {step : σ → String → Cursor → Except Fault (σ × Cursor)}
    {g : σ → String × Json → Except Mismatch σ} {ms : List (String × Json)}
    (hF : ∀ {c j c'}, V c j c' → c.Follows c')
    (hstep : ∀ {c c1 j c2}, c1.Sound → c.colon = .ok c1 → V c1 j c2 →
      ∀ s name, Agrees c2 (step s name c) (g s (name, j)))
    (hs : c.Sound) (h : MembersText V first c ms c') {n : Nat} (hn : ms.length < n) (s : σ) :
    Agrees c' (foldMembers step n first s c) (ms.foldlM g s) := by
  induction h generalizing n s with
  | nil h =>
    obtain ⟨n, rfl⟩ := Nat.exists_eq_succ_of_ne_zero (Nat.ne_of_gt hn)
    rw [foldMembers, h]
    exact .ok s
  | @cons first c c1 name c2 c3 j c4 ms c' h hname hc hj hr ih =>
    obtain ⟨n, rfl⟩ := Nat.exists_eq_succ_of_ne_zero (Nat.ne_of_gt (Nat.zero_lt_of_lt hn))
    have hs3 : c3.Sound := ((Follows.nextName h).trans <| (Follows.next c1).trans <|
      (Follows.string hname).trans (.colon hc)).sound hs
    rw [foldMembers, h, List.foldlM_cons]
    simp only [bind, Except.bind, hname]
    exact (hstep hs3 hc hj s name).bind fun s =>
      ih ((hF hj).sound hs3) (Nat.lt_of_succ_lt_succ hn) s

theorem foldItems_agrees {R : Cursor → Except Fault (Json × Cursor)} {item : Shape}
    {S : Shape → Json → Except Mismatch Json} {js : List Json} {d : Cursor}
    (hF : ∀ {c j c'}, V c j c' → c.Follows c')
    (hstep : ∀ {c j c'}, c.Sound → V c j c' → Agrees c' (R c) (S item j))
    (hs : c.Sound) (h : ItemsText V first c js d) (hc : d.closeArray = .ok c') {n : Nat}
    (hn : js.length < n) (before : List Json) :
    Agrees c' (do
        let (items, c) ← foldItems (fun items c => do
          let (j, c) ← R c
          .ok (j :: items, c)) n first before c
        let c ← c.closeArray
        .ok (array items.reverse, c))
      (settleAll S item js >>= fun cs => .ok (array (before.reverse ++ cs))) := by
  induction h generalizing n before with
  | nil h =>
    obtain ⟨n, rfl⟩ := Nat.exists_eq_succ_of_ne_zero (Nat.ne_of_gt hn)
    rw [foldItems, h]
    simp only [ok_bind, hc, settleAll, List.append_nil]
    exact .ok _
  | @cons first c c1 j c2 js d h hj hr ih =>
    obtain ⟨n, rfl⟩ := Nat.exists_eq_succ_of_ne_zero (Nat.ne_of_gt (Nat.zero_lt_of_lt hn))
    have hs1 : c1.Sound := (Follows.nextItem h).sound hs
    rw [foldItems, h, settleAll]
    simp only [ok_bind, bind_assoc]
    refine (hstep hs1 hj).bind fun i => ?_
    have hrest := ih ((hF hj).sound hs1) hc (Nat.lt_of_succ_lt_succ hn) (i :: before)
    simpa only [List.reverse_cons, List.append_assoc, List.singleton_append] using hrest

end

section

variable {V : Cursor → Json → Cursor → Prop} {c c' : Cursor} {j : Json} {names : List String}

structure RefusesBrackets (check : Json → Except Mismatch Json) : Prop where
  array (js : List Json) : ∃ m, check (.array js) = .error m
  object (ms : List (String × Json)) : ∃ m, check (.object ms) = .error m

theorem refusesBrackets_settleScalar (s : Shape) : RefusesBrackets (settleScalar s) where
  array js := by cases s <;> exact ⟨_, rfl⟩
  object ms := by cases s <;> exact ⟨_, rfl⟩

theorem readScalar_agrees {e : Expected} {check : Json → Except Mismatch Json}
    (hcheck : RefusesBrackets check) (h : ValueText V c j c') : Agrees c' (readScalar e check c) (check j) := by
  cases h with
  | scalar h =>
    rw [readScalar, h, ok_bind]
    simp only
    cases check j with
    | ok j => exact .ok j
    | error m => exact .error _ m
  | array h =>
    obtain ⟨m, hm⟩ := hcheck.array _
    rw [readScalar, h, hm]
    exact .error _ m
  | object h =>
    obtain ⟨m, hm⟩ := hcheck.object _
    rw [readScalar, h, hm]
    exact .error _ m

theorem settleHead_eq (names : List String) (j : Json) :
    settleHead names false j = checkName names .variantName j >>= fun j =>
      match j with
      | .string s => .ok s
      | j => .error (.wrongType (found j) .variantName) := by
  cases j with
  | string s =>
    rw [settleHead, checkName]
    split <;> rfl
  | number x => cases x <;> rfl
  | _ => rfl

theorem readHead_agrees (h : ValueText V c j c') :
    Agrees c' (readHead names c) (settleHead names false j) := by
  have hscalar : Agrees c' (readScalar .variantName (checkName names .variantName) c)
      (checkName names .variantName j) :=
    readScalar_agrees ⟨fun js => ⟨_, rfl⟩, fun ms => ⟨_, rfl⟩⟩ h
  rw [readHead, settleHead_eq]
  refine hscalar.bind fun a => ?_
  cases a with
  | string s => exact .ok s
  | _ => exact .error _ _

theorem readNothing_of_bracket (e : Expected) (n : Nat) (h : c.scalar = .ok none) :
    ∃ f, readNothing e n c = .error f := by
  rw [readNothing, h, ok_bind]
  simp only
  split
  · exact ⟨_, rfl⟩
  · split <;> exact ⟨_, rfl⟩

theorem readNothing_agrees {S : Shape → Json → Except Mismatch Json} {k : UnionKind}
    {name : String} {n : Nat} (hn : k.content? name = none) (h : ValueText V c j c') :
    Agrees c' (readNothing (.bareVariant k.name name) n c) (settleContent S k name j) := by
  rw [settleContent.eq_def, hn]
  cases h with
  | scalar h =>
    rw [readNothing, h]
    cases j with
    | null => exact .ok Json.null
    | _ => exact .error _ _
  | array h =>
    obtain ⟨f, hf⟩ := readNothing_of_bracket (.bareVariant k.name name) n h
    rw [hf]
    exact .error f _
  | object h =>
    obtain ⟨f, hf⟩ := readNothing_of_bracket (.bareVariant k.name name) n h
    rw [hf]
    exact .error f _

theorem ahead_null_iff (h : ValueText V c j c') : c.ahead = some 'n' ↔ j = .null := by
  cases h with
  | scalar h =>
    cases scalarText_of_scalar h with
    | number ha hd =>
      refine iff_of_false (fun hn => ?_) (by simp)
      rw [ha, Option.some.injEq] at hn
      rw [hn] at hd
      contradiction
    | _ ha => simp [ha]
  | array _ ha => simp [ha]
  | object _ ha => simp [ha]

theorem scalar_of_null (h : ValueText V c .null c') : c.scalar = .ok (some (.null, c')) := by
  cases h with
  | scalar h => exact h

theorem readField_agrees {R : Shape → Cursor → Except Fault (Json × Cursor)}
    {S : Shape → Json → Except Mismatch Json} {f : Field} (h : ValueText V c j c')
    (hR : Agrees c' (R f.shape c) (S f.shape j)) :
    Agrees c' (readField R f c) (settleField S f j) := by
  have hnull := ahead_null_iff h
  rw [ahead] at hnull
  rw [readField, settleField.eq_def]
  by_cases hj : j = .null
  · subst hj
    by_cases hp : f.presence = .nullable
    · rw [if_pos (by simp [hp, hnull]), readScalar, scalar_of_null h]
      simp only [hp]
      exact .ok Json.null
    · rw [if_neg (by simp [hp])]
      split
      · contradiction
      · exact hR
  · rw [if_neg (by simp [hnull, hj])]
    split
    · contradiction
    · exact hR

end

section

variable {n : Nat} {c c' : Cursor} {j : Json} {names : List String}

theorem scalar_of_string {s : String} (ha : c.ahead = some '"')
    (h : c.skipBlanks.next.string = .ok (s, c')) : c.scalar = .ok (some (.string s, c')) := by
  obtain ⟨rest, hr⟩ := ahead_eq_some_iff.1 ha
  simp [scalar, hr, h, bind, Except.bind]

theorem valueText_of_spells_self (h : Spells n c j c') : ValueText (Spells (n - 1)) c j c' := by
  cases n with
  | zero => exact .scalar (spells_zero h)
  | succ n => exact valueText_of_spells h

def checkNothing (j : Json) : Except Mismatch Json :=
  match j with
  | .null => .ok j
  | _ => .error (.wrongType (found j) .nothing)

theorem readName_of_brace (hn : n ≠ 0) (ha : c.ahead = some '\x7b') :
    readName names n c = (do
      let (s, c) ← readKey names c.skipBlanks.next
      let c ← c.colon
      let (_, c) ← readScalar .nothing checkNothing c
      let c := c.skipBlanks
      match c.rest with
      | [] => .error (c.fault .objectEnds)
      | ch :: _ => if ch = '\x7d' then .ok (s, c.next) else .error (c.fault .notValue)) := by
  obtain ⟨rest, hr⟩ := ahead_eq_some_iff.1 ha
  rw [readName]
  simp only [hr]
  rw [if_neg (by decide), if_pos trivial, if_neg hn]
  rfl

theorem readName_of_other (names : List String) (n : Nat) {ch : Char}
    (ha : c.ahead = some ch) (hq : ch ≠ '"') (hb : ch ≠ '\x7b') :
    ∃ f, readName names n c = .error f := by
  obtain ⟨rest, hr⟩ := ahead_eq_some_iff.1 ha
  rw [readName]
  simp only [hr, if_neg hq, if_neg hb]
  exact ⟨_, rfl⟩

theorem readHead_of_quote {name : String} (ha : c.ahead = some '"')
    (h : c.skipBlanks.next.string = .ok (name, c')) :
    Agrees c' (readHead names c.skipBlanks) (settleHead names false (.string name)) := by
  have hs : c.skipBlanks.scalar = .ok (some (.string name, c')) :=
    scalar_of_string (by rwa [ahead_skipBlanks]) (by rwa [skipBlanks_skipBlanks])
  exact readHead_agrees (V := Spells 0) (.scalar hs)

theorem readKey_of_quote {name : String} (ha : c.ahead = some '"')
    (h : c.skipBlanks.next.string = .ok (name, c')) :
    Agrees c' (readKey names c) (settleHead names false (.string name)) := by
  obtain ⟨rest, hr⟩ := ahead_eq_some_iff.1 ha
  rw [readKey]
  simp only [hr, if_true]
  exact readHead_of_quote ha h

theorem spells_succ_of_bracket (h : Spells n c j c') (hs : c.scalar = .ok none) : n ≠ 0 := by
  rintro rfl
  have hread := spells_zero h
  simp [hs] at hread

theorem isNothing_eq_true_iff : isNothing false j = true ↔ j = .null := by
  cases j with
  | object ms => cases ms <;> simp [isNothing]
  | _ => simp [isNothing]

theorem settleName_cons_error (names : List String) (name : String) (ms : List (String × Json))
    (h : name ∉ names ∨ j ≠ .null ∨ ms ≠ []) :
    ∃ m, settleName names false (.object ((name, j) :: ms)) = .error m := by
  cases ms with
  | cons m ms => exact ⟨_, rfl⟩
  | nil =>
    rw [settleName]
    split
    case isTrue hn =>
      split
      case isTrue hj =>
        have hj := isNothing_eq_true_iff.1 hj
        simp_all
      case isFalse => exact ⟨_, rfl⟩
    case isFalse => exact ⟨_, rfl⟩

theorem readName_agrees (h : Spells n c j c') :
    Agrees c' (readName names n c) (settleName names false j) := by
  have ht := valueText_of_spells_self h
  cases ht with
  | scalar hs =>
    cases scalarText_of_scalar hs with
    | string ha hstring =>
      obtain ⟨rest, hr⟩ := ahead_eq_some_iff.1 ha
      rw [readName]
      simp only [hr, if_true]
      exact readHead_of_quote ha hstring
    | number ha hd =>
      obtain ⟨f, hf⟩ := readName_of_other names n ha
        (by rintro rfl; contradiction) (by rintro rfl; contradiction)
      rw [hf]
      exact .error f _
    | _ ha =>
      obtain ⟨f, hf⟩ := readName_of_other names n ha (by decide) (by decide)
      rw [hf]
      exact .error f _
  | array hs ha =>
    obtain ⟨f, hf⟩ := readName_of_other names n ha (by decide) (by decide)
    rw [hf]
    exact .error f _
  | @object ms d _ hs ha hms hl hc =>
    rw [readName_of_brace (spells_succ_of_bracket h hs) ha]
    cases hms with
    | nil hnone =>
      obtain ⟨rest, hr⟩ := ahead_eq_some_iff.1 (ahead_of_no_name hnone)
      rw [readKey]
      simp only [hr]
      exact .error _ _
    | @cons _ _ c1 name c2 c3 j c4 ms _ hnext hname hcolon hj hr =>
      obtain ⟨rfl, hq⟩ := ahead_of_first_name hnext
      have hkey : Agrees c2 (readKey names c.skipBlanks.next)
          (if names.contains name then .ok name else .error (.unknownVariant name names)) :=
        readKey_of_quote hq hname
      generalize readKey names c.skipBlanks.next = key at hkey
      by_cases hin : names.contains name
      case neg =>
        obtain ⟨m, hm⟩ := settleName_cons_error names name ms (.inl (by simpa using hin))
        rw [if_neg hin] at hkey
        cases hkey
        rw [hm]
        exact .error _ m
      case pos =>
        rw [if_pos hin] at hkey
        cases hkey
        have hread : Agrees c4 (readScalar .nothing checkNothing c3) (checkNothing j) :=
          readScalar_agrees ⟨fun js => ⟨_, rfl⟩, fun ms => ⟨_, rfl⟩⟩ (valueText_of_spells_self hj)
        simp only [bind, Except.bind, hcolon]
        generalize readScalar .nothing checkNothing c3 = scalar at hread
        by_cases hnull : j = .null
        case neg =>
          obtain ⟨m, hm⟩ := settleName_cons_error names name ms
            (.inr (.inl hnull))
          have hcheck : ∃ m, checkNothing j = .error m := by
            cases j with
            | null => contradiction
            | _ => exact ⟨_, rfl⟩
          obtain ⟨m', hm'⟩ := hcheck
          rw [hm'] at hread
          cases hread
          rw [hm]
          exact .error _ m
        case pos =>
          subst hnull
          cases hread
          simp only
          cases hr with
          | nil hnone =>
            obtain ⟨rest, hr⟩ := ahead_eq_some_iff.1 (ahead_of_no_name hnone)
            obtain ⟨-, rfl⟩ := ahead_of_closeObject hc
            rw [skipBlanks_skipBlanks, settleName, if_pos hin]
            simp only [hr, if_true]
            exact .ok name
          | cons hnext' =>
            obtain ⟨ha', -⟩ := ahead_of_next_name hnext'
            obtain ⟨rest, hr⟩ := ahead_eq_some_iff.1 ha'
            simp only [hr]
            exact .error _ _

theorem closeArray_of_none {first : Bool} (hn : c.nextItem first = .ok none)
    (hc : c.skipBlanks.closeArray = .ok c') : c.closeArray = .ok c' := by
  obtain ⟨rest, hr⟩ := ahead_eq_some_iff.1 (nextItem_eq_none_iff.1 hn)
  rw [closeArray, skipBlanks_skipBlanks] at hc
  exact hc

theorem closeArray_of_some {first : Bool} {c1 : Cursor} (hn : c.nextItem first = .ok (some c1)) :
    ∃ f, c.closeArray = .error f := by
  cases hc : c.closeArray with
  | error f => exact ⟨f, rfl⟩
  | ok c' =>
    have hnone : c.nextItem first = .ok none :=
      nextItem_eq_none_iff.2 (ahead_of_closeArray hc).1
    rw [hn] at hnone
    simp at hnone

section

variable (hR : ∀ {s : Shape} {c c' : Cursor} {j : Json}, c.Sound → Spells n c j c' →
  Agrees c' (read n s c) (settle n false s j))
include hR

theorem readContent_agrees {k : UnionKind} {name : String} (hs : c.Sound) (h : Spells n c j c') :
    Agrees c' (readContent (read n) k name n c) (settleContent (settle n false) k name j) := by
  rw [readContent]
  cases hc : k.content? name with
  | some s =>
    rw [settleContent.eq_def, hc]
    exact hR hs h
  | none => exact readNothing_agrees hc (valueText_of_spells_self h)

theorem readMember_agrees (k : RecordKind) {c1 : Cursor} (hs : c1.Sound) (hc : c.colon = .ok c1)
    (h : Spells n c1 j c') (done : List (String × Json)) (name : String) :
    Agrees c' (readMember (read n) k done name c)
      (settleMember (settle n false) k.fields done (name, j)) := by
  rw [readMember, settleMember]
  cases k.fields.find? (·.name = name) with
  | none =>
    simp only [hc, skipValue_of_spells hs h, bind, Except.bind]
    exact .ok done
  | some f =>
    simp only
    split
    · exact .error _ _
    · simp only [hc, bind, Except.bind]
      exact (readField_agrees (valueText_of_spells_self h) (hR hs h)).bind fun _ => .ok _

theorem readVariantMember_agrees (k : UnionKind) {c1 : Cursor} (hs : c1.Sound)
    (hc : c.colon = .ok c1) (h : Spells n c1 j c') (p : Progress) (key : String) :
    Agrees c' (readVariantMember (read n) k n p key c)
      (settleVariantMember (settle n) k false p (key, j)) := by
  unfold readVariantMember
  rw [settleVariantMember]
  split
  case isTrue hk =>
    cases p with
    | nothing =>
      simp only [hc, settleTag]
      exact (readName_agrees h).bind fun name => .ok _
    | waiting content =>
      simp only [hc, settleTag]
      refine (readName_agrees h).bind fun name => ?_
      cases settleContent (settle n true) k name content with
      | ok c => exact .ok _
      | error m => exact .error _ m
    | _ => exact .error _ _
  case isFalse =>
    split
    case isTrue =>
      cases p with
      | nothing =>
        simp only [hc, settleSecond]
        have hvalue : c1.value (fun members => members) n = .ok (j, c') := h
        simp only [bind, Except.bind, hvalue]
        exact .ok _
      | variant name =>
        simp only [hc, settleSecond]
        exact (readContent_agrees hR hs h).bind fun _ => .ok _
      | _ => exact .error _ _
    case isFalse =>
      simp only [hc, skipValue_of_spells hs h, bind, Except.bind]
      exact .ok p

theorem readItems_agrees (k : RecordKind) (fs : List Field) (done : Nat) {js : List Json}
    {first : Bool} {d : Cursor} (hfirst : decide (done = 0) = first) (hs : c.Sound)
    (h : ItemsText (Spells n) first c js d) (hc : d.closeArray = .ok c') :
    Agrees c' (do
        let (items, c) ← readItems (read n) k done fs c
        let c ← c.closeArray
        .ok (items, c))
      (settleItems (settle n false) k done fs js) := by
  induction fs generalizing done first c js with
  | nil =>
    rw [readItems]
    cases h with
    | nil hnone =>
      simp only [bind, Except.bind, closeArray_of_none hnone hc]
      exact .ok []
    | cons hsome =>
      obtain ⟨f, hf⟩ := closeArray_of_some hsome
      simp only [bind, Except.bind, hf]
      exact .error f _
  | cons f fs ih =>
    subst hfirst
    rw [readItems]
    cases h with
    | nil hnone =>
      rw [hnone, settleItems]
      simp only [ok_bind]
      by_cases hp : f.presence = .required
      · rw [if_pos hp, if_pos hp]
        exact .error _ _
      · rw [if_neg hp, if_neg hp]
        have hnone' : c.nextItem false = .ok none :=
          nextItem_eq_none_iff.2 (nextItem_eq_none_iff.1 hnone)
        exact ih (done + 1) (decide_eq_false (Nat.succ_ne_zero done)) hs (.nil hnone')
    | @cons _ _ c1 j c2 js _ hsome hj hr =>
      have hs1 : c1.Sound := (Follows.nextItem hsome).sound hs
      rw [hsome, settleItems]
      simp only [ok_bind, bind_assoc]
      refine (readField_agrees (valueText_of_spells_self hj) (hR hs1 hj)).bind fun d => ?_
      have hs2 : c2.Sound := (Follows.spells hj).sound hs1
      have hrest := (ih (done + 1) (decide_eq_false (Nat.succ_ne_zero done)) hs2 hr).map (d :: ·)
      simpa only [bind_assoc, ok_bind] using hrest

theorem readPair_agrees {k : UnionKind} {js : List Json} {d : Cursor} (hs : c.Sound)
    (h : ItemsText (Spells n) true c js d) (hc : d.closeArray = .ok c') :
    Agrees c' (do
        let (j, c) ← readPair (read n) k n c
        let c ← c.closeArray
        .ok (j, c))
      (settlePair (settle n) k false js) := by
  rw [readPair]
  cases h with
  | nil hnone =>
    rw [hnone]
    exact .error _ _
  | @cons _ _ c1 head c2 js _ hsome hhead hr =>
    have hs1 : c1.Sound := (Follows.nextItem hsome).sound hs
    have hs2 : c2.Sound := (Follows.spells hhead).sound hs1
    rw [hsome, settlePair]
    simp only [ok_bind, bind_assoc]
    refine (readHead_agrees (valueText_of_spells_self hhead)).bind fun name => ?_
    cases hr with
    | nil hnone =>
      rw [hnone]
      exact .error _ _
    | @cons _ _ c3 j c4 js _ hsome' hj hr =>
      have hs3 : c3.Sound := (Follows.nextItem hsome').sound hs2
      rw [hsome']
      simp only [ok_bind, bind_assoc]
      refine (readContent_agrees hR hs3 hj).bind fun v => ?_
      cases hr with
      | nil hnone =>
        simp only [bind, Except.bind, closeArray_of_none hnone hc]
        exact .ok _
      | cons hsome'' =>
        obtain ⟨f, hf⟩ := closeArray_of_some hsome''
        simp only [bind, Except.bind, hf]
        exact .error f _

end

theorem readBracket_array {e : Expected} (hb : c.scalar = .ok none) (ha : c.ahead = some '[') :
    readBracket e c = .ok (.array, c.skipBlanks) := by
  rw [ahead] at ha
  rw [readBracket, hb]
  simp only [ok_bind, if_pos ha]

theorem readBracket_object {e : Expected} (hb : c.scalar = .ok none)
    (ha : c.ahead = some '\x7b') : readBracket e c = .ok (.object, c.skipBlanks) := by
  rw [ahead] at ha
  rw [readBracket, hb]
  simp [ok_bind, ha]

theorem readBracket_scalar {e : Expected} (hs : c.scalar = .ok (some (j, c'))) :
    readBracket e c = .error (c'.fault (.mismatch (.wrongType (found j) e))) := by
  rw [readBracket, hs]
  rfl

theorem read_choice_agrees {k : ChoiceKind} (h : Spells n c j c') :
    Agrees c' (read n (.choice k) c) (settle n false (.choice k) j) := by
  have hset : settle n false (.choice k) j =
      settleName k.names false j >>= fun name => .ok (.string name) := by
    cases n <;> rfl
  rw [read, hset]
  exact (readName_agrees h).map Json.string

def Shape.IsPlain : Shape → Prop
  | .list _ => False
  | .record _ => False
  | .union _ => False
  | .choice _ => False
  | _ => True

theorem read_of_isPlain {s : Shape} (h : s.IsPlain) (n : Nat) (c : Cursor) :
    read n s c = readScalar s.expected (settleScalar s) c := by
  cases s with
  | list | record | union | choice => exact h.elim
  | _ => cases n <;> rfl

theorem settle_of_scalarText {s : Shape} (h : ScalarText c j c') (hs : ∀ k, s ≠ .choice k) :
    settle n false s j = settleScalar s j := by
  rw [settle.eq_def]
  split
  case h_6 k => exact absurd rfl (hs k)
  case h_7 => rfl
  all_goals cases h

theorem read_scalar_agrees {s : Shape} (hs : c.scalar = .ok (some (j, c'))) (h : Spells n c j c') :
    Agrees c' (read n s c) (settle n false s j) := by
  have hj := scalarText_of_scalar hs
  cases s with
  | choice k => exact read_choice_agrees h
  | list item =>
    rw [read, readBracket_scalar hs, settle_of_scalarText hj (by simp)]
    exact .error _ _
  | record k =>
    rw [read, readBracket_scalar hs, settle_of_scalarText hj (by simp)]
    exact .error _ _
  | union k =>
    rw [read, readBracket_scalar hs, settle_of_scalarText hj (by simp)]
    exact .error _ _
  | _ =>
    rw [settle_of_scalarText hj (by simp), read_of_isPlain]
    · exact readScalar_agrees (refusesBrackets_settleScalar _) (valueText_of_spells_self h)
    · trivial

theorem read_agrees {s : Shape} (hs : c.Sound) (h : Spells n c j c') :
    Agrees c' (read n s c) (settle n false s j) := by
  induction n generalizing s c c' j with
  | zero => exact read_scalar_agrees (spells_zero h) h
  | succ n ih =>
    cases valueText_of_spells h with
    | scalar hscalar => exact read_scalar_agrees hscalar h
    | @array js d _ hb ha hjs hl hc =>
      have hs1 : c.skipBlanks.next.Sound := ((Follows.skipBlanks c).trans (.next _)).sound hs
      cases s with
      | list item =>
        rw [read, readBracket_array hb ha, settle]
        exact foldItems_agrees .spells (fun hs h => ih hs h) hs1 hjs hc (Nat.lt_succ_of_le hl) []
      | record k =>
        rw [read, readBracket_array hb ha, settle]
        have hitems := readItems_agrees (fun hs h => ih hs h) k k.fields 0 rfl hs1 hjs hc
        simpa only [ok_bind, bind_assoc] using hitems.map array
      | union k =>
        rw [read, readBracket_array hb ha, settle]
        exact readPair_agrees (fun hs h => ih hs h) hs1 hjs hc
      | choice k => exact read_choice_agrees h
      | _ => exact readScalar_agrees (refusesBrackets_settleScalar _) (valueText_of_spells h)
    | @object ms d _ hb ha hms hl hc =>
      have hs1 : c.skipBlanks.next.Sound := ((Follows.skipBlanks c).trans (.next _)).sound hs
      cases s with
      | list item =>
        have hset : settle (n + 1) false (.list item) (.object ms) =
            .error (Shape.refuse (.list item) (.object ms)) := rfl
        rw [read, readBracket_object hb ha, hset]
        exact .error _ _
      | record k =>
        have hmembers := foldMembers_agrees .spells
          (fun hs hc hj => readMember_agrees (fun hs h => ih hs h) k hs hc hj) hs1 hms
          (Nat.lt_succ_of_le hl) []
        rw [read, readBracket_object hb ha, settle, settleMembers_eq_foldlM]
        simp only [ok_bind, bind_assoc]
        refine hmembers.bind fun done => ?_
        rw [finishMembers]
        cases firstMissing k.fields done with
        | some f => exact .error _ _
        | none =>
          simp only [ok_bind, hc]
          exact .ok _
      | union k =>
        have hmembers := foldMembers_agrees .spells
          (fun hs hc hj => readVariantMember_agrees (fun hs h => ih hs h) k hs hc hj) hs1 hms
          (Nat.lt_succ_of_le hl) .nothing
        rw [read, readBracket_object hb ha, settle, settleVariant_eq_foldlM]
        refine hmembers.bind fun p => ?_
        simp only
        cases finishVariant k p with
        | error m => exact .error _ m
        | ok j =>
          simp only [ok_bind, hc]
          exact .ok j
      | choice k => exact read_choice_agrees h
      | _ => exact readScalar_agrees (refusesBrackets_settleScalar _) (valueText_of_spells h)

end

end TemplateQuery.Schema
