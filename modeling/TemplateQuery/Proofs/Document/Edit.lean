import Mathlib.Logic.Relation
import TemplateQuery.Proofs.Document.Value
import TemplateQuery.Proofs.Schema.Held
import TemplateQuery.Proofs.Schema.Replace

namespace TemplateQuery.Schema

open Json

def Field.IsDefault (f : Field) (held : Bool) (j : Json) : Prop :=
  ∃ c d, settleField (settle j.depth held) f j = .ok c ∧ f.decode c = some d ∧ f.absent? = some d

def HoldsBack (k : UnionKind) (ms : List (String × Json)) : Prop :=
  (known k.keyNames ms).map Prod.fst = [k.keys.2, k.keys.1]

inductive Edit : Bool → Shape → Json → Json → Prop
  | item {held s j j'} (before after) (h : Edit held s j j') :
    Edit held (.list s) (.array (before ++ j :: after)) (.array (before ++ j' :: after))
  | itemField {held k f j j'} (before after) (hf : k.fields[before.length]? = some f)
    (h : Edit held f.shape j j') :
    Edit held (.record k) (.array (before ++ j :: after)) (.array (before ++ j' :: after))
  | lastField {held k f j} (before) (hf : k.fields[before.length]? = some f)
    (hd : f.IsDefault held j) : Edit held (.record k) (.array (before ++ [j])) (.array before)
  | member {held k f j j'} (before after) (hf : f ∈ k.fields) (h : Edit held f.shape j j') :
    Edit held (.record k) (.object (before ++ (f.name, j) :: after))
      (.object (before ++ (f.name, j') :: after))
  | leaveOut {held k f j} (before after) (hf : f ∈ k.fields) (hd : f.IsDefault held j) :
    Edit held (.record k) (.object (before ++ (f.name, j) :: after)) (.object (before ++ after))
  | members {held k ms ms'} (h : (known k.fieldNames ms).Perm (known k.fieldNames ms')) :
    Edit held (.record k) (.object ms) (.object ms')
  | second {held k head name s j j'} (hh : settleHead k.variantNames held head = .ok name)
    (hs : k.content? name = some s) (h : Edit held s j j') :
    Edit held (.union k) (.array [head, j]) (.array [head, j'])
  | content {held k t name s j j'} (before after) (ht : (k.keys.1, t) ∈ before ++ after)
    (hn : settleName k.variantNames held t = .ok name) (hs : k.content? name = some s)
    (h : Edit (held || k.keys.1 ∉ before.map Prod.fst) s j j') :
    Edit held (.union k) (.object (before ++ (k.keys.2, j) :: after))
      (.object (before ++ (k.keys.2, j') :: after))
  | variantMembers {held k ms ms'} (h : (known k.keyNames ms).Perm (known k.keyNames ms'))
    (hh : held = false → HoldsBack k ms → ¬ NeedsHolding (.union k) (.object ms')) :
    Edit held (.union k) (.object ms) (.object ms')

def RecordKind.CanLack (k : RecordKind) (name : String) : Prop :=
  match k with
  | .diagnostic => name = "level"
  | .span => name = "details"
  | .location => False
  | .extent => False
  | .absoluteExtent => False
  | .sourcedExpr => name ∈ ["source", "location", "absolute_offset", "errors"]
  | .mapKey => name = "quoted"
  | k => k ∈ UnionKind.exprRecords → name ∈ [
      "span", "source_span", "name_span", "args", "argument_span", "has_trailing_comma"]

theorem isSome_absent?_iff {k : RecordKind} {f : Field} (hf : f ∈ k.fields) :
    f.absent?.isSome ↔ k.CanLack f.name := by
  revert f
  cases k <;> simp only [RecordKind.CanLack] <;> decide

theorem settleField_iff {held : Bool} {f : Field} {j c : Json} :
    settleField (settle j.depth held) f j = .ok c ↔ FieldStep (Settles held) f j c :=
  settleField_eq_ok_iff.trans ⟨fun h => h.imp id, fun h => h.imp id⟩

namespace Field.IsDefault

variable {f : Field} {held : Bool} {j c : Json}

theorem not_required (h : f.IsDefault held j) : f.presence ≠ .required := by
  obtain ⟨-, d, -, -, habsent⟩ := h
  intro hp
  obtain ⟨name, s, presence⟩ := f
  obtain rfl : presence = .required := hp
  contradiction

theorem decode_eq (h : f.IsDefault held j) (hc : FieldStep (Settles held) f j c) :
    f.decode c = f.absent? := by
  obtain ⟨c', d, hc', hdecode, habsent⟩ := h
  obtain rfl : c' = c := Except.ok.inj (hc'.symm.trans (settleField_iff.2 hc))
  rw [hdecode, habsent]

end Field.IsDefault

namespace RecordKind

variable {k : RecordKind} {f : Field} {n : Nat} {front back : List Json} {c : Json}

theorem fieldNames_eq_middle (hf : k.fields[n]? = some f) :
    k.fieldNames = k.fieldNames.take n ++ f.name :: k.fieldNames.drop (n + 1) := by
  have hname : k.fieldNames[n]? = some f.name := by
    rw [fieldNames, List.getElem?_map, hf, Option.map_some]
  obtain ⟨hn, hname⟩ := List.getElem?_eq_some_iff.1 hname
  rw [← hname, ← List.drop_eq_getElem_cons hn, List.take_append_drop]

theorem length_take (hf : k.fields[n]? = some f) : (k.fieldNames.take n).length = n := by
  have hn : n < k.fields.length := (List.getElem?_eq_some_iff.1 hf).1
  rw [List.length_take, fieldNames, List.length_map, min_eq_left hn.le]

theorem zip_middle (hf : k.fields[front.length]? = some f) :
    k.fieldNames.zip (front ++ c :: back) =
      (k.fieldNames.take front.length).zip front ++
        (f.name, c) :: (k.fieldNames.drop (front.length + 1)).zip back := by
  conv_lhs => rw [fieldNames_eq_middle hf, List.zip_append (length_take hf), List.zip_cons_cons]

theorem zip_front (hf : k.fields[front.length]? = some f) :
    k.fieldNames.zip front = (k.fieldNames.take front.length).zip front := by
  have hz : (k.fieldNames.take front.length ++
      f.name :: k.fieldNames.drop (front.length + 1)).zip (front ++ []) = _ :=
    List.zip_append (length_take hf)
  rwa [← fieldNames_eq_middle hf, List.append_nil, List.zip_nil_right, List.append_nil] at hz

theorem not_mem_zip_front (hf : k.fields[front.length]? = some f) :
    f.name ∉ ((k.fieldNames.take front.length).zip front).map Prod.fst := by
  intro hin
  obtain ⟨m, hm, he⟩ := List.mem_map.1 hin
  have hfront : f.name ∈ k.fieldNames.take front.length := he ▸ (List.of_mem_zip hm).1
  have hnodup := k.nodup_fieldNames
  rw [fieldNames_eq_middle hf, List.nodup_append] at hnodup
  exact hnodup.2.2 _ hfront _ (by simp) rfl

end RecordKind

def Keeps (held : Bool) (s : Shape) (v v' : Json) : Prop :=
  ∀ c, Settles held s v c → ∃ c', Settles held s v' c' ∧ s.decode c = s.decode c'

namespace Keeps

variable {held : Bool} {s : Shape} {f : Field} {j j' : Json}

theorem item {before after : List Json} (h : Keeps held s j j') :
    Keeps held (.list s) (.array (before ++ j :: after)) (.array (before ++ j' :: after)) := by
  intro c hc
  obtain ⟨cs, hcs, rfl⟩ := settles_list_iff.1 hc
  obtain ⟨front, d, back, rfl, hfront, hd, hback⟩ := exists_of_forall₂_middle hcs
  obtain ⟨d', hd', hdecode⟩ := h d hd
  exact ⟨_, settles_list_iff.2 ⟨_, List.rel_append hfront (.cons hd' hback), rfl⟩,
    list?_middle hdecode⟩

theorem field (h : Keeps held f.shape j j') (hj : j ≠ .null) (hj' : j' ≠ .null) {c : Json}
    (hc : FieldStep (Settles held) f j c) :
    ∃ c', FieldStep (Settles held) f j' c' ∧ f.decode c = f.decode c' := by
  cases hc with
  | null hf => contradiction
  | value hf hc =>
    obtain ⟨c', hc', hdecode⟩ := h c hc
    exact ⟨c', .value (fun _ => hj') hc', Field.decode_congr hdecode hc.ne_null hc'.ne_null⟩

variable {k : RecordKind}

theorem itemField {before after : List Json} (hf : k.fields[before.length]? = some f)
    (h : Keeps held f.shape j j') (hj : j ≠ .null) (hj' : j' ≠ .null) :
    Keeps held (.record k) (.array (before ++ j :: after)) (.array (before ++ j' :: after)) := by
  intro c hc
  obtain ⟨cs, hcs, rfl⟩ := settles_items_iff.1 hc
  obtain ⟨front, d, back, rfl, hl, hd, hreplace⟩ := hcs.exists_middle hf
  obtain ⟨d', hd', hdecode⟩ := h.field hj hj' hd
  have hcs' := hreplace j' d' hd'
  refine ⟨_, settles_items_iff.2 ⟨_, hcs', rfl⟩, ?_⟩
  have hmem : f ∈ k.fields := List.mem_of_getElem? hf
  refine RecordKind.decode_congr k (RecordKind.read?_array hcs.length_le)
    (RecordKind.read?_array hcs'.length_le) fun g hg => ?_
  rw [← hl] at hf
  rw [RecordKind.zip_middle hf, RecordKind.zip_middle hf]
  exact Field.valueIn_replace k.nodup_fieldNames hmem hg hdecode

theorem lastField {before : List Json} (hf : k.fields[before.length]? = some f)
    (hd : f.IsDefault held j) :
    Keeps held (.record k) (.array (before ++ [j])) (.array before) := by
  intro c hc
  obtain ⟨cs, hcs, rfl⟩ := settles_items_iff.1 hc
  obtain ⟨front, d, rfl, hl, hstep, hfront⟩ := hcs.exists_last hf hd.not_required
  refine ⟨_, settles_items_iff.2 ⟨_, hfront, rfl⟩, ?_⟩
  have hmem : f ∈ k.fields := List.mem_of_getElem? hf
  refine RecordKind.decode_congr k (RecordKind.read?_array hcs.length_le)
    (RecordKind.read?_array hfront.length_le) fun g hg => ?_
  rw [← hl] at hf
  have hnot : f.name ∉ ((k.fieldNames.take front.length).zip front ++ []).map Prod.fst := by
    rw [List.append_nil]
    exact RecordKind.not_mem_zip_front hf
  have hvalue := Field.valueIn_leaveOut k.nodup_fieldNames hmem hg (hd.decode_eq hstep) hnot
  rw [List.append_nil] at hvalue
  rw [RecordKind.zip_middle hf, List.zip_nil_right, hvalue, RecordKind.zip_front hf]

theorem member {before after : List (String × Json)} (hf : f ∈ k.fields)
    (h : Keeps held f.shape j j') (hj : j ≠ .null) (hj' : j' ≠ .null) :
    Keeps held (.record k) (.object (before ++ (f.name, j) :: after))
      (.object (before ++ (f.name, j') :: after)) := by
  intro c hc
  obtain ⟨cs, hcs, rfl⟩ := settles_members_iff.1 hc
  obtain ⟨front, d, back, rfl, hd, hreplace⟩ := hcs.replace k.nodup_fieldNames hf
  obtain ⟨d', hd', hdecode⟩ := h.field hj hj' hd
  refine ⟨_, settles_members_iff.2 ⟨_, hreplace j' d' hd', rfl⟩, ?_⟩
  exact RecordKind.decode_congr k (k.read?_object _) (k.read?_object _)
    fun g hg => Field.valueIn_replace k.nodup_fieldNames hf hg hdecode

theorem leaveOut {before after : List (String × Json)} (hf : f ∈ k.fields)
    (hd : f.IsDefault held j) :
    Keeps held (.record k) (.object (before ++ (f.name, j) :: after))
      (.object (before ++ after)) := by
  intro c hc
  obtain ⟨cs, hcs, rfl⟩ := settles_members_iff.1 hc
  obtain ⟨front, d, back, rfl, hstep, hrest⟩ :=
    hcs.leaveOut k.nodup_fieldNames hf hd.not_required
  refine ⟨_, settles_members_iff.2 ⟨_, hrest, rfl⟩, ?_⟩
  have hnodup := hcs.nodup_settled
  have hnot : f.name ∉ (front ++ back).map Prod.fst := by
    rw [List.map_append, List.map_cons] at hnodup
    have hmiddle := (List.perm_middle.nodup_iff.1 hnodup)
    rw [List.map_append]
    exact (List.nodup_cons.1 hmiddle).1
  exact RecordKind.decode_congr k (k.read?_object _) (k.read?_object _)
    fun g hg => Field.valueIn_leaveOut k.nodup_fieldNames hf hg (hd.decode_eq hstep) hnot

theorem members {ms ms' : List (String × Json)}
    (h : (known k.fieldNames ms).Perm (known k.fieldNames ms')) :
    Keeps held (.record k) (.object ms) (.object ms') := by
  intro c hc
  obtain ⟨cs, hcs, rfl⟩ := settles_members_iff.1 hc
  obtain ⟨cs', hperm, hcs'⟩ := hcs.exists_perm h
  refine ⟨_, settles_members_iff.2 ⟨_, hcs', rfl⟩, ?_⟩
  exact RecordKind.decode_congr k (k.read?_object _) (k.read?_object _)
    fun g hg => Field.valueIn_eq_of_lookup (lookup_eq_of_perm hperm hcs.nodup_settled g.name)

section

variable {k : UnionKind} {name : String} {c : Json}

theorem ofContent (hs : k.content? name = some s) (h : Keeps held s j j')
    (hc : ContentStep (Settles held) k name j c) :
    ∃ c', ContentStep (Settles held) k name j' c' ∧
      k.decode (k.write name c) = k.decode (k.write name c') := by
  cases hc with
  | value hs' hc =>
    obtain rfl := Option.some.inj (hs.symm.trans hs')
    obtain ⟨c', hc', hdecode⟩ := h c hc
    exact ⟨c', .value hs hc', UnionKind.decode_write_congr hs hdecode⟩
  | bare hn =>
    rw [hs] at hn
    contradiction

theorem second {head : Json} (hh : settleHead k.variantNames held head = .ok name)
    (hs : k.content? name = some s) (h : Keeps held s j j') :
    Keeps held (.union k) (.array [head, j]) (.array [head, j']) := by
  intro c hc
  obtain ⟨name', d, hh', hd, rfl⟩ := settles_pair_iff.1 hc
  obtain rfl : name = name' := Except.ok.inj (hh.symm.trans hh')
  obtain ⟨d', hd', hdecode⟩ := h.ofContent hs hd
  exact ⟨_, settles_pair_iff.2 ⟨name, d', hh, hd', rfl⟩, hdecode⟩

theorem content {before after : List (String × Json)} {t : Json}
    (ht : (k.keys.1, t) ∈ before ++ after) (hn : settleName k.variantNames held t = .ok name)
    (hs : k.content? name = some s)
    (h : Keeps (held || k.keys.1 ∉ before.map Prod.fst) s j j') :
    Keeps held (.union k) (.object (before ++ (k.keys.2, j) :: after))
      (.object (before ++ (k.keys.2, j') :: after)) := by
  intro c hc
  have hknown : ∀ i, known k.keyNames (before ++ (k.keys.2, i) :: after) =
      known k.keyNames before ++ (k.keys.2, i) :: known k.keyNames after := by
    intro i
    rw [known_append, known_cons_of_mem (by simp [UnionKind.keyNames])]
  have hmem : (k.keys.1, t) ∈ known k.keyNames before ++ known k.keyNames after := by
    rw [← known_append]
    exact mem_known_iff.2 ⟨ht, by simp [UnionKind.keyNames]⟩
  have hback : decide (k.keys.1 ∉ (known k.keyNames before).map Prod.fst) =
      decide (k.keys.1 ∉ before.map Prod.fst) :=
    decide_eq_decide.2 (not_congr (name_mem_known (by simp [UnionKind.keyNames])))
  have hstep := settles_variant_iff.1 hc
  rw [hknown] at hstep
  obtain ⟨t', name', d, htag, hn', rfl, hd, hreplace⟩ := hstep.replace
  obtain rfl : t = t' := htag t hmem
  obtain rfl : name = name' := Except.ok.inj (hn.symm.trans hn')
  rw [hback] at hd hreplace
  obtain ⟨d', hd', hdecode⟩ := h.ofContent hs hd
  refine ⟨_, settles_variant_iff.2 ?_, hdecode⟩
  rw [hknown]
  exact hreplace j' d' hd'

theorem variantMembers {ms ms' : List (String × Json)}
    (h : (known k.keyNames ms).Perm (known k.keyNames ms'))
    (hh : held = false → HoldsBack k ms → ¬ NeedsHolding (.union k) (.object ms')) :
    Keeps held (.union k) (.object ms) (.object ms') := by
  intro c hc
  refine ⟨c, settles_variant_iff.2 ?_, rfl⟩
  have hstep := settles_variant_iff.1 hc
  generalize hm : known k.keyNames ms = members at h hstep
  cases hstep with
  | bare ht hn =>
    rw [← List.singleton_perm.1 h]
    exact .bare ht hn
  | tagFirst ht hd =>
    rcases List.pair_perm.1 h with hm' | hm'
    · rw [hm']
      exact .tagFirst ht hd
    · rw [hm']
      exact .contentFirst ht (hd.imp fun s _ hs => hs.of_held (.inl fun _ => rfl))
  | contentFirst ht hd =>
    rcases List.pair_perm.1 h with hm' | hm'
    · rw [hm']
      exact .contentFirst ht hd
    · rw [hm']
      refine .tagFirst ht (hd.imp fun s hs hsettles => hsettles.of_held ?_)
      cases held with
      | true => exact .inl id
      | false =>
        have hback : HoldsBack k ms := by
          rw [HoldsBack, hm]
          rfl
        refine .inr fun hneeds => hh rfl hback (.part (.tagFirst hm' ?_ hs) hneeds)
        exact settleName_of_held ht (.inl fun _ => rfl)

end

end Keeps

namespace Edit

variable {held : Bool} {s : Shape} {v v' : Json}

theorem ne_null (h : Edit held s v v') : v ≠ .null ∧ v' ≠ .null := by
  cases h <;> exact ⟨nofun, nofun⟩

theorem keeps (h : Edit held s v v') : Keeps held s v v' := by
  induction h with
  | item before after he ih => exact ih.item
  | itemField before after hf he ih => exact ih.itemField hf he.ne_null.1 he.ne_null.2
  | lastField before hf hd => exact .lastField hf hd
  | member before after hf he ih => exact ih.member hf he.ne_null.1 he.ne_null.2
  | leaveOut before after hf hd => exact .leaveOut hf hd
  | members h => exact .members h
  | second hh hs he ih => exact ih.second hh hs
  | content before after ht hn hs he ih => exact ih.content ht hn hs
  | variantMembers h hh => exact .variantMembers h hh

end Edit

end TemplateQuery.Schema

namespace TemplateQuery.ParsedTemplate

open Json Schema

theorem ofValue?_of_edit {v v' : Json} {t : ParsedTemplate} (h : ofValue? v = some t)
    (he : Edit false (.record .document) v v') : ofValue? v' = some t := by
  obtain ⟨c, hc, hread⟩ := exists_settles_of_ofValue? h
  obtain ⟨c', hc', hdecode⟩ := he.keeps c hc
  have hread' : ofJson? c = ofJson? c' := hdecode
  rw [ofValue?, ofValue?_of_settles hc', ← hread', hread]

theorem ofValue?_of_edits :
    (∀ (k : RecordKind) (f : Field), f ∈ k.fields → (f.absent?.isSome ↔ k.CanLack f.name)) ∧
      ∀ {v v' : Json} {t : ParsedTemplate}, ofValue? v = some t →
        Relation.ReflTransGen (Edit false (.record .document)) v v' → ofValue? v' = some t := by
  refine ⟨fun k f hf => isSome_absent?_iff hf, fun {v v' t} h he => ?_⟩
  induction he with
  | refl => exact h
  | tail _ hedit ih => exact ofValue?_of_edit ih hedit

def documentOf (node : Json) (rest : List (String × Json)) : Json :=
  .object (("nodes", .array [node]) :: rest)

theorem edit_documentOf {node node' : Json} (h : Edit false (.union .node) node node') :
    Edit false (.record .document) (documentOf node []) (documentOf node' []) :=
  .member [] [] (by decide : nodeList "nodes" ∈ RecordKind.document.fields) (.item [] [] h)

theorem ofValue?_of_edits_sample :
    ofValue? (documentOf (.object [("type", .string "Text"),
      ("data", .object [("value", .string "")])]) [("errors", .array [])]) =
        some { nodes := [.text {}] } ∧
    ofValue? (documentOf (.object [("data", .object []), ("more", .null),
      ("type", .string "Text")]) []) = some { nodes := [.text {}] } := by
  have hread : ofValue? (documentOf (.object [("type", .string "Text"),
      ("data", .object [("value", .string "")])]) [("errors", .array [])]) =
        some { nodes := [.text {}] } := rfl
  have herrors : ∀ node, Edit false (.record .document)
      (documentOf node [("errors", .array [])]) (documentOf node []) := fun node =>
    .leaveOut [("nodes", .array [node])] []
      (by decide : optional "errors" (.list (.record .diagnostic)) ∈ RecordKind.document.fields)
      ⟨.array [], [], rfl, rfl, rfl⟩
  have hvalue : Edit false (.union .node)
      (.object [("type", .string "Text"), ("data", .object [("value", .string "")])])
      (.object [("type", .string "Text"), ("data", .object [])]) := by
    refine Edit.content [("type", .string "Text")] [] (List.mem_singleton.2 rfl) rfl rfl ?_
    exact .leaveOut [] [] (by decide : optional "value" .string ∈ RecordKind.text.fields)
      ⟨.string "", "", rfl, rfl, rfl⟩
  have horder : Edit false (.union .node)
      (.object [("type", .string "Text"), ("data", .object [])])
      (.object [("data", .object []), ("more", .null), ("type", .string "Text")]) := by
    refine Edit.variantMembers (List.Perm.swap ..) fun _ hback => ?_
    have hne : ["type", "data"] ≠ ["data", "type"] := by decide
    exact absurd hback hne
  exact ⟨hread, ofValue?_of_edits.2 hread <| .head (herrors _) <| .head (edit_documentOf hvalue) <|
    .single (edit_documentOf horder)⟩

def contentFirst : List (String × Json) :=
  let child : Json :=
    .object [("data", .object [("value", .string "x")]), ("type", .object [("Text", .object [])])]
  [("data", .object [("children", .array [child])]), ("type", .string "Element")]

theorem not_ofValue?_of_reordered :
    contentFirst.Perm contentFirst.reverse ∧
      ofValue? (documentOf (.object contentFirst) []) =
        some { nodes := [.element { children := [.text { value := "x" }] }] } ∧
      ofValue? (documentOf (.object contentFirst.reverse) []) = none :=
  ⟨(List.reverse_perm _).symm, rfl, rfl⟩

end TemplateQuery.ParsedTemplate
