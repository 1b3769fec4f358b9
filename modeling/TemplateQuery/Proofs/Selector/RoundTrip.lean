import TemplateQuery.Proofs.Selector.Backslash

namespace TemplateQuery.Selector

variable {s : Selector} {L : List Selector} {text : String}

theorem rereadAttributes_of_isQuotable (h : ∀ a ∈ s.attributes, IsQuotable a.2) :
    s.rereadAttributes = s := by
  have hm : s.attributes.map rereadAttribute = s.attributes := by
    refine (List.map_congr_left fun a ha => ?_).trans (List.map_id _)
    exact rereadAttribute_of_isQuotable (h a ha)
  cases s
  simpa [rereadAttributes] using hm

theorem rereadAll_of_isQuotable (h : ∀ a ∈ s.allAttributes, IsQuotable a.2) : s.rereadAll = s := by
  have hs : s.rereadAttributes = s :=
    rereadAttributes_of_isQuotable fun a ha => h a (List.mem_append_left _ ha)
  have hn : s.negations.map rereadAttributes = s.negations := by
    refine (List.map_congr_left fun n hn => ?_).trans (List.map_id _)
    refine rereadAttributes_of_isQuotable fun a ha => h a (List.mem_append_right _ ?_)
    exact List.mem_flatMap_of_mem hn ha
  rw [rereadAll, hs, hn]
  cases s
  rfl

theorem map_rereadAll_eq_self (h : ∀ s ∈ L, ∀ a ∈ s.allAttributes, IsQuotable a.2) :
    L.map rereadAll = L :=
  (List.map_congr_left fun s hs => rereadAll_of_isQuotable (h s hs)).trans (List.map_id _)

theorem eq_of_map_eq_self {α : Type} {f : α → α} {l : List α} (h : l.map f = l) :
    ∀ a ∈ l, f a = a := by
  rw [← List.map_id l, List.map_map] at h
  exact List.map_inj_left.1 h

theorem rereadAttribute_of_rereadAll (h : s.rereadAll = s) :
    ∀ a ∈ s.allAttributes, rereadAttribute a = a := by
  have ha : s.attributes.map rereadAttribute = s.attributes := congrArg attributes h
  have hn : s.negations.map rereadAttributes = s.negations := congrArg negations h
  intro a hm
  rcases List.mem_append.1 hm with hm | hm
  · exact eq_of_map_eq_self ha a hm
  · obtain ⟨n, hnm, han⟩ := List.mem_flatMap.1 hm
    exact eq_of_map_eq_self (congrArg attributes (eq_of_map_eq_self hn n hnm)) a han

theorem isQuotable_of_rereadAttribute {a : String × String} (ha : IsRead a)
    (h : rereadAttribute a = a) : IsQuotable a.2 := by
  rintro ⟨hq, hb | hs⟩
  · exact ha.2.2.2 ⟨hq, hb⟩
  · have hr : reread a.2.toList = '\x27' :: a.2.toList ++ ['\x27'] := if_pos ⟨hq, hs⟩
    have hl := congrArg (fun b => b.2.toList.length) h
    simp only [rereadAttribute, String.toList_ofList, hr] at hl
    simp only [List.length_append, List.length_cons, List.length_nil] at hl
    omega

theorem isWritable_of_names (hL : ∀ s ∈ L, Complete IsRead s)
    (h : ∀ s ∈ L, ∀ a ∈ s.allAttributes, a.1 ≠ "") : ∀ s ∈ L, Complete IsWritable s := by
  intro s hs
  exact (hL s hs).mono fun a ha hr => ⟨hr, h s hs a ha⟩

theorem reparse_iff (h : parse text = .ok L) :
    parse (joinText L) = .ok L ↔
      ∀ s ∈ L, ∀ a ∈ s.allAttributes, a.1 ≠ "" ∧ IsQuotable a.2 := by
  have hL : ∀ s ∈ L, Complete IsRead s := complete_of_parse h
  have hne : L ≠ [] := ne_nil_of_parse h
  constructor
  · intro hr
    have hn := names_ne_empty hL hr
    rw [parse_joinText hne (isWritable_of_names hL hn)] at hr
    have he := eq_of_map_eq_self (Except.ok.inj hr)
    intro s hs a ha
    have hread : IsRead a := (hL s hs).forall_mem_allAttributes a ha
    have hq := rereadAttribute_of_rereadAll (he s hs) a ha
    exact ⟨hn s hs a ha, isQuotable_of_rereadAttribute hread hq⟩
  · intro ha
    have hn : ∀ s ∈ L, ∀ a ∈ s.allAttributes, a.1 ≠ "" := fun s hs a hm => (ha s hs a hm).1
    rw [parse_joinText hne (isWritable_of_names hL hn),
      map_rereadAll_eq_self fun s hs a hm => (ha s hs a hm).2]

theorem reparse_quoted :
    ∃ L, parse "a.B[c=\"D,E]\"]:not(F) , [g\\$=h\"I']" = .ok L ∧ parse (joinText L) = .ok L := by
  have h : parse "a.B[c=\"D,E]\"]:not(F) , [g\\$=h\"I']" =
      .ok [{ element := some "a", classNames := ["b"], attributes := [("c", "d,e]")],
             negations := [{ element := some "F" }] },
           { attributes := [("g$", "h\"i'")] }] := by
    decide +kernel
  exact ⟨_, h, (reparse_iff h).2 (by decide +kernel)⟩

theorem reparse_fails :
    (∃ L, parse "[\\]" = .ok L ∧ parse (joinText L) = .error (.empty "[]")) ∧
      ∃ L, parse "[a=\"x'y]" = .ok L ∧ parse (joinText L) ≠ .ok L ∧
        parse (joinText L) = .ok [{ attributes := [("a", "'\"x'y'")] }] := by
  constructor
  · exact ⟨[{ attributes := [("", "")] }], by decide +kernel⟩
  · exact ⟨[{ attributes := [("a", "\"x'y")] }], by decide +kernel⟩

theorem parse_joinText_of_canonical (hne : L ≠ []) (hL : ∀ s ∈ L, Canonical s) :
    parse (joinText L) = .ok L := by
  have hw : ∀ s ∈ L, Complete IsWritable s := fun s hs =>
    (hL s hs).mono fun _ _ ha => isWritable_of_canonical ha
  have hq : ∀ s ∈ L, ∀ a ∈ s.allAttributes, IsQuotable a.2 := fun s hs a ha =>
    ((hL s hs).forall_mem_allAttributes a ha).2.2.2
  rw [parse_joinText hne hw, map_rereadAll_eq_self hq]

theorem parse_joinText_quotes :
    ∃ L, L ≠ [] ∧ (∀ s ∈ L, Canonical s) ∧
      joinText L = "*:not():not(P.x), a-b.é[data.*\\$=\"x'y], :not(\"][e][f=a\"b'c]" ∧
      parse (joinText L) = .ok L := by
  let L : List Selector :=
    [{ element := some "*", negations := [{}, { element := some "P", classNames := ["x"] }] },
     { element := some "a-b", classNames := ["é"],
       attributes := [("data.*$", "x'y], :not("), ("e", ""), ("f", "a\"b'c")] }]
  have hne : L ≠ [] := List.cons_ne_nil _ _
  have hL : ∀ s ∈ L, Canonical s := by decide +kernel
  exact ⟨L, hne, hL, by decide +kernel, parse_joinText_of_canonical hne hL⟩

end TemplateQuery.Selector
