import TemplateQuery.Proofs.Selector.Accepted
import TemplateQuery.Proofs.Selector.Rebuild

namespace TemplateQuery.Selector

variable {P : String × String → Prop} {s : Selector} {t : Token}

def escapes (a : String × String) : Nat :=
  a.1.toList.count '$' + a.2.toList.count '\\'

def unnamed (a : String × String) : Nat :=
  if a.1 = "" then 1 else 0

def load (as : List (String × String)) : Nat :=
  (as.map fun a => escapes a + unnamed a).sum

theorem load_nil : load [] = 0 := rfl

theorem load_append (as bs : List (String × String)) : load (as ++ bs) = load as + load bs := by
  simp [load]

theorem allAttributes_empty : allAttributes {} = [] := rfl

theorem load_eq (as : List (String × String)) :
    load as = (as.map escapes).sum + (as.map unnamed).sum :=
  List.sum_map_add

theorem escapes_unescape_le {name plain : List Char} (hn : IsAttributeText name)
    (hp : unescape? name = some plain) :
    plain.count '$' + (if plain = [] then 1 else 0) ≤ name.count '\\' := by
  have hb : ¬ HasBareDollar none name := fun hb => by simp [unescape?_eq_none_iff.2 hb] at hp
  have hd : name.count '$' ≤ name.count '\\' := count_dollar_le none name hb
  obtain rfl := eq_of_unescape? hp
  have hc : (withoutBackslashes name).count '$' = name.count '$' := List.count_filter (by decide)
  rw [hc]
  split
  · rename_i he
    obtain ⟨c, cs, rfl⟩ := List.exists_cons_of_ne_nil hn.1
    obtain rfl : c = '\\' := by simpa using List.filter_eq_nil_iff.1 he c (by simp)
    have hz : ('\\' :: cs).count '$' = 0 := by rw [← hc, he, List.count_nil]
    rw [hz, List.count_cons_self]
    omega
  · exact hd

theorem escapes_lower (name value : String) :
    escapes (Text.lower name, Text.lower value) = escapes (name, value) := by
  have hm : Text.IsMark '$' ∧ Text.IsMark '\\' := by decide
  simp only [escapes, Text.count_lower hm.1, Text.count_lower hm.2]

theorem unnamed_lower (name value : String) :
    unnamed (Text.lower name, Text.lower value) = unnamed (name, value) := by
  simp only [unnamed, Text.lower_eq_empty_iff]

theorem load_addAttribute (s : Selector) (name value : String) :
    load (s.addAttribute name value).allAttributes =
      load s.allAttributes + escapes (name, value) + unnamed (name, value) := by
  simp only [allAttributes, addAttribute, load_append]
  simp only [load, List.map_cons, List.map_nil, List.sum_cons, List.sum_nil, escapes_lower,
    unnamed_lower]
  omega

theorem load_condition_le {f : Selector → Selector} (ht : t.IsSpelled)
    (hf : t.condition? = some f) (s : Selector) :
    load (f s).allAttributes ≤ load s.allAttributes + t.written.count '\\' := by
  cases t with
  | openNegation | closeNegation | separator => cases hf
  | tag | className =>
    cases hf
    exact Nat.le_add_right _ _
  | identifier name =>
    cases hf
    simp [load_addAttribute, escapes, unnamed, Token.written]
  | «attribute» name value =>
    obtain ⟨plain, hp, rfl⟩ := Option.map_eq_some_iff.1 hf
    have hl := escapes_unescape_le ht.1 hp
    simp only [load_addAttribute, escapes, unnamed, Token.written, String.toList_ofList,
      List.count_append, String.ofList_eq_empty_iff]
    omega

theorem load_addNegation_le (s n : Selector) :
    load (s.addNegation n).allAttributes ≤ load s.allAttributes + load n.allAttributes := by
  simp only [allAttributes, addNegation, load_append, List.flatMap_append, List.flatMap_singleton]
  omega

theorem allAttributes_withWildcard (s : Selector) :
    s.withWildcard.allAttributes = s.allAttributes := by
  rw [withWildcard]
  split <;> rfl

namespace Draft

def load (d : Draft) : Nat :=
  Selector.load (d.finished.flatMap allAttributes) + Selector.load d.current.allAttributes +
    Selector.load (d.negation.toList.flatMap allAttributes)

variable {text : String} {d d' : Draft} {ts : List Token}

theorem load_step_le (ht : t.IsSpelled) (h : d.step text t = .ok d') :
    d'.load ≤ d.load + t.written.count '\\' := by
  rcases step_cases h with ⟨f, hf, rfl⟩ | ⟨rfl, hn, rfl⟩ | ⟨rfl, rfl⟩ | ⟨rfl, hn, he⟩
  · rw [add]
    split
    · rename_i n hn
      have hl := load_condition_le ht hf n
      simp only [load, hn, Option.toList_some, List.flatMap_singleton]
      omega
    · have hl := load_condition_le ht hf d.current
      simp only [load]
      omega
  · simp only [load, hn, Option.toList_some, List.flatMap_singleton, allAttributes_empty, load_nil]
    omega
  · rw [closeNegation]
    split
    · rename_i n hn
      have hl := load_addNegation_le d.current n
      simp only [load, hn, Option.toList_some, Option.toList_none, List.flatMap_singleton,
        List.flatMap_nil, load_nil]
      omega
    · exact Nat.le_add_right _ _
  · obtain ⟨-, rfl⟩ := endAlternative_cases he
    simp only [load, List.flatMap_append, List.flatMap_singleton, load_append,
      allAttributes_withWildcard, allAttributes_empty, Option.toList_none, List.flatMap_nil,
      load_nil]
    omega

theorem load_run_le (ht : ∀ t ∈ ts, t.IsSpelled) (h : run text d ts = .ok d') :
    d'.load ≤ d.load + (ts.flatMap Token.written).count '\\' := by
  induction ts generalizing d with
  | nil =>
    cases h
    exact Nat.le_add_right _ _
  | cons t ts ih =>
    rw [run] at h
    split at h
    · rename_i d₁ h₁
      have hs := load_step_le (ht t (by simp)) h₁
      have hr := ih (fun u hu => ht u (by simp [hu])) h
      rw [List.flatMap_cons, List.count_append]
      omega
    · cases h

end Draft

theorem load_le_of_parse {text : String} {L : List Selector} (h : parse text = .ok L) :
    load (L.flatMap allAttributes) ≤ text.toList.count '\\' := by
  have hr := Draft.load_run_le (isSpelled_read text) (run_of_parse h)
  have hs := (Token.written_scan_sublist text.toList).count_le '\\'
  have hw : Token.separator.written = [] := rfl
  simp only [Draft.load, List.flatMap_append, List.flatMap_singleton, hw, List.append_nil,
    allAttributes_empty, Option.toList_none, List.flatMap_nil, load_nil] at hr
  omega

theorem count_eq_zero_of_isNameText {n : List Char} (h : IsNameText n) : n.count '\\' = 0 :=
  List.count_eq_zero.2 (h.not_mem (by decide))

theorem count_escape {n : List Char} (h : '\\' ∉ n) : (escape n).count '\\' = n.count '$' := by
  induction n with
  | nil => rfl
  | cons c cs ih =>
    obtain ⟨hc, hcs⟩ : '\\' ≠ c ∧ '\\' ∉ cs := by simpa using h
    rw [escape, List.flatMap_cons, List.count_append, ← escape, ih hcs]
    split
    · rename_i hd
      subst hd
      simp
      omega
    · rename_i hd
      simp [hd, Ne.symm hc]

theorem count_quoteValue (v : List Char) : (quoteValue v).count '\\' = v.count '\\' := by
  rw [quoteValue_eq]
  split_ifs <;> simp

theorem count_attributeText {a : String × String} (h : IsRead a) :
    (attributeText a).count '\\' = escapes a := by
  have hn := count_escape h.not_mem_backslash
  simp only [attributeText, escapes]
  split
  · rename_i hv
    have hz : a.2.toList = [] := by simpa using hv
    simp [hn, hz]
  · simp [hn, count_quoteValue]

theorem count_flatMap_of_eq {α : Type} {f : α → List Char} {g : α → List (String × String)}
    {l : List α} (h : ∀ a ∈ l, (f a).count '\\' = ((g a).map escapes).sum) :
    (l.flatMap f).count '\\' = ((l.flatMap g).map escapes).sum := by
  induction l with
  | nil => rfl
  | cons a l ih =>
    rw [List.flatMap_cons, List.flatMap_cons, List.count_append, List.map_append, List.sum_append,
      h a (by simp), ih fun b hb => h b (by simp [hb])]

theorem count_positiveText (hs : Parts IsRead s)
    (he : ∀ n ∈ s.element, IsNameText n.toList ∨ n = "*") :
    (positiveText s).count '\\' = (s.attributes.map escapes).sum := by
  have hn : (s.element.getD "").toList.count '\\' = 0 := by
    cases h : s.element with
    | none => rfl
    | some n =>
      rcases he n h with hn | rfl
      · exact count_eq_zero_of_isNameText hn
      · rfl
  have hc : (s.classNames.flatMap fun c => '.' :: c.toList).count '\\' = 0 := by
    refine List.count_eq_zero.2 fun hm => ?_
    obtain ⟨c, hcm, hb⟩ := List.mem_flatMap.1 hm
    exact (hs.classes c hcm).1.not_mem (c := '\\') (by decide) (by simpa using hb)
  have ha : (s.attributes.flatMap attributeText).count '\\' = (s.attributes.map escapes).sum := by
    rw [count_flatMap_of_eq (g := fun a => [a]) fun a ha => ?_, List.flatMap_singleton']
    simpa using count_attributeText (hs.attributes a ha)
  rw [positiveText, List.count_append, List.count_append, hn, hc, ha]
  omega

theorem count_chars (hs : Complete IsRead s) :
    (chars s).count '\\' = (s.allAttributes.map escapes).sum := by
  have hp := count_positiveText hs.toParts fun n hn => (hs.element n hn).imp_right And.left
  have hn : (negationChars s.negations).count '\\' =
      ((s.negations.flatMap (·.attributes)).map escapes).sum := by
    rw [negationChars_eq]
    refine count_flatMap_of_eq fun n hn => ?_
    have hm := hs.negations n hn
    have hc := count_positiveText hm.toParts fun e he => .inl (hm.element e he)
    simp [hm.chars_eq, hc]
  rw [chars_eq, List.count_append, hp, hn, allAttributes, List.map_append, List.sum_append]

theorem count_joinText {L : List Selector} (hL : ∀ s ∈ L, Complete IsRead s) :
    (joinText L).toList.count '\\' = ((L.flatMap allAttributes).map escapes).sum := by
  cases L with
  | nil => rfl
  | cons s L =>
    have hr : (L.flatMap fun r => ',' :: ' ' :: chars r).count '\\' =
        ((L.flatMap allAttributes).map escapes).sum := by
      refine count_flatMap_of_eq fun r hr => ?_
      simp [count_chars (hL r (by simp [hr]))]
    rw [toList_joinText_cons, List.count_append, count_chars (hL s (by simp)), hr,
      List.flatMap_cons, List.map_append, List.sum_append]

theorem names_ne_empty {L : List Selector} (hL : ∀ s ∈ L, Complete IsRead s)
    (h : parse (joinText L) = .ok L) : ∀ s ∈ L, ∀ a ∈ s.allAttributes, a.1 ≠ "" := by
  have hl := load_le_of_parse h
  rw [count_joinText hL, load_eq] at hl
  have hz : ((L.flatMap allAttributes).map unnamed).sum = 0 := by omega
  intro s hs a ha he
  have hu := List.sum_eq_zero_iff_forall_eq_nat.1 hz (unnamed a)
    (List.mem_map_of_mem (List.mem_flatMap_of_mem hs ha))
  simp [unnamed, he] at hu

end TemplateQuery.Selector
