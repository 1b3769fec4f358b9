import TemplateQuery.Proofs.Selector.Reread
import TemplateQuery.Proofs.Selector.Step

namespace TemplateQuery.Selector

variable {P : String × String → Prop} {s : Selector}

def extend (c s : Selector) : Selector :=
  { c with
    element := (s.element.filter (· != "*")).or c.element
    classNames := c.classNames ++ s.classNames
    attributes := c.attributes ++ s.attributes.map rereadAttribute }

namespace Draft

variable {text : String}

theorem add_eq_self {f : Selector → Selector} (h : ∀ s, f s = s) (d : Draft) : d.add f = d := by
  obtain ⟨F, c, n⟩ := d
  cases n with
  | none => simp [add, h]
  | some n => simp [add, h]

theorem add_add (d : Draft) (f g : Selector → Selector) :
    (d.add f).add g = d.add (g ∘ f) := by
  obtain ⟨F, c, n⟩ := d
  cases n <;> rfl

theorem run_element (d : Draft) (e : Option String) :
    run text d (elementTokens e) =
      .ok (d.add fun s => { s with element := (e.filter (· != "*")).or s.element }) := by
  cases e with
  | none =>
    rw [add_eq_self fun ⟨_, _, _, _⟩ => rfl]
    rfl
  | some e =>
    by_cases he : e = "*"
    · subst he
      rw [add_eq_self fun ⟨_, _, _, _⟩ => rfl]
      rfl
    · have hf : (some e).filter (· != "*") = some e := by simp [he]
      simp only [elementTokens, if_neg he, run, step, String.ofList_toList, hf]
      rfl

theorem run_classes {cs : List String} (hc : ∀ c ∈ cs, Text.lower c = c) (d : Draft) :
    run text d (cs.map classToken) =
      .ok (d.add fun s => { s with classNames := s.classNames ++ cs }) := by
  induction cs generalizing d with
  | nil =>
    rw [add_eq_self fun ⟨_, _, _, _⟩ => by rw [List.append_nil]]
    rfl
  | cons c cs ih =>
    have hl : Text.lower c = c := hc c (by simp)
    have hd : step text d (classToken c) =
        .ok (d.add fun s => { s with classNames := s.classNames ++ [c] }) := by
      simp [classToken, step, addClass, hl]
    rw [List.map_cons, run, hd]
    simp only
    rw [ih fun e he => hc e (by simp [he]), add_add]
    simp [Function.comp_def]

theorem step_attribute {a : String × String} (ha : IsWritable a) (d : Draft) :
    step text d (attributeToken a) =
      .ok (d.add fun s => { s with attributes := s.attributes ++ [rereadAttribute a] }) := by
  have hn : unescape? (escape a.1.toList) = some a.1.toList :=
    unescapeAfter_escape ha.1.not_mem_backslash false
  have hv : Text.lower (String.ofList (reread a.2.toList)) = String.ofList (reread a.2.toList) :=
    lower_reread ha.1.2.2.1
  simp [attributeToken, step, hn, addAttribute, ha.1.2.1, hv, rereadAttribute]

theorem run_attributes {as : List (String × String)} (ha : ∀ a ∈ as, IsWritable a) (d : Draft) :
    run text d (as.map attributeToken) =
      .ok (d.add fun s => { s with attributes := s.attributes ++ as.map rereadAttribute }) := by
  induction as generalizing d with
  | nil =>
    rw [add_eq_self fun ⟨_, _, _, _⟩ => by rw [List.map_nil, List.append_nil]]
    rfl
  | cons a as ih =>
    rw [List.map_cons, run, step_attribute (ha a (by simp))]
    simp only
    rw [ih fun b hb => ha b (by simp [hb]), add_add]
    simp [Function.comp_def]

theorem run_positive (hs : Parts IsWritable s) (d : Draft) :
    run text d (positiveTokens s) = .ok (d.add fun c => c.extend s) := by
  rw [positiveTokens, List.append_assoc, run_append_of_ok (run_element d s.element),
    run_append_of_ok (run_classes (fun c hc => (hs.classes c hc).2) _),
    run_attributes hs.attributes, add_add, add_add]
  rfl

theorem extend_empty (hs : Simple P s) : extend {} s = s.rereadAttributes := by
  obtain ⟨e, cs, as, ns⟩ := s
  obtain rfl : ns = [] := hs.negations
  have he : e.filter (· != "*") = e := by
    cases e with
    | none => rfl
    | some e =>
      have hw : e ≠ "*" := ne_wildcard (hs.element e rfl)
      exact Option.filter_eq_some_iff.2 ⟨rfl, by simpa using hw⟩
  simp [extend, rereadAttributes, he]

theorem run_negations {ns : List Selector} (hn : ∀ n ∈ ns, Simple IsWritable n)
    (F : List Selector) (c : Selector) :
    run text { finished := F, current := c } (ns.flatMap negationTokens) =
      .ok { finished := F,
            current := { c with negations := c.negations ++ ns.map rereadAttributes } } := by
  induction ns generalizing c with
  | nil =>
    cases c
    simp [run]
  | cons n ns ih =>
    have hs := hn n (by simp)
    have ho : run text { finished := F, current := c } (negationTokens n) =
        .ok { finished := F, current := c.addNegation n.rereadAttributes } := by
      rw [negationTokens, List.cons_append, run, step]
      simp only [Option.isSome_none, Bool.false_eq_true, if_false]
      rw [run_append_of_ok (run_positive hs.toParts _), ← extend_empty hs]
      rfl
    rw [List.flatMap_cons, run_append_of_ok ho, ih fun m hm => hn m (by simp [hm])]
    simp [addNegation]

theorem run_tokens (hs : Complete IsWritable s) (F : List Selector) :
    run text { finished := F } (tokens s) =
      .ok { finished := F,
            current := { s.rereadAll with element := s.element.filter (· != "*") } } := by
  have hp : run text { finished := F } (positiveTokens s) =
      .ok { finished := F, current := extend {} s } :=
    run_positive hs.toParts _
  rw [tokens, run_append_of_ok hp, run_negations hs.negations]
  simp [extend, rereadAll, rereadAttributes]

end Draft

theorem element_cases (hs : Complete P s) :
    s.element.filter (· != "*") = s.element ∨ s.element = some "*" ∧ OnlyNegations s := by
  cases he : s.element with
  | none => exact .inl rfl
  | some e =>
    rcases hs.element e he with hn | ⟨rfl, ho⟩
    · exact .inl (Option.filter_eq_some_iff.2 ⟨rfl, by simpa using ne_wildcard hn⟩)
    · exact .inr ⟨rfl, ho⟩

theorem withWildcard_rereadAll (hs : Complete P s) :
    withWildcard { s.rereadAll with element := s.element.filter (· != "*") } = s.rereadAll := by
  have hw : OnlyNegations s → s.element ≠ none := hs.wildcard
  rcases element_cases hs with he | ⟨he, ho⟩
  · rw [he]
    refine if_neg fun hc => ?_
    simp only [rereadAll, rereadAttributes, Bool.and_eq_true, Bool.not_eq_true',
      List.isEmpty_eq_false_iff, List.isEmpty_iff, List.map_eq_nil_iff, Option.isNone_iff_eq_none,
      ne_eq] at hc
    exact hw ⟨hc.1.2, hc.2, hc.1.1.1⟩ hc.1.1.2
  · obtain ⟨hc, ha, hn⟩ := ho
    simp [withWildcard, rereadAll, rereadAttributes, he, hc, ha, hn]

theorem isEmpty_rereadAll (hs : Complete P s) :
    isEmpty { s.rereadAll with element := s.element.filter (· != "*") } = false := by
  have hne : s.isEmpty = false := hs.nonempty
  rcases element_cases hs with he | ⟨-, ho⟩
  · rw [he]
    simpa [isEmpty, rereadAll, rereadAttributes] using hne
  · simp [isEmpty, rereadAll, ho.2.2]

theorem toList_joinText_cons (s : Selector) (L : List Selector) :
    (joinText (s :: L)).toList = chars s ++ L.flatMap fun s => ',' :: ' ' :: chars s := by
  simp only [joinText, String.toList_intercalate]
  induction L generalizing s with
  | nil => simp [text]
  | cons r L ih => simpa [text, List.intercalate] using ih r

theorem stops_blank_chars (hs : Complete P s) {rest : List Char} (hr : Stops Text.isBlank rest) :
    Stops Text.isBlank (chars s ++ rest) := by
  refine stops_chars (by decide) ?_ hr
  intro n hn c hc
  rcases hs.element n hn with he | ⟨rfl, -⟩
  · exact isBlank_eq_false_of_isName (he.2 c hc)
  · obtain rfl : c = '*' := by simpa using hc
    decide

theorem stops_alternatives {p : Char → Bool} {L : List Selector} (hp : p ',' = false) :
    Stops p (L.flatMap fun s => ',' :: ' ' :: chars s) := by
  cases L with
  | nil => simp [Stops]
  | cons r L => exact stops_cons hp

theorem scan_alternatives {L : List Selector} (hL : ∀ s ∈ L, Complete IsWritable s) :
    Token.scan (L.flatMap fun s => ',' :: ' ' :: chars s) =
      L.flatMap fun s => .separator :: tokens s := by
  induction L with
  | nil => simp [Token.scan]
  | cons s L ih =>
    have hs := hL s (by simp)
    have hn := stops_alternatives (L := L) (isName_eq_false (by decide))
    have hb := stops_alternatives (L := L) (p := Text.isBlank) (by decide)
    simp only [List.flatMap_cons, List.cons_append]
    rw [Token.scan_separator (stops_blank_chars hs hb), scan_chars hs hn,
      ih fun r hr => hL r (by simp [hr])]

theorem endAlternative_rereadAll (hs : Complete P s) (text : String) (F : List Selector) :
    Draft.endAlternative text
        { finished := F,
          current := { s.rereadAll with element := s.element.filter (· != "*") } } =
      .ok { finished := F ++ [s.rereadAll] } := by
  rw [Draft.endAlternative, isEmpty_rereadAll hs, withWildcard_rereadAll hs]
  rfl

theorem run_alternatives {L : List Selector} (hs : Complete IsWritable s)
    (hL : ∀ s ∈ L, Complete IsWritable s) (text : String) (F : List Selector) :
    (match Draft.run text { finished := F }
        (tokens s ++ L.flatMap fun s => .separator :: tokens s) with
      | .ok d => d.finish text
      | .error e => .error e) = .ok (F ++ (s :: L).map rereadAll) := by
  rw [Draft.run_append_of_ok (Draft.run_tokens hs F)]
  induction L generalizing s F with
  | nil =>
    simp only [List.flatMap_nil, Draft.run, Draft.finish]
    rw [endAlternative_rereadAll hs]
    rfl
  | cons r L ih =>
    have hr : Complete IsWritable r := hL r (by simp)
    simp only [List.flatMap_cons, List.cons_append, Draft.run, Draft.step]
    rw [endAlternative_rereadAll hs]
    simp only [Option.isSome_none, Bool.false_eq_true, if_false]
    rw [Draft.run_append_of_ok (Draft.run_tokens hr _), ih hr fun q hq => hL q (by simp [hq])]
    simp

theorem parse_joinText {L : List Selector} (hne : L ≠ []) (hL : ∀ s ∈ L, Complete IsWritable s) :
    parse (joinText L) = .ok (L.map rereadAll) := by
  cases L with
  | nil => contradiction
  | cons s L =>
    have hs : Complete IsWritable s := hL s (by simp)
    have hL' : ∀ r ∈ L, Complete IsWritable r := fun r hr => hL r (by simp [hr])
    have hn := stops_alternatives (L := L) (isName_eq_false (by decide))
    rw [parse, toList_joinText_cons, scan_chars hs hn, scan_alternatives hL']
    exact run_alternatives hs hL' (joinText (s :: L)) []

end TemplateQuery.Selector
