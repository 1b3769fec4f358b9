import TemplateQuery.Proofs.Selector.Form

namespace TemplateQuery.Selector

variable {P : String × String → Prop} {s : Selector}

def rereadAttribute (a : String × String) : String × String :=
  (a.1, String.ofList (reread a.2.toList))

theorem lower_reread {v : String} (h : Text.lower v = v) :
    Text.lower (String.ofList (reread v.toList)) = String.ofList (reread v.toList) := by
  rw [Text.lower_eq_self_iff] at h ⊢
  have hq : Text.IsFolded '\x27' := Text.isFolded_of_isMark (by decide)
  intro c hc
  simp only [String.toList_ofList, reread] at hc
  split at hc
  · simp only [List.cons_append, List.mem_cons, List.mem_append, List.not_mem_nil, or_false] at hc
    rcases hc with rfl | hc | rfl
    · exact hq
    · exact h c hc
    · exact hq
  · exact h c hc

theorem rereadAttribute_of_isQuotable {a : String × String} (h : IsQuotable a.2) :
    rereadAttribute a = a := by
  rw [rereadAttribute, reread_of_not (fun hq => h ⟨hq.1, .inr hq.2⟩), String.ofList_toList]

def rereadAttributes (s : Selector) : Selector :=
  { s with attributes := s.attributes.map rereadAttribute }

def rereadAll (s : Selector) : Selector :=
  { s.rereadAttributes with negations := s.negations.map rereadAttributes }

def elementTokens : Option String → List Token
  | none => []
  | some e => if e = "*" then [] else [.tag e.toList]

def classToken (c : String) : Token :=
  .className c.toList

def attributeToken (a : String × String) : Token :=
  .attribute (escape a.1.toList) (reread a.2.toList)

def positiveTokens (s : Selector) : List Token :=
  elementTokens s.element ++ s.classNames.map classToken ++ s.attributes.map attributeToken

def negationTokens (n : Selector) : List Token :=
  .openNegation :: positiveTokens n ++ [.closeNegation]

def tokens (s : Selector) : List Token :=
  positiveTokens s ++ s.negations.flatMap negationTokens

theorem negationChars_eq (ns : List Selector) :
    negationChars ns = ns.flatMap fun n => [':', 'n', 'o', 't', '('] ++ chars n ++ [')'] := by
  induction ns with
  | nil => rfl
  | cons n rest ih => simp [negationChars, ih]

theorem chars_eq (s : Selector) : chars s = positiveText s ++ negationChars s.negations := by
  cases s
  rfl

theorem Simple.chars_eq (h : Simple P s) : chars s = positiveText s := by
  rw [Selector.chars_eq, h.negations, negationChars, List.append_nil]

theorem attributeText_cons (a : String × String) : ∃ r, attributeText a = '[' :: r := by
  simp only [attributeText]
  split <;> exact ⟨_, rfl⟩

section Heads

variable {p : Char → Bool} {rest : List Char}

theorem stops_attributes (as : List (String × String)) (hp : p '[' = false) (hr : Stops p rest) :
    Stops p (as.flatMap attributeText ++ rest) := by
  cases as with
  | nil => exact hr
  | cons a as =>
    obtain ⟨r, ha⟩ := attributeText_cons a
    rw [List.flatMap_cons, ha]
    exact stops_cons hp

theorem stops_classes (cs : List String) (hp : p '.' = false) (hr : Stops p rest) :
    Stops p (cs.flatMap (fun c => '.' :: c.toList) ++ rest) := by
  cases cs with
  | nil => exact hr
  | cons c cs => exact stops_cons hp

theorem stops_negations (ns : List Selector) (hp : p ':' = false) (hr : Stops p rest) :
    Stops p (negationChars ns ++ rest) := by
  cases ns with
  | nil => exact hr
  | cons n ns => exact stops_cons hp

theorem stops_element {e : Option String} (he : ∀ n ∈ e, ∀ c ∈ n.toList, p c = false)
    (hr : Stops p rest) : Stops p ((e.getD "").toList ++ rest) := by
  cases e with
  | none => exact hr
  | some n =>
    rw [Option.getD_some]
    cases hn : n.toList with
    | nil => exact hr
    | cons c cs => exact stops_cons (he n rfl c (by simp [hn]))

theorem stops_chars (hp : p '.' = false ∧ p '[' = false ∧ p ':' = false)
    (he : ∀ n ∈ s.element, ∀ c ∈ n.toList, p c = false) (hr : Stops p rest) :
    Stops p (chars s ++ rest) := by
  rw [chars_eq, positiveText, List.append_assoc, List.append_assoc, List.append_assoc]
  apply stops_element he
  apply stops_classes _ hp.1
  apply stops_attributes _ hp.2.1
  exact stops_negations _ hp.2.2 hr

end Heads

section Tokens

variable {rest : List Char}

theorem scan_element {e : Option String} (he : ∀ n ∈ e, IsNameText n.toList ∨ n = "*")
    (hr : Stops isName rest) :
    Token.scan ((e.getD "").toList ++ rest) = elementTokens e ++ Token.scan rest := by
  cases e with
  | none => rfl
  | some n =>
    by_cases hn : n = "*"
    · subst hn
      exact Token.scan_wildcard rest
    · have hname : IsNameText n.toList := (he n rfl).resolve_right hn
      rw [elementTokens, if_neg hn]
      exact Token.scan_tag hname hr

theorem scan_classes {cs : List String} (hc : ∀ c ∈ cs, IsNameText c.toList)
    (hr : Stops isName rest) :
    Token.scan (cs.flatMap (fun c => '.' :: c.toList) ++ rest) =
      cs.map classToken ++ Token.scan rest := by
  induction cs with
  | nil => rfl
  | cons c cs ih =>
    have hs := stops_classes cs (isName_eq_false (by decide)) hr
    rw [List.flatMap_cons, List.append_assoc, Token.scan_className (hc c (by simp)) hs,
      ih fun d hd => hc d (by simp [hd])]
    rfl

theorem scan_attributes {as : List (String × String)} (ha : ∀ a ∈ as, IsWritable a) :
    Token.scan (as.flatMap attributeText ++ rest) =
      as.map attributeToken ++ Token.scan rest := by
  induction as with
  | nil => rfl
  | cons a as ih =>
    have hw := ha a (by simp)
    rw [List.flatMap_cons, List.append_assoc, Token.scan_attribute hw.isAttributeText hw.1.2.2.2,
      ih fun b hb => ha b (by simp [hb])]
    rfl

theorem scan_positive (hs : Parts IsWritable s)
    (he : ∀ n ∈ s.element, IsNameText n.toList ∨ n = "*") (hr : Stops isName rest) :
    Token.scan (positiveText s ++ rest) = positiveTokens s ++ Token.scan rest := by
  have ha := stops_attributes s.attributes (isName_eq_false (by decide)) hr
  have hc := stops_classes s.classNames (isName_eq_false (by decide)) ha
  rw [positiveText, positiveTokens, List.append_assoc, List.append_assoc, scan_element he hc,
    scan_classes (fun c hc => (hs.classes c hc).1) ha, scan_attributes hs.attributes]
  simp

theorem scan_negations {ns : List Selector} (hn : ∀ n ∈ ns, Simple IsWritable n) :
    Token.scan (negationChars ns ++ rest) = ns.flatMap negationTokens ++ Token.scan rest := by
  induction ns with
  | nil => rfl
  | cons n ns ih =>
    have hs := hn n (by simp)
    have hc : Stops isName (')' :: (negationChars ns ++ rest)) :=
      stops_cons (isName_eq_false (by decide))
    have hp := scan_positive hs.toParts (fun e he => .inl (hs.element e he)) hc
    have ht : negationChars (n :: ns) ++ rest =
        ':' :: 'n' :: 'o' :: 't' :: '(' ::
          (positiveText n ++ ')' :: (negationChars ns ++ rest)) := by
      simp [negationChars, hs.chars_eq]
    rw [ht, Token.scan_openNegation, hp, Token.scan_closeNegation,
      ih fun m hm => hn m (by simp [hm])]
    simp [negationTokens]

theorem scan_chars (hs : Complete IsWritable s) (hr : Stops isName rest) :
    Token.scan (chars s ++ rest) = tokens s ++ Token.scan rest := by
  have he : ∀ n ∈ s.element, IsNameText n.toList ∨ n = "*" := fun n hn =>
    (hs.element n hn).imp_right And.left
  have hn := stops_negations s.negations (isName_eq_false (by decide)) hr
  rw [chars_eq, List.append_assoc, scan_positive hs.toParts he hn, scan_negations hs.negations,
    tokens, List.append_assoc]

end Tokens

end TemplateQuery.Selector
