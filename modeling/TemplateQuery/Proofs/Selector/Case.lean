import TemplateQuery.Proofs.Selector.Folded
import TemplateQuery.Proofs.Selector.Recased
import TemplateQuery.Proofs.Selector.Step
import TemplateQuery.Selector.Match

namespace TemplateQuery

def SelectorError.small : SelectorError → SelectorError
  | .nestedNegation => .nestedNegation
  | .severalInNegation => .severalInNegation
  | .unescapedDollar name => .unescapedDollar (Text.small name)
  | .unclosedNegation text => .unclosedNegation (Text.small text)
  | .empty text => .empty (Text.small text)

namespace Selector

mutual

def small : Selector → Selector
  | ⟨e, cs, as, ns⟩ => ⟨e.map Text.small, cs, as, smallAll ns⟩

def smallAll : List Selector → List Selector
  | [] => []
  | s :: rest => small s :: smallAll rest

end

theorem smallAll_eq_map (ss : List Selector) : smallAll ss = ss.map small := by
  induction ss with
  | nil => rfl
  | cons s rest ih => simp [smallAll, ih]

theorem small_eq (s : Selector) :
    s.small = { s with element := s.element.map Text.small, negations := s.negations.map small } := by
  cases s
  rw [small, smallAll_eq_map]

theorem small_setElement (s : Selector) (name : String) :
    (s.setElement name).small = s.small.setElement (Text.small name) := by
  rw [small_eq, small_eq]
  rfl

theorem small_addClass (s : Selector) (name : String) :
    (s.addClass name).small = s.small.addClass (Text.small name) := by
  rw [small_eq, small_eq, addClass, addClass, Text.lower_small]

theorem small_addAttribute (s : Selector) (name value : String) :
    (s.addAttribute name value).small =
      s.small.addAttribute (Text.small name) (Text.small value) := by
  rw [small_eq, small_eq, addAttribute, addAttribute, Text.lower_small, Text.lower_small]

theorem small_addNegation (s n : Selector) :
    (s.addNegation n).small = s.small.addNegation n.small := by
  rw [small_eq, small_eq, addNegation, addNegation, List.map_append]
  rfl

theorem isEmpty_small (s : Selector) : s.small.isEmpty = s.isEmpty := by
  rw [small_eq]
  simp [isEmpty]

theorem small_withWildcard (s : Selector) : s.withWildcard.small = s.small.withWildcard := by
  have hw : Text.small "*" = "*" := by decide
  have hc : ((s.negations.map small).isEmpty, (s.element.map Text.small).isNone) =
      (s.negations.isEmpty, s.element.isNone) := by simp
  simp only [Prod.mk.injEq] at hc
  rw [withWildcard, withWildcard, small_eq s, hc.1, hc.2]
  split
  · rw [small_eq, Option.map_some, hw]
  · rw [small_eq]

theorem unescapeAfter_map_toLower (b : Bool) (name : List Char) :
    unescapeAfter b (name.map Char.toLower) =
      (unescapeAfter b name).map (List.map Char.toLower) := by
  induction name generalizing b with
  | nil => rfl
  | cons c name ih =>
    have hb : c.toLower = '\\' ↔ c = '\\' := Text.toLower_eq_iff_of_isMark (by decide)
    have hd : c.toLower = '$' ↔ c = '$' := Text.toLower_eq_iff_of_isMark (by decide)
    simp only [List.map_cons, unescapeAfter, hb, hd, ih]
    split
    · rfl
    · split
      · rfl
      · cases unescapeAfter false name <;> rfl

theorem small_ofList (name : List Char) :
    Text.small (String.ofList name) = String.ofList (name.map Char.toLower) := by
  rw [Text.small, String.toList_ofList]

theorem unescape?_map_toLower (name : List Char) :
    unescape? (name.map Char.toLower) = (unescape? name).map (List.map Char.toLower) :=
  unescapeAfter_map_toLower false name

theorem condition?_small {t : Token} {f : Selector → Selector} (h : t.condition? = some f) :
    ∃ g, t.small.condition? = some g ∧ ∀ s, (f s).small = g s.small := by
  cases t with
  | tag name =>
    cases h
    exact ⟨_, rfl, fun s => by rw [small_setElement, small_ofList]⟩
  | className name =>
    cases h
    exact ⟨_, rfl, fun s => by rw [small_addClass, small_ofList]⟩
  | identifier name =>
    cases h
    have hi : Text.small "id" = "id" := by decide
    exact ⟨_, rfl, fun s => by rw [small_addAttribute, hi, small_ofList]⟩
  | «attribute» name value =>
    obtain ⟨plain, hp, rfl⟩ := Option.map_eq_some_iff.1 h
    refine ⟨fun s => s.addAttribute (String.ofList (plain.map Char.toLower))
      (String.ofList (value.map Char.toLower)), ?_, fun s => ?_⟩
    · rw [Token.small, Token.condition?, unescape?_map_toLower, hp]
      rfl
    · rw [small_addAttribute, small_ofList, small_ofList]
  | openNegation | closeNegation | separator => cases h

namespace Draft

def small (d : Draft) : Draft where
  finished := d.finished.map Selector.small
  current := d.current.small
  negation := d.negation.map Selector.small

variable {text : String} {d : Draft} {t : Token} {f g : Selector → Selector}

theorem small_add (h : ∀ s, (f s).small = g s.small) (d : Draft) :
    (d.add f).small = d.small.add g := by
  obtain ⟨finished, current, negation⟩ := d
  cases negation <;> simp [add, small, h]

theorem small_closeNegation (d : Draft) : d.closeNegation.small = d.small.closeNegation := by
  obtain ⟨finished, current, negation⟩ := d
  cases negation <;> simp [closeNegation, small, small_addNegation]

theorem endAlternative_small (text : String) (d : Draft) :
    d.small.endAlternative (Text.small text) =
      ((d.endAlternative text).mapError (·.small)).map small := by
  have he : d.small.current.isEmpty = d.current.isEmpty := isEmpty_small d.current
  rw [endAlternative, endAlternative, he]
  cases d.current.isEmpty with
  | true => rfl
  | false =>
    have hc : d.small.finished ++ [d.small.current.withWildcard] =
        (d.finished ++ [d.current.withWildcard]).map Selector.small := by
      rw [List.map_append, List.map_singleton, small_withWildcard]
      rfl
    simp only [hc, Bool.false_eq_true, if_false]
    rfl

theorem step_small (text : String) (d : Draft) (t : Token) :
    d.small.step (Text.small text) t.small =
      ((d.step text t).mapError (·.small)).map small := by
  have hn : d.small.negation.isSome = d.negation.isSome := Option.isSome_map
  cases hf : t.condition? with
  | some f =>
    obtain ⟨g, hg, hs⟩ := condition?_small hf
    rw [step_condition hg, step_condition hf, ← small_add hs]
    rfl
  | none =>
    cases t with
    | tag | className | identifier => cases hf
    | «attribute» name value =>
      have hp : unescape? name = none := by simpa [Token.condition?] using hf
      have hl : unescape? (name.map Char.toLower) = none := by rw [unescape?_map_toLower, hp]; rfl
      rw [Token.small, step, step, hl, hp]
      simp only [← small_ofList]
      rfl
    | openNegation =>
      rw [Token.small, step, step, hn]
      cases d.negation.isSome <;> rfl
    | closeNegation => exact congrArg Except.ok (small_closeNegation d).symm
    | separator =>
      rw [Token.small, step, step, hn]
      cases d.negation.isSome with
      | true => rfl
      | false => exact endAlternative_small text d

theorem finish_small (text : String) (d : Draft) :
    d.small.finish (Text.small text) =
      ((d.finish text).mapError (·.small)).map (List.map Selector.small) := by
  have hn : d.small.negation.isSome = d.negation.isSome := Option.isSome_map
  rw [finish, finish, hn, endAlternative_small]
  cases d.negation.isSome with
  | true => rfl
  | false => cases d.endAlternative text <;> rfl

theorem readFrom_small (text : String) (d : Draft) (ts : List Token) :
    d.small.readFrom (Text.small text) (ts.map Token.small) =
      ((d.readFrom text ts).mapError (·.small)).map (List.map Selector.small) :=
  readFrom_map (step_small text) (finish_small text) d ts

end Draft

theorem parse_small_eq {s s' : String} (h : Recased s.toList s'.toList) :
    ((parse s).mapError (·.small)).map (List.map small) =
      ((parse s').mapError (·.small)).map (List.map small) := by
  have hs : Text.small s = Text.small s' := by rw [Text.small, Text.small, h.letters]
  have hd : Draft.small {} = {} := rfl
  have ht := Draft.readFrom_small s {} (Token.scan s.toList)
  have ht' := Draft.readFrom_small s' {} (Token.scan s'.toList)
  rw [hs, h.scan, ht'] at ht
  exact ht.symm

variable {a b : Selector} {r : ElementRecord}

theorem accepts_small (s : Selector) (r : ElementRecord) : s.small.accepts r = s.accepts r := by
  induction s using induction_negations with
  | step s ih =>
    have he : s.small.element.map Text.lower = s.element.map Text.lower := by
      simp [small_eq, Function.comp_def, Text.lower_small]
    have hp : s.small.matchesPositive r = s.matchesPositive r :=
      matchesPositive_congr he (by simp [small_eq]) (by simp [small_eq]) r
    have hn : s.small.negations.any (·.accepts r) = s.negations.any (·.accepts r) := by
      rw [small_eq, List.any_map]
      exact any_congr_of_mem ih
    rw [accepts_eq, accepts_eq, hp, hn]

theorem someAccepts_small (ss : List Selector) (r : ElementRecord) :
    someAccepts (smallAll ss) r = someAccepts ss r := by
  rw [smallAll_eq_map, someAccepts_eq_any, someAccepts_eq_any, List.any_map]
  exact any_congr_of_mem fun s _ => accepts_small s r

structure AgreesWith (a b : Selector) : Prop where
  element : a.element.map Text.small = b.element.map Text.small
  classNames : a.classNames = b.classNames
  attributes : a.attributes = b.attributes
  negations : a.negations.map small = b.negations.map small

theorem agreesWith_of_small_eq (h : a.small = b.small) : AgreesWith a b := by
  rw [small_eq, small_eq, Selector.mk.injEq] at h
  exact ⟨h.1, h.2.1, h.2.2.1, h.2.2.2⟩

theorem parse_recased {s s' : String} (h : Recased s.toList s'.toList) :
    (∃ e e', parse s = .error e ∧ parse s' = .error e' ∧ e.small = e'.small) ∨
      ∃ L L', parse s = .ok L ∧ parse s' = .ok L' ∧ List.Forall₂ AgreesWith L L' ∧
        ∀ r, someAccepts L r = someAccepts L' r := by
  have hp := parse_small_eq h
  cases hs : parse s with
  | error e =>
    cases hs' : parse s' with
    | error e' =>
      rw [hs, hs'] at hp
      exact .inl ⟨e, e', rfl, rfl, Except.error.inj hp⟩
    | ok L' =>
      rw [hs, hs'] at hp
      cases hp
  | ok L =>
    cases hs' : parse s' with
    | error e' =>
      rw [hs, hs'] at hp
      cases hp
    | ok L' =>
      rw [hs, hs'] at hp
      have hL : L.map small = L'.map small := Except.ok.inj hp
      refine .inr ⟨L, L', rfl, rfl, ?_, fun r => ?_⟩
      · have hf : List.Forall₂ (· = ·) (L.map small) (L'.map small) := by
          rw [List.forall₂_eq_eq_eq]
          exact hL
        rw [List.forall₂_map_left_iff, List.forall₂_map_right_iff] at hf
        exact hf.imp fun _ _ => agreesWith_of_small_eq
      · rw [← someAccepts_small, smallAll_eq_map, hL, ← smallAll_eq_map, someAccepts_small]

theorem parse_recased_negation :
    Recased "DIV.aΣ:not([X=É])".toList "div.AΣ:not([x=É])".toList ∧
      ((∃ e e', parse "DIV.aΣ:not([X=É])" = .error e ∧ parse "div.AΣ:not([x=É])" = .error e' ∧
          e.small = e'.small) ∨
        ∃ L L', parse "DIV.aΣ:not([X=É])" = .ok L ∧ parse "div.AΣ:not([x=É])" = .ok L' ∧
          List.Forall₂ AgreesWith L L' ∧ ∀ r, someAccepts L r = someAccepts L' r) := by
  have h : Recased "DIV.aΣ:not([X=É])".toList "div.AΣ:not([x=É])".toList := by
    decide
  exact ⟨h, parse_recased h⟩

end Selector

end TemplateQuery
