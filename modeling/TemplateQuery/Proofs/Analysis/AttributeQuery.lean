import Mathlib.Tactic
import TemplateQuery.Analysis.Basic
import TemplateQuery.Proofs.Node.Preorder
import TemplateQuery.Proofs.Selector.Reread
import TemplateQuery.Proofs.Text.Fold

namespace TemplateQuery

open Text (lower)

namespace Element

def HasAttribute (e : Element) (n : String) : Prop :=
  (∃ a ∈ e.attributes, lower a.name = lower n) ∨ ∃ b ∈ e.inputs, lower b.name = lower n

def HasValue (e : Element) (n v : String) : Prop :=
  (∃ a ∈ e.attributes, lower a.name = lower n ∧ lower a.value = lower v) ∨
    ∃ b ∈ e.inputs, lower b.name = lower n ∧ b.value.expr.isLiteral = true ∧
      lower b.value.text = lower v

instance (e : Element) (n : String) : Decidable (e.HasAttribute n) :=
  inferInstanceAs (Decidable (_ ∨ _))

instance (e : Element) (n v : String) : Decidable (e.HasValue n v) :=
  inferInstanceAs (Decidable (_ ∨ _))

end Element

namespace Selector

def attributeQuery (n : String) : String :=
  "[" ++ String.ofList (escape n.toList) ++ "]"

def valueQuery (n v : String) : String :=
  "[" ++ String.ofList (escape n.toList) ++ "=" ++ String.ofList (quoteValue v.toList) ++ "]"

variable {n v : String}

theorem toList_attributeQuery : (attributeQuery n).toList = attributeText (n, "") := by
  simp [attributeQuery, attributeText]

theorem toList_valueQuery (hv : v ≠ "") : (valueQuery n v).toList = attributeText (n, v) := by
  simp [valueQuery, attributeText, hv]

theorem parse_of_attributeText {text : String} (ht : text.toList = attributeText (n, v))
    (hne : n ≠ "") (hn : IsUnescaped n.toList) (hv : IsQuotable v) :
    parse text = .ok [{ attributes := [(lower n, lower v)] }] := by
  have hname : IsAttributeText (escape n.toList) :=
    isAttributeText_escape ⟨by simpa using hne, fun c hc => (hn c hc).1⟩
  have hvalue : ¬ (HasBothQuotes v.toList ∧ ']' ∈ v.toList) := fun h => hv ⟨h.1, .inl h.2⟩
  have hscan : Token.scan text.toList = [.attribute (escape n.toList) v.toList] := by
    have hs : Token.scan (attributeText (n, v) ++ []) = _ := Token.scan_attribute hname hvalue
    rw [List.append_nil, reread_of_not fun h => hv ⟨h.1, .inr h.2⟩] at hs
    rw [ht, hs, Token.scan]
  have hplain : unescape? (escape n.toList) = some n.toList :=
    unescapeAfter_escape (fun hb => (hn _ hb).2 rfl) false
  simp [parse, hscan, Draft.run, Draft.step, hplain, Draft.add, addAttribute, Draft.finish,
    Draft.endAlternative, isEmpty, withWildcard, Except.map]

theorem someAccepts_attribute (r : ElementRecord) :
    someAccepts [{ attributes := [(lower n, lower v)] }] r = true ↔
      ∃ a ∈ r.attributes, lower a.1 = lower n ∧ (v = "" ∨ lower a.2 = lower v) := by
  simp [someAccepts, accepts, matchesPositive, matchesElement, hasElement, matchesClasses,
    matchesAttributes, Text.equalFold_iff, Text.lower_lower, Text.lower_eq_empty_iff]

end Selector

namespace Element

variable {n v : String}

theorem exists_mem_record {e : Element} {p : String × String → Prop} :
    (∃ a ∈ e.record.attributes, p a) ↔
      (∃ a ∈ e.attributes, p (a.name, a.value)) ∨
        ∃ b ∈ e.inputs, p (b.name, if b.value.expr.isLiteral then b.value.text else "") := by
  simp only [record, List.mem_append, List.mem_map]
  constructor
  · rintro ⟨a, ⟨b, hb, rfl⟩ | ⟨b, hb, rfl⟩, ha⟩
    · exact .inl ⟨b, hb, ha⟩
    · exact .inr ⟨b, hb, ha⟩
  · rintro (⟨b, hb, ha⟩ | ⟨b, hb, ha⟩)
    · exact ⟨_, .inl ⟨b, hb, rfl⟩, ha⟩
    · exact ⟨_, .inr ⟨b, hb, rfl⟩, ha⟩

theorem someAccepts_record_attribute (e : Element) :
    Selector.someAccepts [{ attributes := [(lower n, lower "")] }] e.record = true ↔
      e.HasAttribute n := by
  rw [Selector.someAccepts_attribute, exists_mem_record]
  simp [HasAttribute]

-- The value of an input that is no literal is recorded as empty, which no value asked for is.
theorem someAccepts_record_value (e : Element) (hv : v ≠ "") :
    Selector.someAccepts [{ attributes := [(lower n, lower v)] }] e.record = true ↔
      e.HasValue n v := by
  have he : lower "" ≠ lower v := by
    rw [Text.lower_eq_empty_iff.2 rfl]
    intro h
    exact hv (Text.lower_eq_empty_iff.1 h.symm)
  have hi : ∀ b : InputBinding,
      lower (if b.value.expr.isLiteral then b.value.text else "") = lower v ↔
        b.value.expr.isLiteral = true ∧ lower b.value.text = lower v := by
    intro b
    cases b.value.expr.isLiteral with
    | false => simp [he]
    | true => simp
  rw [Selector.someAccepts_attribute, exists_mem_record]
  simp [HasValue, hv, hi]

end Element

namespace Analysis

variable {n v : String}

def elementAt? (a : Analysis) (place : List Nat) : Option Element :=
  (visitAt? a.config.includeEmptyBranches (a.nodes.map .node) place).bind Visit.element?

theorem exists_isTour_filter (a : Analysis) (p : Element → Prop) [DecidablePred p] :
    ∃ places, IsTour (fun place => (a.elementAt? place).filter p) places (a.elements.filter p) := by
  obtain ⟨places, h⟩ := exists_isTour_walk (b := a.config.includeEmptyBranches) a.nodes
  have ht := (h.filterMap Visit.element?).filterMap (Option.guard fun e => decide (p e))
  simp only [Option.bind_guard, List.filterMap_eq_filter] at ht
  exact ⟨_, ht⟩

def Finds (a : Analysis) (text : String) (p : Element → Prop) [DecidablePred p] : Prop :=
  a.findElements text = .ok (a.elements.filter p) ∧
    ∃ places, IsTour (fun place => (a.elementAt? place).filter p) places (a.elements.filter p)

theorem finds_of_parse {a : Analysis} {text : String} {L : List Selector}
    (hL : Selector.parse text = .ok L) {p : Element → Prop} [DecidablePred p]
    (h : ∀ e : Element, Selector.someAccepts L e.record = true ↔ p e) : a.Finds text p := by
  refine ⟨?_, a.exists_isTour_filter p⟩
  rw [findElements, hL]
  refine congrArg Except.ok (List.filter_congr ?_)
  intro e _
  rw [Bool.eq_iff_iff, h e, decide_eq_true_iff]

theorem finds_attribute (a : Analysis) (hn : n ≠ "" ∧ Selector.IsUnescaped n.toList) :
    a.Finds (Selector.attributeQuery n) (·.HasAttribute n) := by
  have hq : Selector.IsQuotable "" := by decide
  have ht : (Selector.attributeQuery n).toList = _ := Selector.toList_attributeQuery
  exact finds_of_parse (Selector.parse_of_attributeText ht hn.1 hn.2 hq)
    Element.someAccepts_record_attribute

theorem finds_value (a : Analysis) (hn : n ≠ "" ∧ Selector.IsUnescaped n.toList)
    (hv : v ≠ "" ∧ Selector.IsQuotable v) :
    a.Finds (Selector.valueQuery n v) (·.HasValue n v) := by
  have ht : (Selector.valueQuery n v).toList = _ := Selector.toList_valueQuery hv.1
  exact finds_of_parse (Selector.parse_of_attributeText ht hn.1 hn.2 hv.2)
    fun e => e.someAccepts_record_value hv.1

theorem hasAttribute_of_mem_findPropertyBindings {a : Analysis} {e : Element} {b : InputBinding}
    (hb : b ∈ e.inputs) (h : b ∈ a.findPropertyBindings n) : e.HasAttribute n := by
  have hname : b.name = n := by
    rw [findPropertyBindings, List.mem_filter] at h
    simpa using h.2
  exact .inr ⟨b, hb, by rw [hname]⟩

theorem findElements_attribute (a : Analysis) (hn : n ≠ "" ∧ Selector.IsUnescaped n.toList)
    (hv : v ≠ "" ∧ Selector.IsQuotable v) :
    a.Finds (Selector.attributeQuery n) (·.HasAttribute n) ∧
      (∀ found, a.findElements (Selector.attributeQuery n) = .ok found →
        ∀ e ∈ a.elements, ∀ b ∈ e.inputs, b ∈ a.findPropertyBindings n → e ∈ found) ∧
      a.Finds (Selector.valueQuery n v) (·.HasValue n v) ∧
      ∀ found, a.findElements (Selector.valueQuery n v) = .ok found →
        ∀ e ∈ found,
          (∀ b ∈ e.inputs, lower b.name = lower n → b.value.expr.isLiteral = false) →
          ∃ x ∈ e.attributes, lower x.name = lower n ∧ lower x.value = lower v := by
  have ha := a.finds_attribute hn
  have hw := a.finds_value hn hv
  refine ⟨ha, ?_, hw, ?_⟩
  · intro found hf e he b hb h
    obtain rfl : found = _ := Except.ok.inj (hf.symm.trans ha.1)
    exact List.mem_filter.2 ⟨he, by simpa using hasAttribute_of_mem_findPropertyBindings hb h⟩
  · intro found hf e he hl
    obtain rfl : found = _ := Except.ok.inj (hf.symm.trans hw.1)
    have hp : e.HasValue n v := by simpa using (List.mem_filter.1 he).2
    rcases hp with hx | ⟨b, hb, hname, hlit, -⟩
    · exact hx
    · rw [hl b hb hname] at hlit
      contradiction

def sample : Analysis where
  nodes := [
    .element { name := "a", attributes := [{ name := "DATA-$x", value := "Is \"it\x27" }] },
    .element { name := "b", inputs := [{ name := "data-$X", value := { expr := .identifier "it" } }] }]
  diagnostics := []

theorem findElements_sample :
    ("data-$x" ≠ "" ∧ Selector.IsUnescaped "data-$x".toList) ∧
      ("is \"it\x27" ≠ "" ∧ Selector.IsQuotable "is \"it\x27") ∧
      sample.Finds (Selector.attributeQuery "data-$x") (·.HasAttribute "data-$x") ∧
      sample.Finds (Selector.valueQuery "data-$x" "is \"it\x27")
        (·.HasValue "data-$x" "is \"it\x27") ∧
      (sample.elements.filter (·.HasAttribute "data-$x")).map (·.name) = ["a", "b"] ∧
      (sample.elements.filter (·.HasValue "data-$x" "is \"it\x27")).map (·.name) = ["a"] := by
  have hn : "data-$x" ≠ "" ∧ Selector.IsUnescaped "data-$x".toList := by decide +kernel
  have hv : "is \"it\x27" ≠ "" ∧ Selector.IsQuotable "is \"it\x27" := by decide +kernel
  obtain ⟨ha, -, hw, -⟩ := findElements_attribute sample hn hv
  refine ⟨hn, hv, ha, hw, ?_⟩
  rw [elements, visits, walk_eq]
  decide +kernel

end Analysis

end TemplateQuery
