import Mathlib.Tactic
import TemplateQuery.Analysis.Basic
import TemplateQuery.Proofs.Source.RoundTrip
import TemplateQuery.Selector.Codec

namespace TemplateQuery

open Json

theorem attributesOfJson?_toJson (attributes : List (String × String)) :
    attributesOfJson? (attributesToJson attributes) = some attributes :=
  list?_list fun _ _ => rfl

theorem namesOfJson?_toJson (names : OrderedSet String) :
    namesOfJson? (namesToJson names) = some names := by
  rw [namesOfJson?, namesToJson, list?_strings, Option.map_some, OrderedSet.ofList_toList]

namespace Selector

theorem negationsToJson_eq_map (ns : List Selector) : negationsToJson ns = ns.map toJson := by
  induction ns with
  | nil => rfl
  | cons n rest ih => rw [negationsToJson, ih, List.map_cons]

theorem depth_negation_lt {s n : Selector} (h : n ∈ s.negations) :
    n.toJson.depth < s.toJson.depth := by
  obtain ⟨element, classNames, attributes, negations⟩ := s
  have ha : n.toJson.depth < (Json.array (negations.map toJson)).depth :=
    depth_lt_array (List.mem_map_of_mem h)
  simp only [toJson, negationsToJson_eq_map]
  exact ha.trans (depth_lt_object (m := ("not_selectors", _)) (by simp))

theorem decode_succ_toJson {s : Selector} {m : Nat}
    (h : ∀ n ∈ s.negations, decode m n.toJson = some n) : decode (m + 1) s.toJson = some s := by
  obtain ⟨element, classNames, attributes, negations⟩ := s
  have hn : decodeAll (decode m) (negations.map toJson) = some negations := decodeAll_map h
  rw [toJson, negationsToJson_eq_map, decode]
  simp [attributesOfJson?_toJson, hn]

theorem decode_toJson {s : Selector} {m : Nat} (hm : s.toJson.depth ≤ m) :
    decode m s.toJson = some s := by
  induction m generalizing s with
  | zero =>
    cases s
    simp [toJson, depth] at hm
  | succ m ih =>
    refine decode_succ_toJson ?_
    intro n hn
    have hd : n.toJson.depth < s.toJson.depth := depth_negation_lt hn
    exact ih (by omega)

theorem ofJson?_toJson (s : Selector) : ofJson? s.toJson = some s :=
  decode_toJson le_rfl

end Selector

theorem ElementRecord.ofJson?_toJson (r : ElementRecord) : ofJson? r.toJson = some r := by
  simp [ofJson?, toJson, attributesOfJson?_toJson]

theorem PropertyBinding.ofJson?_toJson (b : PropertyBinding) : ofJson? b.toJson = some b := by
  simp [ofJson?, toJson, namesOfJson?_toJson]

theorem EventHandler.ofJson?_toJson (h : EventHandler) : ofJson? h.toJson = some h := by
  simp [ofJson?, toJson]

theorem ControlFlowKind.ofJson?_name (k : ControlFlowKind) : ofJson? (.string k.name) = some k := by
  cases k <;> rfl

theorem ControlFlowExpression.ofJson?_toJson (e : ControlFlowExpression) :
    ofJson? e.toJson = some e := by
  simp [ofJson?, toJson, ControlFlowKind.ofJson?_name, namesOfJson?_toJson]

theorem Config.ofJson?_toJson (c : Config) : ofJson? c.toJson = some c := by
  simp [ofJson?, toJson]

end TemplateQuery
