import TemplateQuery.Json.Record
import TemplateQuery.Selector.Match

namespace TemplateQuery

open Json

def attributesToJson (attributes : List (String × String)) : Json :=
  list (fun (name, value) => .array [.string name, .string value]) attributes

def attributesOfJson? (j : Json) : Option (List (String × String)) :=
  list? (pair? string? string?) j

namespace Selector

mutual

def toJson : Selector → Json
  | ⟨e, cs, as, ns⟩ => .object [
      ("element", nullable .string e),
      ("class_names", list .string cs),
      ("attrs", attributesToJson as),
      ("not_selectors", .array (negationsToJson ns))]

def negationsToJson : List Selector → List Json
  | [] => []
  | n :: rest => toJson n :: negationsToJson rest

end

def decode : Nat → Json → Option Selector
  | 0, _ => none
  | n + 1, j => do
    let r ← record? ["element", "class_names", "attrs", "not_selectors"] j
    let element ← r.nullable "element" string?
    let classNames ← r.required "class_names" (list? string?)
    let attributes ← r.required "attrs" attributesOfJson?
    let negations ← r.required "not_selectors" (list? (decode n))
    some { element, classNames, attributes, negations }

def ofJson? (j : Json) : Option Selector :=
  decode j.depth j

end Selector

namespace ElementRecord

def toJson (r : ElementRecord) : Json :=
  .object [
    ("tag_name", nullable .string r.tagName),
    ("class_list", list .string r.classes),
    ("attributes", attributesToJson r.attributes)]

def ofJson? (j : Json) : Option ElementRecord := do
  let r ← record? ["tag_name", "class_list", "attributes"] j
  let tagName ← r.nullable "tag_name" string?
  let classes ← r.required "class_list" (list? string?)
  let attributes ← r.required "attributes" attributesOfJson?
  some { tagName, classes, attributes }

end ElementRecord

end TemplateQuery
