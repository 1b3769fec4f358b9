import TemplateQuery.Text.Lower

namespace TemplateQuery

structure Selector where
  element : Option String := none
  classNames : List String := []
  attributes : List (String × String) := []
  negations : List Selector := []

namespace Selector

mutual

def decEq : (a b : Selector) → Decidable (a = b)
  | ⟨e, cs, as, ns⟩, ⟨e', cs', as', ns'⟩ =>
    match decEqNegations ns ns' with
    | isTrue h =>
      if h' : e = e' ∧ cs = cs' ∧ as = as' then isTrue (by simp [h, h'])
      else isFalse (by simp_all)
    | isFalse h => isFalse (by simp [h])

def decEqNegations : (as bs : List Selector) → Decidable (as = bs)
  | [], [] => isTrue rfl
  | [], _ :: _ => isFalse (by simp)
  | _ :: _, [] => isFalse (by simp)
  | a :: as, b :: bs =>
    match decEq a b, decEqNegations as bs with
    | isTrue h, isTrue h' => isTrue (by simp [h, h'])
    | isFalse h, _ => isFalse (by simp [h])
    | _, isFalse h => isFalse (by simp [h])

end

instance : DecidableEq Selector := decEq

instance : Inhabited Selector := ⟨{}⟩

def isEmpty (s : Selector) : Bool :=
  s.element.isNone && s.classNames.isEmpty && s.attributes.isEmpty && s.negations.isEmpty

def hasElement (s : Selector) : Bool :=
  match s.element with
  | none => false
  | some e => e != "*"

def isElementOnly (s : Selector) : Bool :=
  s.hasElement && s.classNames.isEmpty && s.attributes.isEmpty

def setElement (s : Selector) (name : String) : Selector :=
  { s with element := some name }

def addClass (s : Selector) (name : String) : Selector :=
  { s with classNames := s.classNames ++ [Text.lower name] }

def addAttribute (s : Selector) (name value : String) : Selector :=
  { s with attributes := s.attributes ++ [(Text.lower name, Text.lower value)] }

def addNegation (s n : Selector) : Selector :=
  { s with negations := s.negations ++ [n] }

def attribute? (s : Selector) (name : String) : Option String :=
  s.attributes.lookup name

def withWildcard (s : Selector) : Selector :=
  if !s.negations.isEmpty && s.element.isNone && s.classNames.isEmpty && s.attributes.isEmpty then
    { s with element := some "*" }
  else s

end Selector

end TemplateQuery
