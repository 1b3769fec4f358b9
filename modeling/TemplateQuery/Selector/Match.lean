import TemplateQuery.Selector.Basic

namespace TemplateQuery

structure ElementRecord where
  tagName : Option String := none
  classes : List String := []
  attributes : List (String × String) := []
deriving DecidableEq, Inhabited

namespace ElementRecord

def ofTag (name : String) : ElementRecord :=
  { tagName := some name }

def withClass (r : ElementRecord) (name : String) : ElementRecord :=
  { r with classes := r.classes ++ [name] }

def withAttribute (r : ElementRecord) (name value : String) : ElementRecord :=
  { r with attributes := r.attributes ++ [(name, value)] }

end ElementRecord

namespace Selector

open Text (equalFold)

def matchesElement (s : Selector) (r : ElementRecord) : Bool :=
  !s.hasElement ||
    match r.tagName with
    | none => false
    | some name => equalFold name (s.element.getD "")

def matchesClasses (s : Selector) (r : ElementRecord) : Bool :=
  s.classNames.all fun c => r.classes.any (equalFold · c)

def matchesAttributes (s : Selector) (r : ElementRecord) : Bool :=
  s.attributes.all fun (name, value) =>
    r.attributes.any fun (n, v) => equalFold n name && (value.isEmpty || equalFold v value)

def matchesPositive (s : Selector) (r : ElementRecord) : Bool :=
  s.matchesElement r && s.matchesClasses r && s.matchesAttributes r

mutual

def accepts : Selector → ElementRecord → Bool
  | ⟨e, cs, as, ns⟩, r => matchesPositive ⟨e, cs, as, ns⟩ r && !someAccepts ns r

def someAccepts : List Selector → ElementRecord → Bool
  | [], _ => false
  | s :: rest, r => accepts s r || someAccepts rest r

end

theorem someAccepts_eq_any (ss : List Selector) (r : ElementRecord) :
    someAccepts ss r = ss.any (·.accepts r) := by
  induction ss with
  | nil => simp [someAccepts]
  | cons s rest ih => simp [someAccepts, ih]

theorem accepts_eq (s : Selector) (r : ElementRecord) :
    s.accepts r = (s.matchesPositive r && !s.negations.any (·.accepts r)) := by
  cases s with
  | mk e cs as ns => simp [accepts, someAccepts_eq_any]

end Selector

end TemplateQuery
