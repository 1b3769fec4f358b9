import TemplateQuery.Json.Basic

namespace TemplateQuery.Json

def string? : Json → Option String
  | .string s => some s
  | _ => none

def bool? : Json → Option Bool
  | .bool b => some b
  | _ => none

def nat? : Json → Option Nat
  | .number (.int i) => i.toNat?
  | _ => none

def int64? : Json → Option Int64
  | .number (.int i) =>
    if -Number.signedBound ≤ i ∧ i < Number.signedBound then some (Int64.ofInt i) else none
  | _ => none

def float? : Json → Option Float
  | .number (.int i) => some (Float.ofInt i)
  | .number (.float x) => some x
  | _ => none

section

variable {α β : Type}

def decodeAll (read : Json → Option α) : List Json → Option (List α)
  | [] => some []
  | j :: rest => do
    let a ← read j
    let as ← decodeAll read rest
    some (a :: as)

theorem decodeAll_map {read : Json → Option α} {write : α → Json} {as : List α}
    (h : ∀ a ∈ as, read (write a) = some a) : decodeAll read (as.map write) = some as := by
  induction as with
  | nil => rfl
  | cons a rest ih =>
    simp [decodeAll, h a (by simp), ih fun b hb => h b (by simp [hb])]

def list? (read : Json → Option α) : Json → Option (List α)
  | .array items => decodeAll read items
  | _ => none

def list (write : α → Json) (as : List α) : Json :=
  .array (as.map write)

def pair? (first : Json → Option α) (second : Json → Option β) : Json → Option (α × β)
  | .array [a, b] => do
    let a ← first a
    let b ← second b
    some (a, b)
  | _ => none

def nullable? (read : Json → Option α) : Json → Option (Option α)
  | .null => some none
  | j => (read j).map some

def nullable (write : α → Json) : Option α → Json
  | none => .null
  | some a => write a

end

structure Record where
  members : List (String × Json)

def record? (names : List String) : Json → Option Record
  | .object members => some ⟨members⟩
  | .array items => if items.length ≤ names.length then some ⟨names.zip items⟩ else none
  | _ => none

namespace Record

variable {α : Type}

def find? (r : Record) (name : String) : Option Json :=
  r.members.lookup name

def required (r : Record) (name : String) (read : Json → Option α) : Option α :=
  (r.find? name).bind read

def optional (r : Record) (name : String) (read : Json → Option α) (default : α) : Option α :=
  match r.find? name with
  | none => some default
  | some j => read j

def nullable (r : Record) (name : String) (read : Json → Option α) : Option (Option α) :=
  r.optional name (nullable? read) none

end Record

def variantName? : Json → Option String
  | .string s => some s
  | .object [(s, .null)] => some s
  | _ => none

def tagged? (tag content : String) : Json → Option (String × Option Json)
  | .object members => do
    let name ← (members.lookup tag).bind variantName?
    some (name, members.lookup content)
  | .array [.string name, j] => some (name, some j)
  | _ => none

end TemplateQuery.Json
