import TemplateQuery.Json.Fault
import TemplateQuery.Schema.Records

namespace TemplateQuery.Schema

open Json

def found : Json → Found
  | .null => .null
  | .bool b => .bool b
  | .number (.int i) => .integer i
  | .number (.float x) => .float x
  | .string s => .string s
  | .array _ => .array
  | .object _ => .object

def Shape.expected : Shape → Expected
  | .string => .string
  | .bool => .bool
  | .index => .index
  | .time => .time
  | .number => .number
  | .list _ => .array
  | .record k => .record k.name
  | .union k => .union k.name
  | .choice _ => .stringOrObject

def Shape.refuse (s : Shape) (j : Json) : Mismatch :=
  .wrongType (found j) s.expected

def settleScalar (s : Shape) (j : Json) : Except Mismatch Json :=
  match s, j with
  | .string, .string _ => .ok j
  | .bool, .bool _ => .ok j
  | .index, .number (.int i) => if i < 0 then .error (.wrongValue (found j) .index) else .ok j
  | .time, .number (.int i) =>
    if -Number.signedBound ≤ i ∧ i < Number.signedBound then .ok j
    else .error (.wrongValue (found j) .time)
  | .number, .number _ => .ok j
  | _, _ => .error (s.refuse j)

def isNothing (held : Bool) : Json → Bool
  | .null => true
  | .object [] => held
  | _ => false

def settleName (names : List String) (held : Bool) (j : Json) : Except Mismatch String :=
  match j with
  | .string s => if names.contains s then .ok s else .error (.unknownVariant s names)
  | .object [(s, inner)] =>
    if names.contains s then
      if isNothing held inner then .ok s else .error (.wrongType (found inner) .nothing)
    else .error (.unknownVariant s names)
  | .object _ => .error (.wrongValue .object .singleMember)
  | _ => .error (.wrongType (found j) .stringOrObject)

def settleHead (names : List String) (held : Bool) (j : Json) : Except Mismatch String :=
  match j with
  | .string s => if names.contains s then .ok s else .error (.unknownVariant s names)
  | .number (.int i) =>
    if !held || i < 0 then .error (.wrongType (found j) .variantName)
    else
      match names[i.toNat]? with
      | some s => .ok s
      | none => .error (.wrongValue (found j) (.variantIndex names.length))
  | _ => .error (.wrongType (found j) .variantName)

def firstMissing (fields : List Field) (present : List (String × Json)) : Option Field :=
  fields.find? fun f => f.presence = .required && (present.lookup f.name).isNone

inductive Progress where
  | nothing
  | variant (name : String)
  | waiting (content : Json)
  | complete (name : String) (content : Json)

section

variable (settle : Shape → Json → Except Mismatch Json)

def settleField (f : Field) (j : Json) : Except Mismatch Json :=
  match f.presence, j with
  | .nullable, .null => .ok .null
  | _, _ => settle f.shape j

def settleAll (item : Shape) : List Json → Except Mismatch (List Json)
  | [] => .ok []
  | j :: rest => do
    let j ← settle item j
    let rest ← settleAll item rest
    .ok (j :: rest)

def settleItems (k : RecordKind) (read : Nat) :
    List Field → List Json → Except Mismatch (List Json)
  | [], [] => .ok []
  | [], rest => .error (.wrongLength (read + rest.length) (.items read))
  | f :: fs, [] =>
    if f.presence = .required then
      .error (.wrongLength read (.recordItems k.name k.fields.length))
    else settleItems k (read + 1) fs []
  | f :: fs, j :: rest => do
    let j ← settleField settle f j
    let rest ← settleItems k (read + 1) fs rest
    .ok (j :: rest)

def settleMembers (fields : List Field) (done : List (String × Json)) :
    List (String × Json) → Except Mismatch (List (String × Json))
  | [] =>
    match firstMissing fields done with
    | some f => .error (.missingField f.name)
    | none => .ok done.reverse
  | (name, j) :: rest =>
    match fields.find? (·.name = name) with
    | none => settleMembers fields done rest
    | some f =>
      if (done.lookup name).isSome then .error (.duplicateField name)
      else do
        let j ← settleField settle f j
        settleMembers fields ((name, j) :: done) rest

def settleContent (k : UnionKind) (variant : String) (j : Json) : Except Mismatch Json :=
  match k.content? variant with
  | some s => settle s j
  | none =>
    match j with
    | .null => .ok .null
    | _ => .error (.wrongType (found j) (.bareVariant k.name variant))

end

def finishVariant (k : UnionKind) : Progress → Except Mismatch Json
  | .nothing => .error (.missingField k.keys.1)
  | .variant name =>
    if (k.content? name).isSome then .error (.missingField k.keys.2) else .ok (k.writeBare name)
  | .waiting _ => .error (.missingField k.keys.1)
  | .complete name j => .ok (k.write name j)

section

variable (settle : Bool → Shape → Json → Except Mismatch Json)

def settleVariant (k : UnionKind) (held : Bool) (p : Progress) :
    List (String × Json) → Except Mismatch Json
  | [] => finishVariant k p
  | (key, j) :: rest =>
    if key = k.keys.1 then
      match p with
      | .nothing => do
        let name ← settleName k.variantNames held j
        settleVariant k held (.variant name) rest
      | .waiting content => do
        let name ← settleName k.variantNames held j
        let content ← settleContent (settle true) k name content
        settleVariant k held (.complete name content) rest
      | _ => .error (.duplicateField key)
    else if key = k.keys.2 then
      match p with
      | .nothing => settleVariant k held (.waiting j) rest
      | .variant name => do
        let j ← settleContent (settle held) k name j
        settleVariant k held (.complete name j) rest
      | _ => .error (.duplicateField key)
    else settleVariant k held p rest

def settlePair (k : UnionKind) (held : Bool) : List Json → Except Mismatch Json
  | [] => .error (.wrongLength 0 (.union k.name))
  | head :: rest => do
    let name ← settleHead k.variantNames held head
    match rest with
    | [] => .error (.wrongLength 1 (.union k.name))
    | j :: rest =>
      let j ← settleContent (settle held) k name j
      if rest.isEmpty then .ok (k.write name j)
      else .error (.wrongLength (2 + rest.length) (.items 2))

end

def settle : Nat → Bool → Shape → Json → Except Mismatch Json
  | n + 1, held, .list item, .array items => do
    let items ← settleAll (settle n held) item items
    .ok (.array items)
  | n + 1, held, .record k, .array items => do
    let items ← settleItems (settle n held) k 0 k.fields items
    .ok (.array items)
  | n + 1, held, .record k, .object members => do
    let members ← settleMembers (settle n held) k.fields [] members
    .ok (.object members)
  | n + 1, held, .union k, .array items => settlePair (settle n) k held items
  | n + 1, held, .union k, .object members => settleVariant (settle n) k held .nothing members
  | _, held, .choice k, j => do
    let name ← settleName k.names held j
    .ok (.string name)
  | _, _, s, j => settleScalar s j

def ofValue? {α : Type} (s : Shape) (read : Json → Option α) (j : Json) : Option α :=
  match settle j.depth false s j with
  | .ok settled => read settled
  | .error _ => none

end TemplateQuery.Schema
