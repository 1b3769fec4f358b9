import TemplateQuery.Json.Reader
import TemplateQuery.Schema.Settle

namespace TemplateQuery.Schema

open Json

def readScalar (expected : Expected) (check : Json → Except Mismatch Json) (c : Cursor) :
    Except Fault (Json × Cursor) := do
  match ← c.scalar with
  | some (j, c) =>
    match check j with
    | .ok j => .ok (j, c)
    | .error m => .error (c.fault (.mismatch m))
  | none =>
    let c := c.skipBlanks
    let found : Found := if c.rest.head? = some '[' then .array else .object
    .error (c.fault (.mismatch (.wrongType found expected)))

def readBracket (expected : Expected) (c : Cursor) : Except Fault (Bracket × Cursor) := do
  match ← c.scalar with
  | some (j, c) => .error (c.fault (.mismatch (.wrongType (found j) expected)))
  | none =>
    let c := c.skipBlanks
    .ok (if c.rest.head? = some '[' then .array else .object, c)

def checkName (names : List String) (expected : Expected) : Json → Except Mismatch Json
  | .string s => if names.contains s then .ok (.string s) else .error (.unknownVariant s names)
  | j => .error (.wrongType (found j) expected)

def readHead (names : List String) (c : Cursor) : Except Fault (String × Cursor) := do
  match ← readScalar .variantName (checkName names .variantName) c with
  | (.string s, c) => .ok (s, c)
  | (_, c) => .error (c.fault .notValue)

def readKey (names : List String) (c : Cursor) : Except Fault (String × Cursor) :=
  let c := c.skipBlanks
  match c.rest with
  | [] => .error (c.faultAhead .objectEnds)
  | ch :: _ => if ch = '"' then readHead names c else .error (c.faultAhead .notKey)

def readName (names : List String) (n : Nat) (c : Cursor) : Except Fault (String × Cursor) :=
  let c := c.skipBlanks
  match c.rest with
  | [] => .error (c.faultAhead .valueEnds)
  | ch :: _ =>
    if ch = '"' then readHead names c
    else if ch = '\x7b' then
      if n = 0 then .error (c.faultAhead .tooDeep)
      else do
        let (s, c) ← readKey names c.next
        let c ← c.colon
        let (_, c) ← readScalar .nothing (fun j =>
          match j with
          | .null => .ok j
          | _ => .error (.wrongType (found j) .nothing)) c
        let c := c.skipBlanks
        match c.rest with
        | [] => .error (c.fault .objectEnds)
        | ch :: _ => if ch = '\x7d' then .ok (s, c.next) else .error (c.fault .notValue)
    else .error (c.faultAhead .notValue)

def readNothing (expected : Expected) (n : Nat) (c : Cursor) : Except Fault (Json × Cursor) := do
  match ← c.scalar with
  | some (.null, c) => .ok (.null, c)
  | some (j, c) => .error (c.fault (.mismatch (.wrongType (found j) expected)))
  | none =>
    let c := c.skipBlanks
    if n = 0 then .error (c.faultAhead .tooDeep)
    else if c.rest.head? = some '[' then
      .error (c.next.arrayFault (.mismatch (.wrongType .array expected)))
    else .error (c.next.objectFault (.mismatch (.wrongType .object expected)))

section

variable (read : Shape → Cursor → Except Fault (Json × Cursor))

def readField (f : Field) (c : Cursor) : Except Fault (Json × Cursor) :=
  if f.presence = .nullable && c.skipBlanks.rest.head? = some 'n' then
    readScalar f.shape.expected .ok c
  else read f.shape c

def readItems (k : RecordKind) (done : Nat) :
    List Field → Cursor → Except Fault (List Json × Cursor)
  | [], c => .ok ([], c)
  | f :: fs, c => do
    match ← c.nextItem (done = 0) with
    | none =>
      if f.presence = .required then
        .error (c.arrayFault
          (.mismatch (.wrongLength done (.recordItems k.name k.fields.length))))
      else readItems k (done + 1) fs c
    | some c =>
      let (j, c) ← readField read f c
      let (rest, c) ← readItems k (done + 1) fs c
      .ok (j :: rest, c)

def readMember (k : RecordKind) (done : List (String × Json)) (name : String) (c : Cursor) :
    Except Fault (List (String × Json) × Cursor) :=
  match k.fields.find? (·.name = name) with
  | none => do
    let c ← c.colon
    let c ← c.skipValue
    .ok (done, c)
  | some f =>
    if (done.lookup name).isSome then .error (c.objectFault (.mismatch (.duplicateField name)))
    else do
      let c ← c.colon
      let (j, c) ← readField read f c
      .ok ((name, j) :: done, c)

def readContent (k : UnionKind) (variant : String) (n : Nat) (c : Cursor) :
    Except Fault (Json × Cursor) :=
  match k.content? variant with
  | some s => read s c
  | none => readNothing (.bareVariant k.name variant) n c

def readVariantMember (k : UnionKind) (n : Nat) (p : Progress) (key : String) (c : Cursor) :
    Except Fault (Progress × Cursor) :=
  if key = k.keys.1 then
    match p with
    | .nothing => do
      let c ← c.colon
      let (name, c) ← readName k.variantNames n c
      .ok (.variant name, c)
    | .waiting held => do
      let c ← c.colon
      let (name, c) ← readName k.variantNames n c
      match settleContent (settle n true) k name held with
      | .ok held => .ok (.complete name held, c)
      | .error m => .error (c.objectFault (.mismatch m))
    | _ => .error (c.objectFault (.mismatch (.duplicateField key)))
  else if key = k.keys.2 then
    match p with
    | .nothing => do
      let c ← c.colon
      let (j, c) ← c.value (fun members => members) n
      .ok (.waiting j, c)
    | .variant name => do
      let c ← c.colon
      let (j, c) ← readContent read k name n c
      .ok (.complete name j, c)
    | _ => .error (c.objectFault (.mismatch (.duplicateField key)))
  else do
    let c ← c.colon
    let c ← c.skipValue
    .ok (p, c)

def readPair (k : UnionKind) (n : Nat) (c : Cursor) : Except Fault (Json × Cursor) := do
  match ← c.nextItem true with
  | none => .error (c.arrayFault (.mismatch (.wrongLength 0 (.union k.name))))
  | some c =>
    let (name, c) ← readHead k.variantNames c
    match ← c.nextItem false with
    | none => .error (c.arrayFault (.mismatch (.wrongLength 1 (.union k.name))))
    | some c =>
      let (j, c) ← readContent read k name n c
      .ok (k.write name j, c)

end

def read : Nat → Shape → Cursor → Except Fault (Json × Cursor)
  | n, .choice k, c => do
    let (name, c) ← readName k.names n c
    .ok (.string name, c)
  | n, .list item, c => do
    match ← readBracket .array c with
    | (.object, c) => .error (c.fault (.mismatch (.wrongType .object .array)))
    | (.array, c) =>
      match n with
      | 0 => .error (c.faultAhead .tooDeep)
      | n + 1 =>
        let (items, c) ← c.next.items (fun items c => do
          let (j, c) ← read n item c
          .ok (j :: items, c)) []
        let c ← c.closeArray
        .ok (.array items.reverse, c)
  | n, .record k, c => do
    let (bracket, c) ← readBracket (.record k.name) c
    match n with
    | 0 => .error (c.faultAhead .tooDeep)
    | n + 1 =>
      match bracket with
      | .array =>
        let (items, c) ← readItems (read n) k 0 k.fields c.next
        let c ← c.closeArray
        .ok (.array items, c)
      | .object =>
        let (members, c) ← c.next.members (readMember (read n) k) []
        match firstMissing k.fields members with
        | some f => .error (c.objectFault (.mismatch (.missingField f.name)))
        | none =>
          let c ← c.closeObject
          .ok (.object members.reverse, c)
  | n, .union k, c => do
    let (bracket, c) ← readBracket (.union k.name) c
    match n with
    | 0 => .error (c.faultAhead .tooDeep)
    | n + 1 =>
      match bracket with
      | .array =>
        let (j, c) ← readPair (read n) k n c.next
        let c ← c.closeArray
        .ok (j, c)
      | .object =>
        let (progress, c) ← c.next.members (readVariantMember (read n) k n) .nothing
        match finishVariant k progress with
        | .error m => .error (c.objectFault (.mismatch m))
        | .ok j =>
          let c ← c.closeObject
          .ok (j, c)
  | _, s, c => readScalar s.expected (settleScalar s) c

def maxDepth : Nat := 127

def readText (s : Shape) (text : String) : Except Fault Json := do
  let (j, c) ← read maxDepth s (Cursor.start text)
  c.finish
  .ok j

end TemplateQuery.Schema
