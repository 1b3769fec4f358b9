import TemplateQuery.Json.Scalar

namespace TemplateQuery.Json

def foldItems {σ : Type} (step : σ → Cursor → Except Fault (σ × Cursor)) :
    Nat → Bool → σ → Cursor → Except Fault (σ × Cursor)
  | 0, _, _, c => .error (c.fault .arrayEnds)
  | n + 1, first, s, c => do
    match ← c.nextItem first with
    | none => .ok (s, c.skipBlanks)
    | some c =>
      let (s, c) ← step s c
      foldItems step n false s c

def foldMembers {σ : Type} (step : σ → String → Cursor → Except Fault (σ × Cursor)) :
    Nat → Bool → σ → Cursor → Except Fault (σ × Cursor)
  | 0, _, _, c => .error (c.fault .objectEnds)
  | n + 1, first, s, c => do
    match ← c.nextName first with
    | none => .ok (s, c.skipBlanks)
    | some c =>
      let (name, c) ← c.next.string
      let (s, c) ← step s name c
      foldMembers step n false s c

namespace Cursor

def items {σ : Type} (c : Cursor) (step : σ → Cursor → Except Fault (σ × Cursor)) (s : σ) :
    Except Fault (σ × Cursor) :=
  foldItems step (c.left + 1) true s c

def members {σ : Type} (c : Cursor) (step : σ → String → Cursor → Except Fault (σ × Cursor))
    (s : σ) : Except Fault (σ × Cursor) :=
  foldMembers step (c.left + 1) true s c

def scalar (c : Cursor) : Except Fault (Option (Json × Cursor)) :=
  let c := c.skipBlanks
  match c.rest with
  | [] => .error (c.faultAhead .valueEnds)
  | ch :: _ =>
    if ch = '[' || ch = '\x7b' then .ok none
    else if ch = '"' then do
      let (s, c) ← c.next.string
      .ok (some (.string s, c))
    else if ch = '-' then do
      let (n, c) ← numeral true c.next
      .ok (some (.number n, c))
    else if ch.isDigit then do
      let (n, c) ← numeral false c
      .ok (some (.number n, c))
    else if ch = 'n' then do
      let c ← c.next.word ['u', 'l', 'l']
      .ok (some (.null, c))
    else if ch = 't' then do
      let c ← c.next.word ['r', 'u', 'e']
      .ok (some (.bool true, c))
    else if ch = 'f' then do
      let c ← c.next.word ['a', 'l', 's', 'e']
      .ok (some (.bool false, c))
    else .error (c.faultAhead .notValue)

def value (settle : List (String × Json) → List (String × Json)) :
    Nat → Cursor → Except Fault (Json × Cursor)
  | 0, c => do
    match ← c.scalar with
    | some read => .ok read
    | none => .error (c.skipBlanks.faultAhead .tooDeep)
  | n + 1, c => do
    match ← c.scalar with
    | some read => .ok read
    | none =>
      let c := c.skipBlanks
      if c.rest.head? = some '[' then
        let (items, c) ← c.next.items (fun items c => do
          let (j, c) ← value settle n c
          .ok (j :: items, c)) []
        let c ← c.closeArray
        .ok (.array items.reverse, c)
      else
        let (members, c) ← c.next.members (fun members name c => do
          let c ← c.colon
          let (j, c) ← value settle n c
          .ok ((name, j) :: members, c)) []
        let c ← c.closeObject
        .ok (.object (settle members.reverse), c)

end Cursor

inductive Bracket where
  | array
  | object

def skipName (c : Cursor) : Except Fault Cursor :=
  let c := c.skipBlanks
  match c.rest with
  | [] => .error (c.faultAhead .objectEnds)
  | ch :: _ =>
    if ch = '"' then do
      let c ← c.next.skipString
      c.colon
    else .error (c.faultAhead .notKey)

def leave : List Bracket → Cursor → Except Fault (List Bracket × Cursor)
  | [], c => .ok ([], c)
  | b :: outer, c =>
    let c := c.skipBlanks
    match b, c.rest with
    | .array, [] => .error (c.faultAhead .arrayEnds)
    | .array, ch :: _ =>
      if ch = ',' then .ok (.array :: outer, c.next)
      else if ch = ']' then leave outer c.next
      else .error (c.faultAhead .notArrayEnd)
    | .object, [] => .error (c.faultAhead .objectEnds)
    | .object, ch :: _ =>
      if ch = ',' then do
        let c ← skipName c.next
        .ok (.object :: outer, c)
      else if ch = '\x7d' then leave outer c.next
      else .error (c.faultAhead .notObjectEnd)

def skipHead (outer : List Bracket) (c : Cursor) : Except Fault (Option (List Bracket) × Cursor) :=
  let c := c.skipBlanks
  match c.rest with
  | [] => .error (c.faultAhead .valueEnds)
  | ch :: _ =>
    if ch = '[' then
      let c := c.next.skipBlanks
      match c.rest with
      | [] => .error (c.faultAhead .arrayEnds)
      | ch :: _ => if ch = ']' then .ok (none, c.next) else .ok (some (.array :: outer), c)
    else if ch = '\x7b' then
      let c := c.next.skipBlanks
      match c.rest with
      | [] => .error (c.faultAhead .objectEnds)
      | ch :: _ =>
        if ch = '\x7d' then .ok (none, c.next)
        else do
          let c ← skipName c
          .ok (some (.object :: outer), c)
    else if ch = '"' then do
      let c ← c.next.skipString
      .ok (none, c)
    else if ch = '-' then do
      let c ← skipNumber c.next
      .ok (none, c)
    else if ch.isDigit then do
      let c ← skipNumber c
      .ok (none, c)
    else if ch = 'n' then do
      let c ← c.next.word ['u', 'l', 'l']
      .ok (none, c)
    else if ch = 't' then do
      let c ← c.next.word ['r', 'u', 'e']
      .ok (none, c)
    else if ch = 'f' then do
      let c ← c.next.word ['a', 'l', 's', 'e']
      .ok (none, c)
    else .error (c.faultAhead .notValue)

def skipFrom : Nat → List Bracket → Cursor → Except Fault Cursor
  | 0, _, c => .error (c.fault .valueEnds)
  | n + 1, outer, c => do
    match ← skipHead outer c with
    | (some inner, c) => skipFrom n inner c
    | (none, c) =>
      match ← leave outer c with
      | ([], c) => .ok c
      | (b :: outer, c) => skipFrom n (b :: outer) c

def Cursor.skipValue (c : Cursor) : Except Fault Cursor :=
  skipFrom (c.left + 1) [] c

def ofText? (text : String) : Option Json :=
  match (Cursor.start text).value lastOfEach (text.length + 1) with
  | .error _ => none
  | .ok (j, c) =>
    match c.finish with
    | .error _ => none
    | .ok _ => some j

end TemplateQuery.Json
