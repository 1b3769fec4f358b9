import TemplateQuery.Decimal
import TemplateQuery.Json.Basic
import TemplateQuery.Json.Cursor

namespace TemplateQuery.Json

def hexValue (c : Char) : Option Nat :=
  if c.isDigit then some (c.toNat - '0'.toNat)
  else if 'a' ≤ c ∧ c ≤ 'f' then some (c.toNat - 'a'.toNat + 10)
  else if 'A' ≤ c ∧ c ≤ 'F' then some (c.toNat - 'A'.toNat + 10)
  else none

def hexUnit (c : Cursor) : Except Fault (Nat × Cursor) :=
  let bad : Fault :=
    if c.left < 4 then ⟨.stringEnds, 0⟩ else ⟨.badEscape, c.left - 4⟩
  match c.rest with
  | a :: b :: d :: e :: rest =>
    match hexValue a, hexValue b, hexValue d, hexValue e with
    | some a, some b, some d, some e =>
      .ok (((a * 16 + b) * 16 + d) * 16 + e, ⟨rest, c.left - 4⟩)
    | _, _, _, _ => .error bad
  | _ => .error bad

def isLeading (n : Nat) : Bool :=
  0xD800 ≤ n && n ≤ 0xDBFF

def isTrailing (n : Nat) : Bool :=
  0xDC00 ≤ n && n ≤ 0xDFFF

def trailingUnit (c : Cursor) : Except Fault (Nat × Cursor) :=
  match c.rest with
  | [] => .error (c.fault .stringEnds)
  | '\\' :: [] => .error (c.next.fault .stringEnds)
  | '\\' :: 'u' :: _ => do
    let (n, c) ← hexUnit c.next.next
    if isTrailing n then .ok (n, c) else .error (c.fault .loneSurrogate)
  | '\\' :: _ => .error (c.next.faultAhead .cutSurrogate)
  | _ => .error (c.faultAhead .cutSurrogate)

def unicodeEscape (c : Cursor) : Except Fault (Char × Cursor) := do
  let (n, c) ← hexUnit c
  if isTrailing n then
    .error (c.fault .loneSurrogate)
  else if isLeading n then
    let (m, c) ← trailingUnit c
    .ok (Char.ofNat (0x10000 + (n - 0xD800) * 0x400 + (m - 0xDC00)), c)
  else
    .ok (Char.ofNat n, c)

def shortEscape? (c : Char) : Option Char :=
  match c with
  | '"' => some '"'
  | '\\' => some '\\'
  | '/' => some '/'
  | 'b' => some '\x08'
  | 'f' => some '\x0c'
  | 'n' => some '\n'
  | 'r' => some '\r'
  | 't' => some '\t'
  | _ => none

def escape (c : Cursor) : Except Fault (Char × Cursor) :=
  match c.rest with
  | [] => .error (c.fault .stringEnds)
  | ch :: _ =>
    if ch = 'u' then unicodeEscape c.next
    else
      match shortEscape? ch with
      | some e => .ok (e, c.next)
      | none => .error (c.faultAhead .badEscape)

def skipEscape (c : Cursor) : Except Fault Cursor :=
  match c.rest with
  | [] => .error (c.fault .stringEnds)
  | ch :: _ =>
    if ch = 'u' then do
      let (_, c) ← hexUnit c.next
      .ok c
    else if (shortEscape? ch).isSome then .ok c.next
    else .error (c.faultAhead .badEscape)

def stringFrom : Nat → List Char → Cursor → Except Fault (String × Cursor)
  | 0, _, c => .error (c.fault .stringEnds)
  | n + 1, read, c =>
    match c.rest with
    | [] => .error (c.fault .stringEnds)
    | ch :: _ =>
      if ch = '"' then .ok (String.ofList read.reverse, c.next)
      else if ch = '\\' then do
        let (e, c) ← escape c.next
        stringFrom n (e :: read) c
      else if ch.toNat < 0x20 then .error (c.faultAhead .controlCharacter)
      else stringFrom n (ch :: read) c.next

def skipStringFrom : Nat → Cursor → Except Fault Cursor
  | 0, c => .error (c.fault .stringEnds)
  | n + 1, c =>
    match c.rest with
    | [] => .error (c.fault .stringEnds)
    | ch :: _ =>
      if ch = '"' then .ok c.next
      else if ch = '\\' then do
        let c ← skipEscape c.next
        skipStringFrom n c
      else if ch.toNat < 0x20 then .error (c.fault .controlCharacter)
      else skipStringFrom n c.next

namespace Cursor

def string (c : Cursor) : Except Fault (String × Cursor) :=
  stringFrom (c.left + 1) [] c

def skipString (c : Cursor) : Except Fault Cursor :=
  skipStringFrom (c.left + 1) c

def digits (c : Cursor) : List Char × Cursor :=
  let ds := c.rest.takeWhile Char.isDigit
  (ds, ⟨c.rest.dropWhile Char.isDigit, c.left - ds.length⟩)

end Cursor

def absorb (kept : Nat) : List Char → Nat × List Char
  | [] => (kept, [])
  | d :: rest =>
    let n := kept * 10 + (d.toNat - '0'.toNat)
    if n < Number.bound then absorb n rest else (kept, d :: rest)

def exponentLimit : Nat := 0x80000000

structure Mantissa where
  digits : Nat
  exponent : Int

def Mantissa.toFloat (negative : Bool) (m : Mantissa) (c : Cursor) :
    Except Fault (Number × Cursor) :=
  match Decimal.scale? m.digits m.exponent with
  | some x => .ok (.float (if negative then -x else x), c)
  | none => .error (c.fault .numberTooLarge)

def boundedExponent (value read : Nat) : List Char → Nat × Nat × Bool
  | [] => (value, read, true)
  | d :: rest =>
    let n := value * 10 + (d.toNat - '0'.toNat)
    if n < exponentLimit then boundedExponent n (read + 1) rest else (n, read + 1, false)

def exponent (negative : Bool) (m : Mantissa) (c : Cursor) : Except Fault (Number × Cursor) :=
  let (minus, c) :=
    match c.rest with
    | '+' :: _ => (false, c.next)
    | '-' :: _ => (true, c.next)
    | _ => (false, c)
  let (ds, after) := c.digits
  if c.rest.isEmpty then .error (c.fault .valueEnds)
  else if ds.isEmpty then .error (c.faultAhead .badNumber)
  else
    match boundedExponent 0 0 ds with
    | (e, _, true) =>
      Mantissa.toFloat negative ⟨m.digits, if minus then m.exponent - e else m.exponent + e⟩ after
    | (_, read, false) =>
      if m.digits ≠ 0 && !minus then .error ⟨.numberTooLarge, c.left - read⟩
      else .ok (.float (if negative then -0.0 else 0.0), after)

def fraction (negative : Bool) (m : Mantissa) (c : Cursor) : Except Fault (Number × Cursor) :=
  let (ds, after) := c.digits
  if ds.isEmpty then
    .error (c.faultAhead (if c.rest.isEmpty then .valueEnds else .badNumber))
  else
    let (kept, dropped) := absorb m.digits ds
    let m : Mantissa := ⟨kept, m.exponent - (ds.length - dropped.length)⟩
    match after.rest with
    | 'e' :: _ => exponent negative m after.next
    | 'E' :: _ => exponent negative m after.next
    | _ => Mantissa.toFloat negative m after

def numeral (negative : Bool) (c : Cursor) : Except Fault (Number × Cursor) :=
  let (ds, after) := c.digits
  match ds with
  | [] => .error (if c.rest.isEmpty then c.fault .valueEnds else c.faultAhead .badNumber)
  | '0' :: _ :: _ => .error (c.next.faultAhead .badNumber)
  | _ =>
    let (kept, dropped) := absorb 0 ds
    let m : Mantissa := ⟨kept, dropped.length⟩
    match after.rest with
    | '.' :: _ => fraction negative m after.next
    | 'e' :: _ => exponent negative m after.next
    | 'E' :: _ => exponent negative m after.next
    | _ =>
      if !dropped.isEmpty then Mantissa.toFloat negative m after
      else if !negative then .ok (.int kept, after)
      else if kept = 0 || Number.signedBound < kept then .ok (.float (-(Float.ofNat kept)), after)
      else .ok (.int (-(kept : Int)), after)

def skipExponent (c : Cursor) : Except Fault Cursor :=
  let c :=
    match c.rest with
    | '+' :: _ => c.next
    | '-' :: _ => c.next
    | _ => c
  let (ds, after) := c.digits
  if ds.isEmpty then .error (if c.rest.isEmpty then c.fault .badNumber else c.faultAhead .badNumber)
  else .ok after

def skipFraction (c : Cursor) : Except Fault Cursor :=
  let (ds, after) := c.digits
  if ds.isEmpty then .error (c.faultAhead .badNumber)
  else
    match after.rest with
    | 'e' :: _ => skipExponent after.next
    | 'E' :: _ => skipExponent after.next
    | _ => .ok after

def skipNumber (c : Cursor) : Except Fault Cursor :=
  let (ds, after) := c.digits
  match ds with
  | [] => .error (if c.rest.isEmpty then c.fault .badNumber else c.faultAhead .badNumber)
  | '0' :: _ :: _ => .error (c.next.faultAhead .badNumber)
  | _ =>
    match after.rest with
    | '.' :: _ => skipFraction after.next
    | 'e' :: _ => skipExponent after.next
    | 'E' :: _ => skipExponent after.next
    | _ => .ok after

end TemplateQuery.Json
