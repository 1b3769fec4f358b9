import TemplateQuery.Json.Fault

namespace TemplateQuery.Json

structure Cursor where
  rest : List Char
  left : Nat

namespace Cursor

def start (text : String) : Cursor :=
  ⟨text.toList, text.utf8ByteSize⟩

def next (c : Cursor) : Cursor :=
  match c.rest with
  | [] => c
  | ch :: rest => ⟨rest, c.left - ch.utf8Size⟩

def fault (c : Cursor) (cause : Cause) : Fault :=
  ⟨cause, c.left⟩

def faultAhead (c : Cursor) (cause : Cause) : Fault :=
  ⟨cause, c.left - 1⟩

def isBlank (ch : Char) : Bool :=
  ch == ' ' || ch == '\n' || ch == '\t' || ch == '\r'

def skipBlanksFrom (left : Nat) : List Char → Cursor
  | [] => ⟨[], left⟩
  | ch :: rest => if isBlank ch then skipBlanksFrom (left - 1) rest else ⟨ch :: rest, left⟩

def skipBlanks (c : Cursor) : Cursor :=
  skipBlanksFrom c.left c.rest

def word (c : Cursor) : List Char → Except Fault Cursor
  | [] => .ok c
  | w :: ws =>
    match c.rest with
    | [] => .error (c.fault .valueEnds)
    | ch :: rest =>
      if ch = w then word ⟨rest, c.left - ch.utf8Size⟩ ws else .error (c.faultAhead .notWord)

def nextItem (first : Bool) (c : Cursor) : Except Fault (Option Cursor) :=
  let c := c.skipBlanks
  match c.rest with
  | [] => .error (c.faultAhead .arrayEnds)
  | ch :: _ =>
    if ch = ']' then .ok none
    else if first then .ok (some c)
    else if ch = ',' then
      let c := c.next.skipBlanks
      match c.rest with
      | [] => .error (c.faultAhead .valueEnds)
      | ch :: _ => if ch = ']' then .error (c.faultAhead .trailingComma) else .ok (some c)
    else .error (c.faultAhead .notArrayEnd)

def nextName (first : Bool) (c : Cursor) : Except Fault (Option Cursor) :=
  let c := c.skipBlanks
  match c.rest with
  | [] => .error (c.faultAhead .objectEnds)
  | ch :: _ =>
    if ch = '\x7d' then .ok none
    else if first then
      if ch = '"' then .ok (some c) else .error (c.faultAhead .notKey)
    else if ch = ',' then
      let c := c.next.skipBlanks
      match c.rest with
      | [] => .error (c.faultAhead .valueEnds)
      | ch :: _ =>
        if ch = '"' then .ok (some c)
        else if ch = '\x7d' then .error (c.faultAhead .trailingComma)
        else .error (c.faultAhead .notKey)
    else .error (c.faultAhead .notObjectEnd)

def colon (c : Cursor) : Except Fault Cursor :=
  let c := c.skipBlanks
  match c.rest with
  | [] => .error (c.faultAhead .objectEnds)
  | ch :: _ => if ch = ':' then .ok c.next else .error (c.faultAhead .notColon)

def closeArray (c : Cursor) : Except Fault Cursor :=
  let c := c.skipBlanks
  match c.rest with
  | [] => .error (c.faultAhead .arrayEnds)
  | ch :: _ =>
    if ch = ']' then .ok c.next
    else if ch = ',' then
      let c := c.next.skipBlanks
      let closes := c.rest.head? = some ']'
      .error (c.faultAhead (if closes then .trailingComma else .trailingCharacters))
    else .error (c.faultAhead .trailingCharacters)

def closeObject (c : Cursor) : Except Fault Cursor :=
  let c := c.skipBlanks
  match c.rest with
  | [] => .error (c.faultAhead .objectEnds)
  | ch :: _ =>
    if ch = '\x7d' then .ok c.next
    else if ch = ',' then .error (c.faultAhead .trailingComma)
    else .error (c.faultAhead .trailingCharacters)

def arrayFault (c : Cursor) (cause : Cause) : Fault :=
  let c := c.skipBlanks
  match c.rest with
  | ']' :: _ => c.next.fault cause
  | ',' :: _ => c.next.skipBlanks.fault cause
  | _ => c.fault cause

def objectFault (c : Cursor) (cause : Cause) : Fault :=
  let c := c.skipBlanks
  match c.rest with
  | '\x7d' :: _ => c.next.fault cause
  | _ => c.fault cause

def finish (c : Cursor) : Except Fault Unit :=
  let c := c.skipBlanks
  if c.rest.isEmpty then .ok () else .error (c.faultAhead .trailingCharacters)

end Cursor

end TemplateQuery.Json
