import TemplateQuery.Schema.Records

namespace TemplateQuery

open Json Schema

structure Location where
  offset : Nat := 0
  line : Nat := 0
  col : Nat := 0
deriving DecidableEq, Inhabited

namespace Location

def text (l : Location) : String :=
  toString l.line ++ ":" ++ toString l.col

def toJson (l : Location) : Json :=
  .object [("offset", .nat l.offset), ("line", .nat l.line), ("col", .nat l.col)]

def ofJson? (j : Json) : Option Location := do
  let r ← RecordKind.location.read? j
  let offset ← r.required "offset" nat?
  let line ← r.required "line" nat?
  let col ← r.required "col" nat?
  some { offset, line, col }

end Location

structure Span where
  start : Location := {}
  stop : Location := {}
  details : Option String := none
deriving DecidableEq, Inhabited

namespace Span

def text (s : Span) : String :=
  s.start.text ++ "-" ++ s.stop.text

def toJson (s : Span) : Json :=
  .object ([("start", s.start.toJson), ("end", s.stop.toJson)] ++
    match s.details with
    | none => []
    | some d => [("details", .string d)])

def ofJson? (j : Json) : Option Span := do
  let r ← RecordKind.span.read? j
  let start ← r.required "start" Location.ofJson?
  let stop ← r.required "end" Location.ofJson?
  let details ← r.nullable "details" string?
  some { start, stop, details }

end Span

open Json Schema

inductive Level where
  | warning
  | error
deriving DecidableEq, Inhabited

namespace Level

def name : Level → String
  | .warning => "warning"
  | .error => "error"

def text : Level → String
  | .warning => "WARNING"
  | .error => "ERROR"

def toJson (l : Level) : Json :=
  .string l.name

def ofJson? (j : Json) : Option Level := do
  match ← variantName? j with
  | "warning" => some .warning
  | "error" => some .error
  | _ => none

end Level

structure Diagnostic where
  span : Span
  message : String
  level : Level := .error
deriving DecidableEq, Inhabited

namespace Diagnostic

def text (d : Diagnostic) : String :=
  d.message ++ ": " ++ d.span.start.text ++
    match d.span.details with
    | none => ""
    | some details => ", " ++ details

def toJson (d : Diagnostic) : Json :=
  .object [("span", d.span.toJson), ("msg", .string d.message), ("level", d.level.toJson)]

def ofJson? (j : Json) : Option Diagnostic := do
  let r ← RecordKind.diagnostic.read? j
  let span ← r.required "span" Span.ofJson?
  let message ← r.required "msg" string?
  let level ← r.optional "level" Level.ofJson? .error
  some { span, message, level }

end Diagnostic

structure Problem where
  message : String
  sourceSpan : Span
  level : Level
deriving DecidableEq, Inhabited

namespace Problem

def ofDiagnostic (d : Diagnostic) : Problem :=
  ⟨d.message, d.span, d.level⟩

def isError (p : Problem) : Bool :=
  p.level = .error

def text (p : Problem) : String :=
  p.level.text ++ " " ++ p.sourceSpan.start.text ++ ": " ++ p.message

def line (path : String) (p : Problem) : String :=
  path ++ ": " ++ p.text

def toJson (p : Problem) : Json :=
  .object [
    ("message", .string p.message),
    ("source_span", p.sourceSpan.toJson),
    ("level", p.level.toJson)]

def ofJson? (j : Json) : Option Problem := do
  let r ← record? ["message", "source_span", "level"] j
  let message ← r.required "message" string?
  let sourceSpan ← r.required "source_span" Span.ofJson?
  let level ← r.required "level" Level.ofJson?
  some { message, sourceSpan, level }

end Problem

end TemplateQuery
