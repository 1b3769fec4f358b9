import TemplateQuery.Node.Codec
import TemplateQuery.Schema.Reader

namespace TemplateQuery

open Json Schema

structure ParsedTemplate where
  nodes : List Node := []
  diagnostics : List Diagnostic := []
deriving Inhabited

namespace ParsedTemplate

def toJson (t : ParsedTemplate) : Json :=
  .object [
    ("nodes", .array (Node.allToJson t.nodes)),
    ("errors", list Diagnostic.toJson t.diagnostics)]

def ofJson? (j : Json) : Option ParsedTemplate := do
  let r ← RecordKind.document.read? j
  let nodes ← r.optional "nodes" (list? Node.ofJson?) []
  let diagnostics ← r.optional "errors" (list? Diagnostic.ofJson?) []
  some { nodes, diagnostics }

def ofValue? : Json → Option ParsedTemplate :=
  Schema.ofValue? (.record .document) ofJson?

end ParsedTemplate

end TemplateQuery

namespace TemplateQuery.Document

open Json

structure Position where
  line : Nat
  column : Nat
deriving DecidableEq

def columnFrom (column : Nat) (n : Nat) : List Char → Nat
  | [] => column
  | c :: rest =>
    if n < c.utf8Size then column + n
    else columnFrom (if c = '\n' then 0 else column + c.utf8Size) (n - c.utf8Size) rest

def newlinesIn (n : Nat) : List Char → Nat
  | [] => 0
  | c :: rest =>
    if n < c.utf8Size then 0
    else (if c = '\n' then 1 else 0) + newlinesIn (n - c.utf8Size) rest

def Position.ofIndex (text : String) (index : Nat) : Position :=
  ⟨newlinesIn index text.toList + 1, columnFrom 0 index text.toList⟩

def linesSize : Nat → List Char → Nat
  | 0, _ => 0
  | _, [] => 0
  | n + 1, c :: rest => c.utf8Size + linesSize (if c = '\n' then n else n + 1) rest

def locate (text : String) (p : Position) : Location :=
  let line := p.line - 1
  let col := p.column - 1
  ⟨min (linesSize line text.toList + col) text.utf8ByteSize, line, col⟩

def faultIndex (text : String) (f : Fault) : Nat :=
  text.utf8ByteSize - f.left

def faultMessage (text : String) (f : Fault) : String :=
  let p := Position.ofIndex text (faultIndex text f)
  f.cause.message ++ " at line " ++ toString p.line ++ " column " ++ toString p.column

def diagnostic (text : String) (f : Fault) : Diagnostic :=
  let location := locate text (Position.ofIndex text (faultIndex text f))
  { span := { start := location, stop := location },
    message := "Invalid template document: " ++ faultMessage text f }

def read (text : String) : Except Fault ParsedTemplate :=
  match Schema.readText (.record .document) text with
  | .error f => .error f
  | .ok j =>
    match ParsedTemplate.ofJson? j with
    | some t => .ok t
    | none => .error ⟨.notValue, 0⟩

def parse (text : String) : ParsedTemplate :=
  match read text with
  | .ok t => t
  | .error f => { diagnostics := [diagnostic text f] }

end TemplateQuery.Document
