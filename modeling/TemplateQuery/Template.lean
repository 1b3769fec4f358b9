import TemplateQuery.Analysis.Basic
import TemplateQuery.Text.Quoted

namespace TemplateQuery

abbrev TemplateParser := String → String → ParsedTemplate

structure Template where
  text : String
  path : String
  parser : TemplateParser
  config : Config := {}
  cached : Option ParsedTemplate := none
  parses : Nat := 0

namespace Template

def isParsed (t : Template) : Bool :=
  t.cached.isSome

def withConfig (t : Template) (c : Config) : Template :=
  { t with config := c }

def parsed (t : Template) : ParsedTemplate × Template :=
  match t.cached with
  | some p => (p, t)
  | none =>
    let p := t.parser t.text t.path
    (p, { t with cached := some p, parses := t.parses + 1 })

def invalidate (t : Template) : Template :=
  { t with cached := none }

def setText (t : Template) (text : String) : Template :=
  { t with text := text, cached := none }

def analysis (t : Template) : Analysis × Template :=
  let (p, t) := t.parsed
  (⟨p.nodes, p.diagnostics, t.config⟩, t)

def answer (t : Template) (q : Query) : Answer × Template :=
  let (a, t) := t.analysis
  (a.answer q, t)

def describe (t : Template) : String :=
  "Template \x7b path: " ++ Text.quoted t.path
    ++ ", config: AnalyzerConfig \x7b include_empty_branches: "
    ++ (if t.config.includeEmptyBranches then "true" else "false")
    ++ " \x7d, parsed: " ++ (if t.isParsed then "true" else "false") ++ " \x7d"

inductive Operation where
  | query (q : Query)
  | parsed
  | nodes
  | invalidate
  | setText (text : String)
  | setConfig (c : Config)

inductive Reply where
  | answer (a : Answer)
  | parsed (p : ParsedTemplate)
  | nodes (ns : List Node)
  | done

def perform (t : Template) : Operation → Reply × Template
  | .query q =>
    let (a, t) := t.answer q
    (.answer a, t)
  | .parsed =>
    let (p, t) := t.parsed
    (.parsed p, t)
  | .nodes =>
    let (p, t) := t.parsed
    (.nodes p.nodes, t)
  | .invalidate => (.done, t.invalidate)
  | .setText text => (.done, t.setText text)
  | .setConfig c => (.done, t.withConfig c)

end Template

end TemplateQuery
