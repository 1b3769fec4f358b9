import TemplateQuery.Command.Word
import TemplateQuery.Report

namespace TemplateQuery

structure Invocation where
  arguments : List String
  config : Config
  report : Report

inductive Command where
  | run (i : Invocation)
  | version
  | help

namespace Command

inductive UsageError where
  | unknown (text : String)
  | unexpectedValue (s : Switch)
  | missingValue (s : Switch)
  | repeated (s : Switch)
  | missingCommand
  | unknownCommand (text : String)
  | missingSelector
deriving DecidableEq, Inhabited

def UsageError.message : UsageError → String
  | .unknown text => "unexpected argument \x27" ++ text ++ "\x27 found"
  | .unexpectedValue s => "unexpected value for \x27" ++ s.text ++ "\x27 found"
  | .missingValue s => "a value is required for \x27" ++ s.text ++ "\x27 but none was supplied"
  | .repeated s => "the argument \x27" ++ s.text ++ "\x27 cannot be used multiple times"
  | .missingCommand => "a command is required but none was given"
  | .unknownCommand text => "unrecognized command \x27" ++ text ++ "\x27"
  | .missingSelector => "the selector of \x27elements\x27 is missing"

inductive ReportName where
  | elements
  | bindings
  | handlers
  | interpolations
  | controlFlow
  | dependencies
  | errors
deriving DecidableEq, Inhabited

def ReportName.ofText? : String → Option ReportName
  | "elements" => some .elements
  | "bindings" => some .bindings
  | "handlers" => some .handlers
  | "interpolations" => some .interpolations
  | "control-flow" => some .controlFlow
  | "dependencies" => some .dependencies
  | "errors" => some .errors
  | _ => none

structure Shared where
  templates : List String := []
  includeEmpty : Bool := false
deriving DecidableEq, Inhabited

namespace Shared

def take (shared : Shared) (s : Switch) (value : Option String) : Except UsageError Shared :=
  match s, value with
  | .template, some text => .ok { shared with templates := shared.templates ++ [text] }
  | .template, none => .error (.missingValue .template)
  | .includeEmpty, none =>
    if shared.includeEmpty then .error (.repeated .includeEmpty)
    else .ok { shared with includeEmpty := true }
  | s, some _ => .error (.unexpectedValue s)
  | s, none => .error (.unknown s.text)

def merge (outer inner : Shared) : Shared where
  templates := if inner.templates.isEmpty then outer.templates else inner.templates
  includeEmpty := outer.includeEmpty || inner.includeEmpty

end Shared

structure Details where
  shared : Shared := {}
  selector : Option String := none
  legacy : Bool := false

def Details.command (name : ReportName) (outer : Shared) (d : Details) :
    Except UsageError Command :=
  let shared := outer.merge d.shared
  let run (report : Report) : Except UsageError Command :=
    .ok (.run ⟨shared.templates, ⟨shared.includeEmpty⟩, report⟩)
  match name, d.selector with
  | .elements, some selector => run (.elements selector)
  | .elements, none => .error .missingSelector
  | .bindings, _ => run .bindings
  | .handlers, _ => run .handlers
  | .interpolations, _ => run .interpolations
  | .controlFlow, _ => run .controlFlow
  | .dependencies, _ => run (.dependencies d.legacy)
  | .errors, _ => run .errors

def readDetails (name : ReportName) (outer : Shared) (d : Details) :
    List Word → Except UsageError Command
  | [] => d.command name outer
  | .plain text :: rest =>
    if name = .elements ∧ d.selector = none then
      readDetails name outer { d with selector := some text } rest
    else .error (.unknown text)
  | .endOfSwitches :: rest => readDetails name outer d rest
  | .switch .help none :: _ => .ok .help
  | .switch .legacy none :: rest =>
    if name ≠ .dependencies then .error (.unknown "--legacy")
    else if d.legacy then .error (.repeated .legacy)
    else readDetails name outer { d with legacy := true } rest
  | .switch s value :: rest =>
    match d.shared.take s value with
    | .ok shared => readDetails name outer { d with shared } rest
    | .error e => .error e
  | .unknown text :: _ => .error (.unknown text)

def readHelp : List Word → Except UsageError Command
  | [] => .ok .help
  | [.plain text] =>
    if text = "help" ∨ (ReportName.ofText? text).isSome then .ok .help
    else .error (.unknownCommand text)
  | _ => .error .missingCommand

def readWords (shared : Shared) : List Word → Except UsageError Command
  | [] => .error .missingCommand
  | .plain text :: rest =>
    match ReportName.ofText? text with
    | some name => readDetails name shared {} rest
    | none => if text = "help" then readHelp rest else .error (.unknownCommand text)
  | .endOfSwitches :: _ => .error .missingCommand
  | .switch .version none :: _ => .ok .version
  | .switch .help none :: _ => .ok .help
  | .switch s value :: rest =>
    match shared.take s value with
    | .ok shared => readWords shared rest
    | .error e => .error e
  | .unknown text :: _ => .error (.unknown text)

def ofArguments (arguments : List String) : Except UsageError Command :=
  readWords {} (Word.ofTexts arguments)

end Command

end TemplateQuery
