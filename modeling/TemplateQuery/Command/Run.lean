import TemplateQuery.Command.Basic
import TemplateQuery.Files.Resolve
import TemplateQuery.Json.Printer

namespace TemplateQuery

open Json

structure Output where
  code : Nat
  stdout : String := ""
  stderr : String := ""
deriving DecidableEq, Inhabited

structure Results where
  templates : List Template
  findings : List Finding

namespace Results

def output (r : Results) : Json :=
  match r.findings with
  | [f] => f.output
  | fs => Json.ofMembers ((r.templates.map (·.path)).zip (fs.map (·.output)))

def failed (r : Results) : Bool :=
  r.findings.any (·.failed)

def problemLines (r : Results) : List String :=
  r.templates.flatMap fun t => t.analysis.1.problems.map (·.line t.path)

end Results

def linesText (ls : List String) : String :=
  String.join (ls.map (· ++ "\n"))

namespace Invocation

def results (i : Invocation) (fs : FileSystem) : Except Failure Results :=
  if i.arguments.isEmpty then .error .noArgument
  else
    match fs.loadTemplates i.config i.arguments with
    | .error e => .error e
    | .ok loaded =>
      let templates := loaded.map fun t => t.parsed.2
      match i.report.findings templates with
      | .error e => .error e
      | .ok findings => .ok ⟨templates, findings⟩

def run (i : Invocation) (fs : FileSystem) : Output :=
  match i.results fs with
  | .error e => { code := 1, stderr := linesText ["Error: " ++ e.message] }
  | .ok r =>
    { code := if r.failed then 1 else 0,
      stdout := linesText [r.output.pretty],
      stderr := linesText (if i.report = .errors then [] else r.problemLines) }

end Invocation

namespace Command

def programName : String := "ng-analyze"

def versionText : String := "0.1.0"

def helpText : String :=
  linesText [
    "Angular template analyzer",
    "",
    "Usage: " ++ programName ++ " [OPTIONS] <COMMAND>",
    "",
    "Commands:",
    "  elements        Elements matching a CSS selector",
    "  bindings        Property bindings",
    "  handlers        Event handlers",
    "  interpolations  Text interpolations",
    "  control-flow    @if, @for and @switch expressions",
    "  dependencies    Component members read by the template",
    "  errors          Template and binding diagnostics",
    "  help            Print this message",
    "",
    "Options:",
    "  -t, --template <PATH>  Pre-parsed template document; repeatable, accepts glob patterns",
    "      --include-empty    Also analyze @empty branches of @for blocks",
    "      --legacy           Binding names and handler texts instead of identifiers",
    "  -h, --help             Print help",
    "  -V, --version          Print version"]

def execute (fs : FileSystem) : Command → Output
  | .run i => i.run fs
  | .version => { code := 0, stdout := linesText [programName ++ " " ++ versionText] }
  | .help => { code := 0, stdout := helpText }

end Command

end TemplateQuery
