import TemplateQuery.Document.Reader
import TemplateQuery.Files.Glob
import TemplateQuery.Files.Search
import TemplateQuery.Files.Tree
import TemplateQuery.Selector.Parser
import TemplateQuery.Template

namespace TemplateQuery

structure InvalidSelector where
  selector : String
  error : SelectorError

def InvalidSelector.message (e : InvalidSelector) : String :=
  "Invalid selector \x27" ++ e.selector ++ "\x27: " ++ e.error.message

inductive Failure where
  | noArgument
  | invalidPattern (argument : String) (fault : Glob.Fault)
  | unreadableDirectory (argument : String) (directory : Path) (error : ReadError)
  | noMatch (argument : String)
  | unreadable (path : Path) (error : ReadError)
  | analysis (path : String) (cause : InvalidSelector)

namespace Failure

def message : Failure → String
  | .noArgument => "Missing --template"
  | .invalidPattern argument fault =>
    "Invalid glob pattern \x27" ++ argument ++ "\x27: " ++ fault.message
  | .unreadableDirectory argument directory error =>
    let tick := String.singleton (Char.ofNat 0x60)
    "Failed to expand \x27" ++ argument ++ "\x27: attempting to read " ++ tick ++ directory.text
      ++ tick ++ " resulted in an error: " ++ error.message
  | .noMatch argument => "No templates match \x27" ++ argument ++ "\x27"
  | .unreadable path error =>
    "Failed to read template " ++ path.text ++ ": " ++ error.message
  | .analysis path cause => "Failed to analyze " ++ path ++ ": " ++ cause.message

end Failure

def hasWildcard (argument : String) : Bool :=
  argument.toList.any fun c => c = '*' ∨ c = '?' ∨ c = '['

def allOrError {ε α : Type} : List (Except ε α) → Except ε (List α)
  | [] => .ok []
  | .error e :: _ => .error e
  | .ok a :: rest =>
    match allOrError rest with
    | .ok as => .ok (a :: as)
    | .error e => .error e

theorem allOrError_eq_ok_iff {ε α : Type} {results : List (Except ε α)} {as : List α} :
    allOrError results = .ok as ↔ results = as.map .ok := by
  induction results generalizing as with
  | nil => cases as <;> simp [allOrError]
  | cons r rest ih =>
    cases r with
    | error e => cases as <;> simp [allOrError]
    | ok a =>
      simp only [allOrError]
      cases h : allOrError rest with
      | ok bs =>
        have := ih.1 h
        cases as with
        | nil => simp
        | cons b as => simp [this, List.map_inj_right]
      | error e =>
        cases as with
        | nil => simp
        | cons b as =>
          have : rest ≠ as.map .ok := fun hr => by simp [ih.2 hr] at h
          simp [this]

theorem allOrError_append {ε α : Type} (l r : List (Except ε α)) :
    allOrError (l ++ r) =
      match allOrError l with
      | .error e => .error e
      | .ok as => (allOrError r).map (as ++ ·) := by
  induction l with
  | nil => cases h : allOrError r <;> simp [allOrError, h, Except.map]
  | cons x rest ih =>
    cases x with
    | error e => simp [allOrError]
    | ok a =>
      simp only [List.cons_append, allOrError, ih]
      cases allOrError rest with
      | error e => rfl
      | ok as => cases allOrError r <;> rfl

namespace FileSystem

def expand (fs : FileSystem) (argument : String) : Except Failure (List Path) :=
  match Glob.Plan.ofText argument with
  | .error fault => .error (.invalidPattern argument fault)
  | .ok plan =>
    match allOrError (fs.matching plan) with
    | .error e => .error (.unreadableDirectory argument e.directory e.error)
    | .ok found =>
      match found.filter fs.isFile with
      | [] => .error (.noMatch argument)
      | files => .ok (Path.sort files)

def pathsOf (fs : FileSystem) (argument : String) : Except Failure (List Path) :=
  if hasWildcard argument then fs.expand argument else .ok [⟨argument⟩]

def resolve (fs : FileSystem) (arguments : List String) : Except Failure (List Path) :=
  (allOrError (arguments.map fs.pathsOf)).map fun paths => Path.distinct paths.flatten

end FileSystem

def Template.ofDocument (text path : String) (config : Config := {}) : Template where
  text := text
  path := path
  parser := fun text _ => Document.parse text
  config := config

namespace FileSystem

def loadTemplate (fs : FileSystem) (config : Config) (p : Path) : Except Failure Template :=
  match fs.readText p with
  | .error e => .error (.unreadable p e)
  | .ok text => .ok (.ofDocument text p.text config)

def loadTemplates (fs : FileSystem) (config : Config) (arguments : List String) :
    Except Failure (List Template) := do
  let paths ← fs.resolve arguments
  allOrError (paths.map (fs.loadTemplate config))

end FileSystem

end TemplateQuery
