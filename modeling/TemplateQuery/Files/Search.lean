import TemplateQuery.Files.Glob
import TemplateQuery.Files.Tree

namespace TemplateQuery

structure Entry where
  name : RawText
  path : Path
deriving DecidableEq, Inhabited

structure Unreadable where
  directory : Path
  error : ReadError
deriving DecidableEq, Inhabited

def inNameOrder {α : Type} (groups : List (RawText × List α)) : List α :=
  (groups.mergeSort fun a b => a.1.bytes ≤ b.1.bytes).flatMap (·.2)

namespace Tree

def entries (path : Path) : Tree → List (Except Unreadable Entry)
  | .directory es => inNameOrder (es.map fun (name, _) => (name, [.ok ⟨name, path.child name⟩]))
  | .lockedDirectory => [.error ⟨path, .denied⟩]
  | _ => []

mutual

def descendants (path : Path) : Tree → List (Except Unreadable Entry)
  | .directory es => inNameOrder (descendantsOfEach path es)
  | .lockedDirectory => [.error ⟨path, .denied⟩]
  | _ => []

def descendantsOfEach (path : Path) :
    List (RawText × Tree) → List (RawText × List (Except Unreadable Entry))
  | [] => []
  | (name, t) :: rest =>
    (name, .ok ⟨name, path.child name⟩ :: descendants (path.child name) t)
      :: descendantsOfEach path rest

end

end Tree

namespace Glob

inductive Step where
  | named (name : String)
  | entry (pattern : List Token)
  | below (pattern : List Token)
  | directories
deriving DecidableEq

namespace Step

def ofParts (anyDepth : Bool) : List (List Token) → List Step
  | [] => if anyDepth then [.directories] else []
  | part :: rest =>
    if part = [.anyDepth] then ofParts true rest
    else if anyDepth then .below part :: ofParts false rest
    else
      match literal? part with
      | some name => .named (String.ofList name) :: ofParts false rest
      | none => .entry part :: ofParts false rest

end Step

def parseAll : List String → Except Fault (List (List Token))
  | [] => .ok []
  | text :: rest => do
    let part ← parse text
    let parts ← parseAll rest
    .ok (part :: parts)

def partTexts (text : String) : List String :=
  let parts := (piecesOf '/' text.toList).map String.ofList
  if parts.getLast? = some "" then parts.dropLast else parts

structure Plan where
  absolute : Bool
  steps : List Step
  directoriesOnly : Bool
deriving DecidableEq

def Plan.ofText (text : String) : Except Fault Plan := do
  let _ ← parse text
  let absolute := text.startsWith "/"
  let parts ← parseAll (partTexts (if absolute then (text.drop 1).toString else text))
  .ok ⟨absolute, Step.ofParts false parts, text.endsWith "/"⟩

end Glob

namespace FileSystem

def dots (p : Path) (pattern : List Glob.Token) : List (Except Unreadable Entry) :=
  if pattern.head? = some (.char '.') then
    ["..", "."].map fun name : String => .ok ⟨name, p.join name⟩
  else []

def entries (fs : FileSystem) (p : Path) (pattern : List Glob.Token) :
    List (Except Unreadable Entry) :=
  match fs.find? p with
  | .ok (.directory es) => dots p pattern ++ (Tree.directory es).entries p
  | .ok t => t.entries p
  | .error _ => []

def descendants (fs : FileSystem) (p : Path) : List (Except Unreadable Entry) :=
  match fs.find? p with
  | .ok t => t.descendants p
  | .error _ => []

def isNameFound (fs : FileSystem) (p : Path) (name : String) (next : Path) : Bool :=
  if name = "." ∨ name = ".." then fs.isDirectory p else fs.isFound next

def select (pattern : List Glob.Token) (onward : Path → List (Except Unreadable Path))
    (found : List (Except Unreadable Entry)) : List (Except Unreadable Path) :=
  found.flatMap fun
    | .error e => [.error e]
    | .ok f => if f.name.text?.any (Glob.accepts pattern) then onward f.path else []

def search (fs : FileSystem) : List Glob.Step → Path → List (Except Unreadable Path)
  | [], p => [.ok p]
  | .named name :: rest, p =>
    let next := p.child name
    if fs.isNameFound p name next then search fs rest next else []
  | .entry pattern :: rest, p => select pattern (search fs rest) (fs.entries p pattern)
  | .below pattern :: rest, p => select pattern (search fs rest) (fs.descendants p)
  | .directories :: _, p =>
    (fs.descendants p).flatMap fun
      | .error e => [.error e]
      | .ok f => if fs.isDirectory f.path then [.ok f.path] else []

def matching (fs : FileSystem) (plan : Glob.Plan) : List (Except Unreadable Path) :=
  let start : Path := if plan.absolute then ⟨"/"⟩ else .current
  (fs.search plan.steps start).filter fun
    | .error _ => true
    | .ok p => !plan.directoriesOnly || fs.isDirectory p

end FileSystem

end TemplateQuery
