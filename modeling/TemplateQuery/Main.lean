import TemplateQuery.Command.Run

namespace TemplateQuery

def namesFromRoot (current : FileNames) (p : Path) : FileNames :=
  let all := if p.isAbsolute then p.pieces else current ++ p.pieces
  (all.filter fun s => s ≠ "" && s ≠ ".").foldl (fun names (s : RawText) =>
    if s = ".." then names.dropLast else names ++ [s]) []

def rooted (names : FileNames) : Path :=
  names.foldl .join ⟨"/"⟩

def kindAt? (names : FileNames) : IO (Option Tree) := do
  let file := (← IO.currentDir) / (rooted names).text
  if ← file.isDir then return some (.directory [])
  if ← file.pathExists then return some .lockedFile
  return none

def addWay (fs : FileSystem) (names : FileNames) : IO FileSystem := do
  let mut fs := fs
  for n in [0 : names.length + 1] do
    let way := names.take n
    unless fs.isFound (rooted way) do
      if let some t ← kindAt? way then
        fs := { fs with root := Tree.insert t way fs.root }
  return fs

partial def listing (depth : Option Nat) (names : FileNames) : IO Tree := do
  let directory := (← IO.currentDir) / (rooted names).text
  try
    let mut entries := []
    for entry in ← directory.readDir do
      let name := RawText.ofString entry.fileName
      match ← kindAt? (names ++ [name]) with
      | none => pure ()
      | some (.directory _) =>
        let t ←
          match depth with
          | some 0 => pure (.directory [])
          | depth => listing (depth.map (· - 1)) (names ++ [name])
        entries := (name, t) :: entries
      | some t => entries := (name, t) :: entries
    return .directory entries
  catch _ => return .lockedDirectory

partial def union : Tree → Tree → Tree
  | .lockedDirectory, _ => .lockedDirectory
  | _, .lockedDirectory => .lockedDirectory
  | .directory es, .directory fs =>
    let shared := es.map fun (name, t) => (name, ((fs.lookup name).map (union t)).getD t)
    .directory (shared ++ fs.filter fun (name, _) => (es.lookup name).isNone)
  | t, _ => t

def mayAscend : Glob.Step → Bool
  | .named name => name = ".."
  | .entry pattern => pattern.head? = some (.char '.')
  | _ => false

def isUnbounded : Glob.Step → Bool
  | .below _ => true
  | .directories => true
  | _ => false

def addSearched (fs : FileSystem) (plan : Glob.Plan) : IO FileSystem := do
  let start : Path := if plan.absolute then ⟨"/"⟩ else .current
  let head := plan.steps.takeWhile fun
    | .named name => name ≠ ".."
    | _ => false
  let rest := plan.steps.drop head.length
  let base := head.foldl (fun p step =>
    match step with
    | .named name => p.child name
    | _ => p) start
  let ascents := (rest.filter mayAscend).length
  let names := namesFromRoot fs.current base
  let fs ← addWay fs names
  let above := names.take (names.length - ascents)
  match fs.find? (rooted above) with
  | .ok (.directory es) =>
    let depth := if rest.any isUnbounded then none else some (rest.length - 1 + ascents)
    let t := union (← listing depth above) (.directory es)
    return { fs with root := Tree.insert t above fs.root }
  | _ => return fs

def addArgument (fs : FileSystem) (argument : String) : IO FileSystem := do
  if hasWildcard argument then
    match Glob.Plan.ofText argument with
    | .ok plan => addSearched fs plan
    | .error _ => return fs
  else addWay fs (namesFromRoot fs.current ⟨argument⟩)

def addContent (fs : FileSystem) (p : Path) : IO FileSystem := do
  unless fs.isFile p do return fs
  let names := namesFromRoot fs.current p
  let file := (← IO.currentDir) / (rooted names).text
  try
    let content ← IO.FS.readBinFile file
    return { fs with root := Tree.insert (.file content) names fs.root }
  catch _ => return fs

def snapshot (arguments : List String) : IO FileSystem := do
  let current := namesFromRoot [] ⟨(← IO.currentDir).toString⟩
  let start : FileSystem := { root := Tree.insert (.directory []) current (.directory []), current }
  let fs ← arguments.foldlM addArgument start
  match fs.resolve arguments with
  | .ok paths => paths.foldlM addContent fs
  | .error _ => return fs

end TemplateQuery

open TemplateQuery in
def main (args : List String) : IO UInt32 := do
  match Command.ofArguments args with
  | .error e =>
    (← IO.getStderr).putStr ("error: " ++ e.message ++ "\n")
    return 2
  | .ok command =>
    let fs ←
      match command with
      | .run i => snapshot i.arguments
      | _ => pure { root := .directory [] }
    let output := command.execute fs
    (← IO.getStderr).putStr output.stderr
    (← IO.getStdout).putStr output.stdout
    return output.code.toUInt32
