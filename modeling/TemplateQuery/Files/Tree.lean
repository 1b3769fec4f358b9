import TemplateQuery.Files.Path

namespace TemplateQuery

inductive ReadError where
  | notFound
  | denied
  | notDirectory
  | isDirectory
  | nameTooLong
  | nulInName
  | notText
deriving DecidableEq, Inhabited

namespace ReadError

def message : ReadError → String
  | .notFound => "No such file or directory (os error 2)"
  | .denied => "Permission denied (os error 13)"
  | .notDirectory => "Not a directory (os error 20)"
  | .isDirectory => "Is a directory (os error 21)"
  | .nameTooLong => "File name too long (os error 36)"
  | .nulInName => "file name contained an unexpected NUL byte"
  | .notText => "stream did not contain valid UTF-8"

end ReadError

inductive Tree where
  | file (content : ByteArray)
  | directory (entries : List (RawText × Tree))
  | lockedFile
  | lockedDirectory

namespace Tree

instance : Inhabited Tree := ⟨.directory []⟩

def isFile : Tree → Bool
  | .file _ => true
  | .lockedFile => true
  | _ => false

def isDirectory : Tree → Bool
  | .directory _ => true
  | .lockedDirectory => true
  | _ => false

def step (name : RawText) : List Tree → Except ReadError (List Tree)
  | [] => .error .notFound
  | .file _ :: _ => .error .notDirectory
  | .lockedFile :: _ => .error .notDirectory
  | .lockedDirectory :: above =>
    if name = "" then .ok (.lockedDirectory :: above) else .error .denied
  | .directory entries :: above =>
    if name = "" ∨ name = "." then .ok (.directory entries :: above)
    else if name = ".." then
      match above with
      | [] => .ok [.directory entries]
      | _ => .ok above
    else if 255 < name.bytes.length then .error .nameTooLong
    else
      match entries.lookup name with
      | some t => .ok (t :: .directory entries :: above)
      | none => .error .notFound

def follow : FileNames → List Tree → Except ReadError (List Tree)
  | [], trees => .ok trees
  | name :: rest, trees =>
    match step name trees with
    | .ok trees => follow rest trees
    | .error e => .error e

def insert (t : Tree) : FileNames → Tree → Tree
  | [], _ => t
  | name :: rest, .directory entries =>
    let below := (entries.lookup name).getD (.directory [])
    .directory (entries.filter (·.1 ≠ name) ++ [(name, insert t rest below)])
  | name :: rest, _ => .directory [(name, insert t rest (.directory []))]

end Tree

structure FileSystem where
  root : Tree
  current : FileNames := []

namespace FileSystem

def find? (fs : FileSystem) (p : Path) : Except ReadError Tree :=
  if p.name.bytes.isEmpty then .error .notFound
  else if p.name.bytes.contains 0 then .error .nulInName
  else if 4095 < p.name.bytes.length then .error .nameTooLong
  else
    let names := if p.isAbsolute then p.pieces else fs.current ++ p.pieces
    match Tree.follow names [fs.root] with
    | .ok (t :: _) => .ok t
    | .ok [] => .error .notFound
    | .error e => .error e

def isFound (fs : FileSystem) (p : Path) : Bool :=
  match fs.find? p with
  | .ok _ => true
  | .error _ => false

def isFile (fs : FileSystem) (p : Path) : Bool :=
  match fs.find? p with
  | .ok t => t.isFile
  | .error _ => false

def isDirectory (fs : FileSystem) (p : Path) : Bool :=
  match fs.find? p with
  | .ok t => t.isDirectory
  | .error _ => false

def readText (fs : FileSystem) (p : Path) : Except ReadError String :=
  match fs.find? p with
  | .error e => .error e
  | .ok (.file content) =>
    match String.fromUTF8? content with
    | some text => .ok text
    | none => .error .notText
  | .ok (.directory _) => .error .isDirectory
  | .ok _ => .error .denied

end FileSystem

end TemplateQuery
