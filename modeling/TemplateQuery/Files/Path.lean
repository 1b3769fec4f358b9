import TemplateQuery.OrderedSet
import TemplateQuery.Text.Raw

namespace TemplateQuery

section

variable {α : Type} [DecidableEq α]

def piecesOf (separator : α) : List α → List (List α)
  | [] => [[]]
  | a :: rest =>
    if a = separator then [] :: piecesOf separator rest
    else
      match piecesOf separator rest with
      | [] => [[a]]
      | p :: ps => (a :: p) :: ps

end

abbrev FileNames : Type :=
  List RawText

def FileNames.filter (names : FileNames) (p : RawText → Bool) : FileNames :=
  List.filter p names

structure Path where
  name : RawText
deriving DecidableEq, Inhabited

namespace Path

def separator : UInt8 := 0x2f

def text (p : Path) : String :=
  p.name.text

def pieces (p : Path) : FileNames :=
  (piecesOf separator p.name.bytes).map .mk

inductive Component where
  | root
  | here
  | parent
  | name (s : RawText)
deriving DecidableEq

namespace Component

def rank : Component → Nat
  | .root => 0
  | .here => 1
  | .parent => 2
  | .name _ => 3

def label : Component → List UInt8
  | .name s => s.bytes
  | _ => []

def ofPiece (piece : RawText) : Component :=
  if piece = ".." then .parent else .name piece

def before (a b : Component) : Bool :=
  a.rank < b.rank || (a.rank = b.rank && a.label < b.label)

end Component

def isAbsolute (p : Path) : Bool :=
  p.name.bytes.head? = some separator

def components (p : Path) : List Component :=
  let start : List Component :=
    if p.isAbsolute then [.root]
    else if p.pieces.head? = some (.ofString ".") then [.here]
    else []
  start ++ (p.pieces.filter fun s => s ≠ "" && s ≠ ".").map Component.ofPiece

def componentsLe : List Component → List Component → Bool
  | [], _ => true
  | _ :: _, [] => false
  | a :: as, b :: bs => a.before b || (a = b && componentsLe as bs)

theorem componentsLe_refl (cs : List Component) : componentsLe cs cs = true := by
  induction cs with
  | nil => rfl
  | cons c rest ih => simp [componentsLe, ih]

def le (p q : Path) : Bool :=
  componentsLe p.components q.components

def sort (ps : List Path) : List Path :=
  ps.mergeSort le

def distinct : List Path → List Path
  | [] => []
  | p :: rest => p :: (distinct rest).filter (·.components ≠ p.components)

theorem map_components_distinct (ps : List Path) :
    (distinct ps).map components = firstSeen (ps.map components) := by
  induction ps with
  | nil => rfl
  | cons p rest ih =>
    simp only [distinct, List.map_cons, firstSeen, ← ih, List.filter_map]
    rfl

theorem distinct_sublist (ps : List Path) : (distinct ps).Sublist ps := by
  induction ps with
  | nil => exact .slnil
  | cons p rest ih => exact .cons_cons p (List.filter_sublist.trans ih)

def join (p : Path) (name : RawText) : Path :=
  if name.bytes.head? = some separator || p.name.bytes.isEmpty then ⟨name⟩
  else if p.name.bytes.getLast? = some separator then ⟨⟨p.name.bytes ++ name.bytes⟩⟩
  else ⟨⟨p.name.bytes ++ separator :: name.bytes⟩⟩

def current : Path :=
  ⟨"."⟩

def isCurrent (p : Path) : Bool :=
  p.components = current.components

def child (p : Path) (name : RawText) : Path :=
  if p.isCurrent then ⟨name⟩ else p.join name

end Path

end TemplateQuery
