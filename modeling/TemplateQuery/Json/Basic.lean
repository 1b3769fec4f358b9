namespace TemplateQuery

inductive Number where
  | int (i : Int)
  | float (x : Float)
deriving DecidableEq

namespace Number

def bound : Nat := 0x10000000000000000

def signedBound : Nat := 0x8000000000000000

end Number

inductive Json where
  | null
  | bool (b : Bool)
  | number (n : Number)
  | string (s : String)
  | array (items : List Json)
  | object (members : List (String × Json))

namespace Json

instance : Inhabited Json := ⟨.null⟩

def nat (n : Nat) : Json :=
  .number (.int n)

def ofFloat (x : Float) : Json :=
  if x.isFinite then .number (.float x) else .null

def insertMember (name : String) (j : Json) : List (String × Json) → List (String × Json)
  | [] => [(name, j)]
  | m :: rest => if m.1 = name then (name, j) :: rest else m :: insertMember name j rest

def lastOfEach (members : List (String × Json)) : List (String × Json) :=
  members.foldl (fun held m => insertMember m.1 m.2 held) []

def ofMembers (members : List (String × Json)) : Json :=
  .object (lastOfEach members)

mutual

def depth : Json → Nat
  | .array items => depthOfItems items + 1
  | .object members => depthOfMembers members + 1
  | _ => 0

def depthOfItems : List Json → Nat
  | [] => 0
  | j :: rest => max (depth j) (depthOfItems rest)

def depthOfMembers : List (String × Json) → Nat
  | [] => 0
  | (_, j) :: rest => max (depth j) (depthOfMembers rest)

end

theorem depth_le_depthOfItems {j : Json} {items : List Json} (h : j ∈ items) :
    j.depth ≤ depthOfItems items := by
  induction items with
  | nil => simp at h
  | cons k rest ih =>
    simp only [depthOfItems]
    rcases List.mem_cons.1 h with rfl | h
    · omega
    · have := ih h
      omega

theorem depth_le_depthOfMembers {m : String × Json} {members : List (String × Json)}
    (h : m ∈ members) : m.2.depth ≤ depthOfMembers members := by
  induction members with
  | nil => simp at h
  | cons k rest ih =>
    obtain ⟨name, j⟩ := k
    simp only [depthOfMembers]
    rcases List.mem_cons.1 h with rfl | h
    · simp only
      omega
    · have := ih h
      omega

end Json

end TemplateQuery
