namespace TemplateQuery.Glob

inductive FaultKind where
  | tooManyStars
  | starsNotAlone
  | invalidSet
deriving DecidableEq, Inhabited

def FaultKind.message : FaultKind → String
  | .tooManyStars =>
    let tick := String.singleton (Char.ofNat 0x60)
    "wildcards are either regular " ++ tick ++ "*" ++ tick ++ " or recursive "
      ++ tick ++ "**" ++ tick
  | .starsNotAlone => "recursive wildcards must form a single path component"
  | .invalidSet => "invalid range pattern"

structure Fault where
  position : Nat
  kind : FaultKind
deriving DecidableEq, Inhabited

def Fault.message (f : Fault) : String :=
  "Pattern syntax error near position " ++ toString f.position ++ ": " ++ f.kind.message

structure CharRange where
  first : Char
  last : Char
deriving DecidableEq, Inhabited

def CharRange.contains (r : CharRange) (c : Char) : Bool :=
  r.first ≤ c ∧ c ≤ r.last

def rangesOf : List Char → List CharRange
  | a :: '-' :: b :: rest => ⟨a, b⟩ :: rangesOf rest
  | a :: rest => ⟨a, a⟩ :: rangesOf rest
  | [] => []

inductive Token where
  | char (c : Char)
  | anyChar
  | within (ranges : List CharRange)
  | outside (ranges : List CharRange)
  | anyText
  | anyDepth
deriving DecidableEq

def setEnd? : List Char → Option (List Char × List Char)
  | [] => none
  | ']' :: rest => some ([], rest)
  | c :: rest => (setEnd? rest).map fun (body, rest) => (c :: body, rest)

theorem setEnd?_length {cs body rest : List Char} (h : setEnd? cs = some (body, rest)) :
    cs.length = body.length + rest.length + 1 := by
  fun_induction setEnd? cs generalizing body rest with
  | case1 => simp at h
  | case2 => simp_all
  | case3 c tail _ ih =>
    obtain ⟨⟨b, r⟩, hb, he⟩ := Option.map_eq_some_iff.1 h
    simp only [Prod.mk.injEq] at he
    obtain ⟨rfl, rfl⟩ := he
    have := ih hb
    simp only [List.length_cons]
    omega

def scan (previous : Option Char) (position : Nat) (cs : List Char) :
    Except Fault (List Token) :=
  match cs with
  | [] => .ok []
  | '?' :: rest => (scan (some '?') (position + 1) rest).map (.anyChar :: ·)
  | '*' :: '*' :: '*' :: _ => .error ⟨position + 2, .tooManyStars⟩
  | '*' :: '*' :: rest =>
    if previous = none ∨ previous = some '/' then
      match rest with
      | [] => .ok [.anyDepth]
      | '/' :: rest => (scan (some '/') (position + 3) rest).map (.anyDepth :: ·)
      | _ => .error ⟨position + 2, .starsNotAlone⟩
    else .error ⟨position - 1, .starsNotAlone⟩
  | '*' :: rest => (scan (some '*') (position + 1) rest).map (.anyText :: ·)
  | '[' :: '!' :: c :: rest =>
    match h : setEnd? rest with
    | none => .error ⟨position, .invalidSet⟩
    | some (body, tail) =>
      have := setEnd?_length h
      (scan (some ']') (position + body.length + 4) tail).map (.outside (rangesOf (c :: body)) :: ·)
  | ['[', '!'] => .error ⟨position, .invalidSet⟩
  | '[' :: c :: rest =>
    match h : setEnd? rest with
    | none => .error ⟨position, .invalidSet⟩
    | some (body, tail) =>
      have := setEnd?_length h
      (scan (some ']') (position + body.length + 3) tail).map (.within (rangesOf (c :: body)) :: ·)
  | ['['] => .error ⟨position, .invalidSet⟩
  | c :: rest => (scan (some c) (position + 1) rest).map (.char c :: ·)
termination_by cs.length
decreasing_by all_goals simp only [List.length_cons]; omega

def parse (text : String) : Except Fault (List Token) :=
  scan none 0 text.toList

def tails : List Char → List (List Char)
  | [] => [[]]
  | c :: rest => (c :: rest) :: tails rest

def Token.admits (c : Char) : Token → Bool
  | .char d => c = d
  | .anyChar => true
  | .within ranges => ranges.any (·.contains c)
  | .outside ranges => !ranges.any (·.contains c)
  | .anyText => false
  | .anyDepth => false

def Token.advance (t : Token) (ends : List (List Char)) : List (List Char) :=
  match t with
  | .anyText => (ends.head?.map tails).getD []
  | .anyDepth => (ends.head?.map tails).getD []
  | t =>
    ends.filterMap fun
      | [] => none
      | c :: rest => if t.admits c then some rest else none

def accepts (pattern : List Token) (name : String) : Bool :=
  (pattern.foldl (fun ends t => t.advance ends) [name.toList]).contains []

def literal? : List Token → Option (List Char)
  | [] => some []
  | .char c :: rest => (literal? rest).map (c :: ·)
  | _ :: _ => none

end TemplateQuery.Glob
