namespace TemplateQuery

structure Decimal where
  digits : Nat
  exponent : Int
deriving DecidableEq, Repr

structure Binary where
  mantissa : Nat
  exponent : Int
  narrow : Bool
deriving DecidableEq, Repr

inductive Tie where
  | up
  | toEven
deriving DecidableEq, Repr

def Tie.isDown (t : Tie) (below : Nat) : Bool :=
  match t with
  | .up => false
  | .toEven => below % 2 == 0

namespace Binary

def ofFloat (x : Float) : Binary :=
  let bits : Nat := x.toBits.toNat
  let fraction : Nat := bits % Nat.pow 2 52
  let biased : Nat := bits / Nat.pow 2 52 % Nat.pow 2 11
  if biased = 0 then
    ⟨fraction, -1074, false⟩
  else
    ⟨fraction + Nat.pow 2 52, (biased : Int) - 1075, fraction = 0 && biased > 1⟩

def quarters (b : Binary) : Nat × Nat × Nat :=
  (4 * b.mantissa - (if b.narrow then 1 else 2), 4 * b.mantissa, 4 * b.mantissa + 2)

def closed (b : Binary) : Bool :=
  b.mantissa % 2 == 0

def quarterIn (b : Binary) (k : Int) : Nat × Nat :=
  (Nat.pow 2 (b.exponent - 2).toNat * Nat.pow 10 (-k).toNat,
    Nat.pow 2 (2 - b.exponent).toNat * Nat.pow 10 k.toNat)

def contains (b : Binary) (k : Int) (d : Nat) : Bool :=
  let (low, _, high) := b.quarters
  let (num, den) := b.quarterIn k
  if b.closed then low * num ≤ d * den && d * den ≤ high * num
  else low * num < d * den && d * den < high * num

def isNearBelow (b : Binary) (tie : Tie) (k : Int) (below : Nat) : Bool :=
  let (_, centre, _) := b.quarters
  let (num, den) := b.quarterIn k
  let middle := (2 * below + 1) * den
  if 2 * (centre * num) = middle then tie.isDown below else 2 * (centre * num) < middle

def onGrid? (b : Binary) (tie : Tie) (k : Int) : Option Nat :=
  let (_, centre, _) := b.quarters
  let (num, den) := b.quarterIn k
  let below := centre * num / den
  match b.contains k below, b.contains k (below + 1) with
  | true, true => some (if b.isNearBelow tie k below then below else below + 1)
  | true, false => some below
  | false, true => some (below + 1)
  | false, false => none

def coarsestFrom (b : Binary) (tie : Tie) : Nat → Int → Decimal
  | 0, k => ⟨0, k⟩
  | n + 1, k =>
    match b.onGrid? tie k with
    | some d => ⟨d, k⟩
    | none => coarsestFrom b tie n (k - 1)

def topPower (b : Binary) : Nat :=
  (Nat.toDigits 10 ((b.mantissa + 1) * Nat.pow 2 b.exponent.toNat)).length

def shortest (b : Binary) (tie : Tie) : Decimal :=
  if b.mantissa = 0 then ⟨0, 0⟩ else b.coarsestFrom tie 700 b.topPower

end Binary

namespace Decimal

def digitText (n : Nat) : List Char :=
  Nat.toDigits 10 n

def zeros (n : Nat) : List Char :=
  List.replicate n '0'

def positional (d : Decimal) : List Char :=
  let ds := digitText d.digits
  let point := (ds.length : Int) + d.exponent
  if 0 ≤ d.exponent then ds ++ zeros d.exponent.toNat
  else if 0 < point then ds.take point.toNat ++ '.' :: ds.drop point.toNat
  else '0' :: '.' :: zeros (-point).toNat ++ ds

def exponentText (e : Int) : List Char :=
  'e' :: (if e < 0 then '-' else '+') :: digitText e.natAbs

def compact (d : Decimal) : List Char :=
  let ds := digitText d.digits
  let point := (ds.length : Int) + d.exponent
  if 0 ≤ d.exponent && point ≤ 16 then ds ++ zeros d.exponent.toNat ++ ['.', '0']
  else if 0 < point && point ≤ 16 then ds.take point.toNat ++ '.' :: ds.drop point.toNat
  else if -5 < point && point ≤ 0 then '0' :: '.' :: zeros (-point).toNat ++ ds
  else
    let fraction := if ds.length = 1 then [] else '.' :: ds.drop 1
    ds.take 1 ++ fraction ++ exponentText (point - 1)

def isMinus (x : Float) : Bool :=
  x.toBits.toNat / Nat.pow 2 63 == 1

def signed (x : Float) (magnitude : List Char) : String :=
  String.ofList (if isMinus x then '-' :: magnitude else magnitude)

def positionalText (x : Float) : String :=
  signed x ((Binary.ofFloat x).shortest .up).positional

def compactText (x : Float) : String :=
  signed x ((Binary.ofFloat x).shortest .toEven).compact

def powerOfTen (n : Nat) : Float :=
  OfScientific.ofScientific 1 false n

def maxPower : Nat := 308

def scaleDown (x : Float) (n : Nat) : Float :=
  if _h : n ≤ maxPower then x / powerOfTen n
  else if x == 0 then x
  else scaleDown (x / powerOfTen maxPower) (n - maxPower)
termination_by n
decreasing_by simp only [maxPower] at *; omega

def scale? (digits : Nat) (exponent : Int) : Option Float :=
  let x := Float.ofNat digits
  if exponent < 0 then some (scaleDown x (-exponent).toNat)
  else if exponent ≤ maxPower then
    let y := x * powerOfTen exponent.toNat
    if y.isInf then none else some y
  else if digits = 0 then some x
  else none

end Decimal

end TemplateQuery
