import Collate.Number.Binary64

namespace Collate

structure Decimal where
  coefficient : Nat
  exponent : Int
  deriving DecidableEq, Repr

inductive Tie
  | up
  | toEven
  deriving DecidableEq, Repr

namespace Decimal

def digits (d : Decimal) : List Char :=
  Nat.toDigits 10 d.coefficient

def magnitude (d : Decimal) : Int :=
  d.exponent + d.digits.length - 1

def gapBits (u : Nat) : Nat :=
  Nat.log2 u - 52

def lowerEnd (u : Nat) : Nat :=
  let e := gapBits u
  if 0 < e ∧ u = twoTo (Nat.log2 u) then 4 * u - twoTo e else 4 * u - twoTo (e + 1)

def upperEnd (u : Nat) : Nat :=
  4 * u + twoTo (gapBits u + 1)

def readsBack (u num den : Nat) : Bool :=
  if (u >>> gapBits u) % 2 = 0 then
    lowerEnd u * den ≤ 4 * num ∧ 4 * num ≤ upperEnd u * den
  else
    lowerEnd u * den < 4 * num ∧ 4 * num < upperEnd u * den

def gridUnit (k : Int) : Nat × Nat :=
  (tenTo k.toNat <<< Binary64.unitBits, tenTo (-k).toNat)

def onGrid (tie : Tie) (u : Nat) (k : Int) : Option Nat :=
  let (num, den) := gridUnit k
  let d := u * den / num
  match readsBack u (d * num) den, readsBack u ((d + 1) * num) den with
  | false, false => none
  | true, false => some d
  | false, true => some (d + 1)
  | true, true =>
    match compare (2 * u * den) ((2 * d + 1) * num) with
    | .lt => some d
    | .gt => some (d + 1)
    | .eq => some (if tie = .up ∨ d % 2 = 1 then d + 1 else d)

def search (tie : Tie) (u : Nat) (k : Int) : Nat → Decimal
  | 0 => ⟨u * (gridUnit k).2 / (gridUnit k).1, k⟩
  | fuel + 1 =>
    match onGrid tie u k with
    | some d => ⟨d, k⟩
    | none => search tie u (k - 1) fuel

def leading (u : Nat) : Int :=
  ((Nat.toDigits 10 (u * tenTo 324 / twoTo Binary64.unitBits)).length : Int) - 325

/-- The decimal of fewest digits that reads back as `u` units, and the nearest of those. Seventeen
digits always do. -/
def shortest (tie : Tie) (u : Nat) : Decimal :=
  if u = 0 then ⟨0, 0⟩ else search tie u (leading u + 1) 18

def fixed (u places : Nat) : Decimal :=
  ⟨divNearest (u * tenTo places) (twoTo Binary64.unitBits), -places⟩

def positional (d : Decimal) : List Char :=
  if 0 ≤ d.exponent then Nat.toDigits 10 (d.coefficient * tenTo d.exponent.toNat)
  else
    let places := (-d.exponent).toNat
    let ds := List.replicate (places + 1 - d.digits.length) '0' ++ d.digits
    ds.take (ds.length - places) ++ '.' :: ds.drop (ds.length - places)

def scientific (plus : Bool) (d : Decimal) : List Char :=
  let sign := if d.magnitude < 0 then ['-'] else if plus then ['+'] else []
  let power := 'e' :: sign ++ Nat.toDigits 10 d.magnitude.natAbs
  match d.digits with
  | [] => power
  | [c] => c :: power
  | c :: cs => c :: '.' :: cs ++ power

end Decimal

end Collate
