namespace Collate

def twoTo (n : Nat) : Nat := 1 <<< n

def tenTo (n : Nat) : Nat := Nat.pow 10 n

/-- A double-precision number. `finite s u` is `u · 2 ^ (-1074)`, negative when `s` holds. -/
inductive Binary64
  | finite (negative : Bool) (units : Nat)
  | infinite (negative : Bool)
  | nan
  deriving DecidableEq, Repr

/-- A binary format: its significant bits, the exponent of its least step and the exponent that no
finite number reaches, both counted from `2 ^ (-1074)`. -/
structure BinaryFormat where
  bits : Nat
  step : Nat
  bound : Nat

def BinaryFormat.double : BinaryFormat := ⟨53, 0, 2098⟩

def BinaryFormat.single : BinaryFormat := ⟨24, 925, 1202⟩

def divNearest (num den : Nat) : Nat :=
  let q := num / den
  let r := num % den
  if 2 * r < den then q else if den < 2 * r then q + 1 else q + q % 2

def BinaryFormat.round (f : BinaryFormat) (negative : Bool) (num den : Nat) : Binary64 :=
  let e := max f.step (Nat.log2 (num / den) + 1 - f.bits)
  let units := divNearest num (den <<< e) <<< e
  if units < twoTo f.bound then .finite negative units else .infinite negative

namespace Binary64

instance : Inhabited Binary64 := ⟨.finite false 0⟩

def unitBits : Nat := 1074

def zero : Binary64 := .finite false 0

def round (negative : Bool) (num den : Nat) : Binary64 :=
  BinaryFormat.double.round negative num den

def ofInt (n : Int) : Binary64 :=
  round (n < 0) (n.natAbs <<< unitBits) 1

def ofNat (n : Nat) : Binary64 :=
  ofInt n

/-- The number nearest to `coefficient · 10 ^ exponent`. Beyond the reach of every finite number,
and below half of the least one, the power of ten is not computed. -/
def ofDecimal (negative : Bool) (coefficient : Nat) (exponent : Int) : Binary64 :=
  let size : Int := (Nat.toDigits 10 coefficient).length + exponent
  if coefficient = 0 then finite negative 0
  else if 310 < size then infinite negative
  else if size < -330 then finite negative 0
  else if 0 ≤ exponent then round negative ((coefficient * tenTo exponent.toNat) <<< unitBits) 1
  else round negative (coefficient <<< unitBits) (tenTo (-exponent).toNat)

def isFinite : Binary64 → Bool
  | finite _ _ => true
  | _ => false

def isZero : Binary64 → Bool
  | finite _ 0 => true
  | _ => false

def isNegative : Binary64 → Bool
  | finite s u => s && u != 0
  | infinite s => s
  | nan => false

def signed (negative : Bool) (n : Nat) : Int :=
  if negative then -n else n

def toInt? : Binary64 → Option Int
  | finite s u => if u % twoTo unitBits = 0 then some (signed s (u / twoTo unitBits)) else none
  | _ => none

def abs : Binary64 → Binary64
  | finite _ u => finite false u
  | infinite _ => infinite false
  | nan => nan

def neg : Binary64 → Binary64
  | finite s u => finite (!s) u
  | infinite s => infinite (!s)
  | nan => nan

def mul : Binary64 → Binary64 → Binary64
  | finite s u, finite t v => round (s != t) (u * v) (twoTo unitBits)
  | infinite s, finite t v => if v = 0 then nan else infinite (s != t)
  | finite s u, infinite t => if u = 0 then nan else infinite (s != t)
  | infinite s, infinite t => infinite (s != t)
  | nan, _ | _, nan => nan

def div : Binary64 → Binary64 → Binary64
  | finite s u, finite t v =>
    if v ≠ 0 then round (s != t) (u <<< unitBits) v
    else if u = 0 then nan else infinite (s != t)
  | infinite s, finite t _ => infinite (s != t)
  | finite s _, infinite t => finite (s != t) 0
  | infinite _, infinite _ => nan
  | nan, _ | _, nan => nan

def toSingle : Binary64 → Binary64
  | finite s u => BinaryFormat.single.round s u 1
  | x => x

def tier : Binary64 → Nat
  | infinite true => 0
  | finite _ _ => 1
  | infinite false => 2
  | nan => 3

def signedUnits : Binary64 → Int
  | finite s u => signed s u
  | _ => 0

/-- Numbers are ordered by value: `-0` ties with `0`, and NaN ties with itself above all others. -/
instance : Ord Binary64 where
  compare x y := (compare x.tier y.tier).then (compare x.signedUnits y.signedUnits)

end Binary64

end Collate
