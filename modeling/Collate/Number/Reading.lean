import Collate.Number.Binary64
import Collate.Text.Digits

namespace Collate

namespace Binary64

def splitSign : List Char → Bool × List Char
  | '-' :: cs => (true, cs)
  | '+' :: cs => (false, cs)
  | cs => (false, cs)

def readExponent? : List Char → Option Int
  | [] => some 0
  | c :: cs =>
    let (neg, ds) := splitSign cs
    if (c = 'e' ∨ c = 'E') ∧ ds ≠ [] ∧ ds.all Char.isDigit then some (signed neg (ofDigits ds))
    else none

def readDecimal? (negative : Bool) (cs : List Char) : Option Binary64 :=
  let whole := cs.takeWhile Char.isDigit
  let rest := cs.dropWhile Char.isDigit
  let (places, tail) := match rest with
    | '.' :: r => (r.takeWhile Char.isDigit, r.dropWhile Char.isDigit)
    | r => ([], r)
  if whole = [] ∧ places = [] then none
  else (readExponent? tail).map fun e =>
    ofDecimal negative (ofDigits (whole ++ places)) (e - places.length)

def ofText? (text : String) : Option Binary64 :=
  let (neg, cs) := splitSign text.toList
  let name := String.ofList (cs.map Char.toLower)
  if name = "nan" then some nan
  else if name = "inf" ∨ name = "infinity" then some (infinite neg)
  else readDecimal? neg cs

end Binary64

end Collate
