import Collate.Number.Reading
import Collate.Toml.Basic
import Collate.Toml.Text

namespace Collate.Toml

def plainDigits? (isDigit : Char → Bool) : List Char → Option (List Char)
  | [] => none
  | [c] => if isDigit c then some [c] else none
  | c :: '_' :: d :: cs =>
    if isDigit c then (plainDigits? isDigit (d :: cs)).map (c :: ·) else none
  | c :: d :: cs => if isDigit c then (plainDigits? isDigit (d :: cs)).map (c :: ·) else none

def wholeDigits? (cs : List Char) : Option (List Char) :=
  match plainDigits? Char.isDigit cs with
  | some ('0' :: _ :: _) => none
  | ds => ds

def inBase? (base : Nat) (cs : List Char) : Option Int :=
  let isDigit (c : Char) : Bool := (hexDigit? c).any (· < base)
  (plainDigits? isDigit cs).map fun ds =>
    ((ds.foldl (fun n c => base * n + (hexDigit? c).getD 0) 0 : Nat) : Int)

def integer? (cs : List Char) : Option Int :=
  match cs with
  | '0' :: 'x' :: r => inBase? 16 r
  | '0' :: 'o' :: r => inBase? 8 r
  | '0' :: 'b' :: r => inBase? 2 r
  | _ =>
    let (neg, ds) := Binary64.splitSign cs
    (wholeDigits? ds).map fun ds => Binary64.signed neg (ofDigits ds)

def isDigitOrUnderscore (c : Char) : Bool :=
  c.isDigit || c = '_'

def exponentPart? : List Char → Option (List Char)
  | [] => some []
  | c :: cs =>
    if c = 'e' ∨ c = 'E' then
      let (neg, ds) := Binary64.splitSign cs
      (plainDigits? Char.isDigit ds).map fun ds => 'e' :: (if neg then '-' else '+') :: ds
    else none

def float? (cs : List Char) : Option Binary64 := do
  let (neg, rest) := Binary64.splitSign cs
  if rest = ['i', 'n', 'f'] then return .infinite neg
  if rest = ['n', 'a', 'n'] then return .nan
  let whole ← wholeDigits? (rest.takeWhile isDigitOrUnderscore)
  let (fraction, tail) ← match rest.dropWhile isDigitOrUnderscore with
    | '.' :: r => do
      let ds ← plainDigits? Char.isDigit (r.takeWhile isDigitOrUnderscore)
      pure ('.' :: ds, r.dropWhile isDigitOrUnderscore)
    | r => pure ([], r)
  guard (fraction ≠ [] ∨ tail ≠ [])
  let exponent ← exponentPart? tail
  let x ← Binary64.readDecimal? neg (whole ++ fraction ++ exponent)
  guard x.isFinite
  return x

def fieldOf? (count : Nat) (cs : List Char) : Option (Nat × List Char) :=
  let ds := cs.take count
  if ds.length = count ∧ ds.all Char.isDigit then some (ofDigits ds, cs.drop count) else none

def expect? (c : Char) : List Char → Option (List Char)
  | d :: r => if d = c then some r else none
  | [] => none

def daysIn (year month : Nat) : Nat :=
  if month = 2 then
    if year % 4 = 0 ∧ (year % 100 ≠ 0 ∨ year % 400 = 0) then 29 else 28
  else if month ∈ [4, 6, 9, 11] then 30
  else 31

def date? (cs : List Char) : Option (List Char × List Char) := do
  let (year, r) ← fieldOf? 4 cs
  let (month, r) ← fieldOf? 2 (← expect? '-' r)
  let (day, r) ← fieldOf? 2 (← expect? '-' r)
  guard (1 ≤ month ∧ month ≤ 12 ∧ 1 ≤ day ∧ day ≤ daysIn year month)
  return (cs.take 10, r)

def fractionText (ds : List Char) : List Char :=
  let kept := ((ds.take 9).reverse.dropWhile (· = '0')).reverse
  if kept = [] then [] else '.' :: kept

def time? (cs : List Char) : Option (List Char × List Char) := do
  let (hour, r) ← fieldOf? 2 cs
  let (minute, r) ← fieldOf? 2 (← expect? ':' r)
  guard (hour ≤ 23 ∧ minute ≤ 59)
  match r with
  | ':' :: r =>
    let (second, r) ← fieldOf? 2 r
    guard (second ≤ 60)
    match r with
    | '.' :: r =>
      let ds := r.takeWhile Char.isDigit
      guard (ds ≠ [])
      return (cs.take 8 ++ fractionText ds, r.drop ds.length)
    | r => return (cs.take 8, r)
  | r => return (cs.take 5 ++ [':', '0', '0'], r)

def offset? : List Char → Option (List Char)
  | [] => some []
  | ['Z'] => some ['Z']
  | ['z'] => some ['Z']
  | c :: r => do
    guard (c = '+' ∨ c = '-')
    let (hour, rest) ← fieldOf? 2 r
    let (minute, rest) ← fieldOf? 2 (← expect? ':' rest)
    guard (hour ≤ 23 ∧ minute ≤ 59 ∧ rest = [])
    return (if hour = 0 ∧ minute = 0 then '+' else c) :: r

def datetime? (cs : List Char) : Option String :=
  match date? cs with
  | some (date, []) => some (String.ofList date)
  | some (date, c :: r) => do
    guard (c = 'T' ∨ c = 't' ∨ c = ' ')
    let (time, r) ← time? r
    let offset ← offset? r
    return String.ofList (date ++ 'T' :: time ++ offset)
  | none => do
    let (time, r) ← time? cs
    guard (r = [])
    return String.ofList time

def scalar? (cs : List Char) : Option Toml :=
  if cs = ['t', 'r', 'u', 'e'] then some (.boolean true)
  else if cs = ['f', 'a', 'l', 's', 'e'] then some (.boolean false)
  else match integer? cs, float? cs with
    | some n, _ => some (.integer n)
    | none, some x => some (.float x)
    | none, none => (datetime? cs).map .datetime

def Token.value? : Token → Option Toml
  | bare s => scalar? s
  | t => t.string?.map .string

end Collate.Toml
