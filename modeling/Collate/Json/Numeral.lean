import Collate.Json.Basic
import Collate.Json.Fault
import Collate.Number.Reading

namespace Collate.Json

def significand (n : Nat) : List Char → Nat × List Char
  | [] => (n, [])
  | c :: cs =>
    let m := 10 * n + digitValue c
    if m < twoTo 64 then significand m cs else (n, c :: cs)

def powerOfTen (k : Nat) : Binary64 :=
  .ofDecimal false 1 k

def scaleDown (x : Binary64) (k : Nat) : Binary64 :=
  if k ≤ 308 then x.div (powerOfTen k)
  else if x.isZero then x
  else scaleDown (x.div (powerOfTen 308)) (k - 308)
termination_by k

def scale? (n : Nat) (exponent : Int) : Option Binary64 :=
  let x := Binary64.ofNat n
  if exponent < 0 then some (scaleDown x (-exponent).toNat)
  else if exponent ≤ 308 then
    let y := x.mul (powerOfTen exponent.toNat)
    if y.isFinite then some y else none
  else if x.isZero then some x else none

def realNumber (negative : Bool) (n : Nat) (exponent : Int) (rest : List Char) :
    Reading Fault (JsonNumber × List Char) :=
  match scale? n exponent with
  | some x => .ok (.real (if negative then x.neg else x), rest)
  | none => failBefore .numberOutOfRange rest

def exponentDigits (n : Nat) : List Char → Nat × List Char
  | [] => (n, [])
  | c :: cs =>
    let m := 10 * n + digitValue c
    if m < twoTo 31 then exponentDigits m cs else (n, c :: cs)

def readExponent (negative : Bool) (n : Nat) (exponent : Int) (cs : List Char) :
    Reading Fault (JsonNumber × List Char) :=
  match cs with
  | c :: r =>
    if c = 'e' ∨ c = 'E' then
      let (down, r) := Binary64.splitSign r
      let ds := r.takeWhile Char.isDigit
      let rest := r.dropWhile Char.isDigit
      match r, ds with
      | [], _ => failBefore .unfinishedValue []
      | _ :: _, [] => failOn .invalidNumber r
      | _ :: _, _ :: _ =>
        match exponentDigits 0 ds with
        | (e, []) => realNumber negative n (exponent + Binary64.signed down e) rest
        | (_, _ :: excess) =>
          if n = 0 ∨ down then .ok (.real (.finite negative 0), rest)
          else failBefore .numberOutOfRange (excess ++ rest)
    else realNumber negative n exponent cs
  | [] => realNumber negative n exponent cs

def readFraction (negative : Bool) (n : Nat) (exponent : Int) (cs : List Char) :
    Reading Fault (JsonNumber × List Char) :=
  match cs with
  | '.' :: r =>
    let ds := r.takeWhile Char.isDigit
    let rest := r.dropWhile Char.isDigit
    if ds = [] then
      if r = [] then failBefore .unfinishedValue r else failOn .invalidNumber r
    else
      let (m, excess) := significand n ds
      readExponent negative m (exponent - (ds.length - excess.length : Nat)) rest
  | _ => readExponent negative n exponent cs

def startsReal : List Char → Bool
  | c :: _ => c = '.' || c = 'e' || c = 'E'
  | [] => false

def readNumeral (negative : Bool) (cs : List Char) : Reading Fault (JsonNumber × List Char) :=
  match cs.takeWhile Char.isDigit with
  | [] => if cs = [] then failBefore .unfinishedValue cs else failOn .invalidNumber cs
  | '0' :: _ :: _ => failOn .invalidNumber cs.tail
  | ds =>
    let rest := cs.dropWhile Char.isDigit
    let (n, excess) := significand 0 ds
    if excess = [] ∧ startsReal rest = false then
      if negative = false then .ok (.integer n, rest)
      else if n = 0 ∨ twoTo 63 < n then .ok (.real (Binary64.ofNat n).neg, rest)
      else .ok (.integer (-n), rest)
    else readFraction negative n excess.length rest

end Collate.Json
