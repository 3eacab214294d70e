import Collate.Number.Decimal

namespace Collate

structure NumberStyle where
  isPositional : Int → Bool
  pointZero : Bool
  plus : Bool
  tie : Tie

namespace NumberStyle

def plain : NumberStyle := ⟨fun _ => true, false, false, .up⟩

def explicit : NumberStyle := ⟨fun e => -4 ≤ e && e < 16, true, false, .up⟩

def document : NumberStyle := ⟨fun e => -5 ≤ e && e < 16, true, true, .toEven⟩

def magnitude (s : NumberStyle) (u : Nat) : List Char :=
  let d := Decimal.shortest s.tie u
  if u = 0 ∨ s.isPositional d.magnitude then
    d.positional ++ (if s.pointZero ∧ 0 ≤ d.exponent then ['.', '0'] else [])
  else d.scientific s.plus

end NumberStyle

namespace Binary64

def withSign (negative : Bool) (cs : List Char) : String :=
  String.ofList (if negative then '-' :: cs else cs)

def render (s : NumberStyle) : Binary64 → String
  | finite neg u => withSign neg (s.magnitude u)
  | infinite neg => withSign neg ['i', 'n', 'f']
  | nan => "NaN"

def toFixed (places : Nat) : Binary64 → String
  | finite neg u =>
    withSign neg (if places = 0 then Nat.toDigits 10 (Decimal.fixed u 0).coefficient
      else (Decimal.fixed u places).positional)
  | x => x.render .plain

def display : Binary64 → String
  | nan => "NaN"
  | infinite neg => withSign neg "Infinity".toList
  | finite neg u =>
    if u = 0 then "0"
    else if u % twoTo unitBits = 0 ∧ u < tenTo 21 <<< unitBits then (finite neg u).toFixed 0
    else (finite neg u).render .plain

end Binary64

end Collate
