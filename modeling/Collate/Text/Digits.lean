namespace Collate

def digitValue (c : Char) : Nat :=
  c.toNat - '0'.toNat

def ofDigits (ds : List Char) : Nat :=
  ds.foldl (fun n c => 10 * n + digitValue c) 0

def digits? (cs : List Char) : Option Nat :=
  if cs ≠ [] ∧ cs.all Char.isDigit then some (ofDigits cs) else none

def word? (cs : List Char) : Option UInt64 :=
  let ds := match cs with
    | '+' :: r => r
    | r => r
  (digits? ds).bind fun n => if n < UInt64.size then some (.ofNat n) else none

end Collate
