import Collate.Text.CasingTable

namespace Collate.Casing

def Run.has (r : Run) (n : Nat) : Bool :=
  r.first ≤ n && n ≤ r.last && (n - r.first) % r.step = 0

def convert (runs : List Run) (sequences : List (Nat × List Nat)) (c : Char) : List Char :=
  match sequences.find? (·.1 = c.toNat) with
  | some (_, ns) => ns.map Char.ofNat
  | none =>
    match runs.find? (·.has c.toNat) with
    | some r => [Char.ofNat (c.toNat + r.delta).toNat]
    | none => [c]

def nearCased (cs : List Char) : Bool :=
  ((cs.dropWhile (CharRange.anyHas ignorable)).head?.map (CharRange.anyHas cased)).getD false

/-- Lowercases the rest of a text whose part before it is `before`, last character first. A capital
sigma at the end of a word becomes the final form. -/
def lowerFrom (before : List Char) : List Char → List Char
  | [] => []
  | c :: cs =>
    let lowered :=
      if c = 'Σ' then (if nearCased before && !nearCased cs then ['ς'] else ['σ'])
      else if c.toNat < 128 then [c.toLower]
      else convert lowerRuns lowerSequences c
    lowered ++ lowerFrom (c :: before) cs

def lower (s : String) : String :=
  String.ofList (lowerFrom [] s.toList)

def upper (s : String) : String :=
  String.ofList (s.toList.flatMap fun c =>
    if c.toNat < 128 then [c.toUpper] else convert upperRuns upperSequences c)

end Collate.Casing
