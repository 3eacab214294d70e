import Collate.Value.Basic

namespace Collate.Value

def rank : Value → Nat
  | absent | null => 0
  | bool _ => 1
  | number _ => 2
  | string _ => 3
  | array _ => 4
  | object _ => 5
  | method _ => 6

mutual

/-- The order for sorting. Null ties with absent, and all methods tie. -/
protected def compare : Value → Value → Ordering
  | bool a, bool b => Ord.compare a b
  | number x, number y => Ord.compare x y
  | string s, string t => Ord.compare s t
  | array xs, array ys => compareItems xs ys
  | object es, object fs => compareEntries es fs
  | v, w => Ord.compare v.rank w.rank
termination_by structural v => v

def compareItems : List Value → List Value → Ordering
  | [], [] => .eq
  | [], _ :: _ => .lt
  | _ :: _, [] => .gt
  | v :: vs, w :: ws => (v.compare w).then (compareItems vs ws)

def compareEntries : List (String × Value) → List (String × Value) → Ordering
  | [], [] => .eq
  | [], _ :: _ => .lt
  | _ :: _, [] => .gt
  | e :: es, f :: fs => (compareEntry e f).then (compareEntries es fs)

def compareEntry : String × Value → String × Value → Ordering
  | (k, v), (l, w) => (Ord.compare k l).then (v.compare w)

end

instance : Ord Value := ⟨Value.compare⟩

instance : BEq Value := ⟨fun v w => v.compare w = .eq⟩

end Collate.Value
