import Collate.Value.Order

namespace Collate

/-- The order of two values under one criterion. Missing values tie, and come before any other in
the direction that is not inverted. -/
def compareDirected (v w : Value) (inverted : Bool) : Ordering :=
  let natural :=
    match v.isMissing, w.isMissing with
    | true, true => .eq
    | false, true => .gt
    | true, false => .lt
    | false, false => v.compare w
  if inverted then natural.swap else natural

structure Key where
  value : Value
  inverted : Bool

namespace Key

def isMissing (k : Key) : Bool :=
  k.value.isMissing

protected def compare (k l : Key) : Ordering :=
  compareDirected k.value l.value k.inverted

instance : BEq Key := ⟨fun k l => k.compare l = .eq⟩

end Key

abbrev Keys := List Key

protected def Keys.compare : Keys → Keys → Ordering
  | [], [] => .eq
  | [], _ :: _ => .lt
  | _ :: _, [] => .gt
  | k :: ks, l :: ls => (k.compare l).then (Keys.compare ks ls)

def Keys.le (ks ls : Keys) : Bool :=
  (Keys.compare ks ls).isLE

end Collate
