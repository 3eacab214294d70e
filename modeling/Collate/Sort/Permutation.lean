namespace Collate

variable {α : Type}

def isSortedBy (le : α → α → Bool) : List α → Bool
  | x :: y :: xs => le x y && isSortedBy le (y :: xs)
  | _ => true

structure Placement (α : Type) where
  items : Array α
  placed : Array Bool

namespace Placement

def followCycle (order : Array Nat) (start : Nat) : Nat → Nat → Placement α → Placement α
  | 0, _, p => p
  | fuel + 1, pos, p =>
    let placed := p.placed.setIfInBounds pos true
    let source := order.getD pos start
    if source = start then ⟨p.items, placed⟩
    else followCycle order start fuel source ⟨p.items.swapIfInBounds pos source, placed⟩

def settle (order : Array Nat) (p : Placement α) (start : Nat) : Placement α :=
  if p.placed.getD start true then p else followCycle order start p.items.size start p

end Placement

/-- Moves to each place the element that was at `order` of it. -/
def applyPermutation (order : Array Nat) (items : Array α) : Array α :=
  let start : Placement α := ⟨items, Array.replicate items.size false⟩
  ((List.range items.size).foldl (Placement.settle order) start).items

end Collate
