import Collate.Sort.Evaluator
import Collate.Sort.Key
import Collate.Sort.Permutation

namespace Collate

structure Slice (α : Type) where
  items : Array α
  calls : List String

namespace Slice

variable {α β : Type}

abbrev Program (α β : Type) := ExceptT SortError (StateM (Slice α)) β

def ask (x : Traced SortError β) : Program α β := do
  modify fun s => { s with calls := s.calls ++ x.calls }
  match x.outcome with
  | .ok b => pure b
  | .error e => throw e

end Slice

structure Comparator (α : Type) where
  evaluators : List (Evaluator α)

namespace Comparator

variable {α : Type}

def ofCriteria (cs : Criteria α) : Comparator α :=
  ⟨cs.map Criterion.compile⟩

def ofJson (v : Json) : Except SortError (Comparator α) :=
  (Criteria.ofJson v).map ofCriteria

def length (c : Comparator α) : Nat :=
  c.evaluators.length

def describe (c : Comparator α) : String :=
  "Comparator \x7b evaluators: [" ++ String.intercalate ", " (c.evaluators.map Evaluator.describe) ++
    "] \x7d"

variable [Inspect α]

def compareBy (a b : α) : List (Evaluator α) → Traced SortError Ordering
  | [] => pure .eq
  | e :: es => do
    let v ← e.extract a
    let w ← e.extract b
    match compareDirected v w e.inverted with
    | .eq => compareBy a b es
    | decided => return decided

def compare (c : Comparator α) (a b : α) : Traced SortError Ordering :=
  compareBy a b c.evaluators

def keysBy (item : α) : List (Evaluator α) → Traced SortError Keys
  | [] => pure []
  | e :: es => do
    let v ← e.extract item
    let ks ← keysBy item es
    return ⟨v, e.inverted⟩ :: ks

def keys (c : Comparator α) (item : α) : Traced SortError Keys :=
  keysBy item c.evaluators

def rows (c : Comparator α) : List α → Traced SortError (List Keys)
  | [] => pure []
  | item :: items => do
    let ks ← c.keys item
    let rest ← rows c items
    return ks :: rest

def orderOf (rows : List Keys) : List Nat :=
  (rows.zipIdx.mergeSort fun r s => Keys.le r.1 s.1).map Prod.snd

def arrange (items : Array α) (rows : List Keys) : Array α :=
  if isSortedBy Keys.le rows then items else applyPermutation (orderOf rows).toArray items

def sort (c : Comparator α) (items : Array α) : Traced SortError (Array α) := do
  return arrange items (← c.rows items.toList)

def sortInPlace (c : Comparator α) : Slice.Program α Unit := do
  let rows ← (← get).items.toList.mapM fun item => Slice.ask (c.keys item)
  unless isSortedBy Keys.le rows do
    modify fun s => { s with items := applyPermutation (orderOf rows).toArray s.items }

def sortOrKeep (c : Comparator α) (items : Array α) : Array α :=
  (c.sortInPlace.run.run ⟨items, []⟩).2.items

def groupRows (rows : List (Keys × α)) : List (List α) :=
  let sorted := rows.mergeSort fun r s => Keys.le r.1 s.1
  (sorted.splitBy fun r s => Keys.compare r.1 s.1 = .eq).map (·.map Prod.snd)

def group (c : Comparator α) (items : List α) : Traced SortError (List (List α)) := do
  return groupRows ((← c.rows items).zip items)

end Comparator

structure Sorter (α : Type) where
  comparator : Comparator α

namespace Sorter

variable {α : Type}

def ofCriteria (cs : Criteria α) : Sorter α := ⟨.ofCriteria cs⟩

def sort [Inspect α] (s : Sorter α) (items : Array α) : Traced SortError (Array α) :=
  s.comparator.sort items

def describe (s : Sorter α) : String :=
  "Sorter \x7b comparator: " ++ s.comparator.describe ++ " \x7d"

end Sorter

def sortBy {α : Type} [Inspect α] (items : Array α) (cs : Criteria α) :
    Traced SortError (Array α) :=
  (Comparator.ofCriteria cs).sort items

end Collate
