import Collate.Sort.Comparator

namespace Collate

structure Entry where
  id : Nat
  value : Value

instance : Inspect Entry where
  view e := e.value
  member e := e.value.member
  invoke e := e.value.invoke

structure Session where
  items : List Entry
  made : Nat
  sorters : List (String × Sorter Entry)

namespace Session

inductive Request
  | load (values : List Value)
  | push (value : Value)
  | set (place : Nat) (value : Value)
  | remove (place : Nat)
  | reverse
  | compile (name : String) (criteria : Except SortError (Criteria Entry))
  | copy (source name : String)
  | sort (name : String)
  | sorted (name : String)
  | compare (name : String) (i j : Nat)
  | keys (name : String) (i : Nat)
  | group (name : String)

inductive Answer
  | done
  | compiled (criteria : Nat)
  | order (ids : List Nat)
  | relation (o : Ordering)
  | keys (ks : Keys)
  | groups (ids : List (List Nat))
  | failed (e : SortError)
  | unknown

structure Result where
  session : Session
  answer : Answer
  calls : List String

def start : Session := ⟨[], 0, []⟩

def sorter? (s : Session) (name : String) : Option (Sorter Entry) :=
  (s.sorters.find? fun e => e.1 = name).map Prod.snd

def withSorter (s : Session) (name : String) (sorter : Sorter Entry) : Session :=
  { s with sorters := (name, sorter) :: s.sorters }

def make (s : Session) (vs : List Value) : List Entry × Session :=
  (vs.zipIdx.map fun (v, i) => ⟨s.made + i, v⟩, { s with made := s.made + vs.length })

def answerOf {α : Type} (s : Session) (x : Traced SortError α) (answer : α → Answer) : Result :=
  match x.outcome with
  | .ok a => ⟨s, answer a, x.calls⟩
  | .error e => ⟨s, .failed e, x.calls⟩

def step (s : Session) (request : Request) : Result :=
  let done (s : Session) : Result := ⟨s, .done, []⟩
  let unknown : Result := ⟨s, .unknown, []⟩
  match request with
  | .load vs =>
    let (es, s) := s.make vs
    done { s with items := es }
  | .push v =>
    let (es, s) := s.make [v]
    done { s with items := s.items ++ es }
  | .set place v =>
    if place < s.items.length then
      done { s with items := s.items.set place ⟨s.made, v⟩, made := s.made + 1 }
    else unknown
  | .remove place =>
    if place < s.items.length then done { s with items := s.items.eraseIdx place } else unknown
  | .reverse => done { s with items := s.items.reverse }
  | .compile name criteria =>
    match criteria with
    | .ok cs => ⟨s.withSorter name (.ofCriteria cs), .compiled cs.length, []⟩
    | .error e => ⟨s, .failed e, []⟩
  | .copy source name =>
    match s.sorter? source with
    | some sorter => done (s.withSorter name sorter)
    | none => unknown
  | .sort name =>
    match s.sorter? name with
    | none => unknown
    | some sorter =>
      let (outcome, left) := sorter.comparator.sortInPlace.run.run ⟨s.items.toArray, []⟩
      let after := { s with items := left.items.toList }
      match outcome with
      | .ok () => ⟨after, .done, left.calls⟩
      | .error e => ⟨after, .failed e, left.calls⟩
  | .sorted name =>
    match s.sorter? name with
    | none => unknown
    | some sorter =>
      s.answerOf (sorter.sort s.items.toArray) fun items => .order (items.toList.map Entry.id)
  | .compare name i j =>
    match s.sorter? name, s.items[i]?, s.items[j]? with
    | some sorter, some a, some b => s.answerOf (sorter.comparator.compare a b) .relation
    | _, _, _ => unknown
  | .keys name i =>
    match s.sorter? name, s.items[i]? with
    | some sorter, some a => s.answerOf (sorter.comparator.keys a) .keys
    | _, _ => unknown
  | .group name =>
    match s.sorter? name with
    | none => unknown
    | some sorter =>
      s.answerOf (sorter.comparator.group s.items) fun gs => .groups (gs.map (·.map Entry.id))

end Session

end Collate
