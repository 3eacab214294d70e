import Collate.Value.Method

namespace Collate

class Inspect (α : Type) where
  view : α → Value
  member : α → String → Except LookupError Value := fun x => (view x).member
  invoke : α → String → List Literal → Traced LookupError Value := fun x => (view x).invoke

structure Single where
  value : Binary64

def Single.ofBinary64 (x : Binary64) : Single := ⟨x.toSingle⟩

structure Boxed (α : Type) where
  content : α

namespace Inspect

variable {α : Type}

instance : Inspect Value where
  view v := v
  member := Value.member
  invoke := Value.invoke

instance : Inspect Bool := { view := .bool }

instance : Inspect Char := { view := fun c => .string (String.singleton c) }

instance : Inspect String := { view := .string }

instance : Inspect Int := { view := fun n => .number (.ofInt n) }

instance : Inspect Binary64 := { view := .number }

instance : Inspect Single := { view := fun x => .number x.value }

instance [Inspect α] : Inspect (Option α) where
  view
    | some x => view x
    | none => .null
  member
    | some x => member x
    | none => Value.null.member
  invoke
    | some x => invoke x
    | none => Value.null.invoke

instance [Inspect α] : Inspect (Boxed α) where
  view x := view x.content
  member x := member x.content
  invoke x := invoke x.content

def listIndex? (name : String) : Option UInt64 :=
  (word? name.toList).filter fun _ => name.toList.all Char.isDigit

def listMember (view : α → Value) (xs : List α) (name : String) : Value :=
  if name = "length" then .number (.ofNat xs.length)
  else ((listIndex? name).bind fun i => xs[i.toNat]?.map view).getD .absent

instance [Inspect α] : Inspect (List α) where
  view xs := .array (xs.map view)
  member xs name := .ok (listMember view xs name)

end Inspect

end Collate
