import Collate.Text.Digits
import Collate.Value.Basic

namespace Collate

def memberIndex? (name : String) : Option UInt64 :=
  if name ≠ "" ∧ name.toList.all Char.isDigit then word? name.toList else none

namespace Value

def arrayMember (items : List Value) (name : String) : Value :=
  if name = "length" then number (.ofNat items.length)
  else match memberIndex? name with
    | some i => items[i.toNat]?.getD absent
    | none => absent

def stringMember (s : String) (name : String) : Value :=
  if name = "length" then number (.ofNat s.toList.length)
  else match memberIndex? name with
    | some i => (s.toList[i.toNat]?.map fun c => string (String.singleton c)).getD absent
    | none => absent

def find? (entries : List (String × Value)) (name : String) : Option Value :=
  (entries.find? fun e => e.1 = name).map Prod.snd

def member (v : Value) (name : String) : Except LookupError Value :=
  match v with
  | absent | null => .error (.notInspectable name v.kind)
  | object entries => .ok ((find? entries name).getD absent)
  | array items => .ok (arrayMember items name)
  | string s => .ok (stringMember s name)
  | bool _ | number _ | method _ => .ok absent

end Value

end Collate
