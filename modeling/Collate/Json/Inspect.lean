import Collate.Inspect
import Collate.Json.Basic

namespace Collate.Json

mutual

def toValue : Json → Value
  | null => .null
  | bool b => .bool b
  | number n => .number n.toBinary64
  | string s => .string s
  | array items => .array (toValues items)
  | object entries => .object (toEntries entries)
termination_by structural v => v

def toValues : List Json → List Value
  | [] => []
  | v :: vs => v.toValue :: toValues vs

def toEntries : List (String × Json) → List (String × Value)
  | [] => []
  | e :: es => toEntry e :: toEntries es

def toEntry : String × Json → String × Value
  | (k, v) => (k, v.toValue)

end

def member (v : Json) (name : String) : Except LookupError Value :=
  match v with
  | object entries => .ok (((lookup? entries name).map toValue).getD .absent)
  | array items => .ok (Inspect.listMember toValue items name)
  | other => other.toValue.member name

def invoke (v : Json) (name : String) (args : List Literal) : Traced LookupError Value :=
  match v with
  | object entries =>
    match lookup? entries name with
    | some w => .fail (.notCallable name w.toValue.kind)
    | none => .fail (.noSuchMethod name .object)
  | other => other.toValue.invoke name args

instance : Inspect Json where
  view := toValue
  member := member
  invoke := invoke

end Collate.Json
