import Collate.LookupError
import Collate.Traced

namespace Collate

/-- An untyped value. A member that does not exist is `absent`, unlike one that is null. The entries
of an object are in the order of their keys. -/
inductive Value
  | absent
  | null
  | bool (b : Bool)
  | number (x : Binary64)
  | string (s : String)
  | array (items : List Value)
  | object (entries : List (String × Value))
  | method (run : List Literal → Traced LookupError Value)

namespace Value

instance : Inhabited Value := ⟨.absent⟩

def isMissing : Value → Bool
  | absent | null => true
  | _ => false

def isPresent (v : Value) : Bool :=
  !v.isMissing

def kind : Value → Kind
  | absent => .absent
  | null => .null
  | bool _ => .boolean
  | number _ => .number
  | string _ => .string
  | array _ => .array
  | object _ => .object
  | method _ => .method

def number? : Value → Option Binary64
  | number x => some x
  | _ => none

def string? : Value → Option String
  | string s => some s
  | _ => none

def bool? : Value → Option Bool
  | bool b => some b
  | _ => none

def ofLiteral : Literal → Value
  | .null => null
  | .bool b => bool b
  | .number x => number x
  | .string s => string s

def insertEntry (key : String) (v : Value) : List (String × Value) → List (String × Value)
  | [] => [(key, v)]
  | e :: es =>
    match compare key e.1 with
    | .lt => (key, v) :: e :: es
    | .eq => (key, v) :: es
    | .gt => e :: insertEntry key v es

def ofEntries (entries : List (String × Value)) : Value :=
  object (entries.foldl (fun es e => insertEntry e.1 e.2 es) [])

end Value

end Collate
