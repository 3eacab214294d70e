import Collate.Kind
import Collate.Number.Style
import Collate.Text.Quoted

namespace Collate

inductive Literal
  | null
  | bool (b : Bool)
  | number (x : Binary64)
  | string (s : String)
  deriving DecidableEq, Repr

namespace Literal

def kind : Literal → Kind
  | null => .null
  | bool _ => .boolean
  | number _ => .number
  | string _ => .string

def number? : Literal → Option Binary64
  | number x => some x
  | _ => none

def string? : Literal → Option String
  | string s => some s
  | _ => none

def bool? : Literal → Option Bool
  | bool b => some b
  | _ => none

def display : Literal → String
  | null => "null"
  | bool b => toString b
  | number x => x.render .plain
  | string s => Quoted.encode s

end Literal

end Collate
