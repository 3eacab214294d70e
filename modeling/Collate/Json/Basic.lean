import Collate.Number.Binary64

namespace Collate

/-- A number of a document. Integers of 64 bits, signed or not, are kept exactly; every other number
is rounded. -/
inductive JsonNumber
  | integer (n : Int)
  | real (x : Binary64)
  deriving DecidableEq, Repr

def JsonNumber.toBinary64 : JsonNumber → Binary64
  | integer n => .ofInt n
  | real x => x

inductive Json
  | null
  | bool (b : Bool)
  | number (n : JsonNumber)
  | string (s : String)
  | array (items : List Json)
  | object (entries : List (String × Json))

namespace Json

instance : Inhabited Json := ⟨.null⟩

inductive Kind
  | null
  | boolean
  | number
  | string
  | array
  | object
  deriving DecidableEq, Repr

def kind : Json → Kind
  | null => .null
  | bool _ => .boolean
  | number _ => .number
  | string _ => .string
  | array _ => .array
  | object _ => .object

def Kind.name : Kind → String
  | null => "null"
  | boolean => "boolean"
  | number => "number"
  | string => "string"
  | array => "array"
  | object => "object"

def Kind.withArticle : Kind → String
  | null => "null"
  | boolean => "a boolean"
  | number => "a number"
  | string => "a string"
  | array => "an array"
  | object => "an object"

def ofBinary64 (x : Binary64) : Json :=
  if x.isFinite then number (.real x) else null

def insertEntry (key : String) (v : Json) : List (String × Json) → List (String × Json)
  | [] => [(key, v)]
  | e :: es =>
    match compare key e.1 with
    | .lt => (key, v) :: e :: es
    | .eq => (key, v) :: es
    | .gt => e :: insertEntry key v es

def ofEntries (entries : List (String × Json)) : Json :=
  object (entries.foldl (fun es e => insertEntry e.1 e.2 es) [])

def lookup? (entries : List (String × Json)) (key : String) : Option Json :=
  (entries.find? fun e => e.1 = key).map Prod.snd

end Json

end Collate
