import Collate.Json.Basic

namespace Collate

inductive Toml
  | string (s : String)
  | integer (n : Int)
  | float (x : Binary64)
  | boolean (b : Bool)
  | datetime (text : String)
  | array (items : List Toml)
  | table (entries : List (String × Toml))

namespace Toml

def fitsIn (bits : Nat) (n : Int) : Bool :=
  if n < 0 then n.natAbs ≤ twoTo (bits - 1) else n.natAbs < twoTo bits

mutual

def toJson? : Toml → Option Json
  | string s => some (.string s)
  | integer n => if fitsIn 64 n then some (.number (.integer n)) else none
  | float x => some (.ofBinary64 x)
  | boolean b => some (.bool b)
  | datetime text => some (.object [("$__toml_private_datetime", .string text)])
  | array items => (toJsons? items).map .array
  | table entries => (toEntries? entries).map .ofEntries
termination_by structural v => v

def toJsons? : List Toml → Option (List Json)
  | [] => some []
  | v :: vs => v.toJson?.bind fun w => (toJsons? vs).map (w :: ·)

def toEntries? : List (String × Toml) → Option (List (String × Json))
  | [] => some []
  | e :: es => (toPair? e).bind fun w => (toEntries? es).map (w :: ·)

def toPair? : String × Toml → Option (String × Json)
  | (k, v) => v.toJson?.map (k, ·)

end

mutual

def isReadable : Toml → Bool
  | integer n => fitsIn 128 n
  | array items => areReadable items
  | table entries => entriesReadable entries
  | _ => true
termination_by structural v => v

def areReadable : List Toml → Bool
  | [] => true
  | v :: vs => v.isReadable && areReadable vs

def entriesReadable : List (String × Toml) → Bool
  | [] => true
  | e :: es => pairReadable e && entriesReadable es

def pairReadable : String × Toml → Bool
  | (_, v) => v.isReadable

end

inductive Fault
  | invalid
  | keyTooLong
  deriving DecidableEq, Repr

def Fault.message : Fault → String
  | invalid => "TOML parse error\n"
  | keyTooLong => "recursion limit\n"

def required {α : Type} : Option α → Except Fault α
  | some a => .ok a
  | none => .error .invalid

end Toml

end Collate
