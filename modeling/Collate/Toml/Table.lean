import Collate.Toml.Basic
import Collate.Toml.Text

namespace Collate.Toml

/-- A part of a document that is being built. A table is implicit until a header names it, and dotted
when a dotted key made it. Arrays of tables grow by headers. -/
inductive Node
  | leaf (v : Toml)
  | table (implicit dotted : Bool) (entries : List (String × Node))
  | tables (items : List Node)

namespace Node

def empty : Node := table false false []

mutual

def toToml : Node → Toml
  | leaf v => v
  | table _ _ entries => .table (entriesToToml entries)
  | tables items => .array (itemsToToml items)
termination_by structural n => n

def itemsToToml : List Node → List Toml
  | [] => []
  | n :: ns => n.toToml :: itemsToToml ns

def entriesToToml : List (String × Node) → List (String × Toml)
  | [] => []
  | e :: es => entryToToml e :: entriesToToml es

def entryToToml : String × Node → String × Toml
  | (k, n) => (k, n.toToml)

end

def alter (key : String) (f : Option Node → Option Node) :
    List (String × Node) → Option (List (String × Node))
  | [] => (f none).map fun n => [(key, n)]
  | e :: es =>
    if e.1 = key then (f (some e.2)).map fun n => (key, n) :: es
    else (alter key f es).map (e :: ·)

def descend (dotted : Bool) (f : Node → Option Node) : List String → Node → Option Node
  | [], n => f n
  | key :: keys, table implicit isDotted entries =>
    (alter key (fun
      | none => descend dotted f keys (table true dotted [])
      | some (leaf _) => none
      | some (tables items) =>
        items.getLast?.bind fun n =>
          (descend dotted f keys n).map fun m => tables (items.dropLast ++ [m])
      | some (table imp dot es) =>
        if dotted && !imp then none else descend dotted f keys (table imp dot es))
      entries).map (table implicit isDotted)
  | _ :: _, _ => none

def find? : List String → Node → Option Node
  | [], n => some n
  | key :: keys, table _ _ entries =>
    match entries.find? (·.1 = key) with
    | some (_, tables items) => items.getLast?.bind (find? keys)
    | some (_, n) => find? keys n
    | none => none
  | _ :: _, _ => none

def define? (root : Node) (path : List String) : Option Node :=
  match path.getLast? with
  | none => none
  | some key =>
    root.descend false (fun
      | table implicit dotted entries =>
        (alter key (fun
          | none => some empty
          | some (table true false es) => some (table false false es)
          | some _ => none) entries).map (table implicit dotted)
      | _ => none) path.dropLast

def replace? (root : Node) (path : List String) (n : Node) : Option Node :=
  root.descend false (fun _ => some n) path

def append? (root : Node) (path : List String) (n : Node) : Option Node :=
  match path.getLast? with
  | none => none
  | some key =>
    root.descend false (fun
      | table implicit dotted entries =>
        (alter key (fun
          | none => some (tables [n])
          | some (tables items) => some (tables (items ++ [n]))
          | some _ => none) entries).map (table implicit dotted)
      | _ => none) path.dropLast

def assign? (n : Node) (path : List String) (v : Toml) : Option Node :=
  match path.getLast? with
  | none => none
  | some key =>
    n.descend true (fun
      | table implicit dotted entries =>
        if dotted = path.dropLast.isEmpty then none
        else (alter key (fun
          | none => some (leaf v)
          | some _ => none) entries).map (table implicit dotted)
      | _ => none) path.dropLast

end Node

def keyLimit : Nat := 80

def pathOf (keys : List Token) : Except Fault (List String) :=
  required (keys.mapM Token.key?)

def checkLength (path : List String) : Except Fault Unit :=
  if path.length ≤ keyLimit then .ok () else .error .keyTooLong

def Node.withEntry (n : Node) (keys : List Token) (v : Except Fault Toml) : Except Fault Node := do
  let path ← pathOf keys
  let v ← v
  checkLength path
  required (n.assign? path v)

end Collate.Toml
