import Collate.Toml.Scalar
import Collate.Toml.Table

namespace Collate.Toml

def depthLimit : Nat := 80

def readEquals (skip : List Char → List Char) (cs : List Char) : Option (List Char) :=
  match skip cs with
  | '=' :: r => some (skip r)
  | _ => none

mutual

def readValue : Nat → Nat → List Char → Option (Except Fault Toml × List Char)
  | 0, _, _ => none
  | fuel + 1, depth, cs =>
    match cs with
    | '[' :: r =>
      if depth = 0 then none
      else (readItems fuel (depth - 1) (skipTrivia fuel r)).map fun (vs, rest) =>
        (vs.map array, rest)
    | '\x7b' :: r =>
      if depth = 0 then none
      else (readInline fuel (depth - 1) (.ok .empty) (skipTrivia fuel r)).map fun (n, rest) =>
        (n.map Node.toToml, rest)
    | _ => (readScalar? cs).map fun (t, rest) => (required t.value?, rest)

def readItems : Nat → Nat → List Char → Option (Except Fault (List Toml) × List Char)
  | 0, _, _ => none
  | fuel + 1, depth, cs =>
    match cs with
    | ']' :: r => some (.ok [], r)
    | _ => do
      let (v, rest) ← readValue fuel depth cs
      match skipTrivia fuel rest with
      | ',' :: r =>
        let (vs, rest) ← readItems fuel depth (skipTrivia fuel r)
        return (v.bind fun v => vs.map (v :: ·), rest)
      | ']' :: r => return (v.map ([·]), r)
      | _ => none

def readInline : Nat → Nat → Except Fault Node → List Char →
    Option (Except Fault Node × List Char)
  | 0, _, _, _ => none
  | fuel + 1, depth, n, cs =>
    match cs with
    | '\x7d' :: r => some (n, r)
    | _ => do
      let (keys, rest) ← readKeys fuel cs
      let (v, rest) ← readValue fuel depth (← readEquals (skipTrivia fuel) rest)
      let n := n.bind fun n => n.withEntry keys v
      match skipTrivia fuel rest with
      | ',' :: r => readInline fuel depth n (skipTrivia fuel r)
      | '\x7d' :: r => return (n, r)
      | _ => none

end

inductive Statement
  | table (keys : List Token)
  | item (keys : List Token)
  | entry (keys : List Token) (v : Except Fault Toml)

def readStatement (fuel : Nat) (cs : List Char) : Option (Statement × List Char) :=
  match cs with
  | '[' :: '[' :: r => do
    let (keys, rest) ← readKeys fuel (skipSpace r)
    match rest with
    | ']' :: ']' :: r => return (.item keys, r)
    | _ => none
  | '[' :: r => do
    let (keys, rest) ← readKeys fuel (skipSpace r)
    match rest with
    | ']' :: r => return (.table keys, r)
    | _ => none
  | _ => do
    let (keys, rest) ← readKeys fuel cs
    let (v, rest) ← readValue fuel depthLimit (← readEquals skipSpace rest)
    return (.entry keys v, rest)

def readStatements : Nat → List Char → Option (List Statement)
  | 0, _ => none
  | fuel + 1, cs =>
    match skipTrivia (fuel + 1) cs with
    | [] => some []
    | r => do
      let (s, rest) ← readStatement fuel r
      let ss ← readStatements fuel (← readLineEnd rest)
      return s :: ss

inductive Header
  | table (path : List String)
  | item (path : List String)

structure Draft where
  root : Node
  header : Option Header
  table : Node

namespace Draft

def start : Draft := ⟨.empty, none, .empty⟩

def close (d : Draft) : Except Fault Node :=
  match d.header with
  | none => .ok d.table
  | some (.table path) => required (d.root.replace? path d.table)
  | some (.item path) => do
    checkLength path
    required (d.root.append? path d.table)

def step (d : Draft) : Statement → Except Fault Draft
  | .table keys => do
    let root ← d.close
    let path ← pathOf keys
    checkLength path
    let root ← required (root.define? path)
    return ⟨root, some (.table path), ← required (root.find? path)⟩
  | .item keys => do
    let root ← d.close
    return ⟨root, some (.item (← pathOf keys)), .empty⟩
  | .entry keys v => do
    return { d with table := ← d.table.withEntry keys v }

end Draft

def parse (text : String) : Except Fault (List (String × Toml)) := do
  let cs := match text.toList with
    | '\uFEFF' :: r => r
    | cs => cs
  let statements ← required (readStatements (2 * cs.length + 2) cs)
  let d ← statements.foldlM Draft.step .start
  match (← d.close).toToml with
  | .table entries => return entries
  | _ => .error .invalid

end Collate.Toml
