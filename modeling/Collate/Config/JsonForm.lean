import Collate.Config.Basic
import Collate.Json.Skim

namespace Collate.Config

open Json (Failure Reading failBefore failOn skipSpace)

inductive Found
  | null
  | boolean (b : Bool)
  | number (n : JsonNumber)
  | string (s : String)
  | sequence
  | map

namespace Found

def ofJson : Json → Found
  | .null => null
  | .bool b => boolean b
  | .number n => number n
  | .string s => string s
  | .array _ => sequence
  | .object _ => map

def describe : Found → String
  | null => "null"
  | boolean b => "boolean `" ++ toString b ++ "`"
  | number (.integer n) => "integer `" ++ toString n ++ "`"
  | number (.real x) => "floating point `" ++ x.render .document ++ "`"
  | string s => "string " ++ Quoted.encode s
  | sequence => "sequence"
  | map => "map"

end Found

inductive Shape
  | settings
  | sequence
  | text
  | flag

def Shape.describe : Shape → String
  | settings => "struct SortConfig"
  | sequence => "a sequence"
  | text => "a string"
  | flag => "a boolean"

inductive Fault
  | malformed (fault : Json.Fault)
  | mismatch (found : Found) (expected : Shape)
  | repeated (setting : Setting)

def Fault.message : Fault → String
  | malformed fault => fault.message
  | mismatch found expected =>
    "invalid type: " ++ found.describe ++ ", expected " ++ expected.describe
  | repeated setting => "duplicate field `" ++ setting.name ++ "`"

def malformed {α : Type} (x : Reading Json.Fault α) : Reading Fault α :=
  x.mapError (Failure.map .malformed)

def refuse {α : Type} (fuel : Nat) (expected : Shape) (cs : List Char) : Reading Fault α :=
  match cs with
  | '[' :: _ => failBefore (.mismatch .sequence expected) cs
  | '\x7b' :: _ => failBefore (.mismatch .map expected) cs
  | _ => do
    let (v, rest) ← malformed (Json.readValue fuel 0 cs)
    failBefore (.mismatch (.ofJson v) expected) rest

def readSetting (fuel depth : Nat) (c : Config) (setting : Setting) (cs : List Char) :
    Reading Fault (Config × List Char) :=
  match setting, skipSpace cs with
  | .criteria, '[' :: r =>
    (malformed (Json.readItems fuel (depth - 1) r)).map fun (vs, rest) =>
      ({ c with criteria := vs }, rest)
  | .criteria, r => refuse fuel .sequence r
  | .pointer, 'n' :: r =>
    (malformed (Json.readWord ['u', 'l', 'l'] r)).map fun rest => ({ c with pointer := none }, rest)
  | .pointer, '"' :: r =>
    (malformed (Json.readString fuel r)).map fun (s, rest) => ({ c with pointer := some s }, rest)
  | .pointer, r => refuse fuel .text r
  | .pretty, 't' :: r =>
    (malformed (Json.readWord ['r', 'u', 'e'] r)).map fun rest => ({ c with pretty := true }, rest)
  | .pretty, 'f' :: r =>
    (malformed (Json.readWord ['a', 'l', 's', 'e'] r)).map fun rest =>
      ({ c with pretty := false }, rest)
  | .pretty, r => refuse fuel .flag r

def failRepeated {α : Type} (setting : Setting) (cs : List Char) : Reading Fault α :=
  match skipSpace cs with
  | '\x7d' :: r => failBefore (.repeated setting) r
  | r => failBefore (.repeated setting) r

def readMembers (depth : Nat) : Nat → List Setting → Config → List Char →
    Reading Fault (Config × List Char)
  | 0, _, _, cs => failBefore (.malformed .unfinishedObject) cs
  | fuel + 1, given, c, cs => do
    let (key, rest) ← malformed (Json.readString fuel cs)
    let (given, c, rest) ← match Setting.ofName? key with
      | some setting =>
        if setting ∈ given then failRepeated setting rest
        else do
          let (c, rest) ← readSetting fuel depth c setting (← malformed (Json.readColon rest))
          pure (setting :: given, c, rest)
      | none => do
        let rest ← malformed (do Json.skipValue fuel (← Json.readColon rest))
        pure (given, c, rest)
    match ← malformed (Json.readObjectSeparator rest) with
    | (false, rest) => return (c, rest)
    | (true, rest) => readMembers depth fuel given c rest

def readListEnd (cs : List Char) : Reading Json.Fault (List Char) :=
  match skipSpace cs with
  | [] => failBefore .unfinishedList []
  | ']' :: r => .ok r
  | ',' :: r =>
    match skipSpace r with
    | ']' :: r => failOn .trailingComma (']' :: r)
    | r => failOn .trailingCharacters r
  | r => failOn .trailingCharacters r

def readPositional (fuel depth : Nat) : List Setting → Config → List Char →
    Reading Fault (Config × List Char)
  | [], c, cs => (malformed (readListEnd cs)).map fun rest => (c, rest)
  | setting :: settings, c, cs => do
    let (c, rest) ← readSetting fuel depth c setting cs
    if settings = [] then (malformed (readListEnd rest)).map fun rest => (c, rest)
    else match ← malformed (Json.readListSeparator rest) with
      | (false, rest) => return (c, rest)
      | (true, rest) => readPositional fuel depth settings c rest

def readConfig (cs : List Char) : Reading Fault Config := do
  let fuel := Json.fuelFor cs
  let depth := Json.depthLimit - 1
  let (c, rest) ← match skipSpace cs with
    | '\x7b' :: r =>
      match skipSpace r with
      | [] => failBefore (.malformed .unfinishedObject) []
      | '\x7d' :: r => pure (default, r)
      | '"' :: r => readMembers depth fuel [] default r
      | r => failOn (.malformed .keyNotString) r
    | '[' :: r =>
      match skipSpace r with
      | [] => failBefore (.malformed .unfinishedList) []
      | ']' :: r => pure (default, r)
      | r => readPositional fuel depth Setting.all default r
    | r => refuse fuel .settings r
  malformed (Json.expectEnd rest)
  return c

def ofJsonText (text : String) : Except Json.SyntaxError Config :=
  (readConfig text.toList).mapError fun f => f.toSyntaxError Fault.message text

end Collate.Config
