import Collate.Json.Basic
import Collate.Number.Style

namespace Collate

def JsonNumber.render : JsonNumber → String
  | integer n => toString n
  | real x => x.render .document

namespace Json

def escapeChar (c : Char) : List Char :=
  match c with
  | '"' => ['\\', '"']
  | '\\' => ['\\', '\\']
  | '\n' => ['\\', 'n']
  | '\r' => ['\\', 'r']
  | '\t' => ['\\', 't']
  | '\x08' => ['\\', 'b']
  | '\x0c' => ['\\', 'f']
  | c =>
    if c.toNat < 32 then
      '\\' :: 'u' :: '0' :: '0' :: Nat.digitChar (c.toNat / 16) :: [Nat.digitChar (c.toNat % 16)]
    else [c]

def quote (s : String) : String :=
  String.ofList ('"' :: s.toList.flatMap escapeChar ++ ['"'])

mutual

def compact : Json → String
  | null => "null"
  | bool b => toString b
  | number n => n.render
  | string s => quote s
  | array items => "[" ++ String.intercalate "," (compactItems items) ++ "]"
  | object entries => "\x7b" ++ String.intercalate "," (compactEntries entries) ++ "\x7d"
termination_by structural v => v

def compactItems : List Json → List String
  | [] => []
  | v :: vs => v.compact :: compactItems vs

def compactEntries : List (String × Json) → List String
  | [] => []
  | e :: es => compactEntry e :: compactEntries es

def compactEntry : String × Json → String
  | (k, v) => quote k ++ ":" ++ v.compact

end

def indent (depth : Nat) : String :=
  String.ofList (List.replicate (2 * depth) ' ')

def block (left right : String) (depth : Nat) (lines : List String) : String :=
  if lines.isEmpty then left ++ right
  else
    let inner := lines.map fun l => indent (depth + 1) ++ l
    left ++ "\n" ++ String.intercalate ",\n" inner ++ "\n" ++ indent depth ++ right

mutual

def indented : Json → Nat → String
  | null, _ => "null"
  | bool b, _ => toString b
  | number n, _ => n.render
  | string s, _ => quote s
  | array items, depth => block "[" "]" depth (indentedItems items (depth + 1))
  | object entries, depth => block "\x7b" "\x7d" depth (indentedEntries entries (depth + 1))
termination_by structural v => v

def indentedItems : List Json → Nat → List String
  | [], _ => []
  | v :: vs, depth => v.indented depth :: indentedItems vs depth

def indentedEntries : List (String × Json) → Nat → List String
  | [], _ => []
  | e :: es, depth => indentedEntry e depth :: indentedEntries es depth

def indentedEntry : String × Json → Nat → String
  | (k, v), depth => quote k ++ ": " ++ v.indented depth

end

def render (v : Json) (pretty : Bool) : String :=
  if pretty then v.indented 0 else v.compact

end Json

end Collate
