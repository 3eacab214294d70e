import Collate.Toml.Token

namespace Collate.Toml

def hexDigit? (c : Char) : Option Nat :=
  if c.isDigit then some (c.toNat - '0'.toNat)
  else if 'a' ≤ c ∧ c ≤ 'f' then some (c.toNat - 'a'.toNat + 10)
  else if 'A' ≤ c ∧ c ≤ 'F' then some (c.toNat - 'A'.toNat + 10)
  else none

def readCodePoint (count : Nat) (cs : List Char) : Option (Char × List Char) :=
  let ds := cs.take count
  let value := ds.foldl (fun n? c => n?.bind fun n => (hexDigit? c).map (16 * n + ·)) (some 0)
  match value with
  | some n => if ds.length = count ∧ n.isValidChar then some (.ofNat n, cs.drop count) else none
  | none => none

def readEscape : List Char → Option (Char × List Char)
  | 'b' :: r => some ('\x08', r)
  | 't' :: r => some ('\t', r)
  | 'n' :: r => some ('\n', r)
  | 'f' :: r => some ('\x0c', r)
  | 'r' :: r => some ('\r', r)
  | 'e' :: r => some ('\x1b', r)
  | '"' :: r => some ('"', r)
  | '\\' :: r => some ('\\', r)
  | 'x' :: r => readCodePoint 2 r
  | 'u' :: r => readCodePoint 4 r
  | 'U' :: r => readCodePoint 8 r
  | _ => none

def decodeBasic? : Nat → List Char → Option (List Char)
  | _, [] => some []
  | 0, _ => none
  | fuel + 1, '\\' :: r => do
    let (c, rest) ← readEscape r
    return c :: (← decodeBasic? fuel rest)
  | fuel + 1, c :: r =>
    if isVisible c then (decodeBasic? fuel r).map (c :: ·) else none

def skipBlankLines : List Char → List Char
  | '\r' :: '\n' :: r => skipBlankLines r
  | c :: r => if isSpace c ∨ c = '\n' then skipBlankLines r else c :: r
  | [] => []

def skipContinuation? (cs : List Char) : Option (List Char) :=
  (dropNewline? (skipSpace cs)).map skipBlankLines

def decodeLongBasic? : Nat → List Char → Option (List Char)
  | _, [] => some []
  | 0, _ => none
  | fuel + 1, '\\' :: r =>
    match skipContinuation? r with
    | some rest => decodeLongBasic? fuel rest
    | none => do
      let (c, rest) ← readEscape r
      return c :: (← decodeLongBasic? fuel rest)
  | fuel + 1, '\r' :: '\n' :: r => (decodeLongBasic? fuel r).map fun s => '\r' :: '\n' :: s
  | fuel + 1, c :: r =>
    if c = '\n' ∨ isVisible c then (decodeLongBasic? fuel r).map (c :: ·) else none

def isLongText : List Char → Bool
  | [] => true
  | '\r' :: '\n' :: r => isLongText r
  | c :: r => (c = '\n' || isVisible c) && isLongText r

def isBareKeyChar (c : Char) : Bool :=
  c.isAlphanum || c = '_' || c = '-'

namespace Token

def string? : Token → Option String
  | basic s => (decodeBasic? s.length s).map String.ofList
  | literal s => if s.all isVisible then some (String.ofList s) else none
  | longBasic s => (decodeLongBasic? s.length s).map String.ofList
  | longLiteral s => if isLongText s then some (String.ofList s) else none
  | bare _ | unclosed => none

def key? : Token → Option String
  | bare s => if s.all isBareKeyChar then some (String.ofList s) else none
  | longBasic _ | longLiteral _ => none
  | t => t.string?

end Token

end Collate.Toml
