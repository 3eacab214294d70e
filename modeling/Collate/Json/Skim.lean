import Collate.Json.Parser

namespace Collate.Json

def skipDigits (cs : List Char) : Reading Fault (List Char) :=
  match cs.takeWhile Char.isDigit with
  | [] => failOn .invalidNumber cs
  | _ :: _ => .ok (cs.dropWhile Char.isDigit)

def skipExponent : List Char → Reading Fault (List Char)
  | c :: r => if c = 'e' ∨ c = 'E' then skipDigits (Binary64.splitSign r).2 else .ok (c :: r)
  | [] => .ok []

def skipNumeral (cs : List Char) : Reading Fault (List Char) := do
  let rest ← match cs with
    | '0' :: c :: r => if c.isDigit then failOn .invalidNumber (c :: r) else pure (c :: r)
    | _ => skipDigits cs
  match rest with
  | '.' :: r => skipExponent (← skipDigits r)
  | _ => skipExponent rest

def skipEscape (cs : List Char) : Reading Fault (List Char) :=
  match cs with
  | [] => failBefore .unfinishedString []
  | 'u' :: r => (readHex r).map Prod.snd
  | c :: r => if (simpleEscape? c).isSome then .ok r else failOn .invalidEscape cs

def skipString : Nat → List Char → Reading Fault (List Char)
  | 0, cs => failBefore .unfinishedString cs
  | fuel + 1, cs =>
    match cs with
    | [] => failBefore .unfinishedString []
    | '"' :: r => .ok r
    | '\\' :: r => do skipString fuel (← skipEscape r)
    | c :: r => if c.toNat < 32 then failBefore .controlCharacter cs else skipString fuel r

mutual

/-- Passes over a value that nobody asks for. Its numbers may have any size and its parts any depth. -/
def skipValue : Nat → List Char → Reading Fault (List Char)
  | 0, cs => failBefore .unfinishedValue cs
  | fuel + 1, cs =>
    match skipSpace cs with
    | [] => failBefore .unfinishedValue []
    | 'n' :: r => readWord ['u', 'l', 'l'] r
    | 't' :: r => readWord ['r', 'u', 'e'] r
    | 'f' :: r => readWord ['a', 'l', 's', 'e'] r
    | '-' :: r => skipNumeral r
    | '"' :: r => skipString fuel r
    | '[' :: r =>
      match skipSpace r with
      | [] => failBefore .unfinishedList []
      | ']' :: r => .ok r
      | r => skipItems fuel r
    | '\x7b' :: r =>
      match skipSpace r with
      | [] => failBefore .unfinishedObject []
      | '\x7d' :: r => .ok r
      | r => skipEntries fuel r
    | c :: r => if c.isDigit then skipNumeral (c :: r) else failOn .expectedValue (c :: r)
termination_by structural fuel => fuel

def skipItems : Nat → List Char → Reading Fault (List Char)
  | 0, cs => failBefore .unfinishedList cs
  | fuel + 1, cs => do
    let rest ← skipValue fuel cs
    match skipSpace rest with
    | [] => failBefore .unfinishedList []
    | ']' :: r => return r
    | ',' :: r => skipItems fuel r
    | r => failOn .expectedListEnd r
termination_by structural fuel => fuel

def skipEntries : Nat → List Char → Reading Fault (List Char)
  | 0, cs => failBefore .unfinishedObject cs
  | fuel + 1, cs =>
    match skipSpace cs with
    | [] => failBefore .unfinishedObject []
    | '"' :: r => do
      let rest ← skipString fuel r
      let rest ← readColon rest
      let rest ← skipValue fuel rest
      match skipSpace rest with
      | [] => failBefore .unfinishedObject []
      | '\x7d' :: r => return r
      | ',' :: r => skipEntries fuel r
      | r => failOn .expectedObjectEnd r
    | r => failOn .keyNotString r
termination_by structural fuel => fuel

end

end Collate.Json
