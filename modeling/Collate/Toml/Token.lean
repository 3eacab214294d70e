namespace Collate.Toml

def isSpace (c : Char) : Bool :=
  c = ' ' || c = '\t'

def isVisible (c : Char) : Bool :=
  c = '\t' || (32 ≤ c.toNat && c.toNat ≠ 127)

def skipSpace (cs : List Char) : List Char :=
  cs.dropWhile isSpace

def dropNewline? : List Char → Option (List Char)
  | '\n' :: r => some r
  | '\r' :: '\n' :: r => some r
  | _ => none

def dropComment (cs : List Char) : List Char :=
  match cs with
  | '#' :: r =>
    let rest := r.dropWhile isVisible
    if rest = [] ∨ (dropNewline? rest).isSome then rest else cs
  | _ => cs

def skipTrivia : Nat → List Char → List Char
  | 0, cs => cs
  | fuel + 1, cs =>
    let rest := dropComment (skipSpace cs)
    match dropNewline? rest with
    | some r => skipTrivia fuel r
    | none => rest

def readLineEnd (cs : List Char) : Option (List Char) :=
  let rest := dropComment (skipSpace cs)
  if rest = [] then some [] else dropNewline? rest

inductive Token
  | bare (text : List Char)
  | basic (body : List Char)
  | literal (body : List Char)
  | longBasic (body : List Char)
  | longLiteral (body : List Char)
  | unclosed
  deriving DecidableEq, Repr

def splitBasic? : List Char → Option (List Char × List Char)
  | [] => none
  | '"' :: r => some ([], r)
  | '\n' :: _ => none
  | '\\' :: '\n' :: _ => none
  | '\\' :: c :: r => (splitBasic? r).map fun (s, rest) => ('\\' :: c :: s, rest)
  | c :: r => (splitBasic? r).map fun (s, rest) => (c :: s, rest)

def splitLiteral? (cs : List Char) : Option (List Char × List Char) :=
  let s := cs.takeWhile fun c => c ≠ '\'' ∧ c ≠ '\n'
  match cs.drop s.length with
  | '\'' :: r => some (s, r)
  | _ => none

def closing? (quote : Char) (cs : List Char) : Option (List Char × List Char) :=
  let count := min 5 (cs.takeWhile (· = quote)).length
  if 3 ≤ count then some (List.replicate (count - 3) quote, cs.drop count) else none

def splitLongBasic? : List Char → Option (List Char × List Char)
  | [] => none
  | '\\' :: c :: r => (splitLongBasic? r).map fun (s, rest) => ('\\' :: c :: s, rest)
  | c :: r =>
    match closing? '"' (c :: r) with
    | some (s, rest) => some (s, rest)
    | none => (splitLongBasic? r).map fun (s, rest) => (c :: s, rest)

def splitLongLiteral? : List Char → Option (List Char × List Char)
  | [] => none
  | c :: r =>
    match closing? '\'' (c :: r) with
    | some (s, rest) => some (s, rest)
    | none => (splitLongLiteral? r).map fun (s, rest) => (c :: s, rest)

def dropFirstNewline (cs : List Char) : List Char :=
  (dropNewline? cs).getD cs

def readQuoted? : List Char → Option (Token × List Char)
  | '"' :: '"' :: '"' :: r =>
    match splitLongBasic? (dropFirstNewline r) with
    | some (s, rest) => some (.longBasic s, rest)
    | none => some (.unclosed, [])
  | '\'' :: '\'' :: '\'' :: r =>
    match splitLongLiteral? (dropFirstNewline r) with
    | some (s, rest) => some (.longLiteral s, rest)
    | none => some (.unclosed, [])
  | '"' :: r =>
    match splitBasic? r with
    | some (s, rest) => some (.basic s, rest)
    | none => some (.unclosed, r.dropWhile (· ≠ '\n'))
  | '\'' :: r =>
    match splitLiteral? r with
    | some (s, rest) => some (.literal s, rest)
    | none => some (.unclosed, r.dropWhile (· ≠ '\n'))
  | _ => none

def isWordChar (c : Char) : Bool :=
  !isSpace c && c ∉ ['\n', '\r', '#', ',', '=', '[', ']', '\x7b', '\x7d', '"', '\'']

def readKey? (cs : List Char) : Option (Token × List Char) :=
  match readQuoted? cs with
  | some (t, rest) => some (t, rest)
  | none =>
    let word := cs.takeWhile fun c => isWordChar c && c ≠ '.'
    if word = [] then none else some (.bare word, cs.drop word.length)

def readKeys : Nat → List Char → Option (List Token × List Char)
  | 0, _ => none
  | fuel + 1, cs => do
    let (key, rest) ← readKey? cs
    match skipSpace rest with
    | '.' :: r =>
      let (keys, rest) ← readKeys fuel (skipSpace r)
      return (key :: keys, rest)
    | r => return ([key], r)

def splitWords : List Char → List Char × List Char
  | [] => ([], [])
  | c :: r =>
    if isWordChar c ∨ isSpace c ∧ (skipSpace r).head?.any fun d => isWordChar d && d ≠ '.' then
      let (s, rest) := splitWords r
      (c :: s, rest)
    else ([], c :: r)

def readScalar? (cs : List Char) : Option (Token × List Char) :=
  match readQuoted? cs with
  | some (t, rest) => some (t, rest)
  | none =>
    let (words, rest) := splitWords cs
    if words = [] then none else some (.bare words, rest)

end Collate.Toml
