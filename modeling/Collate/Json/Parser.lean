import Collate.Json.Numeral

namespace Collate.Json

def isSpace (c : Char) : Bool :=
  c = ' ' || c = '\n' || c = '\t' || c = '\r'

def skipSpace (cs : List Char) : List Char :=
  cs.dropWhile isSpace

def readWord : List Char → List Char → Reading Fault (List Char)
  | [], cs => .ok cs
  | _ :: _, [] => failBefore .unfinishedValue []
  | w :: ws, c :: cs => if c = w then readWord ws cs else failOn .expectedWord (c :: cs)

def hexDigit? (c : Char) : Option Nat :=
  if c.isDigit then some (c.toNat - '0'.toNat)
  else if 'a' ≤ c ∧ c ≤ 'f' then some (c.toNat - 'a'.toNat + 10)
  else if 'A' ≤ c ∧ c ≤ 'F' then some (c.toNat - 'A'.toNat + 10)
  else none

def hexValue? (cs : List Char) : Option Nat :=
  cs.foldl (fun n? c => n?.bind fun n => (hexDigit? c).map (16 * n + ·)) (some 0)

def readHex (cs : List Char) : Reading Fault (Nat × List Char) :=
  if byteCount cs < 4 then failBefore .unfinishedString []
  else match hexValue? (cs.take 4) with
    | some n => .ok (n, cs.drop 4)
    | none => .error ⟨.invalidEscape, byteCount cs - 4⟩

def readTrailing (lead : Nat) (cs : List Char) : Reading Fault (Char × List Char) :=
  match cs with
  | [] | ['\\'] => failBefore .unfinishedString []
  | '\\' :: 'u' :: r => do
    let (n, rest) ← readHex r
    if 0xDC00 ≤ n ∧ n ≤ 0xDFFF then
      return (Char.ofNat ((lead - 0xD800) * 0x400 + (n - 0xDC00) + 0x10000), rest)
    else failBefore .loneSurrogate rest
  | '\\' :: r => failOn .unfinishedSurrogate r
  | _ => failOn .unfinishedSurrogate cs

def simpleEscape? : Char → Option Char
  | '"' => some '"'
  | '\\' => some '\\'
  | '/' => some '/'
  | 'b' => some '\x08'
  | 'f' => some '\x0c'
  | 'n' => some '\n'
  | 'r' => some '\r'
  | 't' => some '\t'
  | _ => none

def readEscape (cs : List Char) : Reading Fault (Char × List Char) :=
  match cs with
  | [] => failBefore .unfinishedString []
  | 'u' :: r => do
    let (n, rest) ← readHex r
    if 0xDC00 ≤ n ∧ n ≤ 0xDFFF then failBefore .loneSurrogate rest
    else if 0xD800 ≤ n ∧ n ≤ 0xDBFF then readTrailing n rest
    else return (Char.ofNat n, rest)
  | c :: r =>
    match simpleEscape? c with
    | some d => .ok (d, r)
    | none => failOn .invalidEscape cs

def readStringChar (cs : List Char) : Reading Fault (Option Char × List Char) :=
  match cs with
  | [] => failBefore .unfinishedString []
  | '"' :: r => .ok (none, r)
  | '\\' :: r => (readEscape r).map fun (c, rest) => (some c, rest)
  | c :: r => if c.toNat < 32 then failOn .controlCharacter cs else .ok (some c, r)

def readChars : Nat → List Char → Reading Fault (List Char × List Char)
  | 0, cs => failBefore .unfinishedString cs
  | fuel + 1, cs => do
    match ← readStringChar cs with
    | (none, rest) => return ([], rest)
    | (some c, rest) =>
      let (s, rest) ← readChars fuel rest
      return (c :: s, rest)

def readString (fuel : Nat) (cs : List Char) : Reading Fault (String × List Char) :=
  (readChars fuel cs).map fun (s, rest) => (String.ofList s, rest)

def readColon (cs : List Char) : Reading Fault (List Char) :=
  match skipSpace cs with
  | ':' :: r => .ok r
  | [] => failBefore .unfinishedObject []
  | r => failOn .expectedColon r

def readListSeparator (cs : List Char) : Reading Fault (Bool × List Char) :=
  match skipSpace cs with
  | [] => failBefore .unfinishedList []
  | ']' :: r => .ok (false, r)
  | ',' :: r =>
    match skipSpace r with
    | [] => failBefore .unfinishedValue []
    | ']' :: r => failOn .trailingComma (']' :: r)
    | r => .ok (true, r)
  | r => failOn .expectedListEnd r

def readObjectSeparator (cs : List Char) : Reading Fault (Bool × List Char) :=
  match skipSpace cs with
  | [] => failBefore .unfinishedObject []
  | '\x7d' :: r => .ok (false, r)
  | ',' :: r =>
    match skipSpace r with
    | [] => failBefore .unfinishedValue []
    | '"' :: r => .ok (true, r)
    | '\x7d' :: r => failOn .trailingComma ('\x7d' :: r)
    | r => failOn .keyNotString r
  | r => failOn .expectedObjectEnd r

mutual

/-- A document. Each call has less fuel, and `depth` more levels may be opened. -/
def readValue : Nat → Nat → List Char → Reading Fault (Json × List Char)
  | 0, _, cs => failBefore .unfinishedValue cs
  | fuel + 1, depth, cs =>
    match skipSpace cs with
    | [] => failBefore .unfinishedValue []
    | 'n' :: r => (readWord ['u', 'l', 'l'] r).map fun rest => (.null, rest)
    | 't' :: r => (readWord ['r', 'u', 'e'] r).map fun rest => (.bool true, rest)
    | 'f' :: r => (readWord ['a', 'l', 's', 'e'] r).map fun rest => (.bool false, rest)
    | '-' :: r => (readNumeral true r).map fun (n, rest) => (.number n, rest)
    | '"' :: r => (readString fuel r).map fun (s, rest) => (.string s, rest)
    | '[' :: r =>
      if depth = 0 then failOn .tooDeep ('[' :: r)
      else (readItems fuel (depth - 1) r).map fun (items, rest) => (.array items, rest)
    | '\x7b' :: r =>
      if depth = 0 then failOn .tooDeep ('\x7b' :: r)
      else (readEntries fuel (depth - 1) r).map fun (entries, rest) => (ofEntries entries, rest)
    | c :: r =>
      if c.isDigit then (readNumeral false (c :: r)).map fun (n, rest) => (.number n, rest)
      else failOn .expectedValue (c :: r)
termination_by structural fuel => fuel

def readItems : Nat → Nat → List Char → Reading Fault (List Json × List Char)
  | 0, _, cs => failBefore .unfinishedList cs
  | fuel + 1, depth, cs =>
    match skipSpace cs with
    | [] => failBefore .unfinishedList []
    | ']' :: r => .ok ([], r)
    | r => readMoreItems fuel depth r
termination_by structural fuel => fuel

def readMoreItems : Nat → Nat → List Char → Reading Fault (List Json × List Char)
  | 0, _, cs => failBefore .unfinishedList cs
  | fuel + 1, depth, cs => do
    let (v, rest) ← readValue fuel depth cs
    match ← readListSeparator rest with
    | (false, rest) => return ([v], rest)
    | (true, rest) =>
      let (vs, rest) ← readMoreItems fuel depth rest
      return (v :: vs, rest)
termination_by structural fuel => fuel

def readEntries : Nat → Nat → List Char → Reading Fault (List (String × Json) × List Char)
  | 0, _, cs => failBefore .unfinishedObject cs
  | fuel + 1, depth, cs =>
    match skipSpace cs with
    | [] => failBefore .unfinishedObject []
    | '\x7d' :: r => .ok ([], r)
    | '"' :: r => readMoreEntries fuel depth r
    | r => failOn .keyNotString r
termination_by structural fuel => fuel

def readMoreEntries :
    Nat → Nat → List Char → Reading Fault (List (String × Json) × List Char)
  | 0, _, cs => failBefore .unfinishedObject cs
  | fuel + 1, depth, cs => do
    let (key, rest) ← readString fuel cs
    let rest ← readColon rest
    let (v, rest) ← readValue fuel depth rest
    match ← readObjectSeparator rest with
    | (false, rest) => return ([(key, v)], rest)
    | (true, rest) =>
      let (es, rest) ← readMoreEntries fuel depth rest
      return ((key, v) :: es, rest)
termination_by structural fuel => fuel

end

def depthLimit : Nat := 127

/-- More fuel than reading the text takes: of three calls in a row at least one makes it shorter. -/
def fuelFor (cs : List Char) : Nat :=
  3 * cs.length + 3

def expectEnd (cs : List Char) : Reading Fault Unit :=
  match skipSpace cs with
  | [] => .ok ()
  | r => failOn .trailingCharacters r

def readDocument (cs : List Char) : Reading Fault Json := do
  let (v, rest) ← readValue (fuelFor cs) depthLimit cs
  expectEnd rest
  return v

def parse (text : String) : Except SyntaxError Json :=
  (readDocument text.toList).mapError fun f => f.toSyntaxError Fault.message text

end Collate.Json
