import Collate.EnvFile.Lines
import Collate.Text.AlphanumericTable

namespace Collate.EnvFile

inductive Piece
  | char (c : Char)
  | reference (name : String)
  deriving DecidableEq, Repr

structure Assignment where
  key : String
  value : List Piece
  deriving DecidableEq, Repr

inductive Mode
  | plain
  | strong
  | weak
  | escaped (quoted : Bool)
  | name (quoted : Bool) (letters : List Char)
  | braced (quoted : Bool) (letters : List Char)
  | ended

def Mode.unquoted : Bool → Mode
  | true => .weak
  | false => .plain

def referenceTo (letters : List Char) : Piece :=
  .reference (String.ofList letters)

def escaped? (c : Char) : Option Char :=
  if c ∈ ['\\', '\'', '"', '$', ' '] then some c
  else if c = 'n' then some '\n'
  else none

/-- The parts of a value. A name ends before the first character that is neither letter nor number,
and that character stands for itself. -/
def readValue : Mode → List Char → Option (List Piece)
  | .plain, [] | .escaped false, [] | .ended, [] => some []
  | .name false letters, [] => some [referenceTo letters]
  | _, [] => none
  | .ended, c :: cs =>
    if c = ' ' ∨ c = '\t' then readValue .ended cs else if c = '#' then some [] else none
  | .escaped quoted, c :: cs =>
    (escaped? c).bind fun d => (readValue (.unquoted quoted) cs).map (.char d :: ·)
  | .strong, c :: cs =>
    if c = '\'' then readValue .plain cs else (readValue .strong cs).map (.char c :: ·)
  | .name quoted letters, c :: cs =>
    if isAlphanumeric c then readValue (.name quoted (letters ++ [c])) cs
    else if c = '\x7b' ∧ letters = [] then readValue (.braced quoted []) cs
    else if c = '$' then (readValue (.name quoted []) cs).map (referenceTo letters :: ·)
    else (readValue (.unquoted quoted) cs).map (referenceTo letters :: .char c :: ·)
  | .braced quoted letters, c :: cs =>
    if c = '\x7d' then (readValue (.unquoted quoted) cs).map (referenceTo letters :: ·)
    else readValue (.braced quoted (letters ++ [c])) cs
  | .weak, c :: cs =>
    match c with
    | '$' => readValue (.name true []) cs
    | '"' => readValue .plain cs
    | '\\' => readValue (.escaped true) cs
    | c => (readValue .weak cs).map (.char c :: ·)
  | .plain, c :: cs =>
    match c with
    | '$' => readValue (.name false []) cs
    | '\'' => readValue .strong cs
    | '"' => readValue .weak cs
    | '\\' => readValue (.escaped false) cs
    | c =>
      if c = ' ' ∨ c = '\t' then readValue .ended cs else (readValue .plain cs).map (.char c :: ·)

def isKeyStart (c : Char) : Bool :=
  c.isAlpha || c = '_'

def isKeyChar (c : Char) : Bool :=
  c.isAlphanum || c = '_' || c = '.'

def readKey? (cs : List Char) : Option (List Char × List Char) :=
  if cs.head?.any isKeyStart then
    let key := cs.takeWhile isKeyChar
    some (key, cs.drop key.length)
  else none

def readEquals? (cs : List Char) : Option (List Char) :=
  match trimLeft cs with
  | '=' :: r => some r
  | _ => none

def readTarget? (cs : List Char) : Option (List Char × List Char) := do
  let (key, rest) ← readKey? cs
  match readEquals? rest with
  | some rest => return (key, rest)
  | none => do
    guard (key = ['e', 'x', 'p', 'o', 'r', 't'])
    let (key, rest) ← readKey? (trimLeft rest)
    return (key, ← readEquals? rest)

def readLine (line : List Char) : Except Fault (Option Assignment) :=
  match trimLeft (trimRight line) with
  | [] => .ok none
  | '#' :: _ => .ok none
  | cs =>
    match readTarget? cs with
    | none => .error .malformed
    | some (key, rest) =>
      match trimLeft rest with
      | [] => .ok (some ⟨String.ofList key, []⟩)
      | '#' :: _ => .ok (some ⟨String.ofList key, []⟩)
      | cs =>
        match readValue .plain cs with
        | some value => .ok (some ⟨String.ofList key, value⟩)
        | none => .error .malformed

end Collate.EnvFile
