namespace Collate

structure Scan where
  depth : Int32
  quoted : Bool
  escaped : Bool
  deriving DecidableEq, Repr

namespace Scan

def start : Scan := ⟨0, false, false⟩

-- A quote opens a string only inside of parentheses. The depth wraps around.
def next (s : Scan) (c : Char) : Scan :=
  if s.quoted then
    if s.escaped then { s with escaped := false }
    else if c = '\\' then { s with escaped := true }
    else if c = '"' then { s with quoted := false }
    else s
  else if c = '"' ∧ 0 < s.depth then { s with quoted := true }
  else if c = '(' then { s with depth := s.depth + 1 }
  else if c = ')' then { s with depth := s.depth - 1 }
  else s

def cuts (s : Scan) (c : Char) : Bool :=
  c = '.' && !s.quoted && s.depth ≤ 0

end Scan

def slice (text : String) (first last : Nat) : String :=
  String.Pos.Raw.extract text ⟨first⟩ ⟨last⟩

/-- A path that is read up to some character: its segments so far, and the byte that starts the one
which goes on. -/
structure Splitting where
  scan : Scan
  start : Nat
  segments : List String

def Splitting.step (text : String) (s : Splitting) (place : Nat) (c : Char) : Splitting :=
  if s.scan.cuts c then
    { s with start := place + 1, segments := s.segments ++ [slice text s.start place] }
  else { s with scan := s.scan.next c }

def Splitting.run (text : String) (s : Splitting) (place : Nat) : List Char → Splitting
  | [] => s
  | c :: cs => run text (s.step text place c) (place + c.utf8Size) cs

def splitSegments (text : String) : List String :=
  let s := Splitting.run text ⟨.start, 0, []⟩ 0 text.toList
  s.segments ++ [slice text s.start text.utf8ByteSize]

end Collate
