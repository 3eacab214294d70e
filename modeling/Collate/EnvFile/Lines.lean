import Collate.Text.Blank

namespace Collate.EnvFile

inductive Fault
  | unreadable
  | malformed
  deriving DecidableEq, Repr

def splitLines : List UInt8 → List (List UInt8)
  | [] => []
  | b :: bs =>
    if b = 10 then [b] :: splitLines bs
    else match splitLines bs with
      | [] => [[b]]
      | l :: ls => (b :: l) :: ls

def dropByteOrderMark : List UInt8 → List UInt8
  | 0xEF :: 0xBB :: 0xBF :: bs => bs
  | bs => bs

def physicalLines (bytes : ByteArray) : List (Option (List Char)) :=
  (splitLines (dropByteOrderMark bytes.data.toList)).map fun l =>
    (String.fromUTF8? ⟨l.toArray⟩).map String.toList

inductive Scan
  | outside
  | blank
  | escape
  | strong
  | strongEscape
  | weak
  | weakEscape
  deriving DecidableEq, Repr

def Scan.step (s : Scan) (c : Char) : Scan :=
  match s with
  | outside =>
    match c with
    | '\\' => escape
    | '"' => weak
    | '\'' => strong
    | c => if isBlank c ∧ c ≠ '\n' ∧ c ≠ '\r' then blank else outside
  | blank =>
    match c with
    | '\\' => escape
    | '"' => weak
    | '\'' => strong
    | _ => outside
  | escape => outside
  | strong =>
    match c with
    | '\\' => strongEscape
    | '\'' => outside
    | _ => strong
  | strongEscape => strong
  | weak =>
    match c with
    | '\\' => weakEscape
    | '"' => outside
    | _ => weak
  | weakEscape => weak

inductive LineEnd
  | comment (text : List Char)
  | at (s : Scan)

def scanLine (s : Scan) (text : List Char) : List Char → LineEnd
  | [] => .at s
  | c :: cs =>
    if s = .blank ∧ c = '#' then .comment text.reverse else scanLine (s.step c) (c :: text) cs

def dropLineEnd (cs : List Char) : List Char :=
  match cs.reverse with
  | '\n' :: '\r' :: r => r.reverse
  | '\n' :: r => r.reverse
  | _ => cs

def joinLines (buffer : List Char) (s : Scan) :
    List (Option (List Char)) → List (Except Fault (List Char))
  | [] => if s = .outside then [] else [.error .malformed]
  | none :: _ => [.error .unreadable]
  | some line :: lines =>
    let whole := buffer ++ line
    if (trimLeft whole).head? = some '#' then joinLines [] .outside lines
    else match scanLine s [] line with
      | .comment text => .ok (buffer ++ text) :: joinLines [] .outside lines
      | .at .outside => .ok (dropLineEnd whole) :: joinLines [] .outside lines
      | .at s => joinLines whole s lines

def logicalLines (bytes : ByteArray) : List (Except Fault (List Char)) :=
  joinLines [] .outside (physicalLines bytes)

end Collate.EnvFile
