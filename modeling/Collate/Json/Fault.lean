namespace Collate.Json

inductive Fault
  | unfinishedList
  | unfinishedObject
  | unfinishedString
  | unfinishedValue
  | expectedColon
  | expectedListEnd
  | expectedObjectEnd
  | expectedWord
  | expectedValue
  | invalidEscape
  | invalidNumber
  | numberOutOfRange
  | controlCharacter
  | keyNotString
  | loneSurrogate
  | unfinishedSurrogate
  | trailingComma
  | trailingCharacters
  | tooDeep
  deriving DecidableEq, Repr

def Fault.message : Fault → String
  | unfinishedList => "EOF while parsing a list"
  | unfinishedObject => "EOF while parsing an object"
  | unfinishedString => "EOF while parsing a string"
  | unfinishedValue => "EOF while parsing a value"
  | expectedColon => "expected `:`"
  | expectedListEnd => "expected `,` or `]`"
  | expectedObjectEnd => "expected `,` or `\x7d`"
  | expectedWord => "expected ident"
  | expectedValue => "expected value"
  | invalidEscape => "invalid escape"
  | invalidNumber => "invalid number"
  | numberOutOfRange => "number out of range"
  | controlCharacter => "control character (\\u0000-\\u001F) found while parsing a string"
  | keyNotString => "key must be a string"
  | loneSurrogate => "lone leading surrogate in hex escape"
  | unfinishedSurrogate => "unexpected end of hex escape"
  | trailingComma => "trailing comma"
  | trailingCharacters => "trailing characters"
  | tooDeep => "recursion limit exceeded"

structure Position where
  line : Nat
  column : Nat
  deriving DecidableEq, Repr

def Position.after (text : String) (offset : Nat) : Position :=
  let bytes := text.toUTF8.toList.take offset
  ⟨bytes.count 10 + 1, (bytes.reverse.takeWhile (· ≠ 10)).length⟩

structure Failure (φ : Type) where
  fault : φ
  left : Nat

structure SyntaxError where
  reason : String
  position : Position
  deriving DecidableEq, Repr

def SyntaxError.message (e : SyntaxError) : String :=
  e.reason ++ s!" at line {e.position.line} column {e.position.column}"

abbrev Reading (φ : Type) : Type → Type := Except (Failure φ)

def byteCount : List Char → Nat
  | [] => 0
  | c :: cs => c.utf8Size + byteCount cs

def failBefore {φ α : Type} (fault : φ) (rest : List Char) : Reading φ α :=
  .error ⟨fault, byteCount rest⟩

def failOn {φ α : Type} (fault : φ) (rest : List Char) : Reading φ α :=
  .error ⟨fault, byteCount rest - 1⟩

def Failure.toSyntaxError {φ : Type} (describe : φ → String) (text : String) (f : Failure φ) :
    SyntaxError :=
  ⟨describe f.fault, .after text (text.utf8ByteSize - f.left)⟩

def Failure.map {φ ψ : Type} (g : φ → ψ) (f : Failure φ) : Failure ψ := ⟨g f.fault, f.left⟩

end Collate.Json
