namespace Collate

inductive ReadFault
  | missing
  | directory
  | notDirectory
  | notText
  | nameTooLong
  | nulInPath
  | other (message : String)
  deriving DecidableEq, Repr

def ReadFault.message : ReadFault → String
  | missing => "No such file or directory (os error 2)"
  | directory => "Is a directory (os error 21)"
  | notDirectory => "Not a directory (os error 20)"
  | notText => "stream did not contain valid UTF-8"
  | nameTooLong => "File name too long (os error 36)"
  | nulInPath => "file name contained an unexpected NUL byte"
  | other message => message

abbrev Bindings := List (String × String)

def Bindings.value? (bs : Bindings) (name : String) : Option String :=
  (bs.find? fun b => b.1 = name).map Prod.snd

/-- A variable of the environment. Its value may be bytes that are no text. -/
inductive Variable
  | unset
  | text (value : String)
  | undecodable
  deriving DecidableEq, Repr

namespace Variable

def ofOption : Option String → Variable
  | none => unset
  | some value => text value

def value? : Variable → Option String
  | text value => some value
  | _ => none

end Variable

structure Host (m : Type → Type) where
  readFile : String → m (Except ReadFault ByteArray)
  metadata : String → m (Except ReadFault Bool)
  environment : String → m Variable
  readInput : m (Except ReadFault ByteArray)
  envFilePlaces : m (List String)

def decodeText (bytes : ByteArray) : Except ReadFault String :=
  match String.fromUTF8? bytes with
  | some text => .ok text
  | none => .error .notText

namespace Host

variable {m : Type → Type} [Monad m]

def readText (h : Host m) (path : String) : m (Except ReadFault String) := do
  return (← h.readFile path).bind decodeText

def readInputText (h : Host m) : m (Except ReadFault String) := do
  return (← h.readInput).bind decodeText

def isFile (h : Host m) (path : String) : m Bool := do
  return (← h.metadata path) matches .ok true

def value? (h : Host m) (name : String) : m (Option String) := do
  return (← h.environment name).value?

/-- The host with more variables in its environment. Those that it has with a text stay as they are. -/
def withBindings (h : Host m) (bs : Bindings) : Host m where
  readFile := h.readFile
  metadata := h.metadata
  environment name := do
    let v ← h.environment name
    match v, bs.value? name with
    | .text _, _ | _, none => return v
    | _, some value => return .text value
  readInput := h.readInput
  envFilePlaces := h.envFilePlaces

end Host

end Collate
