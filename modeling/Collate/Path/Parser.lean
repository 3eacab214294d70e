import Collate.Json.Parser
import Collate.Path.Basic
import Collate.Path.Split

namespace Collate

def Literal.ofJson : Json → Except Json.Kind Literal
  | .null => .ok .null
  | .bool b => .ok (.bool b)
  | .number n => .ok (.number n.toBinary64)
  | .string s => .ok (.string s)
  | .array _ => .error .array
  | .object _ => .error .object

def parseArguments (cs : List Char) : Except ArgumentsFault (List Literal) :=
  match Json.parse (String.ofList ('[' :: cs ++ [']'])) with
  | .error e => .error (.notJson e)
  | .ok (.array items) => (items.mapM Literal.ofJson).mapError .notScalar
  | .ok other => .error (.notScalar other.kind)

def isNameStart (c : Char) : Bool :=
  c.isAlpha || c = '_' || c = '$'

def isNameChar (c : Char) : Bool :=
  isNameStart c || c.isDigit

def splitCall? (cs : List Char) : Option (List Char × List Char) :=
  let name := cs.takeWhile isNameChar
  match name, cs.dropWhile isNameChar with
  | c :: _, '(' :: rest =>
    if isNameStart c ∧ rest.getLast? = some ')' then some (name, rest.dropLast) else none
  | _, _ => none

def Step.ofSegment (cs : List Char) : Step :=
  let segment := String.ofList cs
  if cs = [] then .invalid .empty
  else if '(' ∉ cs ∧ ')' ∉ cs then .member segment
  else match splitCall? cs with
    | none => .invalid (.notCall segment)
    | some (name, args) =>
      match parseArguments args with
      | .ok args => .invoke (String.ofList name) args
      | .error fault => .invalid (.arguments segment fault)

def Path.parse (text : String) : Path where
  text := text
  steps :=
    if text = "" then [] else (splitSegments text).map fun segment => .ofSegment segment.toList

end Collate
