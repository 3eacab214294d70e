import Collate.Literal

namespace Collate

inductive ArgumentFault
  | arity (least greatest given : Nat)
  | notString (position : Nat)
  | notInteger (position : Nat) (given : Literal)
  | digits
  | other (reason : String)
  deriving DecidableEq, Repr

def ArgumentFault.message : ArgumentFault → String
  | arity least greatest given =>
    let expected := if least = greatest then toString least else s!"{least} to {greatest}"
    s!"expected {expected} argument(s), got {given}"
  | notString position => s!"argument {position} must be a string"
  | notInteger position given => s!"argument {position} must be an integer, got " ++ given.display
  | digits => "digits must be between 0 and 100"
  | other reason => reason

inductive LookupError
  | notInspectable (member : String) (kind : Kind)
  | noSuchMethod (method : String) (kind : Kind)
  | notCallable (member : String) (kind : Kind)
  | badArguments (method : String) (fault : ArgumentFault)
  | invocation (method : String) (reason : String)
  deriving DecidableEq, Repr

def LookupError.message : LookupError → String
  | notInspectable member kind => "cannot read member `" ++ member ++ "` of " ++ kind.name
  | noSuchMethod method kind => kind.name ++ " has no method `" ++ method ++ "`"
  | notCallable member kind => "member `" ++ member ++ "` is a " ++ kind.name ++ ", not a method"
  | badArguments method fault => "bad arguments for `" ++ method ++ "`: " ++ fault.message
  | invocation method reason => "`" ++ method ++ "` failed: " ++ reason

end Collate
