import Collate.Json.Basic
import Collate.Json.Fault
import Collate.LookupError

namespace Collate

inductive ArgumentsFault
  | notJson (error : Json.SyntaxError)
  | notScalar (kind : Json.Kind)
  deriving DecidableEq, Repr

def ArgumentsFault.message : ArgumentsFault → String
  | notJson error => error.message
  | notScalar kind => "expected a scalar literal, found " ++ kind.withArticle

inductive Malformed
  | empty
  | notCall (segment : String)
  | arguments (segment : String) (fault : ArgumentsFault)
  deriving DecidableEq, Repr

namespace Malformed

def segment : Malformed → String
  | empty => ""
  | notCall segment => segment
  | arguments segment _ => segment

def message : Malformed → String
  | empty => "malformed path segment ``: empty segment"
  | notCall segment =>
    "malformed path segment `" ++ segment ++ "`: expected `name(arguments)`"
  | arguments segment fault =>
    "malformed argument list in `" ++ segment ++ "`: " ++ fault.message

end Malformed

/-- One step of a path. A segment that is malformed fails only when the path is followed to it. -/
inductive Step
  | member (name : String)
  | invoke (name : String) (args : List Literal)
  | invalid (fault : Malformed)
  deriving DecidableEq, Repr

namespace Step

def display : Step → String
  | member name => name
  | invoke name args => name ++ "(" ++ String.intercalate "," (args.map Literal.display) ++ ")"
  | invalid fault => "<" ++ fault.message ++ ">"

def isInvalid : Step → Bool
  | invalid _ => true
  | _ => false

end Step

structure Path where
  text : String
  steps : List Step
  deriving DecidableEq, Repr

def Path.isIdentity (p : Path) : Bool :=
  p.steps.isEmpty

def Path.hasInvalid (p : Path) : Bool :=
  p.steps.any Step.isInvalid

inductive PathError
  | malformed (fault : Malformed)
  | lookup (step : String) (cause : LookupError)
  deriving DecidableEq, Repr

def PathError.message : PathError → String
  | malformed fault => fault.message
  | lookup step cause => "step `" ++ step ++ "` failed: " ++ cause.message

end Collate
