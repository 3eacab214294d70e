import Collate.Json.Basic
import Collate.Number.Style
import Collate.Path.Evaluate

namespace Collate

inductive SortError
  | unsupportedCriterion (kind : Json.Kind)
  | resolution (path : String) (cause : PathError)
  deriving DecidableEq, Repr

namespace SortError

def message : SortError → String
  | unsupportedCriterion kind =>
    "configuration error: criterion of unsupported kind: " ++ kind.name ++
      " (expected a number or a path string)"
  | resolution path cause => "resolution error in `" ++ path ++ "`: " ++ cause.message

def chain : SortError → List String
  | e@(unsupportedCriterion _) => [e.message]
  | e@(resolution _ (.malformed fault)) => [e.message, fault.message]
  | e@(resolution _ cause@(.lookup _ inner)) => [e.message, cause.message, inner.message]

end SortError

inductive Criterion (α : Type)
  | callable (key : α → Value)
  | signed (direction : Binary64)
  | path (expression : String)

abbrev Criteria (α : Type) := List (Criterion α)

namespace Criterion

variable {α : Type}

def ofJson : Json → Except SortError (Criterion α)
  | .number n => .ok (.signed n.toBinary64)
  | .string s => .ok (.path s)
  | other => .error (.unsupportedCriterion other.kind)

def describe : Criterion α → String
  | callable _ => "Callable(..)"
  | signed x => "Signed(" ++ x.render .explicit ++ ")"
  | path s => "Path(" ++ Quoted.encode s ++ ")"

end Criterion

namespace Criteria

variable {α : Type}

def ofJson : Json → Except SortError (Criteria α)
  | .array items => items.mapM Criterion.ofJson
  | single => (Criterion.ofJson single).map fun c => [c]

def describe (cs : Criteria α) : String :=
  "[" ++ String.intercalate ", " (cs.map Criterion.describe) ++ "]"

end Criteria

end Collate
