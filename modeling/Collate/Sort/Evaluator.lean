import Collate.Sort.Criterion

namespace Collate

inductive KeySource (α : Type)
  | callable (key : α → Value)
  | identity
  | path (p : Path) (existential : Bool)

structure Evaluator (α : Type) where
  source : KeySource α
  inverted : Bool

structure Markers where
  inverted : Bool
  existential : Bool
  path : List Char
  deriving DecidableEq, Repr

/-- A mark of inversion comes first, then a dot that means nothing; a question mark comes last. -/
def Markers.ofExpression (cs : List Char) : Markers :=
  let (inverted, cs) := match cs with
    | '!' :: r => (true, r)
    | '~' :: r => (true, r)
    | r => (false, r)
  let cs := match cs with
    | '.' :: r => r
    | r => r
  if cs.getLast? = some '?' then ⟨inverted, true, cs.dropLast⟩ else ⟨inverted, false, cs⟩

variable {α : Type}

def Criterion.compile : Criterion α → Evaluator α
  | callable key => ⟨.callable key, false⟩
  | signed direction => ⟨.identity, direction.isNegative⟩
  | path expression =>
    let m := Markers.ofExpression expression.toList
    ⟨.path (.parse (String.ofList m.path)) m.existential, m.inverted⟩

namespace Evaluator

def extract [Inspect α] (e : Evaluator α) (item : α) : Traced SortError Value :=
  match e.source with
  | .callable key => pure (key item)
  | .identity => pure (Inspect.view item)
  | .path p existential => do
    let v ← (p.evaluate item).mapError (.resolution p.text)
    return if existential then .bool v.isPresent else v

def path? (e : Evaluator α) : Option Path :=
  match e.source with
  | .path p _ => some p
  | _ => none

def isExistential (e : Evaluator α) : Bool :=
  match e.source with
  | .path _ existential => existential
  | _ => false

def describe (e : Evaluator α) : String :=
  let source := match e.source with
    | .callable _ => "callable"
    | .identity => "identity"
    | .path p existential => "path(" ++ p.text ++ ")" ++ (if existential then "?" else "")
  "Evaluator \x7b extract: " ++ Quoted.encode source ++ ", invert: " ++ toString e.inverted ++ " \x7d"

end Evaluator

end Collate
