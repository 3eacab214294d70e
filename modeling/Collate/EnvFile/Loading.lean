import Collate.EnvFile.Assignment
import Collate.Host.Basic

namespace Collate.EnvFile

variable {m : Type → Type} [Monad m]

def expand (h : Host m) : List Piece → m String
  | [] => return ""
  | .char c :: ps => return String.singleton c ++ (← expand h ps)
  | .reference name :: ps => do
    let value ← h.value? name
    return value.getD "" ++ (← expand h ps)

/-- What ends the reading of a file before its end. No variable can be given a value that holds the
character which ends a text in memory. -/
inductive Halt
  | fault (f : Fault)
  | unstorable (key value : String)
  deriving DecidableEq, Repr

structure Outcome where
  bindings : Bindings
  halt : Option Halt

/-- Takes lines one after another. Each sees the variables of those before it. A variable that has a
text is left alone. -/
def applyLines (h : Host m) (bs : Bindings) :
    List (Except Fault (List Char)) → m Outcome
  | [] => return ⟨bs, none⟩
  | .error f :: _ => return ⟨bs, some (.fault f)⟩
  | .ok line :: lines =>
    match readLine line with
    | .error f => return ⟨bs, some (.fault f)⟩
    | .ok none => applyLines h bs lines
    | .ok (some a) => do
      let value ← expand (h.withBindings bs) a.value
      if (← (h.withBindings bs).value? a.key).isNone ∧ '\x00' ∈ value.toList then
        return ⟨bs, some (.unstorable a.key value)⟩
      else applyLines h (bs ++ [(a.key, value)]) lines

def ofBytes (h : Host m) (bytes : ByteArray) : m Outcome :=
  applyLines h [] (logicalLines bytes)

inductive LoadError
  | malformed
  | unstorable (key value : String)
  deriving DecidableEq, Repr

structure Loaded where
  bindings : Bindings
  result : Except LoadError Bool

def Outcome.toLoaded (o : Outcome) : Loaded :=
  match o.halt with
  | none => ⟨o.bindings, .ok true⟩
  | some (.fault .unreadable) => ⟨o.bindings, .ok false⟩
  | some (.fault .malformed) => ⟨o.bindings, .error .malformed⟩
  | some (.unstorable key value) => ⟨o.bindings, .error (.unstorable key value)⟩

/-- The first of some places where there is a file. One that cannot be asked ends the search. -/
def findFile? (h : Host m) : List String → m (Option String)
  | [] => return none
  | path :: paths => do
    match ← h.metadata path with
    | .ok true => return some path
    | .ok false | .error .missing => findFile? h paths
    | .error _ => return none

def load (h : Host m) (path : Option String) : m Loaded := do
  let path ← match path with
    | some path => pure (some path)
    | none => findFile? h (← h.envFilePlaces)
  match path with
  | none => return ⟨[], .ok false⟩
  | some path =>
    match ← h.readFile path with
    | .error _ => return ⟨[], .ok false⟩
    | .ok bytes => return (← ofBytes h bytes).toLoaded

end Collate.EnvFile
