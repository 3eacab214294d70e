import Collate.Inspect
import Collate.Path.Parser

namespace Collate

def Step.apply {α : Type} [Inspect α] (item : α) (step : Step) : Traced PathError Value :=
  match step with
  | .member name => (Traced.ofExcept (Inspect.member item name)).mapError (.lookup step.display)
  | .invoke name args => (Inspect.invoke item name args).mapError (.lookup step.display)
  | .invalid fault => .fail (.malformed fault)

namespace Path

/-- Takes the steps one after another. A missing value ends the walk: the steps behind it are not
looked at. -/
def walk (v : Value) : List Step → Traced PathError Value
  | [] => pure (if v.isMissing then .absent else v)
  | step :: steps =>
    if v.isMissing then pure .absent else do walk (← step.apply v) steps

def evaluate {α : Type} [Inspect α] (item : α) (p : Path) : Traced PathError Value :=
  match p.steps with
  | [] => pure (Inspect.view item)
  | step :: steps => do walk (← step.apply item) steps

end Path

end Collate
