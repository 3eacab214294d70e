import Collate.Text.Blank
import Collate.Text.Casing
import Collate.Value.Display
import Collate.Value.Member
import Collate.Value.Order

namespace Collate

def hasInfix : List Char → List Char → Bool
  | [], needle => needle.isEmpty
  | c :: cs, needle => needle.isPrefixOf (c :: cs) || hasInfix cs needle

def atIndex? {α : Type} (xs : List α) (i : Int64) : Option α :=
  if i < 0 then none else xs[i.toNatClampNeg]?

namespace Value

abbrev Answer := Except LookupError Value

def expectArity (method : String) (args : List Literal) (least greatest : Nat) :
    Except LookupError Unit :=
  if args.length < least ∨ greatest < args.length then
    .error (.badArguments method (.arity least greatest args.length))
  else .ok ()

def stringArgument (method : String) (args : List Literal) (position : Nat) :
    Except LookupError String :=
  match args[position]?.bind Literal.string? with
  | some s => .ok s
  | none => .error (.badArguments method (.notString position))

/-- An integral argument, which may be left out. One beyond 64 bits counts as the last integer that
they hold. -/
def integerArgument (method : String) (args : List Literal) (position : Nat) :
    Except LookupError (Option Int64) :=
  match args[position]? with
  | none => .ok none
  | some arg =>
    match arg.number?.bind Binary64.toInt? with
    | some n => .ok (some (.ofIntClamp n))
    | none => .error (.badArguments method (.notInteger position arg))

def callString (s : String) (method : String) (args : List Literal) : Answer :=
  let convert (f : String → String) : Answer := do
    expectArity method args 0 0
    return string (f s)
  let search (f : List Char → List Char → Bool) : Answer := do
    expectArity method args 1 1
    let needle ← stringArgument method args 0
    return bool (f s.toList needle.toList)
  match method with
  | "toLowerCase" => convert Casing.lower
  | "toUpperCase" => convert Casing.upper
  | "trim" => convert trim
  | "toString" => convert id
  | "includes" => search hasInfix
  | "startsWith" => search fun cs needle => needle.isPrefixOf cs
  | "endsWith" => search fun cs needle => needle.isSuffixOf cs
  | "charAt" => do
    expectArity method args 0 1
    let i ← integerArgument method args 0
    return string (((atIndex? s.toList (i.getD 0)).map String.singleton).getD "")
  | _ => .error (.noSuchMethod method .string)

def callNumber (x : Binary64) (method : String) (args : List Literal) : Answer :=
  match method with
  | "toString" => do
    expectArity method args 0 0
    return string x.display
  | "toFixed" => do
    expectArity method args 0 1
    let digits := (← integerArgument method args 0).getD 0
    if 0 ≤ digits ∧ digits ≤ 100 then return string (x.toFixed digits.toNatClampNeg)
    else .error (.badArguments method .digits)
  | "abs" => do
    expectArity method args 0 0
    return number x.abs
  | _ => .error (.noSuchMethod method .number)

def callArray (items : List Value) (method : String) (args : List Literal) : Answer :=
  match method with
  | "includes" =>
    match args with
    | [needle] => .ok (bool (items.any fun v => v == ofLiteral needle))
    | _ => .error (.badArguments method (.arity 1 1 args.length))
  | "join" => do
    expectArity method args 0 1
    let separator ← if args.isEmpty then .ok "," else stringArgument method args 0
    return string (String.intercalate separator (displayItems items))
  | "at" => do
    expectArity method args 1 1
    let i := (← integerArgument method args 0).getD 0
    let length := Int64.ofNat items.length
    return (atIndex? items (if i < 0 then length + i else i)).getD absent
  | _ => .error (.noSuchMethod method .array)

def callBool (b : Bool) (method : String) (args : List Literal) : Answer :=
  match method with
  | "toString" => do
    expectArity method args 0 0
    return string (toString b)
  | _ => .error (.noSuchMethod method .boolean)

def invoke (v : Value) (name : String) (args : List Literal) : Traced LookupError Value :=
  match v with
  | absent | null => .fail (.notInspectable name v.kind)
  | object entries =>
    match find? entries name with
    | some (method run) => run args
    | some other => .fail (.notCallable name other.kind)
    | none => .fail (.noSuchMethod name .object)
  | string s => .ofExcept (callString s name args)
  | number x => .ofExcept (callNumber x name args)
  | array items => .ofExcept (callArray items name args)
  | bool b => .ofExcept (callBool b name args)
  | method _ => .fail (.noSuchMethod name .method)

end Value

end Collate
