import Collate.CommandLine.Arguments
import Collate.Config.Loading
import Collate.Document
import Collate.EnvFile.Loading

namespace Collate.CommandLine

inductive RunError
  | envFile
  | unstorable (key value : String)
  | config (e : ConfigError)
  | input (path : String) (fault : ReadFault)
  | standardInput (fault : ReadFault)
  | document (e : DocumentError)
  deriving DecidableEq, Repr

def RunError.chain : RunError → List String
  | envFile => ["failed to load env file"]
  | unstorable key value =>
    ["failed to set environment variable `" ++ Quoted.encode key ++ "` to `" ++
      Quoted.encode value ++ "`: " ++ ReadFault.message .nulInPath]
  | config e => e.chain
  | input path fault => ["failed to read " ++ path, fault.message]
  | standardInput fault => ["failed to read stdin", fault.message]
  | document e => e.chain

/-- A variable that cannot be set crashes the program. -/
def RunError.code : RunError → Nat
  | unstorable .. => 101
  | _ => 1

def Options.applyTo (o : Options) (c : Config) : Config :=
  let c := c.withCriteria o.criteria
  { c with pointer := o.pointer <|> c.pointer, pretty := c.pretty || o.pretty }

def report : List String → String
  | [] => ""
  | [message] => "Error: " ++ message ++ "\n"
  | [message, cause] => "Error: " ++ message ++ "\n\nCaused by:\n    " ++ cause ++ "\n"
  | message :: causes =>
    let line (c : String × Nat) : String := "    " ++ toString c.2 ++ ": " ++ c.1 ++ "\n"
    "Error: " ++ message ++ "\n\nCaused by:\n" ++ String.join (causes.zipIdx.map line)

variable {m : Type → Type} [Monad m]

def loadConfig (h : Host m) (path : Option String) : m (Except ConfigError Config) := do
  match path with
  | some path => Config.ofFile h path
  | none => return (← Config.load h).map Prod.fst

def readInput (h : Host m) (path : Option String) : m (Except RunError String) := do
  match path.filter (· ≠ "-") with
  | some path => return (← h.readText path).mapError (.input path)
  | none => return (← h.readInputText).mapError .standardInput

def run (h : Host m) (o : Options) : m (Except RunError String) := do
  let loaded ← EnvFile.load h o.envFile
  match loaded.result with
  | .error (.unstorable key value) => return .error (.unstorable key value)
  | .error .malformed => return .error .envFile
  | .ok _ =>
    match ← loadConfig (h.withBindings loaded.bindings) o.config with
    | .error e => return .error (.config e)
    | .ok c =>
      match ← readInput h o.input with
      | .error e => return .error e
      | .ok text => return (sortText (o.applyTo c) text).mapError .document

def usageText : String := "Usage: multisort [OPTIONS] [INPUT]\n"

structure Result where
  code : Nat
  output : String
  error : Option RunError

def Result.complaint (r : Result) : String :=
  match r.error with
  | some e => if e.code = 1 then report e.chain else String.join e.chain ++ "\n"
  | none => if r.code = 0 then "" else "error: unexpected argument\n\n" ++ usageText

def versionText : String := "multisort 0.1.0\n"

def helpText : String :=
  "Sort a JSON array by one or more criteria\n\n" ++
  usageText ++ "\n" ++
  "Arguments:\n" ++
  "  [INPUT]  JSON input file; reads stdin when omitted or `-`\n\n" ++
  "Options:\n" ++
  "  -b, --by <CRITERION>       Sort criterion, highest priority first. Repeat for tie-breakers. " ++
    "Numbers sort the items themselves (negative = descending)\n" ++
  "      --config <CONFIG>      Config file (TOML or JSON); overrides $MULTISORT_CONFIG_PATH\n" ++
  "      --pointer <POINTER>    JSON pointer to the array to sort, e.g. `/data/items`\n" ++
  "      --pretty               Pretty-print the output\n" ++
  "      --env-file <ENV_FILE>  Env file to load before reading configuration\n" ++
  "  -h, --help                 Print help\n" ++
  "  -V, --version              Print version\n"

def execute (h : Host m) (arguments : List String) : m Result := do
  match commandOf .empty arguments with
  | .help => return ⟨0, helpText, none⟩
  | .version => return ⟨0, versionText, none⟩
  | .misuse => return ⟨2, "", none⟩
  | .run o =>
    match ← run h o with
    | .ok output => return ⟨0, output ++ "\n", none⟩
    | .error e => return ⟨e.code, "", some e⟩

end Collate.CommandLine
