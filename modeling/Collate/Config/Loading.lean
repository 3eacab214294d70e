import Collate.Config.Error
import Collate.Config.JsonForm
import Collate.Config.TomlForm

namespace Collate.Config

def ofJson (text : String) : Except ConfigError Config :=
  (ofJsonText text).mapError .json

def ofText (text origin : String) : Except ConfigError Config :=
  match ofTomlText text with
  | .ok c => .ok c
  | .error fault => (ofJsonText text).mapError (.unrecognized origin fault)

def extension? (path : String) : Option String :=
  let name := (path.toList.reverse.takeWhile (· ≠ '/')).reverse
  let after := (name.reverse.takeWhile (· ≠ '.')).reverse
  if after.length + 1 < name.length then some (String.ofList after) else none

def ofFileText (path text : String) : Except ConfigError Config :=
  match extension? path with
  | some "json" => (ofJsonText text).mapError (.jsonFile path)
  | some "toml" | some "tml" => (ofTomlText text).mapError (.tomlFile path)
  | _ => ofText text path

def pathVariable : String := "MULTISORT_CONFIG_PATH"

def jsonVariable : String := "MULTISORT_CONFIG_JSON"

def defaultFiles : List String :=
  ["./multisort.toml", "./multisort.json", "./config/multisort.toml", "./config/multisort.json"]

inductive Source
  | defaults
  | variablePath (path : String)
  | variableText
  | file (path : String)
  deriving DecidableEq, Repr

variable {m : Type → Type} [Monad m]

def ofFile (h : Host m) (path : String) : m (Except ConfigError Config) := do
  match ← h.readText path with
  | .ok text => return ofFileText path text
  | .error fault => return .error (.unreadable path fault)

def nonBlank? (h : Host m) (name : String) : m (Option String) := do
  return (← h.value? name).filter fun value => value.toList.any fun c => !isBlank c

/-- The settings of the first source that there is: a file that a variable names, the text of a
variable, a default file, or else the defaults. A source that is at fault is not passed over. -/
def load (h : Host m) : m (Except ConfigError (Config × Source)) := do
  if let some path ← nonBlank? h pathVariable then
    return (← ofFile h path).map (·, .variablePath path)
  if let some text ← nonBlank? h jsonVariable then
    return ((ofJsonText text).mapError .inline).map (·, .variableText)
  if let some path ← defaultFiles.findM? h.isFile then
    return (← ofFile h path).map (·, .file path)
  return .ok (default, .defaults)

end Collate.Config
