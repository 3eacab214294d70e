import Collate.Host.Basic
import Collate.Json.Fault
import Collate.Toml.Basic

namespace Collate

inductive ConfigError
  | json (e : Json.SyntaxError)
  | unrecognized (origin : String) (fault : Toml.Fault) (e : Json.SyntaxError)
  | tomlFile (path : String) (fault : Toml.Fault)
  | jsonFile (path : String) (e : Json.SyntaxError)
  | inline (e : Json.SyntaxError)
  | unreadable (path : String) (fault : ReadFault)
  deriving DecidableEq, Repr

namespace ConfigError

def jsonMessage (e : Json.SyntaxError) : String :=
  "invalid sort config json: " ++ e.message

def chain : ConfigError → List String
  | json e => [jsonMessage e]
  | unrecognized origin fault e =>
    ["failed to parse sort config " ++ origin ++ ": toml error: " ++ fault.message ++
      "; json error: " ++ e.message]
  | tomlFile path fault => ["invalid sort config " ++ path ++ ": " ++ fault.message]
  | jsonFile path e => ["invalid sort config " ++ path, jsonMessage e]
  | inline e => ["failed to parse MULTISORT_CONFIG_JSON", jsonMessage e]
  | unreadable path fault => ["failed to read sort config from " ++ path, fault.message]

end ConfigError

end Collate
