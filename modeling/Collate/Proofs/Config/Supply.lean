import Collate.Config.Loading
import Collate.Proofs.Except
import Mathlib.Data.List.TakeWhile

namespace Collate.Config

inductive Supply
  | file (path : String) (contents : Except ReadFault String)
  | text (json : String)
  | defaults

def Supply.read : Supply → Except ConfigError Config
  | .file path (.ok contents) => ofFileText path contents
  | .file path (.error fault) => .error (.unreadable path fault)
  | .text json => (ofJsonText json).mapError .inline
  | .defaults => .ok default

section Extension

variable {path ext text : String} {c : Config}

end Extension

end Collate.Config
