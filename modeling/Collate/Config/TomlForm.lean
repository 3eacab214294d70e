import Collate.Config.Basic
import Collate.Toml.Parser

namespace Collate.Config

def withEntry? (c : Config) (key : String) (v : Toml) : Option Config :=
  match Setting.ofName? key, v with
  | some .criteria, .array items =>
    (Toml.toJsons? items).map fun vs => { c with criteria := vs }
  | some .pointer, .string s => some { c with pointer := some s }
  | some .pretty, .boolean b => some { c with pretty := b }
  | some _, _ => none
  | none, v => if v.isReadable then some c else none

def ofTomlText (text : String) : Except Toml.Fault Config := do
  let entries ← Toml.parse text
  Toml.required (entries.foldlM (fun c (key, v) => c.withEntry? key v) default)

end Collate.Config
