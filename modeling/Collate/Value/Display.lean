import Collate.Value.Basic

namespace Collate.Value

mutual

def display : Value → String
  | absent => "undefined"
  | null => "null"
  | bool b => toString b
  | number x => x.display
  | string s => s
  | array vs => String.intercalate "," (displayItems vs)
  | object _ => "[object Object]"
  | method _ => "[method]"
termination_by structural v => v

def displayItems : List Value → List String
  | [] => []
  | v :: vs => (if v.isMissing then "" else v.display) :: displayItems vs

end

end Collate.Value
