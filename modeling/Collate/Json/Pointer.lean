import Collate.Json.Basic
import Collate.Text.Digits

namespace Collate.Json

abbrev Pointer := List String

def unescapeName : List Char → List Char
  | '~' :: '1' :: cs => '/' :: unescapeName cs
  | '~' :: '0' :: cs => '~' :: unescapeName cs
  | c :: cs => c :: unescapeName cs
  | [] => []

def splitSlashes : List Char → List (List Char)
  | [] => [[]]
  | c :: cs =>
    match splitSlashes cs with
    | [] => [[c]]
    | name :: names => if c = '/' then [] :: name :: names else (c :: name) :: names

def pointer? (text : String) : Option Pointer :=
  match text.toList with
  | [] => some []
  | '/' :: cs => some ((splitSlashes cs).map fun name => String.ofList (unescapeName name))
  | _ => none

def pointerIndex? (name : String) : Option Nat :=
  match name.toList with
  | '0' :: _ :: _ => none
  | cs => digits? cs

def child? (v : Json) (name : String) : Option Json :=
  match v with
  | object entries => lookup? entries name
  | array items => (pointerIndex? name).bind fun i => items[i]?
  | _ => none

def at? (v : Json) : Pointer → Option Json
  | [] => some v
  | name :: names => (v.child? name).bind (·.at? names)

def modifyEntry (key : String) (f : Json → Json) : List (String × Json) → List (String × Json)
  | [] => []
  | e :: es => if e.1 = key then (e.1, f e.2) :: es else e :: modifyEntry key f es

def modifyChild (name : String) (f : Json → Json) : Json → Json
  | object entries => object (modifyEntry name f entries)
  | array items =>
    match pointerIndex? name with
    | some i => array (items.modify i f)
    | none => array items
  | v => v

def replaceAt (w : Json) : Pointer → Json → Json
  | [], _ => w
  | name :: names, v => v.modifyChild name (replaceAt w names)

end Collate.Json
