import Collate.Number.Reading
import Collate.Sort.Comparator
import Collate.Text.Blank

namespace Collate

structure Config where
  criteria : List Json
  pointer : Option String
  pretty : Bool

namespace Config

def default : Config := ⟨[], none, false⟩

/-- A finite numeral, white space around it aside, is a signed criterion; any other text is a path
as it stands. -/
def criterionOfText (text : String) : Json :=
  match Binary64.ofText? (trim text) with
  | some x => if x.isFinite then .number (.real x) else .string text
  | none => .string text

def withCriteria (c : Config) (texts : List String) : Config :=
  if texts.isEmpty then c else { c with criteria := texts.map criterionOfText }

def comparator (c : Config) : Except SortError (Comparator Json) :=
  Comparator.ofJson (if c.criteria.isEmpty then .string "" else .array c.criteria)

def pointerText (c : Config) : String :=
  c.pointer.getD ""

end Config

inductive Setting
  | criteria
  | pointer
  | pretty
  deriving DecidableEq, Repr

namespace Setting

def all : List Setting := [criteria, pointer, pretty]

def name : Setting → String
  | criteria => "criteria"
  | pointer => "pointer"
  | pretty => "pretty"

def ofName? (s : String) : Option Setting :=
  all.find? fun x => x.name = s

end Setting

end Collate
