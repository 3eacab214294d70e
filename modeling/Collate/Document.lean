import Collate.Config.Basic
import Collate.Json.Inspect
import Collate.Json.Parser
import Collate.Json.Pointer
import Collate.Json.Printer

namespace Collate

inductive DocumentError
  | input (e : Json.SyntaxError)
  | criteria (e : SortError)
  | pointer (text : String)
  | notArray (pointer : String) (found : Json.Kind)
  | sort (e : SortError)
  deriving DecidableEq, Repr

def DocumentError.chain : DocumentError → List String
  | input e => ["input is not valid JSON", e.message]
  | criteria e => "failed to compile sort criteria" :: e.chain
  | pointer text => ["pointer `" ++ text ++ "` does not match the input"]
  | notArray text found =>
    ["expected an array at `" ++ text ++ "`, found " ++ found.withArticle]
  | sort e => "sort failed" :: e.chain

def arrayAt (document : Json) (pointer : String) :
    Except DocumentError (Json.Pointer × List Json) :=
  match Json.pointer? pointer with
  | none => .error (.pointer pointer)
  | some p =>
    match document.at? p with
    | none => .error (.pointer pointer)
    | some (.array items) => .ok (p, items)
    | some other => .error (.notArray pointer other.kind)

/-- Sorts an array inside of a document: the number of its items, and the document after the
attempt. The array is sorted where it stands, and the document has what is then left of it, also
after a failure. -/
def sortDocument (c : Config) (document : Json) : Except DocumentError Nat × Json :=
  match c.comparator with
  | .error e => (.error (.criteria e), document)
  | .ok comparator =>
    match arrayAt document c.pointerText with
    | .error e => (.error e, document)
    | .ok (p, items) =>
      let (outcome, left) := comparator.sortInPlace.run.run ⟨items.toArray, []⟩
      ((outcome.mapError .sort).map fun _ => left.items.size,
        Json.replaceAt (.array left.items.toList) p document)

def sortText (c : Config) (input : String) : Except DocumentError String := do
  let document ← (Json.parse input).mapError .input
  match sortDocument c document with
  | (.ok _, sorted) => return sorted.render c.pretty
  | (.error e, _) => throw e

end Collate
