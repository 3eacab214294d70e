import Collate.Host.Basic
import Collate.Json.Pointer

namespace Collate

structure Snapshot where
  files : List (List String × ByteArray)
  bindings : Bindings
  input : ByteArray
  undecodable : List String := []

namespace Snapshot

inductive Place
  | file (bytes : ByteArray)
  | directory (names : List String)

def file? (s : Snapshot) (names : List String) : Option ByteArray :=
  (s.files.find? fun f => f.1 = names).map Prod.snd

def hasDirectory (s : Snapshot) (names : List String) : Bool :=
  s.files.any fun f => names.isPrefixOf f.1 && f.1.length ≠ names.length

def nameLimit : Nat := 255

def pathLimit : Nat := 4096

def walkOutside : List String → Except ReadFault Place
  | [] => .ok (.directory [])
  | name :: names =>
    if name ∈ ["", ".", ".."] then walkOutside names
    else if nameLimit < name.utf8ByteSize then .error .nameTooLong
    else .error .missing

def walk (s : Snapshot) (here : List String) : List String → Except ReadFault Place
  | [] => .ok (.directory here)
  | name :: names =>
    if name = "" ∨ name = "." then s.walk here names
    else if name = ".." then
      if here = [] then walkOutside names else s.walk here.dropLast names
    else if nameLimit < name.utf8ByteSize then .error .nameTooLong
    else
      let next := here ++ [name]
      match s.file? next with
      | some bytes => if names = [] then .ok (.file bytes) else .error .notDirectory
      | none => if s.hasDirectory next then s.walk next names else .error .missing

def resolve (s : Snapshot) (path : String) : Except ReadFault Place :=
  let names := (Json.splitSlashes path.toList).map String.ofList
  if '\x00' ∈ path.toList then .error .nulInPath
  else if path = "" then .error .missing
  else if pathLimit ≤ path.utf8ByteSize then .error .nameTooLong
  else if path.toList.head? = some '/' then walkOutside names
  else s.walk [] names

def host (s : Snapshot) : Host Id where
  readFile path :=
    match s.resolve path with
    | .ok (.file bytes) => .ok bytes
    | .ok (.directory _) => .error .directory
    | .error fault => .error fault
  metadata path := (s.resolve path).map fun place => place matches .file _
  environment name :=
    if name ∈ s.undecodable then .undecodable else .ofOption (s.bindings.value? name)
  readInput := .ok s.input
  envFilePlaces := [".env"]

end Snapshot

end Collate
