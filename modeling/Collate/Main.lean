import Collate.CommandLine.Run

open Collate

namespace Collate.CommandLine

def faultOf : IO.Error → ReadFault
  | .noFileOrDirectory .. => .missing
  | .inappropriateType _ code message =>
    if code = 21 ∨ code = -21 then .directory
    else if code = 20 ∨ code = -20 then .notDirectory
    else .other message
  | .invalidArgument _ code message =>
    if code = 36 ∨ code = -36 then .nameTooLong else .other message
  | e => .other (toString e)

def attempt {α : Type} (action : IO α) : IO (Except ReadFault α) := do
  return (← action.toBaseIO).mapError faultOf

partial def readAll (input : IO.FS.Stream) (read : ByteArray) : IO ByteArray := do
  let bytes ← input.read 65536
  if bytes.isEmpty then return read else readAll input (read ++ bytes)

def placesFrom (directory : String) : List String :=
  let names := (directory.splitOn "/").filter (· ≠ "")
  (List.range (names.length + 1)).reverse.map fun n =>
    String.join ((names.take n).map ("/" ++ ·)) ++ "/.env"

def startingVariables : IO (List (List UInt8)) := do
  match ← (IO.FS.readBinFile "/proc/self/environ").toBaseIO with
  | .ok bytes => return bytes.data.toList.splitOn 0
  | .error _ => return []

def variableOf (name : String) (entries : List (List UInt8)) : Variable :=
  let start := (name ++ "=").toUTF8.data.toList
  match entries.find? start.isPrefixOf with
  | none => .unset
  | some entry =>
    match String.fromUTF8? ⟨(entry.drop start.length).toArray⟩ with
    | some value => .text value
    | none => .undecodable

def systemHost : Host IO where
  readFile path := do
    if '\x00' ∈ path.toList then return .error .nulInPath
    attempt (IO.FS.readBinFile path)
  metadata path := do
    if '\x00' ∈ path.toList then return .error .nulInPath
    match ← (IO.FS.readBinFile path).toBaseIO with
    | .ok _ | .error (.permissionDenied ..) => return .ok true
    | .error e =>
      match faultOf e with
      | .directory => return .ok false
      | fault => return .error fault
  environment name := return variableOf name (← startingVariables)
  readInput := do attempt (readAll (← IO.getStdin) .empty)
  envFilePlaces := do return placesFrom (← IO.currentDir).toString

end Collate.CommandLine

def main (arguments : List String) : IO UInt32 := do
  let r ← CommandLine.execute CommandLine.systemHost arguments
  (← IO.getStdout).putStr r.output
  (← IO.getStderr).putStr r.complaint
  return UInt32.ofNat r.code
