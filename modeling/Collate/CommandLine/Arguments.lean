namespace Collate.CommandLine

structure Options where
  input : Option String
  criteria : List String
  config : Option String
  pointer : Option String
  pretty : Bool
  envFile : Option String
  deriving DecidableEq, Repr

def Options.empty : Options := ⟨none, [], none, none, false, none⟩

inductive Command
  | run (options : Options)
  | help
  | version
  | misuse
  deriving DecidableEq, Repr

inductive Valued
  | criterion
  | config
  | pointer
  | envFile
  deriving DecidableEq, Repr

namespace Valued

def ofName? : String → Option Valued
  | "by" => some criterion
  | "config" => some config
  | "pointer" => some pointer
  | "env-file" => some envFile
  | _ => none

def admits (option : Valued) (value : String) : Bool :=
  option = criterion || value = "-" || value.toList.head? ≠ some '-'

end Valued

def Options.withInput? (o : Options) (path : String) : Option Options :=
  if o.input = none ∧ path ≠ "" then some { o with input := path } else none

def Options.with? (o : Options) (option : Valued) (value : String) : Option Options :=
  match option with
  | .criterion => some { o with criteria := o.criteria ++ [value] }
  | .config => if o.config = none ∧ value ≠ "" then some { o with config := value } else none
  | .pointer => if o.pointer = none then some { o with pointer := value } else none
  | .envFile => if o.envFile = none ∧ value ≠ "" then some { o with envFile := value } else none

def Options.withPretty? (o : Options) : Option Options :=
  if o.pretty then none else some { o with pretty := true }

inductive Argument
  | flag (name : String)
  | valued (option : Valued) (attached : Option String)
  | word (text : String)
  | endOfOptions
  | unknown
  deriving DecidableEq, Repr

def Argument.ofText (text : String) : Argument :=
  match text.toList with
  | ['-', '-'] => .endOfOptions
  | '-' :: '-' :: cs =>
    let name := String.ofList (cs.takeWhile (· ≠ '='))
    match Valued.ofName? name, cs.dropWhile (· ≠ '=') with
    | some option, _ :: value => .valued option (String.ofList value)
    | some option, [] => .valued option none
    | none, [] => if name ∈ ["pretty", "help", "version"] then .flag name else .unknown
    | none, _ :: _ => .unknown
  | ['-', 'b'] => .valued .criterion none
  | '-' :: 'b' :: '=' :: value => .valued .criterion (String.ofList value)
  | '-' :: 'b' :: value => .valued .criterion (String.ofList value)
  | '-' :: 'h' :: _ => .flag "help"
  | '-' :: 'V' :: _ => .flag "version"
  | '-' :: _ :: _ => .unknown
  | _ => .word text

def commandOfWords (o : Options) : List String → Command
  | [] => .run o
  | word :: words =>
    match o.withInput? word with
    | some o => commandOfWords o words
    | none => .misuse

def commandOf (o : Options) : List String → Command
  | [] => .run o
  | text :: rest =>
    match Argument.ofText text with
    | .endOfOptions => commandOfWords o rest
    | .flag "help" => .help
    | .flag "version" => .version
    | .flag _ =>
      match o.withPretty? with
      | some o => commandOf o rest
      | none => .misuse
    | .valued option (some value) =>
      match o.with? option value with
      | some o => commandOf o rest
      | none => .misuse
    | .valued option none =>
      match rest with
      | [] => .misuse
      | value :: rest =>
        match if option.admits value then o.with? option value else none with
        | some o => commandOf o rest
        | none => .misuse
    | .word text =>
      match o.withInput? text with
      | some o => commandOf o rest
      | none => .misuse
    | .unknown => .misuse

end Collate.CommandLine
