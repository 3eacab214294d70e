namespace Collate

inductive Kind
  | absent
  | null
  | boolean
  | number
  | string
  | array
  | object
  | method
  deriving DecidableEq, Repr

def Kind.name : Kind → String
  | absent => "absent value"
  | null => "null"
  | boolean => "boolean"
  | number => "number"
  | string => "string"
  | array => "array"
  | object => "object"
  | method => "method"

end Collate
