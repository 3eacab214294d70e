import Collate.Text.VisibleTable

namespace Collate.Quoted

def isPlain (c : Char) : Bool :=
  if c.toNat < 127 then 32 ≤ c.toNat
  else [extending, unprintable, fillers].all fun rs => !CharRange.anyHas rs c

def codePoint (c : Char) : List Char :=
  '\\' :: 'u' :: '\x7b' :: Nat.toDigits 16 c.toNat ++ ['\x7d']

def encodeChar (c : Char) : List Char :=
  match c with
  | '"' => ['\\', '"']
  | '\\' => ['\\', '\\']
  | '\n' => ['\\', 'n']
  | '\r' => ['\\', 'r']
  | '\t' => ['\\', 't']
  | '\x00' => ['\\', '0']
  | c => if isPlain c then [c] else codePoint c

def encode (s : String) : String :=
  String.ofList ('"' :: s.toList.flatMap encodeChar ++ ['"'])

end Collate.Quoted
