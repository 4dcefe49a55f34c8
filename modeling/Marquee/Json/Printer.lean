import Marquee.Json.Value

/-!
Writing a JSON value without blanks. Members keep their order. In a string only the quotation
mark, the backslash and the controls below the space are escaped, so a written text is a single
line.
-/

namespace Marquee.Json

def hexDigit (value : Nat) : Char := (Nat.digitChar value)

def escaped (c : Char) : List Char :=
  if c = '"' then ['\\', '"']
  else if c = '\\' then ['\\', '\\']
  else if c = '\x08' then ['\\', 'b']
  else if c = '\x0c' then ['\\', 'f']
  else if c = '\n' then ['\\', 'n']
  else if c = '\r' then ['\\', 'r']
  else if c = '\t' then ['\\', 't']
  else if c.toNat < 0x20 then
    ['\\', 'u', '0', '0', hexDigit (c.toNat / 16), hexDigit (c.toNat % 16)]
  else [c]

def writeString (text : String) : List Char :=
  '"' :: (text.toList.flatMap escaped ++ ['"'])

mutual

def write : Json → List Char
  | .null => ['n', 'u', 'l', 'l']
  | .bool true => ['t', 'r', 'u', 'e']
  | .bool false => ['f', 'a', 'l', 's', 'e']
  | .number found => found.text.toList
  | .string text => writeString text
  | .array found => '[' :: (writeItems found ++ [']'])
  | .object found => '\x7b' :: (writeMembers found ++ ['\x7d'])

def writeItems : List Json → List Char
  | [] => []
  | [item] => write item
  | item :: other :: rest => write item ++ ',' :: writeItems (other :: rest)

def writeMembers : List (String × Json) → List Char
  | [] => []
  | [(key, item)] => writeString key ++ ':' :: write item
  | (key, item) :: other :: rest =>
    writeString key ++ ':' :: (write item ++ ',' :: writeMembers (other :: rest))

end

def text (value : Json) : String := String.ofList value.write

end Marquee.Json
