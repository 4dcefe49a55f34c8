/-!
Bytes as text, six bits a character, filled up with equals signs to a multiple of four characters.
-/

namespace Marquee.Text.Base64

def digit (value : Nat) : Char :=
  if value < 26 then Char.ofNat (65 + value)
  else if value < 52 then Char.ofNat (97 + (value - 26))
  else if value < 62 then Char.ofNat (48 + (value - 52))
  else if value = 62 then '+'
  else '/'

def digit? (c : Char) : Option Nat :=
  if 'A' ≤ c ∧ c ≤ 'Z' then some (c.toNat - 65)
  else if 'a' ≤ c ∧ c ≤ 'z' then some (c.toNat - 97 + 26)
  else if '0' ≤ c ∧ c ≤ '9' then some (c.toNat - 48 + 52)
  else if c = '+' then some 62
  else if c = '/' then some 63
  else none

def encode : List UInt8 → List Char
  | a :: b :: c :: rest =>
    let bits := (a.toNat * 256 + b.toNat) * 256 + c.toNat
    digit (bits / 64 / 64 / 64) :: digit (bits / 64 / 64 % 64) :: digit (bits / 64 % 64) ::
      digit (bits % 64) :: encode rest
  | [a, b] =>
    let bits := (a.toNat * 256 + b.toNat) * 4
    [digit (bits / 64 / 64), digit (bits / 64 % 64), digit (bits % 64), '=']
  | [a] =>
    let bits := a.toNat * 16
    [digit (bits / 64), digit (bits % 64), '=', '=']
  | [] => []

def decodeInto (found : ByteArray) : List Char → Option ByteArray
  | [] => some found
  | [a, b, '=', '='] => do
    let bits := (← digit? a) * 64 + (← digit? b)
    some (found.push (bits / 16).toUInt8)
  | [a, b, c, '='] => do
    let bits := ((← digit? a) * 64 + (← digit? b)) * 64 + (← digit? c)
    some ((found.push (bits / 4 / 256).toUInt8).push (bits / 4 % 256).toUInt8)
  | a :: b :: c :: d :: rest => do
    let bits := (((← digit? a) * 64 + (← digit? b)) * 64 + (← digit? c)) * 64 + (← digit? d)
    decodeInto (((found.push (bits / 256 / 256).toUInt8).push (bits / 256 % 256).toUInt8).push
      (bits % 256).toUInt8) rest
  | _ => none

def decode (text : List Char) : Option ByteArray := decodeInto .empty text

end Marquee.Text.Base64
