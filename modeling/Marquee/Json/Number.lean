import Marquee.Decimal.Nearest
import Marquee.Json.Scan
import Marquee.Json.Value

/-!
The numbers of a JSON text. An integer of the 64-bit range stays one. Any other number becomes a
double: the digits that fit 64 bits are scaled once by a power of ten, in the double's own
arithmetic.
-/

namespace Marquee.Json.Reader

def powersOfTen : Array Float :=
  ((List.range 309).map fun (n : Nat) => Float.ofBits (Decimal.nearest 1 n)).toArray

/-- `value * 10 ^ exponent`, in at most `steps` steps down; `none` is beyond the largest double. -/
def scale (value : Float) (exponent : Int) : Nat → Option Float
  | 0 => some value
  | steps + 1 =>
    match powersOfTen[exponent.natAbs]? with
    | some power =>
      if 0 ≤ exponent then
        let scaled := value * power
        if scaled.isInf then none else some scaled
      else
        some (value / power)
    | none =>
      if value == 0 then some value
      else if 0 ≤ exponent then none
      else scale (value / 1e308) (exponent + 308) steps

def ofDecimal? (negative : Bool) (significand : Nat) (exponent : Int) : Option Number :=
  (scale significand.toUInt64.toFloat exponent 4).map fun value =>
    .float (if negative then -value else value).toBits

def ofInteger (negative : Bool) (significand : Nat) : Number :=
  if !negative then .int significand
  else if significand = 0 ∨ 0x8000000000000000 < significand then
    .float (-significand.toUInt64.toFloat).toBits
  else .int (-significand)

def digitValue (c : Char) : Nat := c.toNat - '0'.toNat

def takes (significand : Nat) (c : Char) : Bool :=
  significand * 10 + digitValue c < 0x10000000000000000

/-- Digits before the point: those that fit are taken, and from the first other one they are
counted. -/
def wholeDigits (significand dropped : Nat) : List Char → Nat × Nat × List Char
  | [] => (significand, dropped, [])
  | c :: rest =>
    if c.isDigit then
      if dropped = 0 && takes significand c then
        wholeDigits (significand * 10 + digitValue c) 0 rest
      else
        wholeDigits significand (dropped + 1) rest
    else
      (significand, dropped, c :: rest)

/-- Digits after the point: those that fit are taken and counted, and the others are passed over. -/
def fractionDigits (significand places : Nat) : List Char → Nat × Nat × List Char
  | [] => (significand, places, [])
  | c :: rest =>
    if c.isDigit then
      if takes significand c then
        fractionDigits (significand * 10 + digitValue c) (places + 1) rest
      else
        (significand, places, rest.dropWhile Char.isDigit)
    else
      (significand, places, c :: rest)

def exponentDigits (exponent : Nat) : List Char → Option Nat × List Char
  | [] => (some exponent, [])
  | c :: rest =>
    if c.isDigit then
      if exponent * 10 + digitValue c < 0x80000000 then
        exponentDigits (exponent * 10 + digitValue c) rest
      else
        (none, rest)
    else
      (some exponent, c :: rest)

def decimal (negative : Bool) (significand : Nat) (exponent : Int) (rest : List Char) :
    Except Fault (Number × List Char) :=
  match ofDecimal? negative significand exponent with
  | some found => .ok (found, rest)
  | none => .error (.here .numberOutOfRange rest)

def exponentPart (negative : Bool) (significand : Nat) (exponent : Int) (text : List Char) :
    Except Fault (Number × List Char) :=
  let (down, digits) := match text with
    | '+' :: rest => (false, rest)
    | '-' :: rest => (true, rest)
    | rest => (false, rest)
  match digits with
  | [] => .error (.here .endInValue [])
  | c :: _ =>
    if c.isDigit then
      match exponentDigits 0 digits with
      | (some written, rest) =>
        decimal negative significand (if down then exponent - written else exponent + written) rest
      | (none, rest) =>
        if significand ≠ 0 ∧ ¬ down then
          .error (.here .numberOutOfRange rest)
        else
          .ok (.float (if negative then -0.0 else 0.0 : Float).toBits, rest.dropWhile Char.isDigit)
    else
      .error (.past .invalidNumber digits)

def afterDigits (negative : Bool) (significand : Nat) (exponent : Int) (text : List Char) :
    Except Fault (Number × List Char) :=
  match text with
  | 'e' :: rest => exponentPart negative significand exponent rest
  | 'E' :: rest => exponentPart negative significand exponent rest
  | rest => decimal negative significand exponent rest

def fractionPart (negative : Bool) (significand : Nat) (dropped : Nat) (text : List Char) :
    Except Fault (Number × List Char) :=
  match text with
  | [] => .error (.past .endInValue [])
  | c :: _ =>
    if c.isDigit then
      let (significand, places, rest) := fractionDigits significand 0 text
      afterDigits negative significand ((dropped : Int) - places) rest
    else
      .error (.past .invalidNumber text)

/-- The number after its digits before the point, of which `dropped` did not fit. -/
def afterWhole (negative : Bool) (significand dropped : Nat) (text : List Char) :
    Except Fault (Number × List Char) :=
  match text with
  | '.' :: rest => fractionPart negative significand dropped rest
  | 'e' :: rest => exponentPart negative significand dropped rest
  | 'E' :: rest => exponentPart negative significand dropped rest
  | rest =>
    if dropped = 0 then .ok (ofInteger negative significand, rest)
    else decimal negative significand dropped rest

/-- The number whose sign has been read. A leading zero stands alone. -/
def unsigned (negative : Bool) (text : List Char) : Except Fault (Number × List Char) :=
  match text with
  | [] => .error (.here .endInValue [])
  | c :: rest =>
    if c = '0' then
      match rest with
      | d :: _ =>
        if d.isDigit then .error (.past .invalidNumber rest) else afterWhole negative 0 0 rest
      | [] => afterWhole negative 0 0 []
    else if c.isDigit then
      let (significand, dropped, rest) := wholeDigits 0 0 text
      afterWhole negative significand dropped rest
    else
      .error (.past .invalidNumber text)

end Marquee.Json.Reader
