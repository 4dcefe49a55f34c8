import Marquee.Decimal.Nearest
import Marquee.Toml.Value

/-!
The words of a TOML document: blanks, comments, strings, numbers and dates. Each scanner takes the
characters that are left and gives what it read with the characters after it, or `none` where they
do not begin with such a word.
-/

namespace Marquee.Toml.Reader

/-- The characters that may stand in comments and strings without an escape. -/
def isText (c : Char) : Bool := c == '\t' || (0x20 ≤ c.toNat && c.toNat != 0x7f)

def isBlank (c : Char) : Bool := c == ' ' || c == '\t'

def skipBlanks (text : List Char) : List Char := text.dropWhile isBlank

def lineEnd? : List Char → Option (List Char)
  | '\n' :: rest => some rest
  | '\r' :: '\n' :: rest => some rest
  | _ => none

def skipComment (text : List Char) : List Char :=
  match text with
  | '#' :: rest => rest.dropWhile isText
  | _ => text

def lineRest? (text : List Char) : Option (List Char) :=
  match skipComment (skipBlanks text) with
  | [] => some []
  | rest => lineEnd? rest

def skipLines : Nat → List Char → Option (List Char)
  | 0, text => some text
  | fuel + 1, text =>
    match skipBlanks text with
    | '#' :: rest => (lineEnd? (rest.dropWhile isText)).bind (skipLines fuel)
    | '\n' :: rest => skipLines fuel rest
    | '\r' :: '\n' :: rest => skipLines fuel rest
    | '\r' :: _ => none
    | rest => some rest

def hexValue? (c : Char) : Option Nat :=
  if '0' ≤ c ∧ c ≤ '9' then some (c.toNat - '0'.toNat)
  else if 'a' ≤ c ∧ c ≤ 'f' then some (c.toNat - 'a'.toNat + 10)
  else if 'A' ≤ c ∧ c ≤ 'F' then some (c.toNat - 'A'.toNat + 10)
  else none

def hexNumber (value : Nat) : List Char → Option Nat
  | [] => some value
  | c :: rest =>
    match hexValue? c with
    | some digit => hexNumber (value * 16 + digit) rest
    | none => none

def numberedChar? (count : Nat) (text : List Char) : Option Char := do
  let digits := text.take count
  let number ← hexNumber 0 digits
  if digits.length = count ∧ number.isValidChar then some (Char.ofNat number) else none

def escape? : List Char → Option (Char × Nat)
  | 'b' :: _ => some ('\x08', 1)
  | 'f' :: _ => some ('\x0c', 1)
  | 'n' :: _ => some ('\n', 1)
  | 'r' :: _ => some ('\r', 1)
  | 't' :: _ => some ('\t', 1)
  | '"' :: _ => some ('"', 1)
  | '\\' :: _ => some ('\\', 1)
  | 'u' :: rest => (numberedChar? 4 rest).map (·, 5)
  | 'U' :: rest => (numberedChar? 8 rest).map (·, 9)
  | _ => none

/-- The characters of a string in double quotes, up to its end; `used` of those to come belong to an
escape. -/
def basicString (found : List Char) : Nat → List Char → Option (String × List Char)
  | _, [] => none
  | used + 1, _ :: rest => basicString found used rest
  | 0, c :: rest =>
    if c = '"' then some (String.ofList found.reverse, rest)
    else if c = '\\' then
      match escape? rest with
      | some (escaped, used) => basicString (escaped :: found) used rest
      | none => none
    else if isText c then basicString (c :: found) 0 rest
    else none

def literalString (found : List Char) : List Char → Option (String × List Char)
  | [] => none
  | c :: rest =>
    if c = '\'' then some (String.ofList found.reverse, rest)
    else if isText c then literalString (c :: found) rest
    else none

/-- The end of a string in triple quotes: of a longer run, up to two quotes still belong to it. -/
def tripleEnd? (quote : Char) (text : List Char) : Option (Nat × List Char) :=
  let run := (text.takeWhile (· == quote)).length
  if run < 3 then none
  else
    let kept := min (run - 3) 2
    some (kept, text.drop (kept + 3))

def hidden? (text : List Char) : Option Nat :=
  let rest := skipBlanks text
  if (lineEnd? rest).isSome then
    some (text.length - (rest.dropWhile fun c => isBlank c || c == '\n' || c == '\r').length)
  else
    none

/-- Whether every carriage return of a run of blanks and line ends is followed by a line feed. -/
def wholeLines : List Char → Bool
  | '\r' :: '\n' :: rest => wholeLines rest
  | '\r' :: _ => false
  | _ :: rest => wholeLines rest
  | [] => true

/-- The characters of a string in triple quotes, up to its end; `used` of those to come belong to an
escape or to an end of line. A line end is a line feed, however it is written. -/
def tripleString (quote : Char) (found : List Char) : Nat → List Char → Option (String × List Char)
  | _, [] => none
  | used + 1, _ :: rest => tripleString quote found used rest
  | 0, c :: rest =>
    if c = quote then
      match tripleEnd? quote (c :: rest) with
      | some (kept, after) =>
        some (String.ofList (List.replicate kept quote ++ found).reverse, after)
      | none => tripleString quote (c :: found) 0 rest
    else if c = '\\' ∧ quote = '"' then
      match hidden? rest with
      | some used =>
        if wholeLines (rest.take used) then tripleString quote found used rest else none
      | none =>
        match escape? rest with
        | some (escaped, used) => tripleString quote (escaped :: found) used rest
        | none => none
    else if c = '\n' then tripleString quote (c :: found) 0 rest
    else if c = '\r' then
      if rest.head? = some '\n' then tripleString quote ('\n' :: found) 1 rest else none
    else if isText c then tripleString quote (c :: found) 0 rest
    else none

def skipFirstLineEnd (text : List Char) : List Char := (lineEnd? text).getD text

def lineString? : List Char → Option (String × List Char)
  | '"' :: rest => basicString [] 0 rest
  | '\'' :: rest => literalString [] rest
  | _ => none

def anyString? : List Char → Option (String × List Char)
  | '"' :: '"' :: '"' :: rest => tripleString '"' [] 0 (skipFirstLineEnd rest)
  | '\'' :: '\'' :: '\'' :: rest => tripleString '\'' [] 0 (skipFirstLineEnd rest)
  | text => lineString? text

/-- The digits of a run after its first one. A single underscore may stand between two digits. -/
def moreDigits (isDigit : Char → Bool) : List Char → Option (List Char × List Char)
  | [] => some ([], [])
  | ['_'] => none
  | '_' :: c :: rest =>
    if isDigit c then (moreDigits isDigit rest).map fun more => (c :: more.1, more.2) else none
  | c :: rest =>
    if isDigit c then (moreDigits isDigit rest).map fun more => (c :: more.1, more.2)
    else some ([], c :: rest)

def digits? (isDigit : Char → Bool) : List Char → Option (List Char × List Char)
  | [] => none
  | c :: rest =>
    if isDigit c then (moreDigits isDigit rest).map fun more => (c :: more.1, more.2) else none

def wholeDigits? : List Char → Option (List Char × List Char)
  | '0' :: rest => some (['0'], rest)
  | text => digits? Char.isDigit text

def sign : List Char → Bool × List Char
  | '-' :: rest => (true, rest)
  | '+' :: rest => (false, rest)
  | text => (false, text)

def digitsValue (base : Nat) (digits : List Char) : Nat :=
  digits.foldl (fun value c => value * base + (hexValue? c).getD 0) 0

def integerOf? (negative : Bool) (magnitude : Nat) : Option Toml :=
  let value : Int := if negative then -magnitude else magnitude
  if -0x8000000000000000 ≤ value ∧ value < 0x8000000000000000 then some (.integer value) else none

def isHexDigit (c : Char) : Bool := (hexValue? c).isSome

def isOctalDigit (c : Char) : Bool := '0' ≤ c && c ≤ '7'

def isBinaryDigit (c : Char) : Bool := c == '0' || c == '1'

def integer? (text : List Char) : Option (Toml × List Char) :=
  let inBase (base : Nat) (isDigit : Char → Bool) (rest : List Char) :
      Option (Toml × List Char) := do
    let (digits, rest) ← digits? isDigit rest
    let value ← integerOf? false (digitsValue base digits)
    some (value, rest)
  match text with
  | '0' :: 'x' :: rest => inBase 16 isHexDigit rest
  | '0' :: 'o' :: rest => inBase 8 isOctalDigit rest
  | '0' :: 'b' :: rest => inBase 2 isBinaryDigit rest
  | _ => do
    let (negative, rest) := sign text
    let (digits, rest) ← wholeDigits? rest
    let value ← integerOf? negative (digitsValue 10 digits)
    some (value, rest)

def exponent? : List Char → Option (Int × List Char)
  | c :: rest =>
    if c = 'e' ∨ c = 'E' then do
      let (negative, rest) := sign rest
      let (digits, rest) ← digits? Char.isDigit rest
      let value : Int := digitsValue 10 digits
      some (if negative then -value else value, rest)
    else
      none
  | [] => none

def signed (negative : Bool) (bits : UInt64) : UInt64 :=
  if negative then bits ||| 0x8000000000000000 else bits

/-- The value of a decimal; one that is beyond the doubles is refused, unless it is negative. -/
def floatOf? (negative : Bool) (digits : List Char) (exponent : Int) : Option Toml :=
  let bits := Decimal.nearest (digitsValue 10 digits) exponent
  if bits = Decimal.infinityBits ∧ ¬ negative then none else some (.float (signed negative bits))

def decimalFloat? (text : List Char) : Option (Toml × List Char) := do
  let (negative, rest) := sign text
  let (whole, rest) ← wholeDigits? rest
  match rest with
  | '.' :: rest =>
    let (fraction, rest) ← digits? Char.isDigit rest
    let (exponent, rest) ← match rest with
      | 'e' :: _ => exponent? rest
      | 'E' :: _ => exponent? rest
      | _ => some (0, rest)
    let value ← floatOf? negative (whole ++ fraction) (exponent - fraction.length)
    some (value, rest)
  | _ =>
    let (exponent, rest) ← exponent? rest
    let value ← floatOf? negative whole exponent
    some (value, rest)

def specialFloat? (text : List Char) : Option (Toml × List Char) :=
  let (negative, rest) := sign text
  match rest with
  | 'i' :: 'n' :: 'f' :: rest => some (.float (signed negative Decimal.infinityBits), rest)
  | 'n' :: 'a' :: 'n' :: rest => some (.float (signed negative 0x7ff8000000000000), rest)
  | _ => none

def fixedNumber? (count : Nat) (text : List Char) : Option (Nat × List Char) :=
  let digits := text.take count
  if digits.length = count ∧ digits.all Char.isDigit then
    some (digitsValue 10 digits, text.drop count)
  else
    none

def expect? (c : Char) : List Char → Option (List Char)
  | [] => none
  | d :: rest => if d = c then some rest else none

def daysOfMonth (year month : Nat) : Nat :=
  if month = 2 then
    if year % 4 = 0 ∧ (year % 100 ≠ 0 ∨ year % 400 = 0) then 29 else 28
  else if month = 4 ∨ month = 6 ∨ month = 9 ∨ month = 11 then 30
  else 31

def date? (text : List Char) : Option (List Char) := do
  let (year, rest) ← fixedNumber? 4 text
  let rest ← expect? '-' rest
  let (month, rest) ← fixedNumber? 2 rest
  let rest ← expect? '-' rest
  let (day, rest) ← fixedNumber? 2 rest
  if 1 ≤ month ∧ month ≤ 12 ∧ 1 ≤ day ∧ day ≤ daysOfMonth year month then some rest else none

def hourAndMinute? (text : List Char) : Option (List Char) := do
  let (hour, rest) ← fixedNumber? 2 text
  let rest ← expect? ':' rest
  let (minute, rest) ← fixedNumber? 2 rest
  if hour ≤ 23 ∧ minute ≤ 59 then some rest else none

/-- The rest after a time of day. A leap second counts as one. -/
def time? (text : List Char) : Option (List Char) := do
  let rest ← hourAndMinute? text
  let rest ← expect? ':' rest
  let (second, rest) ← fixedNumber? 2 rest
  if 60 < second then none
  else
    match rest with
    | '.' :: c :: later => if c.isDigit then some (later.dropWhile Char.isDigit) else some rest
    | _ => some rest

def skipOffset (text : List Char) : List Char :=
  match text with
  | 'Z' :: rest => rest
  | 'z' :: rest => rest
  | '+' :: rest => (hourAndMinute? rest).getD text
  | '-' :: rest => (hourAndMinute? rest).getD text
  | _ => text

def datetime? (text : List Char) : Option (Toml × List Char) :=
  match date? text with
  | some rest =>
    match rest with
    | c :: later =>
      if c = 'T' ∨ c = 't' ∨ c = ' ' then
        match time? later with
        | some after => some (.datetime, skipOffset after)
        | none => some (.datetime, rest)
      else
        some (.datetime, rest)
    | [] => some (.datetime, [])
  | none => (time? text).map (.datetime, ·)

def number? (text : List Char) : Option (Toml × List Char) :=
  (datetime? text).or ((decimalFloat? text).or ((specialFloat? text).or (integer? text)))

end Marquee.Toml.Reader
