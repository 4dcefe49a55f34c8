import Marquee.Json.Scan

/-!
Passing over a JSON value without keeping it. The form of every part is checked, but not how deep
containers nest, how large a number is, or whether escapes make up whole characters.
-/

namespace Marquee.Json.Reader

/-- The rest after the closing quotation mark; `used` characters to come belong to an escape. -/
def skipCharacters : Nat → List Char → Except Fault (List Char)
  | _, [] => .error (.here .endInString [])
  | used + 1, _ :: rest => skipCharacters used rest
  | 0, c :: rest =>
    if c = '"' then
      .ok rest
    else if c = '\\' then
      match rest with
      | [] => .error (.here .endInString [])
      | letter :: digits =>
        if letter = 'u' then
          match hexUnit digits with
          | .ok _ => skipCharacters 5 rest
          | .error fault => .error fault
        else if (letterEscape? letter).isSome then
          skipCharacters 1 rest
        else
          .error (.past .invalidEscape rest)
    else if c.toNat < 0x20 then
      .error (.here .controlCharacter (c :: rest))
    else
      skipCharacters 0 rest

def skipExponent (text : List Char) : Except Fault (List Char) :=
  let digits := match text with
    | '+' :: rest => rest
    | '-' :: rest => rest
    | rest => rest
  match digits with
  | [] => .error (.here .invalidNumber [])
  | c :: rest =>
    if c.isDigit then .ok (rest.dropWhile Char.isDigit)
    else .error (.past .invalidNumber (c :: rest))

def skipScale (text : List Char) : Except Fault (List Char) :=
  match text with
  | 'e' :: rest => skipExponent rest
  | 'E' :: rest => skipExponent rest
  | rest => .ok rest

def skipFraction (text : List Char) : Except Fault (List Char) :=
  match text with
  | '.' :: [] => .error (.past .invalidNumber [])
  | '.' :: c :: rest =>
    if c.isDigit then skipScale (rest.dropWhile Char.isDigit)
    else .error (.past .invalidNumber (c :: rest))
  | rest => skipScale rest

def skipNumber (text : List Char) : Except Fault (List Char) :=
  match text with
  | [] => .error (.here .invalidNumber [])
  | c :: rest =>
    if c = '0' then
      match rest with
      | d :: later =>
        if d.isDigit then .error (.past .invalidNumber (d :: later)) else skipFraction (d :: later)
      | [] => .ok []
    else if c.isDigit then
      skipFraction (rest.dropWhile Char.isDigit)
    else
      .error (.past .invalidNumber text)

inductive Container where
  | list
  | object
deriving DecidableEq, Repr

inductive Skip where
  /-- A value. -/
  | value
  /-- The first item of the container that was just opened, or its end. -/
  | opened
  /-- A comma or the end of the innermost container. -/
  | closed
deriving DecidableEq, Repr

def Container.unfinished : Container → Fault
  | .list => .here .endInList []
  | .object => .here .endInObject []

def Container.expected : Container → Fault.Cause
  | .list => .expectedListCommaOrEnd
  | .object => .expectedObjectCommaOrEnd

def Container.closing : Container → Char
  | .list => ']'
  | .object => '\x7d'

def skipKey (text : List Char) : Except Fault (List Char) :=
  match skipSpace text with
  | [] => .error (.here .endInObject [])
  | c :: rest =>
    if c = '"' then do
      match skipSpace (← skipCharacters 0 rest) with
      | [] => .error (.here .endInObject [])
      | d :: later => if d = ':' then .ok later else .error (.past .expectedColon (d :: later))
    else
      .error (.past .keyMustBeString (c :: rest))

def skipToItem (container : Container) (text : List Char) : Except Fault (List Char) :=
  match container with
  | .list => .ok text
  | .object => skipKey text

def skipScalar (text : List Char) : Except Fault (Option (List Char)) :=
  match text with
  | [] => .error (.past .endInValue [])
  | c :: rest =>
    if c = 'n' then some <$> word ['u', 'l', 'l'] rest
    else if c = 't' then some <$> word ['r', 'u', 'e'] rest
    else if c = 'f' then some <$> word ['a', 'l', 's', 'e'] rest
    else if c = '-' then some <$> skipNumber rest
    else if c.isDigit then some <$> skipNumber text
    else if c = '"' then some <$> skipCharacters 0 rest
    else if c = '[' ∨ c = '\x7b' then .ok none
    else .error (.past .expectedValue text)

/-- Runs until no container is open. Each value takes a character and at most two turns. -/
def skip : Nat → Skip → List Container → List Char → Except Fault (List Char)
  | 0, _, _, text => .error (.here .endInValue text)
  | fuel + 1, .value, inside, text => do
    let text := skipSpace text
    match ← skipScalar text with
    | some rest => skip fuel .closed inside rest
    | none =>
      let container : Container := if text.head? = some '[' then .list else .object
      skip fuel .opened (container :: inside) (text.drop 1)
  | _ + 1, .closed, [], text => .ok text
  | _ + 1, .opened, [], text => .ok text
  | fuel + 1, .opened, container :: inside, text =>
    match skipSpace text with
    | [] => .error container.unfinished
    | c :: rest =>
      if c = container.closing then
        skip fuel .closed inside rest
      else do
        let rest ← skipToItem container (c :: rest)
        skip fuel .value (container :: inside) rest
  | fuel + 1, .closed, container :: inside, text =>
    match skipSpace text with
    | [] => .error container.unfinished
    | c :: rest =>
      if c = ',' then do
        let rest ← skipToItem container rest
        skip fuel .value (container :: inside) rest
      else if c = container.closing then
        skip fuel .closed inside rest
      else
        .error (.past container.expected (c :: rest))

def skipValue (text : List Char) : Except Fault (List Char) :=
  skip (3 * text.length + 3) .value [] text

end Marquee.Json.Reader
