import Marquee.Json.Number

/-!
Reading a JSON text. Containers may nest 127 deep. Of several members with one key the last one
counts.
-/

namespace Marquee.Json.Reader

/-- How deep containers may nest, plus one. -/
def depthLimit : Nat := 128

def scalar (text : List Char) : Except Fault (Json × List Char) :=
  match text with
  | [] => .error (.past .endInValue [])
  | c :: rest =>
    if c = 'n' then do
      let rest ← word ['u', 'l', 'l'] rest
      .ok (.null, rest)
    else if c = 't' then do
      let rest ← word ['r', 'u', 'e'] rest
      .ok (.bool true, rest)
    else if c = 'f' then do
      let rest ← word ['a', 'l', 's', 'e'] rest
      .ok (.bool false, rest)
    else if c = '-' then do
      let (found, rest) ← unsigned true rest
      .ok (.number found, rest)
    else if c.isDigit then do
      let (found, rest) ← unsigned false text
      .ok (.number found, rest)
    else if c = '"' then do
      let (found, rest) ← string rest
      .ok (.string found, rest)
    else
      .error (.past .expectedValue text)

def nextItem (first : Bool) (text : List Char) : Except Fault (Option (List Char)) :=
  match skipSpace text with
  | [] => .error (.past .endInList [])
  | c :: rest =>
    if c = ']' then .ok none
    else if first then .ok (some (c :: rest))
    else if c = ',' then
      match skipSpace rest with
      | [] => .error (.past .endInValue [])
      | d :: later =>
        if d = ']' then .error (.past .trailingComma (d :: later)) else .ok (some (d :: later))
    else
      .error (.past .expectedListCommaOrEnd (c :: rest))

def nextKey (first : Bool) (text : List Char) : Except Fault (Option (List Char)) :=
  match skipSpace text with
  | [] => .error (.past .endInObject [])
  | c :: rest =>
    if c = '\x7d' then .ok none
    else if first then
      if c = '"' then .ok (some rest) else .error (.past .keyMustBeString (c :: rest))
    else if c = ',' then
      match skipSpace rest with
      | [] => .error (.past .endInValue [])
      | d :: later =>
        if d = '"' then .ok (some later)
        else if d = '\x7d' then .error (.past .trailingComma (d :: later))
        else .error (.past .keyMustBeString (d :: later))
    else
      .error (.past .expectedObjectCommaOrEnd (c :: rest))

def colon (text : List Char) : Except Fault (List Char) :=
  match skipSpace text with
  | [] => .error (.past .endInObject [])
  | c :: rest => if c = ':' then .ok rest else .error (.past .expectedColon (c :: rest))

def items (value : List Char → Except Fault (Json × List Char)) :
    Nat → Bool → List Char → Except Fault (List Json × List Char)
  | 0, _, text => .error (.here .endInList text)
  | fuel + 1, first, text => do
    match ← nextItem first text with
    | none => .ok ([], (skipSpace text).drop 1)
    | some start =>
      let (item, rest) ← value start
      let (others, rest) ← items value fuel false rest
      .ok (item :: others, rest)

def members (value : List Char → Except Fault (Json × List Char)) :
    Nat → Bool → List (String × Json) → List Char → Except Fault (List (String × Json) × List Char)
  | 0, _, _, text => .error (.here .endInObject text)
  | fuel + 1, first, found, text => do
    match ← nextKey first text with
    | none => .ok (found, (skipSpace text).drop 1)
    | some start =>
      let (key, rest) ← string start
      let rest ← colon rest
      let (item, rest) ← value rest
      members value fuel false (put key item found) rest

/-- The value at the start of the text, where at most `depth - 1` more containers may be opened. -/
def value : Nat → List Char → Except Fault (Json × List Char)
  | 0, text => .error (.past .nestedTooDeeply text)
  | depth + 1, text =>
    match skipSpace text with
    | '[' :: rest =>
      if depth = 0 then .error (.past .nestedTooDeeply ('[' :: rest)) else do
        let (found, rest) ← items (value depth) (rest.length + 1) true rest
        .ok (.array found, rest)
    | '\x7b' :: rest =>
      if depth = 0 then .error (.past .nestedTooDeeply ('\x7b' :: rest)) else do
        let (found, rest) ← members (value depth) (rest.length + 1) true [] rest
        .ok (.object found, rest)
    | rest => scalar rest

def finish (text : List Char) : Except Fault Unit :=
  match skipSpace text with
  | [] => .ok ()
  | rest => .error (.past .trailingCharacters rest)

end Marquee.Json.Reader

namespace Marquee.Json

def read (text : String) : Except Fault Json := do
  let (found, rest) ← Reader.value Reader.depthLimit text.toList
  Reader.finish rest
  .ok found

end Marquee.Json
