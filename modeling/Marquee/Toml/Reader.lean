import Marquee.Toml.Document
import Marquee.Toml.Scan

/-!
Reading a TOML document: its keys, values and lines. Keys have fewer than eighty parts, and arrays
and tables in braces nest fewer than eighty deep.
-/

namespace Marquee.Toml.Reader

def depthLimit : Nat := 80

def isBareKeyChar (c : Char) : Bool := c.isAlphanum || c == '_' || c == '-'

def keyPart? (text : List Char) : Option (String × List Char) :=
  match text with
  | '"' :: _ => lineString? text
  | '\'' :: _ => lineString? text
  | _ =>
    let part := text.takeWhile isBareKeyChar
    if part.isEmpty then none else some (String.ofList part, text.dropWhile isBareKeyChar)

def keyParts? : Nat → List Char → Option (List String × List Char)
  | 0, _ => none
  | fuel + 1, text => do
    let (part, rest) ← keyPart? (skipBlanks text)
    match skipBlanks rest with
    | '.' :: rest =>
      let (others, rest) ← keyParts? fuel rest
      some (part :: others, rest)
    | rest => some ([part], rest)

def key? (text : List Char) : Option (List String × String × List Char) := do
  let (parts, rest) ← keyParts? (text.length + 1) text
  let last ← parts.getLast?
  if depthLimit ≤ parts.length then none else some (parts.dropLast, last, rest)

def word? : List Char → List Char → Option (List Char)
  | [], text => some text
  | c :: others, text => (expect? c text).bind (word? others)

def scalar? (text : List Char) : Option (Toml × List Char) :=
  match text with
  | [] => none
  | c :: _ =>
    if c = '"' ∨ c = '\'' then (anyString? text).map fun found => (.string found.1, found.2)
    else if c = 't' then (word? ['t', 'r', 'u', 'e'] text).map (.boolean true, ·)
    else if c = 'f' then (word? ['f', 'a', 'l', 's', 'e'] text).map (.boolean false, ·)
    else if c = 'i' ∨ c = 'n' then specialFloat? text
    else if c = '+' ∨ c = '-' ∨ c.isDigit then number? text
    else none

def arrayItems? (value : List Char → Option (Toml × List Char)) :
    Nat → List Char → Option (List Toml × List Char)
  | 0, _ => none
  | fuel + 1, text => do
    let start ← skipLines (text.length + 1) text
    match start with
    | ']' :: rest => some ([], rest)
    | _ =>
      let (item, rest) ← value start
      let after ← skipLines (rest.length + 1) rest
      match after with
      | ',' :: rest =>
        let (others, rest) ← arrayItems? value fuel rest
        some (item :: others, rest)
      | ']' :: rest => some ([item], rest)
      | _ => none

def pair? (value : List Char → Option (Toml × List Char)) (text : List Char) :
    Option ((List String × String × Toml) × List Char) := do
  let (path, key, rest) ← key? text
  let rest ← expect? '=' rest
  let (found, rest) ← value (skipBlanks rest)
  some ((path, key, found), rest)

/-- The pairs of a table in braces, up to and with the closing brace. There is at least one. -/
def inlinePairs? (value : List Char → Option (Toml × List Char)) :
    Nat → List Char → Option (List (List String × String × Toml) × List Char)
  | 0, _ => none
  | fuel + 1, text => do
    let (pair, rest) ← pair? value text
    match skipBlanks rest with
    | ',' :: rest =>
      let (others, rest) ← inlinePairs? value fuel rest
      some (pair :: others, rest)
    | '\x7d' :: rest => some ([pair], rest)
    | _ => none

/-- The value at the start of the text, where at most `depth - 1` containers may still be opened. -/
def value? : Nat → List Char → Option (Toml × List Char)
  | 0, _ => none
  | depth + 1, text =>
    match text with
    | '[' :: rest =>
      if depth = 0 then none else do
        let (found, rest) ← arrayItems? (value? depth) (rest.length + 1) rest
        some (.array found, rest)
    | '\x7b' :: rest =>
      if depth = 0 then none else
        match skipBlanks rest with
        | '\x7d' :: rest => some (.table .inline [], rest)
        | start => do
          let (pairs, rest) ← inlinePairs? (value? depth) (start.length + 1) start
          let members ← inlineTable pairs
          some (.table .inline members, rest)
    | _ => scalar? text

def header? (text : List Char) : Option (Bool × List String × String × List Char) :=
  match text with
  | '[' :: '[' :: rest => do
    let (path, key, rest) ← key? rest
    let rest ← word? [']', ']'] rest
    some (true, path, key, rest)
  | '[' :: rest => do
    let (path, key, rest) ← key? rest
    let rest ← expect? ']' rest
    some (false, path, key, rest)
  | _ => none

def line? (document : Document) (text : List Char) : Option (Document × List Char) :=
  match text with
  | '#' :: _ => (lineRest? text).map (document, ·)
  | '\n' :: rest => some (document, rest)
  | '\r' :: '\n' :: rest => some (document, rest)
  | '[' :: _ => do
    let (isItem, path, key, rest) ← header? text
    let rest ← lineRest? rest
    let document ← document.beginTable isItem path key
    some (document, rest)
  | _ => do
    let ((path, key, found), rest) ← pair? (value? depthLimit) text
    let rest ← lineRest? rest
    let document ← document.add path key found
    some (document, rest)

def lines? : Nat → Document → List Char → Option Document
  | 0, _, _ => none
  | fuel + 1, document, text =>
    match skipBlanks text with
    | [] => some document
    | start => do
      let (document, rest) ← line? document start
      lines? fuel document rest

end Reader

/-- The members of a document, in order. A mark of the byte order at its start is passed over. -/
def read (text : String) : Option Members :=
  let body := match text.toList with
    | '\ufeff' :: rest => rest
    | rest => rest
  (Reader.lines? (body.length + 1) {} body).bind Document.finish

end Marquee.Toml
