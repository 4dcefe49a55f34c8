/-!
What can be wrong with a JSON text, and where. A fault is recorded while the text is read, as a
cause and the number of bytes that were left; the line and the column follow from the whole text.
-/

namespace Marquee.Json

/-- Why a text is refused: it ends too early, it is no JSON, or it is JSON of the wrong shape. -/
inductive Fault.Kind where
  | eof
  | grammar
  | data
deriving DecidableEq, Repr

inductive Fault.Found where
  | null
  | bool (value : Bool)
  /-- A number, by its text, and whether that is an integer. -/
  | number (text : String) (isInteger : Bool)
  /-- A string, by its quoted text. -/
  | string (quoted : String)
  | sequence
  | map
deriving DecidableEq, Repr

inductive Fault.Cause where
  | endInValue
  | endInList
  | endInObject
  | endInString
  | expectedValue
  | expectedIdent
  | expectedColon
  | expectedListCommaOrEnd
  | expectedObjectCommaOrEnd
  | trailingComma
  | trailingCharacters
  | keyMustBeString
  | invalidNumber
  | numberOutOfRange
  | invalidEscape
  | controlCharacter
  | loneSurrogate
  | unexpectedEndOfHexEscape
  | nestedTooDeeply
  | invalidType (found : Fault.Found) (expected : String)
  | invalidLength (length : Nat) (expected : String)
  | missingField (name : String)
  | duplicateField (name : String)
deriving DecidableEq, Repr

structure Fault where
  cause : Fault.Cause
  rest : Nat
deriving DecidableEq, Repr

namespace Fault

def Found.text : Found → String
  | .null => "null"
  | .bool value => "boolean `" ++ (if value then "true" else "false") ++ "`"
  | .number text isInteger => (if isInteger then "integer `" else "floating point `") ++ text ++ "`"
  | .string quoted => "string " ++ quoted
  | .sequence => "sequence"
  | .map => "map"

def Cause.text : Cause → String
  | .endInValue => "EOF while parsing a value"
  | .endInList => "EOF while parsing a list"
  | .endInObject => "EOF while parsing an object"
  | .endInString => "EOF while parsing a string"
  | .expectedValue => "expected value"
  | .expectedIdent => "expected ident"
  | .expectedColon => "expected `:`"
  | .expectedListCommaOrEnd => "expected `,` or `]`"
  | .expectedObjectCommaOrEnd => "expected `,` or `\x7d`"
  | .trailingComma => "trailing comma"
  | .trailingCharacters => "trailing characters"
  | .keyMustBeString => "key must be a string"
  | .invalidNumber => "invalid number"
  | .numberOutOfRange => "number out of range"
  | .invalidEscape => "invalid escape"
  | .controlCharacter => "control character (\\u0000-\\u001F) found while parsing a string"
  | .loneSurrogate => "lone leading surrogate in hex escape"
  | .unexpectedEndOfHexEscape => "unexpected end of hex escape"
  | .nestedTooDeeply => "recursion limit exceeded"
  | .invalidType found expected => "invalid type: " ++ found.text ++ ", expected " ++ expected
  | .invalidLength length expected =>
    "invalid length " ++ toString length ++ ", expected " ++ expected
  | .missingField name => "missing field `" ++ name ++ "`"
  | .duplicateField name => "duplicate field `" ++ name ++ "`"

def Cause.kind : Cause → Kind
  | .endInValue | .endInList | .endInObject | .endInString => .eof
  | .invalidType .. | .invalidLength .. | .missingField _ | .duplicateField _ => .data
  | _ => .grammar

end Fault

def byteLength (text : List Char) : Nat := text.foldl (fun total c => total + c.utf8Size) 0

def Fault.here (cause : Fault.Cause) (rest : List Char) : Fault := ⟨cause, byteLength rest⟩

/-- A fault one byte further on: at the character that gave offence, not before it. -/
def Fault.past (cause : Fault.Cause) (rest : List Char) : Fault := ⟨cause, byteLength rest - 1⟩

structure Position where
  line : Nat
  column : Nat
deriving DecidableEq, Repr

/-- The position after `read` bytes: a line feed that was read begins line and column anew. -/
def Position.after (read : Nat) : List Char → Position
  | [] => ⟨1, read⟩
  | c :: rest =>
    if read < c.utf8Size then
      ⟨1, read⟩
    else
      let later := Position.after (read - c.utf8Size) rest
      if c = '\n' then
        ⟨later.line + 1, later.column⟩
      else
        ⟨later.line, if later.line = 1 then later.column + c.utf8Size else later.column⟩

def Fault.message (fault : Fault) (text : String) : String :=
  let position := Position.after (text.utf8ByteSize - fault.rest) text.toList
  fault.cause.text ++ " at line " ++ toString position.line ++ " column " ++
    toString position.column

end Marquee.Json
