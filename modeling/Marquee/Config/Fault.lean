import Marquee.Decimal.Shortest
import Marquee.Text.Quoted
import Marquee.Toml.Value

/-!
What can be wrong with a configuration: the document is no TOML, or a value is not of the kind
that its key asks for.
-/

namespace Marquee

inductive ValueFault where
  | invalidType (found expected : String)
  | invalidNumber (value : Int) (expected : String)
  | invalidLength (length : Nat) (expected : String)
  | unknownName (name : String) (known : List String)
  /-- A name written as a table with no entry. -/
  | noEntry
  /-- A name written as a table with several entries. -/
  | severalEntries
  | neitherStringNorTable
  | nonemptyTable
  | nonemptyList
  | noTable (kind : String)
deriving DecidableEq, Repr

inductive ConfigFault where
  | grammar
  | value (fault : ValueFault)
deriving DecidableEq, Repr

def listNames (names : List String) : String :=
  let marked := names.map fun name => "`" ++ name ++ "`"
  match marked with
  | [] => "nothing"
  | [only] => only
  | [first, second] => first ++ " or " ++ second
  | several => "one of " ++ String.intercalate ", " several

def ValueFault.text : ValueFault → String
  | invalidType found expected => "invalid type: " ++ found ++ ", expected " ++ expected
  | invalidNumber value expected =>
    "invalid value: integer `" ++ toString value ++ "`, expected " ++ expected
  | invalidLength length expected =>
    "invalid length " ++ toString length ++ ", expected " ++ expected
  | unknownName name known => "unknown variant `" ++ name ++ "`, expected " ++ listNames known
  | noEntry => "wanted exactly 1 element, found 0 elements"
  | severalEntries => "wanted exactly 1 element, more than 1 element"
  | neitherStringNorTable => "wanted string or table"
  | nonemptyTable => "expected empty table"
  | nonemptyList => "expected empty array"
  | noTable kind => "expected table, found " ++ kind

namespace Toml

def found : Toml → String
  | string text => "string " ++ Text.quoted text
  | integer value => "integer `" ++ toString value ++ "`"
  | float bits => "floating point `" ++ Decimal.text .plain bits ++ "`"
  | boolean value => "boolean `" ++ (if value then "true" else "false") ++ "`"
  | datetime => "map"
  | array _ => "sequence"
  | table _ _ => "map"
  | tables _ => "sequence"

def kind : Toml → String
  | string _ => "string"
  | integer _ => "integer"
  | float _ => "float"
  | boolean _ => "boolean"
  | datetime => "datetime"
  | array _ => "array"
  | table .inline _ => "inline table"
  | table _ _ => "table"
  | tables _ => "array of tables"

end Toml

end Marquee
