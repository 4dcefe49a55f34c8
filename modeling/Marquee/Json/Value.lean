import Marquee.Decimal.Shortest

/-!
JSON values. A number keeps whether it was written as an integer of the 64-bit range; any other
number is a double, kept as its bits so that two values can be told apart exactly.
-/

namespace Marquee

/-- A number of a JSON text: an integer between `-2^63` and `2^64 - 1`, or the bits of a double. -/
inductive Json.Number where
  | int (value : Int)
  | float (bits : UInt64)
deriving DecidableEq, Repr, Inhabited

inductive Json where
  | null
  | bool (value : Bool)
  | number (value : Json.Number)
  | string (text : String)
  | array (items : List Json)
  | object (members : List (String × Json))
deriving Repr, Inhabited

namespace Json

/-- Stores a member: a key that is there already takes the new value, any other goes to the end. -/
def put (key : String) (value : Json) : List (String × Json) → List (String × Json)
  | [] => [(key, value)]
  | (other, old) :: rest =>
    if other = key then (key, value) :: rest else (other, old) :: put key value rest

def find (key : String) : List (String × Json) → Option Json
  | [] => none
  | (other, value) :: rest => if other = key then some value else find key rest

def get? (value : Json) (key : String) : Option Json :=
  match value with
  | object members => find key members
  | _ => none

def Number.text : Number → String
  | int value => toString value
  | float bits => Decimal.text .compact bits

theorem find_put_same (key : String) (value : Json) (members : List (String × Json)) :
    find key (put key value members) = some value := by
  induction members with
  | nil => simp [put, find]
  | cons member rest ih =>
    obtain ⟨other, old⟩ := member
    by_cases same : other = key <;> simp [put, find, same, ih]

theorem find_put_other {key other : String} (different : other ≠ key) (value : Json)
    (members : List (String × Json)) : find other (put key value members) = find other members := by
  induction members with
  | nil => simp [put, find, Ne.symm different]
  | cons member rest ih =>
    obtain ⟨name, old⟩ := member
    by_cases same : name = key
    · subst same
      simp [put, find, Ne.symm different]
    · simp [put, find, same, ih]

end Json

end Marquee
