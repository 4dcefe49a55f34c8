/-!
TOML values. A table remembers how it came about, because that decides whether later lines of a
document may still add to it.
-/

namespace Marquee

inductive Toml.Origin where
  /-- It has a header of its own, or it is the whole document. -/
  | header
  /-- A longer header went through it. -/
  | implied
  /-- A dotted key went through it. -/
  | dotted
  /-- It is written in braces, and complete. -/
  | inline
deriving DecidableEq, Repr, Inhabited

inductive Toml where
  | string (text : String)
  | integer (value : Int)
  /-- A double, by its bits. -/
  | float (bits : UInt64)
  | boolean (value : Bool)
  | datetime
  | array (items : List Toml)
  | table (origin : Toml.Origin) (members : List (String × Toml))
  /-- Tables that each have a header in double brackets. -/
  | tables (items : List Toml)
deriving Repr, Inhabited

namespace Toml

abbrev Members := List (String × Toml)

def find (key : String) : Members → Option Toml
  | [] => none
  | (other, value) :: rest => if other = key then some value else find key rest

def erase (key : String) (members : Members) : Members :=
  members.filter fun member => member.1 != key

def change (key : String) (value : Toml) : Members → Members
  | [] => []
  | (other, old) :: rest =>
    if other = key then (key, value) :: rest else (other, old) :: change key value rest

end Toml

end Marquee
