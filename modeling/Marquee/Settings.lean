import Marquee.Json.Value
import Marquee.Text.Blank

/-!
What the deck software stores for a button, and the font size it reports. Numbers are read
leniently: a number, or a text that holds one, counts; anything else is zero.
-/

namespace Marquee

namespace Settings

def wordMax : Nat := 0xffffffffffffffff

/-- The whole part of a double that is not negative, held below `2^64`; other doubles give zero. -/
def truncated (bits : UInt64) : Nat :=
  if (bits >>> 63) = 1 ∨ (bits >>> 52).toNat % 2048 = 2047 then
    0
  else
    let whole := (Decimal.Binary.ofBits bits).floor
    min whole wordMax

/-- The value of a run of decimal digits; `none` where another character stands. -/
def digits (value : Nat) : List Char → Option Nat
  | [] => some value
  | c :: rest =>
    if c.isDigit then digits (value * 10 + (c.toNat - '0'.toNat)) rest else none

/-- A number below `2^64` written in decimal, with at most one plus sign before it. -/
def wordOf? (text : List Char) : Option Nat :=
  let body := match text with
    | '+' :: rest => rest
    | rest => rest
  if body.isEmpty then none else (digits 0 body).filter (· ≤ wordMax)

def lenient : Option Json → Nat
  | some (.number (.int value)) => value.toNat
  | some (.number (.float bits)) => truncated bits
  | some (.string text) => (wordOf? (Text.trim text.toList)).getD 0
  | _ => 0

def ofPayload (payload : Json) : Json :=
  match payload.get? "settings" with
  | some (.object members) => .object members
  | _ => .object []

/-- The font size of a payload, zero when it has none. The nested member counts wherever it exists.
-/
def fontSize (payload : Json) : Nat :=
  let nested := (payload.get? "titleParameters").bind (·.get? "fontSize")
  min (lenient (nested.or (payload.get? "fontSize"))) 0xffffffff

end Settings

structure ButtonSettings where
  /-- Milliseconds between two frames; zero asks for the default. -/
  refreshTime : Nat := 0
deriving DecidableEq, Repr, Inhabited

namespace ButtonSettings

def ofJson (settings : Json) : ButtonSettings := ⟨Settings.lenient (settings.get? "refresh_time")⟩

def period (settings : ButtonSettings) (default : Nat) : Nat :=
  if settings.refreshTime = 0 then default else settings.refreshTime

end ButtonSettings

end Marquee
