import Mathlib.Data.List.TakeWhile
import Marquee.Config.Basic
import Marquee.Proofs.Json.Printing
import Marquee.Settings

/-!
Numbers as the deck software sends them. A number may come as a number or as a text that holds one;
what a member stands for is described here without a reader, and the reader gives exactly that.
-/

namespace Marquee

namespace Text

theorem trimStart_append {before rest : List Char} (blank : ∀ c ∈ before, isBlank c = true)
    (first : ∀ c, rest.head? = some c → isBlank c = false) : trimStart (before ++ rest) = rest := by
  rw [trimStart, List.dropWhile_append_of_pos blank]
  cases rest with
  | nil => rfl
  | cons c rest => exact List.dropWhile_cons_of_neg (by simp [first c rfl])

theorem trim_append {before body after : List Char} (blankBefore : ∀ c ∈ before, isBlank c = true)
    (blankAfter : ∀ c ∈ after, isBlank c = true) (filled : body ≠ [])
    (first : ∀ c, body.head? = some c → isBlank c = false)
    (last : ∀ c, body.getLast? = some c → isBlank c = false) :
    trim (before ++ body ++ after) = body := by
  have start : trimStart (before ++ (body ++ after)) = body ++ after := by
    apply trimStart_append blankBefore
    rwa [List.head?_append_of_ne_nil _ filled]
  have stop : trimStart (body ++ after).reverse = body.reverse := by
    rw [List.reverse_append]
    apply trimStart_append
    · simpa using blankAfter
    · simpa using last
  rw [trim, List.append_assoc, start, stop, List.reverse_reverse]

/-- What is cut off a text is white space. -/
theorem trim_cuts (text : List Char) :
    ∃ before after, text = before ++ trim text ++ after ∧ (∀ c ∈ before, isBlank c = true) ∧
      ∀ c ∈ after, isBlank c = true := by
  let rest := trimStart text
  refine ⟨text.takeWhile isBlank, (rest.reverse.takeWhile isBlank).reverse, ?_, ?_, ?_⟩
  · have back : trim text ++ (rest.reverse.takeWhile isBlank).reverse = rest := by
      rw [trim, ← List.reverse_append, trimStart, List.takeWhile_append_dropWhile,
        List.reverse_reverse]
    rw [List.append_assoc, back]
    exact List.takeWhile_append_dropWhile.symm
  · exact fun c member => List.mem_takeWhile_imp member
  · intro c member
    exact List.mem_takeWhile_imp (List.mem_reverse.mp member)

end Text

namespace Json

theorem isWhole_find {key : String} {inner : Json} {members : List (String × Json)}
    (whole : AreWholeMembers members) (found : find key members = some inner) : inner.IsWhole := by
  induction members with
  | nil => cases found
  | cons member rest ih =>
      obtain ⟨other, first⟩ := member
      by_cases same : other = key
      · rw [find, if_pos same] at found
        exact Option.some.inj found ▸ whole.1
      · rw [find, if_neg same] at found
        exact ih whole.2 found

theorem isWhole_get? {value inner : Json} (whole : value.IsWhole) {key : String}
    (found : value.get? key = some inner) : inner.IsWhole := by
  cases value with
  | object members => exact isWhole_find whole found
  | _ => cases found

end Json

namespace Settings

def IsNumeral (text : List Char) (n : Nat) : Prop :=
  ∃ sign digits, text = sign ++ digits ∧ sign ∈ [[], ['+']] ∧ digits ≠ [] ∧
    (∀ c ∈ digits, c.isDigit = true) ∧ Nat.ofDigitChars 10 digits 0 = n

def Spells (text : List Char) (n : Nat) : Prop :=
  ∃ before numeral after, text = before ++ numeral ++ after ∧
    (∀ c ∈ before, Text.isBlank c = true) ∧ (∀ c ∈ after, Text.isBlank c = true) ∧
    IsNumeral numeral n

inductive Reads : Option Json → Nat → Prop
  | integer {n : Nat} (fits : n < 2 ^ 64) : Reads (some (.number (.int n))) n
  | text {text : String} {n : Nat} (spelled : Spells text.toList n) (fits : n < 2 ^ 64) :
    Reads (some (.string text)) n
  | negative {value : Int} (below : value < 0) : Reads (some (.number (.int value))) 0
  | wordless {text : String} (unspelled : ∀ n < 2 ^ 64, ¬ Spells text.toList n) :
    Reads (some (.string text)) 0
  | null : Reads (some .null) 0
  | bool (value : Bool) : Reads (some (.bool value)) 0
  | array (items : List Json) : Reads (some (.array items)) 0
  | object (members : List (String × Json)) : Reads (some (.object members)) 0
  | missing : Reads none 0

theorem digits_eq_some_iff {start n : Nat} {text : List Char} :
    digits start text = some n ↔
      (∀ c ∈ text, c.isDigit = true) ∧ Nat.ofDigitChars 10 text start = n := by
  induction text generalizing start with
  | nil => simp [digits]
  | cons c rest ih =>
      rw [digits, Nat.ofDigitChars_cons, Nat.mul_comm 10 start]
      by_cases digit : c.isDigit = true
      · rw [if_pos digit, ih]
        simp [digit]
      · rw [if_neg digit]
        simp [digit]

theorem isBlank_eq_false {c : Char} (core : c = '+' ∨ c.isDigit = true) :
    Text.isBlank c = false := by
  rcases core with rfl | digit
  · rfl
  · have range : 48 ≤ c.toNat ∧ c.toNat ≤ 57 := Char.isDigit_iff_toNat.mp digit
    simp only [Text.isBlank, Bool.or_eq_false_iff, Bool.and_eq_false_iff, decide_eq_false_iff_not,
      beq_eq_false_iff_ne]
    omega

theorem isNumeral_plus {rest : List Char} {n : Nat} :
    IsNumeral ('+' :: rest) n ↔
      rest ≠ [] ∧ (∀ c ∈ rest, c.isDigit = true) ∧ Nat.ofDigitChars 10 rest 0 = n := by
  constructor
  · rintro ⟨sign, digits, same, signed, filled, all, value⟩
    rcases List.mem_cons.mp signed with rfl | plus
    · obtain rfl : '+' :: rest = digits := same
      exact absurd (all '+' List.mem_cons_self) (by decide)
    · obtain rfl := List.mem_singleton.mp plus
      obtain rfl : rest = digits := (List.cons.inj same).2
      exact ⟨filled, all, value⟩
  · rintro ⟨filled, all, value⟩
    exact ⟨['+'], rest, rfl, by simp, filled, all, value⟩

theorem isNumeral_unsigned {text : List Char} (unsigned : ∀ rest, text ≠ '+' :: rest) {n : Nat} :
    IsNumeral text n ↔
      text ≠ [] ∧ (∀ c ∈ text, c.isDigit = true) ∧ Nat.ofDigitChars 10 text 0 = n := by
  constructor
  · rintro ⟨sign, digits, same, signed, filled, all, value⟩
    rcases List.mem_cons.mp signed with rfl | plus
    · obtain rfl : text = digits := same
      exact ⟨filled, all, value⟩
    · obtain rfl := List.mem_singleton.mp plus
      exact absurd same (unsigned digits)
  · rintro ⟨filled, all, value⟩
    exact ⟨[], text, rfl, by simp, filled, all, value⟩

theorem bounded_digits {text : List Char} {n : Nat} :
    (if text.isEmpty then none else (digits 0 text).filter (· ≤ wordMax)) = some n ↔
      (text ≠ [] ∧ (∀ c ∈ text, c.isDigit = true) ∧ Nat.ofDigitChars 10 text 0 = n) ∧
        n < 2 ^ 64 := by
  have bound : n ≤ wordMax ↔ n < 2 ^ 64 := by
    unfold wordMax
    omega
  cases text with
  | nil => simp
  | cons c rest =>
      simp [Option.filter_eq_some_iff, digits_eq_some_iff, bound, and_assoc]

theorem wordOf?_eq_some_iff {text : List Char} {n : Nat} :
    wordOf? text = some n ↔ IsNumeral text n ∧ n < 2 ^ 64 := by
  unfold wordOf?
  split
  · rw [isNumeral_plus]
    exact bounded_digits
  · next unsigned =>
    rw [isNumeral_unsigned fun rest same => unsigned rest same]
    exact bounded_digits

/-- A numeral neither begins nor ends with white space, so trimming finds it. -/
theorem trim_spelled {before numeral after : List Char} {n : Nat}
    (blankBefore : ∀ c ∈ before, Text.isBlank c = true)
    (blankAfter : ∀ c ∈ after, Text.isBlank c = true) (written : IsNumeral numeral n) :
    Text.trim (before ++ numeral ++ after) = numeral := by
  obtain ⟨sign, digits, rfl, signed, filled, all, _⟩ := written
  have inked : ∀ c ∈ sign ++ digits, Text.isBlank c = false := by
    intro c member
    rcases List.mem_append.mp member with first | digit
    · rcases List.mem_cons.mp signed with rfl | plus
      · cases first
      · rw [List.mem_singleton.mp plus] at first
        exact isBlank_eq_false (Or.inl (List.mem_singleton.mp first))
    · exact isBlank_eq_false (Or.inr (all c digit))
  apply Text.trim_append blankBefore blankAfter
  · simp [filled]
  · exact fun c head => inked c (List.mem_of_head? head)
  · exact fun c last => inked c (List.mem_of_getLast? last)

/-- A text is read as the number that it spells, and as nothing where it spells none of 64 bits. -/
theorem wordOf?_trim_iff {text : List Char} {n : Nat} :
    wordOf? (Text.trim text) = some n ↔ Spells text n ∧ n < 2 ^ 64 := by
  rw [wordOf?_eq_some_iff]
  apply and_congr_left
  intro _
  constructor
  · intro written
    obtain ⟨before, after, same, blankBefore, blankAfter⟩ := Text.trim_cuts text
    exact ⟨before, Text.trim text, after, same, blankBefore, blankAfter, written⟩
  · rintro ⟨before, numeral, after, rfl, blankBefore, blankAfter, written⟩
    rwa [trim_spelled blankBefore blankAfter written]

theorem lenient_text (text : String) (n : Nat) :
    lenient (some (.string text)) = n ↔ Reads (some (.string text)) n := by
  rw [lenient]
  cases word : wordOf? (Text.trim text.toList) with
  | some value =>
      obtain ⟨spelled, fits⟩ := wordOf?_trim_iff.mp word
      constructor
      · rintro rfl
        exact .text spelled fits
      · intro reads
        cases reads with
        | text other small =>
            have same := wordOf?_trim_iff.mpr ⟨other, small⟩
            rw [word] at same
            exact Option.some.inj same
        | wordless unspelled => exact absurd spelled (unspelled value fits)
  | none =>
      have unspelled : ∀ n < 2 ^ 64, ¬ Spells text.toList n := by
        intro n fits spelled
        have found := wordOf?_trim_iff.mpr ⟨spelled, fits⟩
        rw [word] at found
        cases found
      constructor
      · rintro rfl
        exact .wordless unspelled
      · intro reads
        cases reads with
        | text spelled fits => exact absurd spelled (unspelled n fits)
        | wordless _ => rfl

theorem lenient_int {value : Int} (word : Json.IsWord value) (n : Nat) :
    lenient (some (.number (.int value))) = n ↔ Reads (some (.number (.int value))) n := by
  rw [lenient]
  constructor
  · rintro rfl
    by_cases below : value < 0
    · rw [Int.toNat_of_nonpos (Int.le_of_lt below)]
      exact .negative below
    · obtain ⟨magnitude, rfl⟩ := Int.eq_ofNat_of_zero_le (Int.not_lt.mp below)
      have fits : magnitude < 2 ^ 64 := by
        have greatest := word.2
        omega
      exact .integer fits
  · intro reads
    cases reads with
    | integer fits => exact Int.toNat_natCast n
    | negative below => exact Int.toNat_of_nonpos (Int.le_of_lt below)

/-- A member without fractions is read as what it stands for. -/
theorem lenient_eq_iff {member : Option Json} (whole : ∀ value, member = some value → value.IsWhole)
    (n : Nat) : lenient member = n ↔ Reads member n := by
  cases member with
  | none => exact ⟨fun zero => zero ▸ .missing, fun reads => by cases reads; rfl⟩
  | some value =>
      cases value with
      | number number =>
          cases number with
          | int value => exact lenient_int (whole _ rfl) n
          | float bits => exact (whole _ rfl).elim
      | string text => exact lenient_text text n
      | null => exact ⟨fun zero => zero ▸ .null, fun reads => by cases reads; rfl⟩
      | bool value => exact ⟨fun zero => zero ▸ .bool value, fun reads => by cases reads; rfl⟩
      | array items => exact ⟨fun zero => zero ▸ .array items, fun reads => by cases reads; rfl⟩
      | object members =>
          exact ⟨fun zero => zero ▸ .object members, fun reads => by cases reads; rfl⟩

theorem refreshTime_eq_iff {settings : Json} (whole : settings.IsWhole) (n : Nat) :
    (ButtonSettings.ofJson settings).refreshTime = n ↔
      Reads (settings.get? "refresh_time") n :=
  lenient_eq_iff (fun _ same => Json.isWhole_get? whole same) n

theorem period_eq {settings : Json} (whole : settings.IsWhole) (config : AnimationConfig) {n : Nat}
    (reads : Reads (settings.get? "refresh_time") n) :
    (ButtonSettings.ofJson settings).period config.period =
      if 0 < n then n else max 16 (min 60000 config.refresh) := by
  rw [ButtonSettings.period, (refreshTime_eq_iff whole n).mpr reads]
  cases n <;> rfl

end Settings

end Marquee
