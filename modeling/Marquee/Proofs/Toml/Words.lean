import Marquee.Proofs.Decimal.Digits
import Marquee.Proofs.Toml.Spelling
import Marquee.Toml.Reader

/-!
Reading the words of a line: a written string, a key and an integer are read as what they spell, up
to where they end. An integer beyond 64 bits is refused.
-/

namespace Marquee.Toml.Reader

theorem isText_of_plain {c : Char} (plain : Plain c) : isText c = true := by
  unfold isText
  rcases plain with rfl | ⟨printed, noDelete⟩
  · rfl
  · simp [printed, noDelete]

theorem hexValue?_of_hexDigit {c : Char} {value : Nat} (digit : Json.HexDigit c value) :
    hexValue? c = some value := by
  have all : ∀ value < 16, hexValue? value.digitChar = some value ∧
      hexValue? value.digitChar.toUpper = some value := by decide
  obtain ⟨bound, rfl | rfl⟩ := digit
  · exact (all value bound).1
  · exact (all value bound).2

theorem hexNumber_of_hexDigits {digits : List Char} {values : List Nat}
    (each : List.Forall₂ Json.HexDigit digits values) (start : Nat) :
    hexNumber start digits =
      some (values.foldl (fun number value => number * 16 + value) start) := by
  induction each generalizing start with
  | nil => rfl
  | cons digit _ ih =>
      rw [hexNumber, hexValue?_of_hexDigit digit]
      exact ih _

theorem numberedChar?_of_hexNumber {c : Char} {digits : List Char}
    (names : HexNumber digits c.toNat) (rest : List Char) :
    numberedChar? digits.length (digits ++ rest) = some c := by
  obtain ⟨values, each, number⟩ := names
  have read := hexNumber_of_hexDigits each 0
  rw [← number] at read
  have valid : c.toNat.isValidChar := c.valid
  simp [numberedChar?, read, valid, Char.ofNat_toNat]

theorem escape?_short {letter c : Char} (listed : (letter, c) ∈ shortEscapes) (rest : List Char) :
    escape? (letter :: rest) = some (c, 1) := by
  simp only [shortEscapes, List.mem_cons, Prod.mk.injEq, List.not_mem_nil, or_false] at listed
  rcases listed with ⟨rfl, rfl⟩ | ⟨rfl, rfl⟩ | ⟨rfl, rfl⟩ | ⟨rfl, rfl⟩ | ⟨rfl, rfl⟩ | ⟨rfl, rfl⟩ |
    ⟨rfl, rfl⟩ <;> rfl

theorem escape?_four {c : Char} {digits : List Char} (names : HexNumber digits c.toNat)
    (count : digits.length = 4) (rest : List Char) :
    escape? ('u' :: digits ++ rest) = some (c, 5) := by
  have read := numberedChar?_of_hexNumber names rest
  rw [count] at read
  simp [escape?, read]

theorem escape?_eight {c : Char} {digits : List Char} (names : HexNumber digits c.toNat)
    (count : digits.length = 8) (rest : List Char) :
    escape? ('U' :: digits ++ rest) = some (c, 9) := by
  have read := numberedChar?_of_hexNumber names rest
  rw [count] at read
  simp [escape?, read]

/-- The characters that belong to an escape are passed over one by one. -/
theorem basicString_used (found used rest : List Char) :
    basicString found used.length (used ++ rest) = basicString found 0 rest := by
  induction used with
  | nil => rfl
  | cons c used ih =>
      simp only [List.length_cons, List.cons_append, basicString]
      exact ih

theorem basicString_escape {c : Char} {body rest : List Char}
    (escaped : escape? (body ++ rest) = some (c, body.length)) (found : List Char) :
    basicString found 0 ('\\' :: body ++ rest) = basicString (c :: found) 0 rest := by
  rw [← basicString_used (c :: found) body rest, List.cons_append, basicString,
    if_neg (by decide), if_pos rfl, escaped]

theorem basicString_char {c : Char} {written : List Char} (spelled : SpellsChar c written)
    (found rest : List Char) :
    basicString found 0 (written ++ rest) = basicString (c :: found) 0 rest := by
  cases spelled with
  | plain plain noQuote noBackslash =>
      simp [basicString, noQuote, noBackslash, isText_of_plain plain]
  | short listed => exact basicString_escape (escape?_short listed rest) found
  | four names count =>
      apply basicString_escape
      rw [escape?_four names count, List.length_cons, count]
  | eight names count =>
      apply basicString_escape
      rw [escape?_eight names count, List.length_cons, count]

theorem basicString_spelled {chars : List Char} {pieces : List (List Char)}
    (each : List.Forall₂ SpellsChar chars pieces) (found rest : List Char) :
    basicString found 0 (pieces.flatten ++ '"' :: rest) =
      some (String.ofList (found.reverse ++ chars), rest) := by
  induction each generalizing found with
  | nil => simp [basicString]
  | cons spelled _ ih =>
      rw [List.flatten_cons, List.append_assoc, basicString_char spelled, ih]
      simp

theorem lineString?_spelled {value : String} {text : List Char} (spelled : SpellsString value text)
    (rest : List Char) : lineString? (text ++ rest) = some (value, rest) := by
  obtain ⟨pieces, each, rfl⟩ := spelled
  have read := basicString_spelled each [] rest
  simpa [lineString?] using read

/-- No character of a string is written with a quotation mark first. -/
theorem head_spelled {c : Char} {written : List Char} (spelled : SpellsChar c written) :
    ∃ d rest, written = d :: rest ∧ d ≠ '"' := by
  cases spelled with
  | plain _ noQuote _ => exact ⟨c, [], rfl, noQuote⟩
  | short _ => exact ⟨'\\', _, rfl, by decide⟩
  | four _ _ => exact ⟨'\\', _, rfl, by decide⟩
  | eight _ _ => exact ⟨'\\', _, rfl, by decide⟩

theorem anyString?_spelled {value : String} {text : List Char} (spelled : SpellsString value text)
    {rest : List Char} (noQuote : rest.head? ≠ some '"') :
    anyString? (text ++ rest) = some (value, rest) := by
  have read := lineString?_spelled spelled rest
  rw [← read]
  obtain ⟨pieces, each, rfl⟩ := spelled
  unfold anyString?
  split
  · next triple =>
      -- The third quotation mark would be that of a character, or stand behind the string.
      cases pieces with
      | nil =>
          simp only [List.flatten_nil, List.nil_append, List.cons_append, List.cons.injEq,
            true_and] at triple
          rw [triple] at noQuote
          exact absurd rfl noQuote
      | cons piece pieces =>
          obtain ⟨c, _, first, _⟩ := List.forall₂_cons_right_iff.mp each
          obtain ⟨d, written, rfl, other⟩ := head_spelled first
          simp only [List.flatten_cons, List.cons_append, List.cons.injEq, true_and] at triple
          exact absurd triple.1 other
  · next triple => cases triple
  · rfl

def stopChars : List Char := [' ', '\t', '#', '\n', '\r']

def Stops (text : List Char) : Prop := ∀ c, text.head? = some c → c ∈ stopChars

theorem Stops.noDigit {c : Char} {text : List Char} (stops : Stops (c :: text)) :
    c.isDigit = false := by
  have all : ∀ c ∈ stopChars, c.isDigit = false := by simp [stopChars]
  exact all c (stops c rfl)

theorem Stops.ne {c : Char} {text : List Char} (stops : Stops (c :: text)) (mark : Char)
    (other : mark ∉ stopChars) : c ≠ mark := by
  rintro rfl
  exact other (stops c rfl)

section Integers

variable {rest : List Char}

theorem isDigit_ne {c mark : Char} (digit : c.isDigit = true) (other : mark.isDigit = false) :
    c ≠ mark := by
  rintro rfl
  rw [digit] at other
  cases other

theorem moreDigits_digits {digits : List Char} (all : ∀ d ∈ digits, d.isDigit = true)
    (stops : Stops rest) : moreDigits Char.isDigit (digits ++ rest) = some (digits, rest) := by
  induction digits with
  | nil =>
      cases rest with
      | nil => rfl
      | cons c rest =>
          have noGroup := stops.ne '_' (by decide)
          rw [List.nil_append]
          unfold moreDigits
          split
          · next empty => cases empty
          · next same => exact absurd (List.cons.inj same).1 noGroup
          · next same => exact absurd (List.cons.inj same).1 noGroup
          · next same =>
              obtain ⟨rfl, rfl⟩ := List.cons.inj same
              simp [stops.noDigit]
  | cons c digits ih =>
      have digit := all c List.mem_cons_self
      have noGroup : c ≠ '_' := isDigit_ne digit (by decide)
      have more := ih fun d member => all d (List.mem_cons_of_mem c member)
      rw [List.cons_append]
      unfold moreDigits
      split
      · next empty => cases empty
      · next same => exact absurd (List.cons.inj same).1 noGroup
      · next same => exact absurd (List.cons.inj same).1 noGroup
      · next same =>
          obtain ⟨rfl, rfl⟩ := List.cons.inj same
          simp [digit, more]

theorem wholeDigits?_toDigits (n : Nat) (stops : Stops rest) :
    wholeDigits? (Nat.toDigits 10 n ++ rest) = some (Nat.toDigits 10 n, rest) := by
  rcases Decimal.toDigits_cases n with ⟨_, zero⟩ | ⟨c, digits, written, first, digit, all⟩
  · rw [zero]
    rfl
  · rw [written, List.cons_append]
    unfold wholeDigits?
    split
    · next same => exact absurd (List.cons.inj same).1 first
    · simp [digits?, digit, moreDigits_digits all stops]

theorem digitsValue_digits {digits : List Char} (all : ∀ d ∈ digits, d.isDigit = true)
    (start : Nat) :
    digits.foldl (fun value c => value * 10 + (hexValue? c).getD 0) start =
      Nat.ofDigitChars 10 digits start := by
  induction digits generalizing start with
  | nil => rfl
  | cons c digits ih =>
      have digit : '0' ≤ c ∧ c ≤ '9' := by
        have digit := all c List.mem_cons_self
        simp only [Char.isDigit, Bool.and_eq_true, decide_eq_true_eq] at digit
        exact digit
      rw [List.foldl_cons, Nat.ofDigitChars_cons, hexValue?, if_pos digit, Nat.mul_comm]
      exact ih (fun d member => all d (List.mem_cons_of_mem c member)) _

theorem digitsValue_toDigits (n : Nat) : digitsValue 10 (Nat.toDigits 10 n) = n := by
  have all (d : Char) (member : d ∈ Nat.toDigits 10 n) : d.isDigit = true :=
    Nat.isDigit_of_mem_toDigits (by decide) (by decide) member
  exact (digitsValue_digits all 0).trans Nat.ofDigitChars_ten_toDigits

def Halts (text : List Char) : Prop := Stops (text.dropWhile Char.isDigit)

theorem halts_toDigits (n : Nat) (stops : Stops rest) : Halts (Nat.toDigits 10 n ++ rest) := by
  have all (d : Char) (member : d ∈ Nat.toDigits 10 n) : d.isDigit = true :=
    Nat.isDigit_of_mem_toDigits (by decide) (by decide) member
  unfold Halts
  rw [List.dropWhile_append_of_pos all]
  cases rest with
  | nil => exact stops
  | cons c rest => rwa [List.dropWhile_cons_of_neg (by simp [stops.noDigit])]

/-- A number of fixed length, as dates have them, is followed by more digits or by an end. -/
theorem expect?_fixedNumber {text later : List Char} {count value : Nat} {mark : Char}
    (halts : Halts text) (found : fixedNumber? count text = some (value, later))
    (noDigit : mark.isDigit = false) (other : mark ∉ stopChars) :
    expect? mark later = none := by
  simp only [fixedNumber?] at found
  split at found
  · next run =>
      obtain ⟨-, rfl⟩ := Prod.mk.inj (Option.some.inj found)
      have further : Halts (text.drop count) := by
        unfold Halts at halts ⊢
        rwa [← List.take_append_drop count text, List.dropWhile_append_of_pos
          (fun c member => List.all_eq_true.mp run.2 c member)] at halts
      cases left : text.drop count with
      | nil => rfl
      | cons c later =>
          rw [left] at further
          by_cases digit : c.isDigit = true
          · simp [expect?, isDigit_ne digit noDigit]
          · unfold Halts at further
            rw [List.dropWhile_cons_of_neg digit] at further
            simp [expect?, further.ne mark other]
  · cases found

theorem datetime?_halts {text : List Char} (halts : Halts text) : datetime? text = none := by
  have year (count : Nat) (later : Nat × List Char) (found : fixedNumber? count text = some later) :
      expect? '-' later.2 = none :=
    expect?_fixedNumber halts found (by decide) (by decide)
  have hour (count : Nat) (later : Nat × List Char) (found : fixedNumber? count text = some later) :
      expect? ':' later.2 = none :=
    expect?_fixedNumber halts found (by decide) (by decide)
  have noDate : date? text = none := by
    unfold date?
    cases found : fixedNumber? 4 text with
    | none => rfl
    | some later => simp [year 4 later found]
  have noTime : time? text = none := by
    unfold time? hourAndMinute?
    cases found : fixedNumber? 2 text with
    | none => rfl
    | some later => simp [hour 2 later found]
  simp [datetime?, noDate, noTime]

theorem datetime?_minus (text : List Char) : datetime? ('-' :: text) = none := by
  have noNumber (count : Nat) : fixedNumber? (count + 1) ('-' :: text) = none := by
    simp [fixedNumber?]
  simp [datetime?, date?, time?, hourAndMinute?, noNumber]

theorem exponent?_stops (stops : Stops rest) : exponent? rest = none := by
  cases rest with
  | nil => rfl
  | cons c rest =>
      simp [exponent?, stops.ne 'e' (by decide), stops.ne 'E' (by decide)]

theorem sign_toString (value : Int) (rest : List Char) :
    sign ((toString value).toList ++ rest) =
      (decide (value < 0), Nat.toDigits 10 value.natAbs ++ rest) := by
  rw [Decimal.toList_toString]
  by_cases negative : value < 0
  · simp [sign, negative]
  · obtain ⟨c, digits, written, digit⟩ := Decimal.head_toDigits value.natAbs
    rw [if_neg negative, List.nil_append, written, List.cons_append]
    unfold sign
    split
    · next same => exact absurd (List.cons.inj same).1 (isDigit_ne digit (by decide))
    · next same => exact absurd (List.cons.inj same).1 (isDigit_ne digit (by decide))
    · simp [negative]

theorem datetime?_integer (value : Int) (stops : Stops rest) :
    datetime? ((toString value).toList ++ rest) = none := by
  rw [Decimal.toList_toString]
  split
  · exact datetime?_minus _
  · exact datetime?_halts (halts_toDigits _ stops)

theorem decimalFloat?_integer (value : Int) (stops : Stops rest) :
    decimalFloat? ((toString value).toList ++ rest) = none := by
  unfold decimalFloat?
  rw [sign_toString]
  simp only [wholeDigits?_toDigits _ stops, Option.bind_eq_bind, Option.bind_some]
  split
  · exact absurd rfl (stops.ne '.' (by decide))
  · simp [exponent?_stops stops]

theorem specialFloat?_integer (value : Int) (rest : List Char) :
    specialFloat? ((toString value).toList ++ rest) = none := by
  obtain ⟨c, digits, written, digit⟩ := Decimal.head_toDigits value.natAbs
  unfold specialFloat?
  rw [sign_toString, written, List.cons_append]
  simp only
  split
  · next same => exact absurd (List.cons.inj same).1 (isDigit_ne digit (by decide))
  · next same => exact absurd (List.cons.inj same).1 (isDigit_ne digit (by decide))
  · rfl

/-- No integer looks like one in another base. -/
theorem toString_ne_mark (value : Int) (stops : Stops rest) {mark : Char}
    (other : mark ∉ stopChars) (later : List Char) :
    (toString value).toList ++ rest ≠ '0' :: mark :: later := by
  intro same
  rw [Decimal.toList_toString] at same
  split at same
  · cases (List.cons.inj same).1
  · rcases Decimal.toDigits_cases value.natAbs with ⟨_, zero⟩ | ⟨c, digits, written, first, _, _⟩
    · rw [List.nil_append, zero] at same
      obtain rfl : rest = mark :: later := (List.cons.inj same).2
      exact stops.ne mark other rfl
    · rw [List.nil_append, written] at same
      exact first (List.cons.inj same).1

theorem integer?_integer (value : Int) (stops : Stops rest) :
    integer? ((toString value).toList ++ rest) =
      if IsLong value then some (.integer value, rest) else none := by
  have meant : (if value < 0 then -(value.natAbs : Int) else value.natAbs) = value := by
    split <;> omega
  have fits : integerOf? (decide (value < 0)) value.natAbs =
      if IsLong value then some (.integer value) else none := by
    simp only [integerOf?, decide_eq_true_eq, meant]
    rfl
  have decimal : integer? ((toString value).toList ++ rest) =
      let signed := sign ((toString value).toList ++ rest)
      (wholeDigits? signed.2).bind fun run =>
        (integerOf? signed.1 (digitsValue 10 run.1)).bind fun found => some (found, run.2) := by
    unfold integer?
    split
    · next same => exact absurd same (toString_ne_mark value stops (by decide) _)
    · next same => exact absurd same (toString_ne_mark value stops (by decide) _)
    · next same => exact absurd same (toString_ne_mark value stops (by decide) _)
    · rfl
  rw [decimal, sign_toString]
  simp only [wholeDigits?_toDigits _ stops, Option.bind_some, digitsValue_toDigits, fits]
  split <;> rfl

theorem number?_integer (value : Int) (stops : Stops rest) :
    number? ((toString value).toList ++ rest) =
      if IsLong value then some (.integer value, rest) else none := by
  rw [number?, datetime?_integer value stops, decimalFloat?_integer value stops,
    specialFloat?_integer, integer?_integer value stops]
  rfl

end Integers

end Marquee.Toml.Reader
