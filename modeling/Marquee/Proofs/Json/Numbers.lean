import Mathlib.Algebra.Group.Nat.Defs
import Marquee.Json.Reader
import Marquee.Json.Skip
import Marquee.Proofs.Decimal.Digits
import Marquee.Proofs.Json.Spelling

/-!
Reading an integer of the 64-bit range gives back this integer, and passing over it ends at the same
place.
-/

namespace Marquee.Json

def Closes (rest : List Char) : Prop :=
  ∀ c, rest.head? = some c →
    c = ' ' ∨ c = '\n' ∨ c = '\t' ∨ c = '\r' ∨ c = ',' ∨ c = ']' ∨ c = '\x7d'

theorem Closes.head {c : Char} {rest : List Char} (closes : Closes (c :: rest)) :
    c.isDigit = false ∧ c ≠ '.' ∧ c ≠ 'e' ∧ c ≠ 'E' := by
  rcases closes c rfl with rfl | rfl | rfl | rfl | rfl | rfl | rfl <;> decide

theorem closes_nil : Closes [] := nofun

namespace Reader

theorem le_ofDigitChars (digits : List Char) (start : Nat) :
    start ≤ Nat.ofDigitChars 10 digits start := by
  induction digits generalizing start with
  | nil => exact Nat.le_refl start
  | cons c digits ih =>
      rw [Nat.ofDigitChars_cons]
      exact Nat.le_trans (by omega) (ih _)

theorem wholeDigits_digits {digits rest : List Char} (all : ∀ d ∈ digits, d.isDigit = true)
    (closes : Closes rest) (start : Nat) (bounded : Nat.ofDigitChars 10 digits start < 2 ^ 64) :
    wholeDigits start 0 (digits ++ rest) = (Nat.ofDigitChars 10 digits start, 0, rest) := by
  induction digits generalizing start with
  | nil =>
      cases rest with
      | nil => rfl
      | cons c rest =>
          rw [List.nil_append, wholeDigits, closes.head.1]
          rfl
  | cons c digits ih =>
      rw [Nat.ofDigitChars_cons, Nat.mul_comm] at bounded ⊢
      -- What was read so far is at most the whole number, so no step goes beyond 64 bits.
      have least := le_ofDigitChars digits (start * 10 + (c.toNat - '0'.toNat))
      have fits : takes start c = true := decide_eq_true (Nat.lt_of_le_of_lt least bounded)
      rw [List.cons_append, wholeDigits]
      simp only [all c List.mem_cons_self, fits, decide_true, Bool.and_self, if_true]
      exact ih (fun d member => all d (List.mem_cons_of_mem c member)) _ bounded

theorem afterWhole_closes {rest : List Char} (closes : Closes rest) (negative : Bool)
    (magnitude : Nat) :
    afterWhole negative magnitude 0 rest = .ok (ofInteger negative magnitude, rest) := by
  cases rest with
  | nil => rfl
  | cons c rest =>
      obtain ⟨_, noPoint, noSmall, noCapital⟩ := closes.head
      unfold afterWhole
      split
      · next same => exact absurd (List.cons.inj same).1 noPoint
      · next same => exact absurd (List.cons.inj same).1 noSmall
      · next same => exact absurd (List.cons.inj same).1 noCapital
      · rfl

theorem unsigned_digits {rest : List Char} (closes : Closes rest) (negative : Bool)
    (magnitude : Nat) (bounded : magnitude < 2 ^ 64) :
    unsigned negative (Nat.toDigits 10 magnitude ++ rest) =
      .ok (ofInteger negative magnitude, rest) := by
  have value : Nat.ofDigitChars 10 (Nat.toDigits 10 magnitude) 0 = magnitude :=
    Nat.ofDigitChars_ten_toDigits
  rcases Decimal.toDigits_cases magnitude with ⟨rfl, zero⟩ | ⟨c, digits, written, first, digit, all⟩
  · rw [zero]
    cases rest with
    | nil => rfl
    | cons c rest =>
        simp only [List.singleton_append, unsigned, if_true, closes.head.1, Bool.false_eq_true,
          if_false]
        exact afterWhole_closes closes negative 0
  · have everyDigit : ∀ d ∈ c :: digits, d.isDigit = true := by
      intro d member
      rcases List.mem_cons.mp member with rfl | later
      · exact digit
      · exact all d later
    rw [written] at value
    have whole := wholeDigits_digits everyDigit closes 0 (by rw [value]; exact bounded)
    rw [value, List.cons_append] at whole
    rw [written, List.cons_append]
    unfold unsigned
    simp only [first, if_false, digit, if_true, whole]
    exact afterWhole_closes closes negative magnitude

theorem skipFraction_closes {rest : List Char} (closes : Closes rest) :
    skipFraction rest = .ok rest := by
  cases rest with
  | nil => rfl
  | cons c rest =>
      obtain ⟨_, noPoint, noSmall, noCapital⟩ := closes.head
      unfold skipFraction
      split
      · next same => exact absurd (List.cons.inj same).1 noPoint
      · next same => exact absurd (List.cons.inj same).1 noPoint
      · unfold skipScale
        split
        · next same => exact absurd (List.cons.inj same).1 noSmall
        · next same => exact absurd (List.cons.inj same).1 noCapital
        · rfl

theorem skipNumber_digits {rest : List Char} (closes : Closes rest) (magnitude : Nat) :
    skipNumber (Nat.toDigits 10 magnitude ++ rest) = .ok rest := by
  rcases Decimal.toDigits_cases magnitude with ⟨rfl, zero⟩ | ⟨c, digits, written, first, digit, all⟩
  · rw [zero]
    cases rest with
    | nil => rfl
    | cons c rest =>
        simp only [List.singleton_append, skipNumber, if_true, closes.head.1, Bool.false_eq_true,
          if_false]
        exact skipFraction_closes closes
  · have dropped : (digits ++ rest).dropWhile Char.isDigit = rest := by
      rw [List.dropWhile_append_of_pos all]
      cases rest with
      | nil => rfl
      | cons c rest => simp [closes.head.1]
    rw [written, List.cons_append]
    unfold skipNumber
    simp only [first, if_false, digit, if_true, dropped]
    exact skipFraction_closes closes

theorem digit_begins_no_word {c : Char} (digit : c.isDigit = true) :
    c ≠ 'n' ∧ c ≠ 't' ∧ c ≠ 'f' ∧ c ≠ '-' := by
  refine ⟨?_, ?_, ?_, ?_⟩ <;> (rintro rfl; exact absurd digit (by decide))

theorem scalar_integer {value : Int} (word : IsWord value) {rest : List Char}
    (closes : Closes rest) :
    scalar ((toString value).toList ++ rest) = .ok (.number (.int value), rest) := by
  rw [Decimal.toList_toString]
  by_cases negative : value < 0
  · have magnitude : value.natAbs ≠ 0 ∧ value.natAbs ≤ 0x8000000000000000 := by
      have least := word.1
      omega
    have read := unsigned_digits closes true value.natAbs (by omega)
    have same : ofInteger true value.natAbs = .int value := by
      simp only [ofInteger, Bool.not_true, Bool.false_eq_true, if_false, magnitude.1, false_or,
        Nat.not_lt.mpr magnitude.2]
      exact congrArg Number.int (by omega)
    rw [if_pos negative, List.append_assoc, List.singleton_append, scalar]
    simp [read, same, bind, Except.bind]
  · have read := unsigned_digits closes false value.natAbs (by
      have most := word.2
      omega)
    have same : ofInteger false value.natAbs = .int value := by
      simp only [ofInteger, Bool.not_false, if_true]
      exact congrArg Number.int (by omega)
    rw [if_neg negative, List.nil_append]
    rcases Decimal.toDigits_cases value.natAbs with ⟨_, zero⟩ | ⟨c, digits, written, _, digit, _⟩
    · rw [zero] at read ⊢
      rw [List.singleton_append] at read ⊢
      simp [scalar, read, same, bind, Except.bind]
    · rw [written, List.cons_append] at read ⊢
      obtain ⟨noNull, noTrue, noFalse, noSign⟩ := digit_begins_no_word digit
      simp [scalar, read, same, bind, Except.bind, noNull, noTrue, noFalse, noSign, digit]

theorem skipScalar_integer (value : Int) {rest : List Char} (closes : Closes rest) :
    skipScalar ((toString value).toList ++ rest) = .ok (some rest) := by
  rw [Decimal.toList_toString]
  have skipped := skipNumber_digits closes value.natAbs
  by_cases negative : value < 0
  · rw [if_pos negative, List.append_assoc, List.singleton_append, skipScalar]
    simp [skipped, Functor.map, Except.map]
  · rw [if_neg negative, List.nil_append]
    rcases Decimal.toDigits_cases value.natAbs with ⟨_, zero⟩ | ⟨c, digits, written, _, digit, _⟩
    · rw [zero] at skipped ⊢
      rw [List.singleton_append] at skipped ⊢
      simp [skipScalar, skipped, Functor.map, Except.map]
    · rw [written, List.cons_append] at skipped ⊢
      obtain ⟨noNull, noTrue, noFalse, noSign⟩ := digit_begins_no_word digit
      simp [skipScalar, skipped, Functor.map, Except.map, noNull, noTrue, noFalse, noSign, digit]

end Reader

end Marquee.Json
