import Mathlib.Data.List.Basic
import Mathlib.Data.Nat.Basic

/-!
Numbers written in decimal: the first digit of a number that is not zero is not zero either, and an
integer is written as its magnitude, after a minus sign where it is negative.
-/

namespace Marquee.Decimal

theorem toDigits_split {n : Nat} (large : 10 ≤ n) :
    Nat.toDigits 10 n = Nat.toDigits 10 (n / 10) ++ [(n % 10).digitChar] := by
  have whole := Nat.toDigits_append_toDigits (b := 10) (n := n / 10) (d := n % 10) (by decide)
    (by omega) (Nat.mod_lt n (by decide))
  rw [Nat.toDigits_of_lt_base (Nat.mod_lt n (by decide)), Nat.div_add_mod] at whole
  exact whole.symm

theorem head_ne_zero {n : Nat} (positive : n ≠ 0) : (Nat.toDigits 10 n).head? ≠ some '0' := by
  induction n using Nat.strongRecOn with
  | ind n ih =>
      by_cases small : n < 10
      · have all : ∀ n < 10, n ≠ 0 → [n.digitChar].head? ≠ some '0' := by decide
        rw [Nat.toDigits_of_lt_base small]
        exact all n small positive
      · have large : 10 ≤ n := Nat.not_lt.mp small
        rw [toDigits_split large, List.head?_append_of_ne_nil _ Nat.toDigits_ne_nil]
        exact ih (n / 10) (by omega) (by omega)

/-- The digits of a number: a zero stands alone. -/
theorem toDigits_cases (n : Nat) :
    (n = 0 ∧ Nat.toDigits 10 n = ['0']) ∨
      ∃ c digits, Nat.toDigits 10 n = c :: digits ∧ c ≠ '0' ∧ c.isDigit = true ∧
        ∀ d ∈ digits, d.isDigit = true := by
  by_cases zero : n = 0
  · subst zero
    exact Or.inl ⟨rfl, rfl⟩
  · have all (c : Char) (member : c ∈ Nat.toDigits 10 n) : c.isDigit = true :=
      Nat.isDigit_of_mem_toDigits (by decide) (by decide) member
    have nonzero := head_ne_zero zero
    cases written : Nat.toDigits 10 n with
    | nil => exact absurd written Nat.toDigits_ne_nil
    | cons c digits =>
        rw [written] at all nonzero
        refine Or.inr ⟨c, digits, rfl, ?_, all c List.mem_cons_self, ?_⟩
        · intro same
          exact nonzero (congrArg some same)
        · exact fun d member => all d (List.mem_cons_of_mem c member)

theorem head_toDigits (n : Nat) :
    ∃ c digits, Nat.toDigits 10 n = c :: digits ∧ c.isDigit = true := by
  rcases toDigits_cases n with ⟨_, zero⟩ | ⟨c, digits, written, _, digit, _⟩
  · exact ⟨'0', [], zero, rfl⟩
  · exact ⟨c, digits, written, digit⟩

theorem toList_toString (n : Int) :
    (toString n).toList =
      (if n < 0 then ['-'] else []) ++ Nat.toDigits 10 n.natAbs := by
  cases n with
  | ofNat n =>
      have nonneg : ¬ Int.ofNat n < 0 := by simp
      rw [if_neg nonneg, Int.toString_eq_repr]
      exact Nat.toList_repr
  | negSucc n =>
      rw [if_pos (Int.negSucc_lt_zero n), Int.toString_eq_repr]
      change ("-" ++ (n + 1).repr).toList = _
      rw [String.toList_append, Nat.toList_repr]
      rfl

/-- The first character of a number is a digit or a minus sign, so it begins nothing else. -/
theorem head_toString (n : Int) :
    ∃ c rest, (toString n).toList = c :: rest ∧ (c = '-' ∨ c.isDigit = true) := by
  rw [toList_toString]
  split
  · exact ⟨'-', _, rfl, Or.inl rfl⟩
  · obtain ⟨c, digits, written, digit⟩ := head_toDigits n.natAbs
    exact ⟨c, digits, written, Or.inr digit⟩

end Marquee.Decimal
