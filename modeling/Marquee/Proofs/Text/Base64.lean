import Marquee.Text.Base64

/-!
Bytes come back from their text. Every character stands for six bits and none of those is an equals
sign, so where a group has one, it is the last group.
-/

namespace Marquee.Text.Base64

theorem digit?_digit {value : Nat} (small : value < 64) : digit? (digit value) = some value := by
  have all : ∀ value < 64, digit? (digit value) = some value := by decide
  exact all value small

theorem digit_ne_equals {value : Nat} (small : value < 64) : digit value ≠ '=' := by
  intro same
  have read := digit?_digit small
  rw [same] at read
  cases read

theorem toUInt8_eq {n : Nat} {byte : UInt8} (same : n = byte.toNat) : n.toUInt8 = byte := by
  subst same
  exact UInt8.ofNat_toNat

variable {first second third fourth : Nat}

theorem decodeInto_four (found : ByteArray) (rest : List Char) (bits : Nat)
    (one : first < 64) (two : second < 64) (three : third < 64) (four : fourth < 64)
    (whole : ((first * 64 + second) * 64 + third) * 64 + fourth = bits) :
    decodeInto found (digit first :: digit second :: digit third :: digit fourth :: rest) =
      decodeInto (((found.push (bits / 256 / 256).toUInt8).push (bits / 256 % 256).toUInt8).push
        (bits % 256).toUInt8) rest := by
  rw [decodeInto]
  · simp only [digit?_digit, one, two, three, four, Option.bind_eq_bind, Option.bind_some, whole]
  · exact fun equals _ _ => digit_ne_equals three equals
  · exact fun equals _ => digit_ne_equals four equals

theorem decodeInto_three (found : ByteArray) (bits : Nat) (one : first < 64)
    (two : second < 64) (three : third < 64) (whole : (first * 64 + second) * 64 + third = bits) :
    decodeInto found [digit first, digit second, digit third, '='] =
      some ((found.push (bits / 4 / 256).toUInt8).push (bits / 4 % 256).toUInt8) := by
  rw [decodeInto]
  · simp only [digit?_digit, one, two, three, Option.bind_eq_bind, Option.bind_some, whole]
  · exact digit_ne_equals three

theorem decodeInto_two (found : ByteArray) (bits : Nat) (one : first < 64)
    (two : second < 64) (whole : first * 64 + second = bits) :
    decodeInto found [digit first, digit second, '=', '='] =
      some (found.push (bits / 16).toUInt8) := by
  rw [decodeInto]
  simp only [digit?_digit, one, two, Option.bind_eq_bind, Option.bind_some, whole]

theorem decodeInto_encode (bytes : List UInt8) (found : ByteArray) :
    decodeInto found (encode bytes) = some (found ++ ⟨bytes.toArray⟩) := by
  fun_induction encode bytes generalizing found with
  | case1 a b c rest bits ih =>
      have sizes : a.toNat < 256 ∧ b.toNat < 256 ∧ c.toNat < 256 :=
        ⟨a.toNat_lt, b.toNat_lt, c.toNat_lt⟩
      have whole : bits = (a.toNat * 256 + b.toNat) * 256 + c.toNat := rfl
      have high : (bits / 256 / 256).toUInt8 = a := toUInt8_eq (by omega)
      have middle : (bits / 256 % 256).toUInt8 = b := toUInt8_eq (by omega)
      have low : (bits % 256).toUInt8 = c := toUInt8_eq (by omega)
      rw [decodeInto_four found _ bits (by omega) (by omega) (by omega) (by omega) (by omega), high,
        middle, low, ih]
      exact congrArg some (ByteArray.ext (Array.ext' (by simp)))
  | case2 a b bits =>
      have sizes : a.toNat < 256 ∧ b.toNat < 256 := ⟨a.toNat_lt, b.toNat_lt⟩
      have whole : bits = (a.toNat * 256 + b.toNat) * 4 := rfl
      have high : (bits / 4 / 256).toUInt8 = a := toUInt8_eq (by omega)
      have low : (bits / 4 % 256).toUInt8 = b := toUInt8_eq (by omega)
      rw [decodeInto_three found bits (by omega) (by omega) (by omega) (by omega), high, low]
      exact congrArg some (ByteArray.ext (Array.ext' (by simp)))
  | case3 a bits =>
      have size : a.toNat < 256 := a.toNat_lt
      have whole : bits = a.toNat * 16 := rfl
      have only : (bits / 16).toUInt8 = a := toUInt8_eq (by omega)
      rw [decodeInto_two found bits (by omega) (by omega) (by omega), only]
      exact congrArg some (ByteArray.ext (Array.ext' (by simp)))
  | case4 =>
      rw [decodeInto]
      exact congrArg some ByteArray.append_empty.symm

theorem decode_encode (bytes : ByteArray) : decode (encode bytes.data.toList) = some bytes := by
  rw [decode, decodeInto_encode, ByteArray.empty_append]

end Marquee.Text.Base64
