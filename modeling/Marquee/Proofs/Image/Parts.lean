import Marquee.Image.Bytes

/-!
Byte strings that are made of parts. What is read at the place of a part is what the part holds:
its bytes, a number that is written there, the checksum over it.
-/

namespace Marquee.Image

-- Powers are those of the core library, whatever else is in scope.
attribute [local instance (high)] instPowNat instNatPowNat

def Holds (file : ByteArray) (place : Nat) (part : ByteArray) : Prop :=
  ∃ before after, file = before ++ part ++ after ∧ before.size = place

theorem push_eq (bytes : ByteArray) (byte : UInt8) : bytes.push byte = bytes ++ ⟨#[byte]⟩ :=
  ByteArray.ext (by simp)

theorem ofList_append (first second : List UInt8) :
    ByteArray.mk (first ++ second).toArray = ⟨first.toArray⟩ ++ ⟨second.toArray⟩ :=
  ByteArray.ext (by simp)

theorem size_ofList (bytes : List UInt8) : (ByteArray.mk bytes.toArray).size = bytes.length :=
  List.size_toArray

theorem byteAt_ofList (bytes : List UInt8) (index : Nat) :
    byteAt ⟨bytes.toArray⟩ index = bytes.getD index 0 := by
  unfold byteAt
  by_cases inside : index < bytes.length
  · have within : index < (ByteArray.mk bytes.toArray).size := by rwa [size_ofList]
    rw [dif_pos within, ByteArray.getElem_eq_getElem_data]
    simp [inside]
  · have beyond : ¬ index < (ByteArray.mk bytes.toArray).size := by rwa [size_ofList]
    rw [dif_neg beyond]
    simp [Nat.not_lt.mp inside]

namespace Holds

variable {file part first second : ByteArray} {place : Nat}

theorem whole (same : file = part) : Holds file 0 part := ⟨.empty, .empty, by simp [same], rfl⟩

theorem left (holds : Holds file place (first ++ second)) : Holds file place first := by
  obtain ⟨before, after, whole, placed⟩ := holds
  exact ⟨before, second ++ after, by simp [whole, ByteArray.append_assoc], placed⟩

theorem right (holds : Holds file place (first ++ second)) :
    Holds file (place + first.size) second := by
  obtain ⟨before, after, whole, placed⟩ := holds
  exact ⟨before ++ first, after, by simp [whole, ByteArray.append_assoc], by simp [placed]⟩

theorem more (holds : Holds file place part) (further : ByteArray) :
    Holds (file ++ further) place part := by
  obtain ⟨before, after, rfl, placed⟩ := holds
  exact ⟨before, after ++ further, by simp only [ByteArray.append_assoc], placed⟩

theorem size_le (holds : Holds file place part) : place + part.size ≤ file.size := by
  obtain ⟨before, after, rfl, rfl⟩ := holds
  simp only [ByteArray.size_append]
  omega

theorem extract (holds : Holds file place part) :
    file.extract place (place + part.size) = part := by
  obtain ⟨before, after, rfl, rfl⟩ := holds
  rw [ByteArray.append_assoc]
  have whole := ByteArray.extract_append_size_add (a := before) (b := part ++ after) (i := 0)
    (j := part.size)
  rw [Nat.add_zero] at whole
  rw [whole, ByteArray.extract_append_eq_left rfl]

theorem byteAt_eq (holds : Holds file place part) {index : Nat} (inside : index < part.size) :
    byteAt file (place + index) = byteAt part index := by
  have within : place + index < file.size := by
    have := holds.size_le
    omega
  obtain ⟨before, after, rfl, rfl⟩ := holds
  rw [byteAt, byteAt, dif_pos within, dif_pos inside, ByteArray.getElem_append_left
    (by simp only [ByteArray.size_append]; omega), ByteArray.getElem_append_right (by omega)]
  simp

end Holds

theorem toNat_toUInt8 (n : Nat) : n.toUInt8.toNat = n % 256 := UInt8.toNat_ofNat'

theorem byteAt_bigEndianBytes {count index : Nat} (value : Nat) (inside : index < count) :
    (byteAt ⟨(bigEndianBytes count value).toArray⟩ index).toNat =
      value / 256 ^ (count - 1 - index) % 256 := by
  rw [byteAt_ofList, bigEndianBytes, ← toNat_toUInt8]
  simp [inside]

theorem byteAt_littleEndianBytes {count index : Nat} (value : Nat) (inside : index < count) :
    (byteAt ⟨(littleEndianBytes count value).toArray⟩ index).toNat =
      value / 256 ^ index % 256 := by
  rw [byteAt_ofList, littleEndianBytes, ← toNat_toUInt8]
  simp [inside]

theorem length_bigEndianBytes (count value : Nat) :
    (bigEndianBytes count value).length = count := by
  simp [bigEndianBytes]

theorem length_littleEndianBytes (count value : Nat) :
    (littleEndianBytes count value).length = count := by
  simp [littleEndianBytes]

namespace Holds

variable {file part : ByteArray} {place count value : Nat}

/-- The first bytes of a number are what the others do not count for. -/
theorem bigEndian_first (holds : Holds file place ⟨(bigEndianBytes count value).toArray⟩)
    {first : Nat} (atMost : first ≤ count) :
    bigEndian file place first = value / 256 ^ (count - first) % 256 ^ first := by
  induction first with
  | zero => simp [bigEndian, Nat.mod_one]
  | succ first ih =>
      have inside : first < count := atMost
      have next : (byteAt file (place + first)).toNat =
          value / 256 ^ (count - (first + 1)) % 256 := by
        rw [holds.byteAt_eq (by rwa [size_ofList, length_bigEndianBytes]),
          byteAt_bigEndianBytes value inside, Nat.sub_sub, Nat.add_comm 1 first]
      have shifted : count - first = count - (first + 1) + 1 := by omega
      rw [bigEndian, ih (Nat.le_of_lt inside), next, shifted, Nat.pow_succ,
        ← Nat.div_div_eq_div_mul, Nat.pow_succ, Nat.mul_comm (256 ^ first), Nat.mod_mul, Nat.add_comm, Nat.mul_comm 256]

theorem bigEndian_eq (holds : Holds file place ⟨(bigEndianBytes count value).toArray⟩)
    (small : value < 256 ^ count) : bigEndian file place count = value := by
  rw [holds.bigEndian_first (Nat.le_refl count), Nat.sub_self, Nat.pow_zero, Nat.div_one,
    Nat.mod_eq_of_lt small]

theorem littleEndian_first (holds : Holds file place ⟨(littleEndianBytes count value).toArray⟩)
    {first : Nat} (atMost : first ≤ count) :
    littleEndian file place first = value % 256 ^ first := by
  induction first with
  | zero => simp [littleEndian, Nat.mod_one]
  | succ first ih =>
      have inside : first < count := atMost
      have next : (byteAt file (place + first)).toNat = value / 256 ^ first % 256 := by
        rw [holds.byteAt_eq (by rwa [size_ofList, length_littleEndianBytes]),
          byteAt_littleEndianBytes value inside]
      rw [littleEndian, ih (Nat.le_of_lt inside), next, Nat.pow_succ, Nat.mod_mul,
        Nat.mul_comm (256 ^ first)]

theorem littleEndian_eq (holds : Holds file place ⟨(littleEndianBytes count value).toArray⟩)
    (small : value < 256 ^ count) : littleEndian file place count = value := by
  rw [holds.littleEndian_first (Nat.le_refl count), Nat.mod_eq_of_lt small]

end Holds

/-- Going through the bytes from a place on, one after another. -/
theorem foldlM_loop {state : Type} (step : state → UInt8 → state) (bytes : ByteArray) (stop : Nat)
    (within : stop ≤ bytes.size) (more place : Nat) (found : state)
    (enough : stop ≤ place + more) :
    ByteArray.foldlM.loop (m := Id) (fun found byte => pure (step found byte)) bytes stop within
        more place found =
      ((bytes.data.toList.take stop).drop place).foldl step found := by
  induction more generalizing place found with
  | zero =>
      rw [ByteArray.foldlM.loop, List.drop_eq_nil_of_le (by rw [List.length_take]; omega)]
      split <;> rfl
  | succ more ih =>
      rw [ByteArray.foldlM.loop]
      split
      · rename_i before
        have inside : place < (bytes.data.toList.take stop).length := by
          rw [List.length_take, Array.length_toList, ByteArray.size_data]
          omega
        rw [List.drop_eq_getElem_cons inside, List.foldl_cons, ← ih (place + 1) _ (by omega)]
        simp [ByteArray.getElem_eq_getElem_data]
      · rw [List.drop_eq_nil_of_le (by rw [List.length_take]; omega)]
        rfl

theorem foldl_eq {state : Type} (step : state → UInt8 → state) (found : state)
    (bytes : ByteArray) {start stop : Nat} (within : stop ≤ bytes.size) :
    bytes.foldl step found start stop =
      (bytes.extract start stop).data.toList.foldl step found := by
  rw [ByteArray.foldl, ByteArray.foldlM]
  simp only [dif_pos within]
  rw [foldlM_loop step bytes stop within (stop - start) start found (by omega), List.drop_take,
    ByteArray.data_extract, Array.toList_extract]
  rfl

theorem Holds.crc32_eq {file part : ByteArray} {place : Nat} (holds : Holds file place part) :
    crc32 file place (place + part.size) = crc32 part 0 part.size := by
  rw [crc32, crc32, foldl_eq _ _ _ holds.size_le, foldl_eq _ _ _ (Nat.le_refl _), holds.extract,
    ByteArray.extract_zero_size]

end Marquee.Image
