import Marquee.Image.Png.Encode
import Marquee.Image.Inflate
import Marquee.Proofs.Image.Parts

/-!
Streams whose blocks are stored without being compressed stand for the bytes that were stored.
Every block begins and ends between two bytes, so a place in the stream is a place in bytes
wherever a block begins.
-/

namespace Marquee.Image

-- Powers are those of the core library, whatever else is in scope.
attribute [local instance (high)] instPowNat instNatPowNat

namespace Png

def storedBlock (isLast : Bool) (data : ByteArray) : ByteArray :=
  ⟨#[if isLast then 1 else 0]⟩ ++ (⟨(littleEndianBytes 2 data.size).toArray⟩ ++
    (⟨(littleEndianBytes 2 (blockLimit - data.size)).toArray⟩ ++ data))

theorem size_storedBlock (isLast : Bool) (data : ByteArray) :
    (storedBlock isLast data).size = 5 + data.size := by
  simp only [storedBlock, ByteArray.size_append, size_ofList, length_littleEndianBytes]
  change 1 + (2 + (2 + data.size)) = _
  omega

def blocksFrom (data : ByteArray) (fuel start : Nat) : ByteArray :=
  storedBlocks data fuel start .empty

theorem storedBlocks_succ (data : ByteArray) (fuel start : Nat) (done : ByteArray) :
    storedBlocks data (fuel + 1) start done =
      let stop := min (start + blockLimit) data.size
      let done := done ++ storedBlock (stop == data.size) (data.extract start stop)
      if stop == data.size then done else storedBlocks data fuel stop done := by
  have length : (data.extract start (min (start + blockLimit) data.size)).size =
      min (start + blockLimit) data.size - start := by
    rw [ByteArray.size_extract]
    omega
  have head (first : UInt8) (rest more : List UInt8) :
      ByteArray.mk (first :: (rest ++ more)).toArray =
        ⟨#[first]⟩ ++ (⟨rest.toArray⟩ ++ ⟨more.toArray⟩) := ByteArray.ext (by simp)
  rw [storedBlocks]
  simp only [storedBlock, length, head, ByteArray.append_assoc]

theorem storedBlocks_eq (data : ByteArray) (fuel start : Nat) (done : ByteArray) :
    storedBlocks data fuel start done = done ++ blocksFrom data fuel start := by
  induction fuel generalizing start done with
  | zero => simp [storedBlocks, blocksFrom]
  | succ fuel ih =>
      rw [blocksFrom, storedBlocks_succ, storedBlocks_succ]
      dsimp only
      split
      · rw [ByteArray.empty_append]
      · rw [ih, ih _ (.empty ++ _), ByteArray.empty_append, ByteArray.append_assoc]

theorem blocksFrom_succ (data : ByteArray) (fuel start : Nat) :
    blocksFrom data (fuel + 1) start =
      let stop := min (start + blockLimit) data.size
      storedBlock (stop == data.size) (data.extract start stop) ++
        if stop == data.size then .empty else blocksFrom data fuel stop := by
  rw [blocksFrom, storedBlocks_succ]
  dsimp only
  rw [ByteArray.empty_append]
  split
  · rw [ByteArray.append_empty]
  · rw [storedBlocks_eq]

end Png

namespace Inflating

open Png

variable {source output data : ByteArray} {place : Nat}

theorem bit?_eq (output : ByteArray) (inside : place < source.size) (index : Nat)
    (small : index < 8) :
    bit? ⟨source, 8 * place + index, output⟩ =
      some ((byteAt source place).toNat / 2 ^ index % 2,
        ⟨source, 8 * place + (index + 1), output⟩) := by
  have here : (8 * place + index) / 8 = place := by omega
  have there : (8 * place + index) % 8 = index := by omega
  simp only [bit?, here, there, inside, if_true]
  rfl

theorem stored?_eq (position : Nat) (output : ByteArray) (short : data.size ≤ blockLimit)
    (here : (position + 7) / 8 = place)
    (holds : Holds source place (⟨(littleEndianBytes 2 data.size).toArray⟩ ++
      (⟨(littleEndianBytes 2 (blockLimit - data.size)).toArray⟩ ++ data))) :
    stored? ⟨source, position, output⟩ =
      some ⟨source, 8 * (place + 4 + data.size), output ++ data⟩ := by
  have bound : data.size ≤ 65535 := short
  have width (value : Nat) : (ByteArray.mk (littleEndianBytes 2 value).toArray).size = 2 := by
    rw [size_ofList, length_littleEndianBytes]
  have checked := holds.right.left
  have kept := holds.right.right
  rw [width] at checked kept
  rw [width] at kept
  have length : littleEndian source place 2 = data.size :=
    holds.left.littleEndian_eq (by omega)
  have check : littleEndian source (place + 2) 2 = 65535 - data.size :=
    checked.littleEndian_eq (by unfold blockLimit; omega)
  have inside := kept.size_le
  simp only [stored?, here, length, check]
  rw [if_neg (by omega), kept.extract]

/-- The three bits in front of a block whose first byte is one or zero. -/
theorem head_eq (output : ByteArray) (inside : place < source.size) {isLast : Bool}
    (flag : byteAt source place = if isLast then 1 else 0) :
    bits? ⟨source, 8 * place, output⟩ 1 =
        some (isLast.toNat, ⟨source, 8 * place + 1, output⟩) ∧
      bits? ⟨source, 8 * place + 1, output⟩ 2 = some (0, ⟨source, 8 * place + 3, output⟩) := by
  have zero := bit?_eq output inside 0 (by decide)
  have one := bit?_eq output inside 1 (by decide)
  have two := bit?_eq output inside 2 (by decide)
  rw [flag] at zero one two
  constructor
  · simp only [bits?, Nat.add_zero] at zero ⊢
    rw [zero]
    cases isLast <;> rfl
  · simp only [bits?, one, two, Option.bind_eq_bind, Option.bind_some]
    cases isLast <;> rfl

theorem block?_eq {isLast : Bool} (output : ByteArray) (short : data.size ≤ blockLimit)
    (holds : Holds source place (storedBlock isLast data)) :
    block? ⟨source, 8 * place, output⟩ =
      some (isLast, ⟨source, 8 * (place + (5 + data.size)), output ++ data⟩) := by
  have inside : place < source.size := by
    have := holds.size_le
    rw [size_storedBlock] at this
    omega
  have flag : byteAt source place = if isLast then 1 else 0 := holds.left.byteAt_eq Nat.zero_lt_one
  have rest : Holds source (place + 1) _ := holds.right
  obtain ⟨last, kind⟩ := head_eq output inside flag
  have stored := stored?_eq (8 * place + 3) output short (by omega) rest
  have ends : place + 1 + 4 + data.size = place + (5 + data.size) := by omega
  rw [ends] at stored
  simp only [block?, last, kind, stored, Option.bind_eq_bind, Option.bind_some, if_true]
  cases isLast <;> rfl

/-- Each block makes the place one byte later at least, so the stream is long enough for as many
blocks as it has. -/
theorem blocks?_eq {fuel start more : Nat} (output : ByteArray)
    (holds : Holds source place (blocksFrom data fuel start)) (begun : start ≤ data.size)
    (fuelled : data.size < start + fuel) (enough : source.size < place + more) :
    blocks? more ⟨source, 8 * place, output⟩ =
      some ⟨source, 8 * (place + (blocksFrom data fuel start).size),
        output ++ data.extract start data.size⟩ := by
  induction fuel generalizing place output start more with
  | zero => omega
  | succ fuel ih =>
      rw [blocksFrom_succ] at holds ⊢
      dsimp only at holds ⊢
      generalize stops : min (start + blockLimit) data.size = stop at holds ⊢
      have limit : blockLimit = 65535 := rfl
      have size : (data.extract start stop).size = stop - start := by
        rw [ByteArray.size_extract]
        omega
      have block := block?_eq output (by omega) holds.left
      have inside := holds.left.size_le
      have rest := holds.right
      rw [size_storedBlock] at inside rest
      cases more with
      | zero => omega
      | succ more =>
          rw [blocks?, block]
          simp only [Option.bind_eq_bind, Option.bind_some, ByteArray.size_append,
            size_storedBlock]
          by_cases last : stop = data.size
          · simp [last]
          · have goes : (stop == data.size) = false := by simp [last]
            simp only [goes, Bool.false_eq_true, if_false] at rest ⊢
            rw [ih _ rest (by omega) (by omega) (by omega), ByteArray.append_assoc,
              ← ByteArray.extract_eq_extract_append_extract stop (by omega) (by omega)]
            simp only [Nat.add_assoc]

end Inflating

theorem storedStream_eq (data : ByteArray) :
    Png.storedStream data = ⟨#[0x78, 0x01]⟩ ++ (Png.blocksFrom data (data.size + 1) 0 ++
      ⟨(bigEndianBytes 4 (adler32 data)).toArray⟩) := by
  rw [Png.storedStream, Png.storedBlocks_eq, ByteArray.append_assoc]

theorem inflate?_storedStream (data : ByteArray) :
    inflate? (Png.storedStream data) = some data := by
  have parts := Holds.whole (storedStream_eq data)
  have size : (Png.storedStream data).size =
      2 + ((Png.blocksFrom data (data.size + 1) 0).size + 4) := by
    rw [storedStream_eq, ByteArray.size_append, ByteArray.size_append,
      size_ofList (bigEndianBytes _ _), length_bigEndianBytes]
    rfl
  generalize Png.storedStream data = source at parts size ⊢
  have method : byteAt source 0 = 0x78 := parts.left.byteAt_eq Nat.zero_lt_two
  have flags : byteAt source 1 = 0x01 := parts.left.byteAt_eq Nat.one_lt_two
  have blocks : Holds source 2 _ := parts.right.left
  have inflated := Inflating.blocks?_eq .empty blocks (Nat.zero_le _) (by omega)
    (show source.size < 2 + (8 * source.size + 1) by omega)
  rw [ByteArray.empty_append, ByteArray.extract_zero_size] at inflated
  have known : ¬ (source.size < 2 ∨ (0x78 : UInt8).toNat % 16 ≠ 8 ∨ 7 < (0x78 : UInt8).toNat / 16 ∨
      (0x01 : UInt8).toNat / 32 % 2 = 1 ∨
        ((0x78 : UInt8).toNat * 256 + (0x01 : UInt8).toNat) % 31 ≠ 0) := by
    have large : ¬ source.size < 2 := by omega
    simp [large]
  simp only [inflate?, method, flags]
  rw [if_neg known]
  simp only [Nat.reduceMul] at inflated
  rw [inflated, Option.bind_eq_bind, Option.bind_some, if_neg (by dsimp only; omega)]

end Marquee.Image
