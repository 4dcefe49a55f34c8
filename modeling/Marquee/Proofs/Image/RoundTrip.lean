import Marquee.Proofs.Image.Chunks

/-!
A raster that is written as a file is read from it again, pixel by pixel.
-/

namespace Marquee.Image

-- Powers are those of the core library, whatever else is in scope.
attribute [local instance (high)] instPowNat instNatPowNat

theorem Raster.eq_of_bytes {first second : Raster} (width : first.width = second.width)
    (height : first.height = second.height) (bytes : first.bytes = second.bytes) :
    first = second := by
  cases first
  cases second
  simp_all

theorem Raster.ofFn_eq (raster : Raster) (byte : Nat → UInt8)
    (same : ∀ index < raster.bytes.size, byte index = byteAt raster.bytes index) :
    Raster.ofFn raster.width raster.height byte = raster := by
  refine Raster.eq_of_bytes rfl rfl (ByteArray.ext ?_)
  have size : raster.bytes.data.size = raster.width * raster.height * 4 := raster.size_bytes
  refine Array.ext (by simp [Raster.ofFn, size]) fun index _ within => ?_
  have here : index < raster.bytes.size := within
  simp [Raster.ofFn, same index here, byteAt, here, ByteArray.getElem_eq_getElem_data]

theorem getD_ofFn {size index : Nat} {sample : Fin size → Nat} (inside : index < size) :
    (Array.ofFn sample).getD index 0 = sample ⟨index, inside⟩ := by
  simp [Array.getD, inside]

namespace Png

variable {raster : Raster}

def writtenRows (raster : Raster) (count : Nat) : ByteArray :=
  (List.range count).foldl (fun rows index => rows.push 0 ++ raster.row index) .empty

theorem writtenRows_succ (raster : Raster) (count : Nat) :
    writtenRows raster (count + 1) = writtenRows raster count ++ (⟨#[0]⟩ ++ raster.row count) := by
  simp only [writtenRows, List.range_succ, List.foldl_append, List.foldl_cons, List.foldl_nil]
  rw [push_eq, ByteArray.append_assoc]

theorem row_eq (raster : Raster) (index : Nat) :
    raster.row index =
      raster.bytes.extract (index * (raster.width * 4)) ((index + 1) * (raster.width * 4)) := by
  rw [Raster.row, Nat.mul_assoc, Nat.mul_assoc]

theorem size_bytes_eq (raster : Raster) :
    raster.bytes.size = raster.height * (raster.width * 4) := by
  rw [raster.size_bytes, Nat.mul_comm raster.width, Nat.mul_assoc]

theorem size_row {index : Nat} (inside : index < raster.height) :
    (raster.row index).size = raster.width * 4 := by
  have ends : (index + 1) * (raster.width * 4) ≤ raster.height * (raster.width * 4) :=
    Nat.mul_le_mul_right _ inside
  rw [row_eq, ByteArray.size_extract, size_bytes_eq, Nat.min_eq_left ends, Nat.succ_mul,
    Nat.add_sub_cancel_left]

theorem size_writtenRows {count : Nat} (atMost : count ≤ raster.height) :
    (writtenRows raster count).size = count * (raster.width * 4 + 1) := by
  induction count with
  | zero => simp [writtenRows]
  | succ count ih =>
      rw [writtenRows_succ, ByteArray.size_append, ByteArray.size_append, size_row atMost,
        ih (Nat.le_of_lt atMost), Nat.succ_mul, Nat.add_comm (raster.width * 4) 1]
      rfl

theorem holds_row {index count : Nat} (before : index < count) (atMost : count ≤ raster.height) :
    Holds (writtenRows raster count) (index * (raster.width * 4 + 1))
      (⟨#[0]⟩ ++ raster.row index) := by
  induction count with
  | zero => omega
  | succ count ih =>
      rw [writtenRows_succ]
      by_cases newest : index = count
      · subst newest
        rw [← size_writtenRows (Nat.le_of_lt atMost)]
        have whole :=
          Holds.whole (rfl : writtenRows raster index ++ (⟨#[0]⟩ ++ raster.row index) = _)
        simpa using whole.right
      · exact (ih (by omega) (by omega)).more _

theorem unfilter?_zero {start count : Nat} {filtered : ByteArray} (step : Nat)
    (above done : ByteArray) (inside : start + done.size + count ≤ filtered.size) :
    unfilter? 0 step above filtered start count done =
      some (done ++ filtered.extract (start + done.size) (start + done.size + count)) := by
  induction count generalizing done with
  | zero => simp [unfilter?]
  | succ count ih =>
      have here : start + done.size < filtered.size := by omega
      have size : (done.push (byteAt filtered (start + done.size))).size = done.size + 1 :=
        ByteArray.size_push
      simp only [unfilter?, filterTerm?, Option.bind_eq_bind, Option.bind_some, Nat.add_zero,
        Nat.toUInt8, UInt8.ofNat_toNat]
      have ends : start + done.size + (count + 1) = start + done.size + 1 + count := by omega
      rw [ih _ (by rw [size]; omega), size, byteAt, dif_pos here, push_eq, ByteArray.append_assoc,
        ends, ← Nat.add_assoc start, ByteArray.extract_eq_extract_append_extract
        (start + done.size + 1) (Nat.le_succ _) (Nat.le_add_right _ _),
        ByteArray.extract_add_one here]
      rfl

def Header.of (raster : Raster) : Header := ⟨raster.width, raster.height, 8, .rgba⟩

theorem rowLength_of (raster : Raster) : (Header.of raster).rowLength = raster.width * 4 := by
  simp only [Header.rowLength, Header.of, ColorType.channels]
  omega

/-- The rows from one on are put after those that are there. -/
theorem rows?_eq (raster : Raster) {count index : Nat} (above done : ByteArray)
    (rest : index + count = raster.height) :
    rows? (Header.of raster) (plainRows raster) count (index * (raster.width * 4 + 1)) above done =
      some (done ++ raster.bytes.extract (index * (raster.width * 4)) raster.bytes.size) := by
  induction count generalizing index above done with
  | zero =>
      have ends : index * (raster.width * 4) = raster.bytes.size := by
        rw [size_bytes_eq, ← rest, Nat.add_zero]
      rw [rows?, ends, ByteArray.extract_same, ByteArray.append_empty]
  | succ count ih =>
      have inside : index < raster.height := by omega
      have holds : Holds (plainRows raster) _ _ := holds_row inside (Nat.le_refl _)
      have unfiltered : byteAt (plainRows raster) (index * (raster.width * 4 + 1)) = 0 :=
        holds.left.byteAt_eq Nat.zero_lt_one
      have row := holds.right
      change Holds _ (index * (raster.width * 4 + 1) + 1) _ at row
      have read := unfilter?_zero (Header.of raster).pixelStep above .empty row.size_le
      rw [ByteArray.size_empty, Nat.add_zero, row.extract, size_row inside,
        ByteArray.empty_append] at read
      have next : index * (raster.width * 4 + 1) + 1 + raster.width * 4 =
          (index + 1) * (raster.width * 4 + 1) := by
        rw [Nat.succ_mul]
        omega
      have begins : index * (raster.width * 4) ≤ (index + 1) * (raster.width * 4) :=
        Nat.mul_le_mul_right _ (Nat.le_succ index)
      have ends : (index + 1) * (raster.width * 4) ≤ raster.bytes.size := by
        rw [size_bytes_eq]
        exact Nat.mul_le_mul_right _ inside
      simp only [rows?, unfiltered, rowLength_of, UInt8.toNat_zero, read, Option.bind_eq_bind,
        Option.bind_some, next]
      rw [ih _ _ (by omega), ByteArray.append_assoc, row_eq,
        ← ByteArray.extract_eq_extract_append_extract _ begins ends]

theorem rows?_plainRows (raster : Raster) :
    rows? (Header.of raster) (plainRows raster) raster.height 0 .empty .empty =
      some raster.bytes := by
  have read := rows?_eq raster .empty .empty (Nat.zero_add _)
  rwa [Nat.zero_mul, Nat.zero_mul, ByteArray.empty_append, ByteArray.extract_zero_size] at read

def Preamble.of (raster : Raster) : Preamble := { header := .of raster }

theorem rawSample_of (raster : Raster) (rows : ByteArray) (row column channel : Nat) :
    rawSample (Header.of raster) rows row column channel =
      (byteAt rows (row * (raster.width * 4) + (column * 4 + channel))).toNat := by
  have bits : (column * 4 + channel) * 8 % 8 = 0 := Nat.mul_mod_left _ 8
  have bytes : (column * 4 + channel) * 8 / 8 = column * 4 + channel :=
    Nat.mul_div_cancel _ (by decide)
  have byte := (byteAt rows (row * (raster.width * 4) + (column * 4 + channel))).toNat_lt
  rw [rawSample, rowLength_of]
  simp only [Header.of, ColorType.channels, bits, bytes]
  simp [Nat.mod_eq_of_lt byte]

theorem sample_of (raster : Raster) (rows : ByteArray) (row column : Nat) {channel : Nat}
    (small : channel < 4) :
    (Preamble.of raster).sample rows row column channel =
      (byteAt rows (row * (raster.width * 4) + (column * 4 + channel))).toNat := by
  change (if channel < 4 then
    stretched (Header.of raster) (rawSample (Header.of raster) rows row column channel) else _) = _
  have deep : ¬ (Header.of raster).depth < 8 := Nat.lt_irrefl 8
  rw [if_pos small, rawSample_of, stretched, if_neg deep]

theorem samples_of (raster : Raster) (rows : ByteArray) :
    ((Preamble.of raster).picture rows).samples =
      Array.ofFn fun index : Fin (raster.width * 4 * raster.height) =>
        (Preamble.of raster).sample rows (index / (raster.width * 4))
          (index % (raster.width * 4) / 4) (index % 4) := rfl

/-- The pixels that are read are those of the raster. -/
theorem raster_picture (raster : Raster) :
    ((Preamble.of raster).picture raster.bytes).raster = raster := by
  refine raster.ofFn_eq _ fun index inside => ?_
  have whole : index / 4 * 4 + index % 4 = index := Nat.div_add_mod' index 4
  have place : index / (raster.width * 4) * (raster.width * 4) +
      (index % (raster.width * 4) / 4 * 4 + index % 4) = index := by
    rw [← Nat.mod_mod_of_dvd index (Nat.dvd_mul_left 4 raster.width), Nat.div_add_mod',
      Nat.div_add_mod']
  have within : index < raster.width * 4 * raster.height := by
    rwa [raster.size_bytes, Nat.mul_right_comm] at inside
  change (((Preamble.of raster).picture raster.bytes).samples.getD
    (index / 4 * 4 + index % 4) 0).toUInt8 = _
  rw [whole, samples_of, getD_ofFn within, sample_of _ _ _ _ (Nat.mod_lt index (by decide)), place]
  exact UInt8.ofNat_toNat

theorem headerBytes_eq (raster : Raster) :
    headerBytes raster = ⟨(bigEndianBytes 4 raster.width).toArray⟩ ++
      (⟨(bigEndianBytes 4 raster.height).toArray⟩ ++ ⟨[8, 6, 0, 0, 0].toArray⟩) := by
  rw [headerBytes, List.append_assoc, ofList_append, ofList_append]

theorem size_headerBytes (raster : Raster) : (headerBytes raster).size = 13 := by
  rw [headerBytes_eq, ByteArray.size_append, ByteArray.size_append, size_number, size_number]
  rfl

theorem read?_headerBytes (wide : 0 < raster.width ∧ raster.width < 4294967296)
    (high : 0 < raster.height ∧ raster.height < 4294967296) :
    Header.read? (headerBytes raster) = some (.of raster) := by
  have parts := Holds.whole (headerBytes_eq raster)
  have size := size_headerBytes raster
  generalize headerBytes raster = bytes at parts size ⊢
  have width : bigEndian bytes 0 4 = raster.width := parts.left.bigEndian_eq wide.2
  have rest := parts.right
  rw [size_number] at rest
  have height : bigEndian bytes 4 4 = raster.height := rest.left.bigEndian_eq high.2
  have fixed := rest.right
  rw [size_number] at fixed
  have known (index : Nat) (inside : index < 5) :
      byteAt bytes (8 + index) = [8, 6, 0, 0, 0].getD index 0 :=
    (fixed.byteAt_eq inside).trans (byteAt_ofList _ _)
  have depth : byteAt bytes 8 = 8 := known 0 (by decide)
  have colors : byteAt bytes 9 = 6 := known 1 (by decide)
  have method : byteAt bytes 10 = 0 := known 2 (by decide)
  have filter : byteAt bytes 11 = 0 := known 3 (by decide)
  have interlace : byteAt bytes 12 = 0 := known 4 (by decide)
  have kind : ColorType.ofCode? (6 : UInt8).toNat = some .rgba := rfl
  simp only [Header.read?, width, height, depth, colors, method, filter, interlace, kind, size,
    Option.bind_eq_bind, Option.bind_some]
  rw [if_pos ⟨trivial, wide.1, high.1, by decide, trivial, trivial, trivial⟩]
  rfl

/-- The parts of a written file: what it begins with, the header, the compressed data and the end.
-/
theorem encode_eq (raster : Raster) :
    encode raster = ⟨signature.toArray⟩ ++ (chunkBytes "IHDR" (headerBytes raster) ++
      (dataChunks (storedStream (plainRows raster))
        ((storedStream (plainRows raster)).size + 1) 0 ++ chunkBytes "IEND" .empty)) := by
  simp only [encode, ByteArray.append_assoc]

theorem hasSignature_encode (raster : Raster) : hasSignature (encode raster) = true := by
  have begins : (encode raster).extract 0 8 = ⟨signature.toArray⟩ :=
    (Holds.whole (encode_eq raster)).left.extract
  rw [hasSignature, begins]
  decide

theorem decode?_encode (wide : 0 < raster.width ∧ raster.width < 4294967296)
    (high : 0 < raster.height ∧ raster.height < 4294967296) :
    decode? (encode raster) = some ((Preamble.of raster).picture raster.bytes) := by
  have parts := Holds.whole (encode_eq raster)
  have signed := hasSignature_encode raster
  generalize encode raster = file at parts signed ⊢
  have chunks : Holds file 8 _ := parts.right
  have first := stands_of_holds (by decide) (by rw [size_headerBytes]; decide) chunks.left
  have rest := chunks.right
  rw [size_chunkBytes (by decide), size_headerBytes] at rest
  have found : contents? file file.size (8 + 8 + 13 + 4) { header := .of raster } =
      some (Preamble.of raster, storedStream (plainRows raster)) :=
    contents?_eq (Preamble.of raster) rest (Nat.le_refl _) (by omega)
  have colors : ¬ ((Header.of raster).colorType = .palette ∧
      (Preamble.of raster).palette.isNone = true) := by
    rintro ⟨palette, _⟩
    cases palette
  have whole : ¬ (plainRows raster).size <
      (Header.of raster).height * ((Header.of raster).rowLength + 1) := by
    rw [rowLength_of]
    exact Nat.not_lt.mpr (Nat.le_of_eq (size_writtenRows (Nat.le_refl _)).symm)
  have rows : rows? (Header.of raster) (plainRows raster) (Header.of raster).height 0 .empty
      .empty = some raster.bytes := rows?_plainRows raster
  have stands := first.at?_eq
  rw [size_headerBytes] at stands
  have header : Chunk.bytes ⟨Chunk.nameOf "IHDR", 8 + 8, 8 + 8 + 13, true⟩ file =
      headerBytes raster := by
    rw [← size_headerBytes raster]
    exact first.bytes_eq _ _
  simp only [decode?, signed, stands, header, read?_headerBytes wide high, Option.bind_eq_bind,
    Option.bind_some, Bool.not_true, Bool.false_eq_true, if_false]
  rw [if_neg (by simp), found, Option.bind_some, if_neg colors, inflate?_storedStream,
    Option.bind_some, if_neg whole, rows, Option.bind_some]

end Png

end Marquee.Image
