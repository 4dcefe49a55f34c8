import Marquee.Image.Bytes

/-!
Decompression of the stream in which image files keep their data: blocks that are stored or coded
with prefix codes, in which a pair of a length and a distance repeats what came before. `none`
stands for a stream that breaks the format or ends too early. The checksum at the end must be
there, and is not compared.
-/

namespace Marquee.Image

-- Powers are those of the core library, whatever else is in scope.
attribute [local instance (high)] instPowNat instNatPowNat

structure Inflating where
  source : ByteArray
  position : Nat
  output : ByteArray

/-- A prefix code: how many codes there are of each length from 0 to 15, and the symbols in the
order of their codes. -/
structure PrefixCode where
  counts : Array Nat
  symbols : Array Nat

namespace PrefixCode

def countOf (lengths : List Nat) (length : Nat) : Nat := lengths.count length

/-- The codes that are left over when the codes of each length have been given out; `none` if there
are too few. -/
def leftOver (counts : List Nat) : Option Nat :=
  counts.foldlM (fun left count => if 2 * left < count then none else some (2 * left - count)) 1

/-- The code of a list of code lengths, one for each symbol, zero for a symbol that is not used. A
code must use up all its words, unless it has one symbol at most and that is allowed. -/
def ofLengths? (lengths : List Nat) (allowSingle : Bool) : Option PrefixCode := do
  let counts := (List.range 15).map fun length => countOf lengths (length + 1)
  let left ← leftOver counts
  let used := lengths.filter (· != 0)
  if left = 0 ∨ (allowSingle ∧ used.length ≤ 1) then
    let symbols := (List.range 15).flatMap fun length =>
      (lengths.zipIdx.filter fun entry => entry.1 == length + 1).map Prod.snd
    some ⟨(0 :: counts).toArray, symbols.toArray⟩
  else
    none

end PrefixCode

namespace Inflating

def bit? (state : Inflating) : Option (Nat × Inflating) :=
  let index := state.position / 8
  if index < state.source.size then
    some ((byteAt state.source index).toNat / 2 ^ (state.position % 8) % 2,
      ⟨state.source, state.position + 1, state.output⟩)
  else
    none

def bits? (state : Inflating) : Nat → Option (Nat × Inflating)
  | 0 => some (0, state)
  | count + 1 => do
    let (low, state) ← state.bit?
    let (high, state) ← state.bits? count
    some (low + 2 * high, state)

/-- The symbol of the next word of a code. `first` is the first word of its length, and `index` the
number of symbols with shorter words. -/
def symbolFrom? (code : PrefixCode) (state : Inflating) (word first index length : Nat) :
    Nat → Option (Nat × Inflating)
  | 0 => none
  | more + 1 => do
    let (bit, state) ← state.bit?
    let word := 2 * word + bit
    let first := 2 * first
    let count := code.counts.getD length 0
    if word < first + count then
      let symbol ← code.symbols[index + (word - first)]?
      some (symbol, state)
    else
      symbolFrom? code state word (first + count) (index + count) (length + 1) more

def symbol? (state : Inflating) (code : PrefixCode) : Option (Nat × Inflating) :=
  symbolFrom? code state 0 0 0 1 15

def push (state : Inflating) (byte : UInt8) : Inflating :=
  ⟨state.source, state.position, state.output.push byte⟩

def repeatBack (state : Inflating) (distance : Nat) : Nat → Inflating
  | 0 => state
  | length + 1 =>
    (state.push (byteAt state.output (state.output.size - distance))).repeatBack distance length

def lengthTable : List (Nat × Nat) :=
  [(3, 0), (4, 0), (5, 0), (6, 0), (7, 0), (8, 0), (9, 0), (10, 0), (11, 1), (13, 1), (15, 1),
    (17, 1), (19, 2), (23, 2), (27, 2), (31, 2), (35, 3), (43, 3), (51, 3), (59, 3), (67, 4),
    (83, 4), (99, 4), (115, 4), (131, 5), (163, 5), (195, 5), (227, 5), (258, 0)]

def distanceTable : List (Nat × Nat) :=
  [(1, 0), (2, 0), (3, 0), (4, 0), (5, 1), (7, 1), (9, 2), (13, 2), (17, 3), (25, 3), (33, 4),
    (49, 4), (65, 5), (97, 5), (129, 6), (193, 6), (257, 7), (385, 7), (513, 8), (769, 8),
    (1025, 9), (1537, 9), (2049, 10), (3073, 10), (4097, 11), (6145, 11), (8193, 12), (12289, 12),
    (16385, 13), (24577, 13)]

def extended? (state : Inflating) (table : List (Nat × Nat)) (symbol : Nat) :
    Option (Nat × Inflating) := do
  let (least, extra) ← table[symbol]?
  let (more, state) ← state.bits? extra
  some (least + more, state)

/-- The symbols of a coded block up to its end. Each takes at least one bit. -/
def coded? (literals distances : PrefixCode) : Nat → Inflating → Option Inflating
  | 0, _ => none
  | fuel + 1, state => do
    let (symbol, state) ← state.symbol? literals
    if symbol < 256 then
      coded? literals distances fuel (state.push symbol.toUInt8)
    else if symbol = 256 then
      some state
    else
      let (length, state) ← state.extended? lengthTable (symbol - 257)
      let (symbol, state) ← state.symbol? distances
      let (distance, state) ← state.extended? distanceTable symbol
      if state.output.size < distance then none
      else coded? literals distances fuel (state.repeatBack distance length)

def fixedLengths : List Nat :=
  List.replicate 144 8 ++ List.replicate 112 9 ++ List.replicate 24 7 ++ List.replicate 8 8

def lengthOrder : List Nat := [16, 17, 18, 0, 8, 7, 9, 6, 10, 5, 11, 4, 12, 3, 13, 2, 14, 1, 15]

def shortLengths? (state : Inflating) : Nat → Option (List Nat × Inflating)
  | 0 => some ([], state)
  | count + 1 => do
    let (length, state) ← state.bits? 3
    let (others, state) ← state.shortLengths? count
    some (length :: others, state)

/-- Code lengths until there are `wanted`, of which those in `found`, the newest first, are there. A
symbol repeats the newest length, or zero, or is a length. -/
def codeLengths? (code : PrefixCode) (wanted : Nat) :
    Nat → List Nat → Inflating → Option (List Nat × Inflating)
  | 0, _, _ => none
  | fuel + 1, found, state =>
    if found.length = wanted then some (found.reverse, state)
    else if wanted < found.length then none
    else do
      let (symbol, state) ← state.symbol? code
      if symbol < 16 then
        codeLengths? code wanted fuel (symbol :: found) state
      else if symbol = 16 then
        let newest ← found.head?
        let (more, state) ← state.bits? 2
        codeLengths? code wanted fuel (List.replicate (3 + more) newest ++ found) state
      else if symbol = 17 then
        let (more, state) ← state.bits? 3
        codeLengths? code wanted fuel (List.replicate (3 + more) 0 ++ found) state
      else
        let (more, state) ← state.bits? 7
        codeLengths? code wanted fuel (List.replicate (11 + more) 0 ++ found) state

def ownCodes? (state : Inflating) : Option (PrefixCode × PrefixCode × Inflating) := do
  let (literalCount, state) ← state.bits? 5
  let (distanceCount, state) ← state.bits? 5
  let (lengthCount, state) ← state.bits? 4
  let (short, state) ← state.shortLengths? (lengthCount + 4)
  let shortOf (symbol : Nat) : Nat :=
    ((lengthOrder.zip short).find? fun entry => entry.1 == symbol).elim 0 Prod.snd
  let code ← PrefixCode.ofLengths? ((List.range 19).map shortOf) false
  let literalCount := literalCount + 257
  let distanceCount := distanceCount + 1
  if 286 < literalCount then none
  else
    let wanted := literalCount + distanceCount
    let (lengths, state) ← codeLengths? code wanted (wanted + 1) [] state
    let literalLengths := lengths.take literalCount
    if literalLengths.getD 256 0 = 0 then none
    else
      let literals ← PrefixCode.ofLengths? literalLengths true
      let distances ← PrefixCode.ofLengths? (lengths.drop literalCount) true
      some (literals, distances, state)

def stored? (state : Inflating) : Option Inflating :=
  let start := (state.position + 7) / 8
  let length := littleEndian state.source start 2
  let check := littleEndian state.source (start + 2) 2
  let stop := start + 4 + length
  if state.source.size < stop ∨ length + check ≠ 0xffff then none
  else
    some ⟨state.source, 8 * stop, state.output ++ state.source.extract (start + 4) stop⟩

def block? (state : Inflating) : Option (Bool × Inflating) := do
  let (last, state) ← state.bits? 1
  let (kind, state) ← state.bits? 2
  let fuel := 8 * state.source.size + 1
  if kind = 0 then
    some (last == 1, ← state.stored?)
  else if kind = 1 then
    let literals ← PrefixCode.ofLengths? fixedLengths false
    let distances ← PrefixCode.ofLengths? (List.replicate 32 5) false
    some (last == 1, ← coded? literals distances fuel state)
  else if kind = 2 then
    let (literals, distances, state) ← state.ownCodes?
    some (last == 1, ← coded? literals distances fuel state)
  else
    none

/-- All blocks. Each takes at least three bits. -/
def blocks? : Nat → Inflating → Option Inflating
  | 0, _ => none
  | fuel + 1, state => do
    let (last, state) ← state.block?
    if last then some state else blocks? fuel state

end Inflating

/-- The bytes that a stream with a header of two bytes and a checksum of four stands for. -/
def inflate? (source : ByteArray) : Option ByteArray := do
  let method := (byteAt source 0).toNat
  let flags := (byteAt source 1).toNat
  if source.size < 2 ∨ method % 16 ≠ 8 ∨ 7 < method / 16 ∨ flags / 32 % 2 = 1 ∨
      (method * 256 + flags) % 31 ≠ 0 then
    none
  else
    let state ← Inflating.blocks? (8 * source.size + 1) ⟨source, 16, .empty⟩
    if source.size < (state.position + 7) / 8 + 4 then none else some state.output

end Marquee.Image
