import Mathlib.Tactic.Common
import Mathlib.Data.List.FinRange
import Mathlib.Algebra.Order.Ring.Nat

/-!
# Byte strings read as fixed-size blocks and little-endian words

A byte string is cut into as many whole blocks of a given size as it has, the
incomplete rest being dropped; blocks of eight bytes are read as little-endian
64-bit words.  Both views are inverse to laying the blocks or words out one
after the other.
-/

namespace ByteBlocks

section LittleEndian

/-- The `width` low bytes of a number, least significant first. -/
def littleEndian : Nat → Nat → List UInt8
  | 0, _ => []
  | width + 1, number => UInt8.ofNat (number % 256) :: littleEndian width (number / 256)

/-- The number with the given bytes, least significant first. -/
def ofLittleEndian : List UInt8 → Nat
  | [] => 0
  | byte :: bytes => byte.toNat + 256 * ofLittleEndian bytes

@[simp] theorem length_littleEndian (width number : Nat) :
    (littleEndian width number).length = width := by
  induction width generalizing number with
  | zero => rfl
  | succ width ih => simp [littleEndian, ih]

theorem ofLittleEndian_lt (bytes : List UInt8) :
    ofLittleEndian bytes < 256 ^ bytes.length := by
  induction bytes with
  | nil => simp [ofLittleEndian]
  | cons byte bytes ih =>
      have small := byte.toNat_lt
      simp only [ofLittleEndian, List.length_cons, pow_succ]
      omega

theorem ofLittleEndian_littleEndian {width number : Nat} (fits : number < 256 ^ width) :
    ofLittleEndian (littleEndian width number) = number := by
  induction width generalizing number with
  | zero =>
      have zero : number = 0 := by simpa using fits
      simp [zero, littleEndian, ofLittleEndian]
  | succ width ih =>
      have high : number / 256 < 256 ^ width := by
        rw [pow_succ] at fits
        exact Nat.div_lt_of_lt_mul (by omega)
      have low : (UInt8.ofNat (number % 256)).toNat = number % 256 := by
        simp
      rw [littleEndian, ofLittleEndian, ih high, low]
      omega

theorem littleEndian_ofLittleEndian (bytes : List UInt8) :
    littleEndian bytes.length (ofLittleEndian bytes) = bytes := by
  induction bytes with
  | nil => rfl
  | cons byte bytes ih =>
      have small : byte.toNat < 256 := byte.toNat_lt
      have low : (byte.toNat + 256 * ofLittleEndian bytes) % 256 = byte.toNat := by omega
      have high : (byte.toNat + 256 * ofLittleEndian bytes) / 256 = ofLittleEndian bytes := by
        omega
      simp only [List.length_cons, ofLittleEndian, littleEndian, low, high, ih]
      simp

end LittleEndian

/-- A block of exactly `size` bytes. -/
structure Block (size : Nat) where
  bytes : List UInt8
  length_eq : bytes.length = size
  deriving DecidableEq

attribute [simp] Block.length_eq

@[ext] theorem Block.ext {size : Nat} {first second : Block size}
    (same : first.bytes = second.bytes) : first = second := by
  cases first
  cases second
  cases same
  rfl

/-- Blocks laid out one after the other. -/
def joined {size : Nat} (blocks : List (Block size)) : List UInt8 :=
  blocks.flatMap Block.bytes

@[simp] theorem joined_nil {size : Nat} : joined ([] : List (Block size)) = [] := rfl

@[simp] theorem joined_cons {size : Nat} (block : Block size) (blocks : List (Block size)) :
    joined (block :: blocks) = block.bytes ++ joined blocks := rfl

@[simp] theorem length_joined {size : Nat} (blocks : List (Block size)) :
    (joined blocks).length = size * blocks.length := by
  induction blocks with
  | nil => rfl
  | cons block blocks ih =>
      simp only [joined_cons, List.length_append, Block.length_eq, ih, List.length_cons]
      rw [Nat.mul_succ, Nat.add_comm]

/-- The whole blocks of a byte string; an incomplete last block is ignored. -/
def wholeBlocks (size : Nat) (bytes : List UInt8) : List (Block size) :=
  (List.finRange (bytes.length / size)).map fun index : Fin (bytes.length / size) =>
    ⟨(bytes.drop (size * index.val)).take size, by
      have fits : size * (index.val + 1) ≤ bytes.length :=
        le_trans (Nat.mul_le_mul_left size index.isLt) (Nat.mul_div_le _ _)
      rw [List.length_take, List.length_drop]
      rw [Nat.mul_succ] at fits
      omega⟩

@[simp] theorem length_wholeBlocks (size : Nat) (bytes : List UInt8) :
    (wholeBlocks size bytes).length = bytes.length / size := by
  simp [wholeBlocks]

theorem drop_joined {size : Nat} (blocks : List (Block size)) (slack : List UInt8)
    {index : Nat} (bound : index < blocks.length) :
    ((joined blocks ++ slack).drop (size * index)).take size = blocks[index].bytes := by
  induction blocks generalizing index with
  | nil => simp at bound
  | cons block blocks ih =>
      cases index with
      | zero => simp
      | succ index =>
          have inner := @ih index (by simpa using bound)
          simp only [joined_cons, List.append_assoc, List.getElem_cons_succ]
          rw [← inner, Nat.mul_succ, Nat.add_comm, ← List.drop_drop]
          simp

/-- Blocks followed by less than a block are read back exactly. -/
theorem wholeBlocks_joined {size : Nat} (blocks : List (Block size)) (slack : List UInt8)
    (short : slack.length < size) : wholeBlocks size (joined blocks ++ slack) = blocks := by
  have count : (joined blocks ++ slack).length / size = blocks.length := by
    rw [List.length_append, length_joined, Nat.mul_add_div (by omega), Nat.div_eq_of_lt short,
      Nat.add_zero]
  apply List.ext_getElem
  · rw [length_wholeBlocks, count]
  · intro index _ bound
    ext1
    simpa [wholeBlocks] using drop_joined blocks slack bound

section Words

def Block.word (block : Block 8) : UInt64 := UInt64.ofNat (ofLittleEndian block.bytes)

def wordBlock (word : UInt64) : Block 8 := ⟨littleEndian 8 word.toNat, length_littleEndian 8 _⟩

@[simp] theorem word_wordBlock (word : UInt64) : (wordBlock word).word = word := by
  have fits : word.toNat < 256 ^ 8 := by simpa using word.toNat_lt
  simp only [wordBlock, Block.word, ofLittleEndian_littleEndian fits, UInt64.ofNat_toNat]

@[simp] theorem wordBlock_word (block : Block 8) : wordBlock block.word = block := by
  have bound := ofLittleEndian_lt block.bytes
  rw [block.length_eq] at bound
  have stored : (UInt64.ofNat (ofLittleEndian block.bytes)).toNat =
      ofLittleEndian block.bytes := by
    simpa using Nat.mod_eq_of_lt bound
  ext1
  change littleEndian 8 (UInt64.ofNat (ofLittleEndian block.bytes)).toNat = block.bytes
  have restored := littleEndian_ofLittleEndian block.bytes
  rw [stored]
  rwa [block.length_eq] at restored

def wordsOf (bytes : List UInt8) : List UInt64 := (wholeBlocks 8 bytes).map Block.word

def bytesOf (words : List UInt64) : List UInt8 := joined (words.map wordBlock)

@[simp] theorem length_wordsOf (bytes : List UInt8) :
    (wordsOf bytes).length = bytes.length / 8 := by
  simp [wordsOf]

@[simp] theorem length_bytesOf (words : List UInt64) :
    (bytesOf words).length = 8 * words.length := by
  simp [bytesOf]

theorem bytesOf_append (first second : List UInt64) :
    bytesOf (first ++ second) = bytesOf first ++ bytesOf second := by
  simp [bytesOf, joined]

@[simp] theorem wordsOf_bytesOf (words : List UInt64) : wordsOf (bytesOf words) = words := by
  have read := wholeBlocks_joined (words.map wordBlock) [] (by simp)
  rw [List.append_nil] at read
  simp [wordsOf, bytesOf, read, Function.comp_def]

theorem joined_wholeBlocks {size count : Nat} {bytes : List UInt8} (positive : 0 < size)
    (whole : bytes.length = size * count) : joined (wholeBlocks size bytes) = bytes := by
  induction count generalizing bytes with
  | zero =>
      have empty : bytes = [] := List.eq_nil_of_length_eq_zero (by simpa using whole)
      subst empty
      simpa using congrArg joined (wholeBlocks_joined ([] : List (Block size)) [] positive)
  | succ count ih =>
      rw [Nat.mul_succ] at whole
      have headLength : (bytes.take size).length = size := by
        rw [List.length_take]
        omega
      have tailLength : (bytes.drop size).length = size * count := by
        rw [List.length_drop]
        omega
      have restored := ih tailLength
      have split : bytes = joined (⟨bytes.take size, headLength⟩ ::
          wholeBlocks size (bytes.drop size)) := by
        rw [joined_cons, restored, List.take_append_drop]
      have reread := wholeBlocks_joined
        (⟨bytes.take size, headLength⟩ :: wholeBlocks size (bytes.drop size))
        [] (by simpa using positive)
      rw [List.append_nil, ← split] at reread
      rw [reread, ← split]

theorem bytesOf_wordsOf {bytes : List UInt8} (whole : bytes.length % 8 = 0) :
    bytesOf (wordsOf bytes) = bytes := by
  have count : bytes.length = 8 * (bytes.length / 8) := by omega
  simp only [bytesOf, wordsOf, List.map_map, Function.comp_def, wordBlock_word, List.map_id']
  exact joined_wholeBlocks (by omega) count

end Words

end ByteBlocks
