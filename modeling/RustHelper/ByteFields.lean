import RustHelper.ByteBlocks

/-!
# Fields of a byte buffer

A buffer is filled by overwriting it field after field from the front, and a
field is read back at its offset.  What is written into a zeroed buffer is the
fields one after the other, followed by the zeros that are left.
-/

namespace ByteFields

open ByteBlocks

/-- The bytes from `offset` on are overwritten. -/
def write (offset : Nat) (bytes buffer : List UInt8) : List UInt8 :=
  buffer.take offset ++ bytes ++ buffer.drop (offset + bytes.length)

/-- The little-endian word at `offset`. -/
def wordAt (offset : Nat) (buffer : List UInt8) : UInt64 :=
  UInt64.ofNat (ofLittleEndian ((buffer.drop offset).take 8))

/-- The fields, then zeros up to the size. -/
def zeroFilled (size : Nat) (bytes : List UInt8) : List UInt8 :=
  bytes ++ List.replicate (size - bytes.length) 0

theorem length_zeroFilled {size : Nat} {bytes : List UInt8} (fits : bytes.length ≤ size) :
    (zeroFilled size bytes).length = size := by
  simp only [zeroFilled, List.length_append, List.length_replicate]
  omega

/-- The next field goes where the ones before it end. -/
theorem write_zeroFilled {size offset : Nat} {front bytes : List UInt8}
    (isNext : offset = front.length) :
    write offset bytes (zeroFilled size front) = zeroFilled size (front ++ bytes) := by
  subst isNext
  have left : size - front.length - bytes.length = size - (front ++ bytes).length := by
    rw [List.length_append]
    omega
  simp only [write, zeroFilled, List.take_left', List.drop_append, List.drop_replicate]
  rw [List.drop_eq_nil_of_le (by omega), Nat.add_sub_cancel_left, left]
  simp

theorem wordAt_append (front rest : List UInt8) (word : UInt64) :
    wordAt front.length (front ++ ((wordBlock word).bytes ++ rest)) = word := by
  have field : ((wordBlock word).bytes ++ rest).take 8 = (wordBlock word).bytes := by
    rw [List.take_left' (wordBlock word).length_eq]
  rw [wordAt, List.drop_left, field]
  exact word_wordBlock word

/-- A word that lies within the buffer determines its bytes there. -/
theorem bytes_wordAt {offset : Nat} {buffer : List UInt8} (inside : offset + 8 ≤ buffer.length) :
    (wordBlock (wordAt offset buffer)).bytes = (buffer.drop offset).take 8 := by
  have length : ((buffer.drop offset).take 8).length = 8 := by
    rw [List.length_take, List.length_drop]
    omega
  have restored := wordBlock_word ⟨(buffer.drop offset).take 8, length⟩
  exact congrArg Block.bytes restored

end ByteFields
