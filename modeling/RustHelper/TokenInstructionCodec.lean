import RustHelper.TokenInstruction

/-!
# What a packed token instruction says

An instruction is laid out as its tag and its payload; packing pads that with
zeros, and unpacking reads it from the front and ignores the rest.
-/

namespace RustHelper.TokenInstruction

open ByteBlocks ByteFields

section Layout

def tag : TokenInstruction → UInt8
  | .initializeMint _ _ => 0
  | .initializeAccount => 1
  | .initializeMultisig _ => 2
  | .transfer _ => 3
  | .approve _ => 4
  | .revoke => 5
  | .setOwner => 6
  | .mintTo _ => 7
  | .burn _ => 8
  | .closeAccount => 9

def payload : TokenInstruction → List UInt8
  | .initializeMint amount decimals => (wordBlock amount).bytes ++ [decimals]
  | .initializeMultisig m => [m]
  | .transfer amount => (wordBlock amount).bytes
  | .approve amount => (wordBlock amount).bytes
  | .mintTo amount => (wordBlock amount).bytes
  | .burn amount => (wordBlock amount).bytes
  | _ => []

/-- The bytes that carry the instruction. -/
def wire (instruction : TokenInstruction) : List UInt8 := instruction.tag :: instruction.payload

theorem length_wire_le (instruction : TokenInstruction) : instruction.wire.length ≤ size := by
  cases instruction <;> simp [wire, payload, size]

end Layout

section Packing

theorem tagged_eq (tag : UInt8) : tagged tag = zeroFilled size [tag] :=
  @write_zeroFilled size 0 [] [tag] rfl

theorem taggedAmount_eq (tag : UInt8) (amount : UInt64) :
    taggedAmount tag amount = zeroFilled size (tag :: (wordBlock amount).bytes) := by
  rw [taggedAmount, tagged_eq]
  exact write_zeroFilled rfl

/-- Packing lays the fields out and leaves the rest of the buffer zero. -/
theorem pack_eq (instruction : TokenInstruction) :
    instruction.pack = .ok (zeroFilled size instruction.wire) := by
  cases instruction with
  | initializeMint amount decimals =>
      have second : 1 + 8 = (0 :: (wordBlock amount).bytes).length := by simp
      rw [pack, taggedAmount_eq, write_zeroFilled second]
      rfl
  | initializeMultisig m =>
      have second : 1 = ([2] : List UInt8).length := rfl
      rw [pack, tagged_eq, write_zeroFilled second]
      rfl
  | initializeAccount => rw [pack, tagged_eq]; rfl
  | revoke => rw [pack, tagged_eq]; rfl
  | setOwner => rw [pack, tagged_eq]; rfl
  | closeAccount => rw [pack, tagged_eq]; rfl
  | transfer amount => rw [pack, taggedAmount_eq]; rfl
  | approve amount => rw [pack, taggedAmount_eq]; rfl
  | mintTo amount => rw [pack, taggedAmount_eq]; rfl
  | burn amount => rw [pack, taggedAmount_eq]; rfl

end Packing

section Unpacking

variable {rest : List UInt8}

theorem wordAt_tail (tag : UInt8) (amount : UInt64) :
    wordAt 1 (tag :: ((wordBlock amount).bytes ++ rest)) = amount :=
  wordAt_append [tag] rest amount

/-- The bytes of an instruction are read whatever comes after them. -/
theorem unpack_wire (instruction : TokenInstruction) (rest : List UInt8) :
    unpack (instruction.wire ++ rest) = .ok instruction := by
  cases instruction with
  | initializeMint amount decimals =>
      have word : wordAt 1 (0 :: ((wordBlock amount).bytes ++ decimals :: rest)) = amount :=
        wordAt_tail 0 amount
      have enough : 9 ≤ 8 + (rest.length + 1) := by omega
      simp [unpack, wire, tag, payload, word, enough]
  | initializeAccount => simp [unpack, wire, tag, payload]
  | initializeMultisig m => simp [unpack, wire, tag, payload]
  | transfer amount => simp [unpack, wire, tag, payload, wordAt_tail]
  | approve amount => simp [unpack, wire, tag, payload, wordAt_tail]
  | revoke => simp [unpack, wire, tag, payload]
  | setOwner => simp [unpack, wire, tag, payload]
  | mintTo amount => simp [unpack, wire, tag, payload, wordAt_tail]
  | burn amount => simp [unpack, wire, tag, payload, wordAt_tail]
  | closeAccount => simp [unpack, wire, tag, payload]

theorem wordAt_bytes {first : UInt8} (enough : 8 ≤ rest.length) :
    (wordBlock (wordAt 1 (first :: rest))).bytes = rest.take 8 := by
  have inside : 1 + 8 ≤ (first :: rest).length := by
    rw [List.length_cons]
    omega
  exact bytes_wordAt inside

theorem tag_prefix {first number : UInt8} (isTag : first.toNat = number.toNat) :
    [number] <+: first :: rest := by
  have same : first = number := UInt8.toNat_inj.mp isTag
  subst same
  exact ⟨rest, rfl⟩

theorem amount_prefix {first number : UInt8} (isTag : first.toNat = number.toNat)
    (enough : ¬ (first :: rest).length < 1 + 8) :
    number :: (wordBlock (wordAt 1 (first :: rest))).bytes <+: first :: rest := by
  have same : first = number := UInt8.toNat_inj.mp isTag
  have long : 8 ≤ rest.length := by
    rw [List.length_cons] at enough
    omega
  subst same
  rw [wordAt_bytes long]
  exact ⟨rest.drop 8, by simp⟩

theorem initializeMint_prefix {first : UInt8} (isTag : first.toNat = 0)
    (enough : ¬ (first :: rest).length < 1 + 8 + 1) :
    (initializeMint (wordAt 1 (first :: rest)) ((first :: rest).getD (1 + 8) 0)).wire <+:
      first :: rest := by
  have same : first = 0 := UInt8.toNat_inj.mp isTag
  have long : 8 < rest.length := by
    rw [List.length_cons] at enough
    omega
  have decimals : (first :: rest).getD (1 + 8) 0 = rest[8] := by
    simp [long]
  subst same
  rw [decimals]
  simp only [wire, tag, payload]
  rw [wordAt_bytes (le_of_lt long), List.take_append_getElem long]
  exact ⟨rest.drop 9, by simp⟩

/-- What is read was there, so only the bytes of the instruction decide. -/
theorem wire_prefix {input : List UInt8} {instruction : TokenInstruction}
    (decoded : unpack input = .ok instruction) : instruction.wire <+: input := by
  cases input with
  | nil => cases decoded
  | cons first rest =>
      revert decoded
      fun_cases unpack (first :: rest)
      all_goals intro decoded
      all_goals cases decoded
      case case3.refl isTag enough => exact initializeMint_prefix isTag enough
      case case4.refl isTag => exact tag_prefix isTag
      case case6.refl isTag enough =>
        have long : 0 < rest.length := by
          rw [List.length_cons] at enough
          omega
        obtain ⟨m, rest, rfl⟩ := List.exists_cons_of_length_pos long
        have same : first = 2 := UInt8.toNat_inj.mp isTag
        subst same
        exact ⟨rest, rfl⟩
      case case8.refl isTag enough => exact amount_prefix isTag enough
      case case10.refl isTag enough => exact amount_prefix isTag enough
      case case11.refl isTag => exact tag_prefix isTag
      case case12.refl isTag => exact tag_prefix isTag
      case case14.refl isTag enough => exact amount_prefix isTag enough
      case case16.refl isTag enough => exact amount_prefix isTag enough
      case case17.refl isTag => exact tag_prefix isTag

theorem unpack_eq_ok_iff (input : List UInt8) (instruction : TokenInstruction) :
    unpack input = .ok instruction ↔ instruction.wire <+: input := by
  constructor
  · exact wire_prefix
  · intro isPrefix
    obtain ⟨rest, rfl⟩ := isPrefix
    exact unpack_wire instruction rest

end Unpacking

section Rejection

/-- The code of the error for a tag whose payload is missing, and for all other tags. -/
def tagErrorCode : Nat → Nat
  | 0 => 1
  | 2 => 2
  | 3 => 3
  | 4 => 4
  | 7 => 5
  | 8 => 6
  | _ => 7

def errorCode : List UInt8 → Nat
  | [] => 0
  | first :: _ => tagErrorCode first.toNat

/-- No instruction comes first in the bytes, and the code is the one for them. -/
structure Rejected (input : List UInt8) (code : Nat) : Prop where
  malformed : ∀ instruction : TokenInstruction, ¬ instruction.wire <+: input
  code_eq : code = errorCode input

theorem error_of_unpack {input : List UInt8} {error : ProgramError}
    (fails : unpack input = .error error) : error = .custom (errorCode input) := by
  cases input with
  | nil =>
      cases fails
      rfl
  | cons first rest =>
      have byTag : ∀ {number : Nat}, first.toNat = number →
          ProgramError.custom (tagErrorCode number) = .custom (errorCode (first :: rest)) := by
        intro number isTag
        rw [errorCode, isTag]
      revert fails
      fun_cases unpack (first :: rest)
      all_goals intro fails
      all_goals cases fails
      case case1.refl isShort =>
        rw [List.length_cons] at isShort
        omega
      case case2.refl isTag tooShort => exact byTag isTag
      case case5.refl isTag tooShort => exact byTag isTag
      case case7.refl isTag tooShort => exact byTag isTag
      case case9.refl isTag tooShort => exact byTag isTag
      case case13.refl isTag tooShort => exact byTag isTag
      case case15.refl isTag tooShort => exact byTag isTag
      case case18.refl =>
        have beyond : 9 < first.toNat := by
          simp only [List.getD_cons_zero, imp_false] at *
          omega
        obtain ⟨more, isMore⟩ := Nat.exists_eq_add_of_le' beyond
        exact byTag isMore

theorem unpack_eq_error_iff (input : List UInt8) (error : ProgramError) :
    unpack input = .error error ↔ ∃ code, error = .custom code ∧ Rejected input code := by
  constructor
  · intro fails
    refine ⟨_, error_of_unpack fails, ?_, rfl⟩
    intro instruction comesFirst
    rw [(unpack_eq_ok_iff input instruction).mpr comesFirst] at fails
    cases fails
  · intro isRejected
    obtain ⟨code, rfl, malformed, rfl⟩ := isRejected
    cases read : unpack input with
    | ok instruction => exact absurd ((unpack_eq_ok_iff input instruction).mp read) (malformed _)
    | error error => rw [error_of_unpack read]

end Rejection

/-- The zeros that padding adds are all that is added. -/
theorem zeroFilled_eq_append_iff {size : Nat} {front rest : List UInt8} :
    zeroFilled size front = front ++ rest ↔
      rest.length = size - front.length ∧ ∀ byte ∈ rest, byte = 0 := by
  rw [zeroFilled, List.append_right_inj, eq_comm, List.eq_replicate_iff]

/-- Packing and unpacking token instructions: what is packed is read back; bytes
are read as an instruction exactly when its tag and payload come first; and bytes
that are read are packed again to themselves exactly when they fill the buffer
and only zeros follow the payload. -/
theorem codec_exact (instruction : TokenInstruction) (input : List UInt8) :
    (∃ bytes, instruction.pack = .ok bytes ∧ bytes.length = size ∧
        unpack bytes = .ok instruction) ∧
      (unpack input = .ok instruction ↔ instruction.wire <+: input) ∧
      (unpack input = .ok instruction →
        (instruction.pack = .ok input ↔
          input.length = size ∧ ∀ byte ∈ input.drop instruction.wire.length, byte = 0)) := by
  have fits := length_wire_le instruction
  refine ⟨?_, unpack_eq_ok_iff input instruction, ?_⟩
  · exact ⟨_, pack_eq instruction, length_zeroFilled fits, unpack_wire instruction _⟩
  · intro decoded
    obtain ⟨rest, rfl⟩ := (unpack_eq_ok_iff input instruction).mp decoded
    rw [pack_eq, Except.ok.injEq, zeroFilled_eq_append_iff, List.drop_left, List.length_append]
    apply and_congr_left
    intro _
    omega

end RustHelper.TokenInstruction
