import RustHelper.DexAccounts
import RustHelper.ReferenceCrates

/-!
# The format of a DEX account

An account is well formed when a positive number of whole words stands between
the two markers.  These accounts are accepted, and the words do not depend on where
in memory the account lies.  Others are refused where the words would be aligned; where
they would not, what stands between the markers is copied as far as it is whole words.
-/

namespace RustHelper

open ByteBlocks Effect

/-- Both markers, and a positive number of whole words between them. -/
structure WellFormed (bytes inner : List UInt8) : Prop where
  isPadded : bytes = padded inner
  nonempty : inner ≠ []
  whole : inner.length % 8 = 0

/-- The markers do not overlap. -/
theorem WellFormed.length_ge {bytes inner : List UInt8} (wellFormed : WellFormed bytes inner) :
    20 ≤ bytes.length := by
  have positive := List.length_pos_of_ne_nil wellFormed.nonempty
  have whole := wellFormed.whole
  rw [wellFormed.isPadded, length_padded]
  omega

section Acceptance

variable {crates : Crates} {data : Buffer}

/-- The words of a well-formed account are borrowed if they are aligned, and
copied if they are not. -/
def cowOf (data : Buffer) (inner : List UInt8) : CowWords :=
  if (data.address + 5) % 8 = 0 then .borrowed (wordsOf inner) else .owned (wordsOf inner)

@[simp] theorem words_cowOf (data : Buffer) (inner : List UInt8) :
    (cowOf data inner).words = wordsOf inner := by
  unfold cowOf
  split_ifs <;> rfl

theorem removeDexAccountPadding_wellFormed (laws : crates.TransmuteLaws) {inner : List UInt8}
    (wellFormed : WellFormed data.bytes inner) :
    removeDexAccountPadding crates data = .ok (cowOf data inner) := by
  rw [removeDexAccountPadding_padded wellFormed.isPadded, cowOf]
  split_ifs with aligned
  · rw [laws.pedantic_aligned ⟨inner, data.address + 5⟩ wellFormed.nonempty wellFormed.whole
      aligned]
  · rw [laws.pedantic_unaligned ⟨inner, data.address + 5⟩ wellFormed.nonempty wellFormed.whole
      aligned]
    simp only [laws.copy_unaligned]

theorem WellFormed.unique {bytes inner other : List UInt8} (wellFormed : WellFormed bytes inner)
    (isPadded : bytes = padded other) : other = inner := by
  have same := congrArg innerBytes (isPadded.symm.trans wellFormed.isPadded)
  rwa [innerBytes_padded, innerBytes_padded] at same

/-- The markers surround something else than a positive number of whole words, and it
lies where words would not be aligned. -/
structure Misread (data : Buffer) (inner : List UInt8) : Prop where
  isPadded : data.bytes = padded inner
  ragged : inner = [] ∨ inner.length % 8 ≠ 0
  misaligned : (data.address + 5) % 8 ≠ 0

theorem Misread.not_wellFormed {inner : List UInt8} (misread : Misread data inner)
    (other : List UInt8) : ¬ WellFormed data.bytes other := by
  intro wellFormed
  have same := wellFormed.unique misread.isPadded
  subst same
  rcases misread.ragged with empty | unwhole
  · exact wellFormed.nonempty empty
  · exact unwhole wellFormed.whole

/-- A misread account is accepted with its whole words, the rest is dropped. -/
theorem Misread.accepted (laws : crates.TransmuteLaws) (guards : crates.GuardLaws)
    {inner : List UInt8} (misread : Misread data inner) :
    removeDexAccountPadding crates data = .ok (.owned (wordsOf inner)) := by
  rw [removeDexAccountPadding_padded misread.isPadded,
    guards.pedantic_misaligned ⟨inner, data.address + 5⟩ misread.misaligned]
  simp only [laws.copy_unaligned]

/-- Whatever else is accepted is well formed. -/
theorem wellFormed_of_accepted (guards : crates.GuardLaws) {cow : CowWords}
    (fine : ∀ inner, ¬ Misread data inner)
    (accepted : removeDexAccountPadding crates data = .ok cow) :
    ∃ inner, WellFormed data.bytes inner := by
  by_cases short : data.bytes.length < 5
  · rw [removeDexAccountPadding_short short] at accepted
    cases accepted
  by_cases mismatch : ∀ inner, data.bytes ≠ padded inner
  · have refused : (removeDexAccountPadding crates data).IsErr :=
      removeDexAccountPadding_not_padded (not_lt.mp short) mismatch
    exact absurd accepted (refused.ne_ok cow)
  rcases not_forall_not.mp mismatch with ⟨inner, isPadded⟩
  rw [removeDexAccountPadding_padded isPadded] at accepted
  by_cases ragged : inner = [] ∨ inner.length % 8 ≠ 0
  · have aligned : (data.address + 5) % 8 = 0 := by
      by_contra misaligned
      exact fine inner ⟨isPadded, ragged, misaligned⟩
    rcases guards.copy_guard with ⟨error, stays⟩
    rw [guards.pedantic_guard ⟨inner, data.address + 5⟩ aligned ragged] at accepted
    simp only [stays] at accepted
    cases accepted
  · rw [not_or, not_not] at ragged
    exact ⟨inner, isPadded, ragged.1, ragged.2⟩

end Acceptance

/-- An account is accepted exactly when it is well formed, with the words between its
markers; these are borrowed if they are aligned and copied if they are not, do not
depend on the address, and give the account back. -/
structure ReadExactly (crates : Crates) (data : Buffer) : Prop where
  accepts_iff : ∀ w, (∃ cow, removeDexAccountPadding crates data = .ok cow ∧ cow.words = w) ↔
    ∃ inner, data.bytes = accountHeadPadding ++ inner ++ accountTailPadding ∧
      0 < inner.length ∧ inner.length % 8 = 0 ∧ w = wordsOf inner
  path : ∀ cow, removeDexAccountPadding crates data = .ok cow →
    ((data.address + 5) % 8 = 0 → cow = .borrowed cow.words) ∧
      ((data.address + 5) % 8 ≠ 0 → cow = .owned cow.words)
  elsewhere : ∀ cow, removeDexAccountPadding crates data = .ok cow → ∀ address, ∃ other,
    removeDexAccountPadding crates ⟨data.bytes, address⟩ = .ok other ∧ other.words = cow.words
  apart : ∀ cow, removeDexAccountPadding crates data = .ok cow →
    accountHeadPadding.length + accountTailPadding.length < data.bytes.length
  back : ∀ cow, removeDexAccountPadding crates data = .ok cow →
    accountHeadPadding ++ bytesOf cow.words ++ accountTailPadding = data.bytes

section Exactly

variable {crates : Crates} {data : Buffer}

theorem readExactly_of_accepts (laws : crates.TransmuteLaws)
    (accepts : ∀ cow, removeDexAccountPadding crates data = .ok cow →
      ∃ inner, WellFormed data.bytes inner) : ReadExactly crates data := by
  have reads : ∀ cow, removeDexAccountPadding crates data = .ok cow →
      ∃ inner, WellFormed data.bytes inner ∧ cow = cowOf data inner := by
    intro cow accepted
    rcases accepts cow accepted with ⟨inner, wellFormed⟩
    rw [removeDexAccountPadding_wellFormed laws wellFormed] at accepted
    cases accepted
    exact ⟨inner, wellFormed, rfl⟩
  constructor
  case accepts_iff =>
    intro w
    constructor
    · rintro ⟨cow, accepted, rfl⟩
      obtain ⟨inner, wellFormed, rfl⟩ := reads cow accepted
      exact ⟨inner, wellFormed.isPadded, List.length_pos_of_ne_nil wellFormed.nonempty,
        wellFormed.whole, words_cowOf data inner⟩
    · rintro ⟨inner, isPadded, positive, whole, rfl⟩
      have wellFormed : WellFormed data.bytes inner :=
        ⟨isPadded, List.ne_nil_of_length_pos positive, whole⟩
      exact ⟨_, removeDexAccountPadding_wellFormed laws wellFormed, words_cowOf data inner⟩
  case path =>
    intro cow accepted
    obtain ⟨inner, -, rfl⟩ := reads cow accepted
    constructor
    · intro aligned
      rw [words_cowOf, cowOf, if_pos aligned]
    · intro misaligned
      rw [words_cowOf, cowOf, if_neg misaligned]
  case elsewhere =>
    intro cow accepted address
    obtain ⟨inner, wellFormed, rfl⟩ := reads cow accepted
    have moved : WellFormed (⟨data.bytes, address⟩ : Buffer).bytes inner := wellFormed
    refine ⟨_, removeDexAccountPadding_wellFormed laws moved, ?_⟩
    rw [words_cowOf, words_cowOf]
  case apart =>
    intro cow accepted
    obtain ⟨inner, wellFormed, -⟩ := reads cow accepted
    have longer := wellFormed.length_ge
    simp only [accountHeadPadding, accountTailPadding, List.length_cons, List.length_nil]
    omega
  case back =>
    intro cow accepted
    obtain ⟨inner, wellFormed, rfl⟩ := reads cow accepted
    rw [words_cowOf, bytesOf_wordsOf wellFormed.whole]
    exact wellFormed.isPadded.symm

/-- A misread account is accepted although it is not well formed. -/
theorem Misread.not_readExactly (laws : crates.TransmuteLaws) (guards : crates.GuardLaws)
    {inner : List UInt8} (misread : Misread data inner) : ¬ ReadExactly crates data := by
  intro exactly
  obtain ⟨other, isPadded, positive, whole, -⟩ :=
    (exactly.accepts_iff _).mp ⟨_, misread.accepted laws guards, rfl⟩
  exact misread.not_wellFormed other ⟨isPadded, List.ne_nil_of_length_pos positive, whole⟩

end Exactly

/-- Nine bytes between the markers, where words would not be aligned: one word is
returned, and the ninth byte is lost. -/
theorem removeDexAccountPadding_drops_byte :
    let data : Buffer := ⟨padded (List.replicate 9 1), 0⟩
    removeDexAccountPadding referenceCrates data = .ok (.owned (wordsOf (List.replicate 8 1))) ∧
      ¬ ReadExactly referenceCrates data := by
  have misread : Misread ⟨padded (List.replicate 9 1), 0⟩ (List.replicate 9 1) :=
    ⟨rfl, by decide, by decide⟩
  exact ⟨misread.accepted referenceCrates_transmuteLaws referenceCrates_guardLaws,
    misread.not_readExactly referenceCrates_transmuteLaws referenceCrates_guardLaws⟩

/-- An account is read exactly unless the markers surround something else than a
positive number of whole words, at an address that leaves it unaligned. -/
theorem removeDexAccountPadding_exact_iff (crates : Crates) (laws : crates.TransmuteLaws)
    (guards : crates.GuardLaws) (data : Buffer) :
    ReadExactly crates data ↔
      ∀ inner, data.bytes = accountHeadPadding ++ inner ++ accountTailPadding →
        (data.address + accountHeadPadding.length) % 8 ≠ 0 →
          0 < inner.length ∧ inner.length % 8 = 0 := by
  constructor
  · intro exactly inner isPadded misaligned
    by_contra ragged
    have misread : Misread data inner := by
      refine ⟨isPadded, ?_, misaligned⟩
      rw [← List.length_eq_zero_iff]
      omega
    exact misread.not_readExactly laws guards exactly
  · intro fine
    apply readExactly_of_accepts laws
    intro cow accepted
    refine wellFormed_of_accepted guards (fun inner misread => ?_) accepted
    obtain ⟨positive, whole⟩ := fine inner misread.isPadded misread.misaligned
    rcases misread.ragged with empty | ragged
    · exact List.ne_nil_of_length_pos positive empty
    · exact ragged whole

/-- One word between the markers, at an address that leaves it unaligned. -/
theorem removeDexAccountPadding_exact_one_word :
    ReadExactly referenceCrates ⟨padded (List.replicate 8 1), 0⟩ := by
  apply (removeDexAccountPadding_exact_iff referenceCrates referenceCrates_transmuteLaws
    referenceCrates_guardLaws ⟨padded (List.replicate 8 1), 0⟩).mpr
  intro inner isPadded _
  have same : List.replicate 8 1 = inner := by
    have cut := congrArg innerBytes isPadded
    rwa [innerBytes_padded, ← padded, innerBytes_padded] at cut
  rw [← same]
  decide

end RustHelper
