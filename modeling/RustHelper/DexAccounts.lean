import RustHelper.CheckedSlices
import RustHelper.RingSegments
import RustHelper.Crates

/-!
# Decoding accounts of the DEX program

A DEX account is padded by the text `serum` in front and `padding` behind.
What is left is read as 64-bit words; a queue account has a header of four
words followed by an array of records that is used as a ring buffer.
-/

namespace RustHelper

open ByteBlocks CheckedSlices Effect

/-- `serum_dex::state::ACCOUNT_HEAD_PADDING`, the text `serum`. -/
def accountHeadPadding : List UInt8 := [115, 101, 114, 117, 109]

/-- `serum_dex::state::ACCOUNT_TAIL_PADDING`, the text `padding`. -/
def accountTailPadding : List UInt8 := [112, 97, 100, 100, 105, 110, 103]

/-- Words borrowed from the account data, or copied out of it. -/
inductive CowWords
  | borrowed (words : List UInt64)
  | owned (words : List UInt64)
  deriving DecidableEq

def CowWords.words : CowWords → List UInt64
  | .borrowed words => words
  | .owned words => words

/-- `size_of::<EventQueueHeader>()`, also that of the request queue header. -/
def queueHeaderSize : Nat := 32

/-- `size_of::<Event>()` -/
def eventSize : Nat := 88

/-- `size_of::<Request>()` -/
def requestSize : Nat := 80

section Source

variable (crates : Crates)

def removeDexAccountPadding (data : Buffer) : Outcome AnyError CowWords := do
  let head ← sliceTo data.bytes accountHeadPadding.length
  if data.bytes.length < accountHeadPadding.length + accountTailPadding.length then
    .err (.message ("dex account length " ++ toString data.bytes.length ++
      " is too small to contain valid padding"))
  else if head ≠ accountHeadPadding then
    .err (.message "dex account head padding mismatch")
  else do
    let tailStart ← subtract data.bytes.length accountTailPadding.length
    let tail ← sliceFrom data.bytes tailStart
    if tail ≠ accountTailPadding then
      .err (.message "dex account tail padding mismatch")
    else do
      let upToTail ← sliceTo data.bytes tailStart
      let innerBytes ← sliceFrom upToTail accountHeadPadding.length
      let inner : Buffer := ⟨innerBytes, data.address + accountHeadPadding.length⟩
      match crates.transmuteManyPedantic inner with
      | .ok wordSlice => .ok (.borrowed wordSlice)
      | .error transmuteError =>
          match crates.transmuteCopy transmuteError with
          | .ok wordVec => .ok (.owned wordVec)
          | .error error => .err (.transmute error.withoutSrc)

/-- The body shared by the two queue parsers, which differ in the header's
accessors and in the size of a record. -/
def parseQueue (size : Nat) (head count : Block 32 → UInt64) (dataWords : List UInt64) :
    Outcome AnyError (Block 32 × List (Block size) × List (Block size)) := do
  let (headerWords, recordWords) ← splitAt dataWords (queueHeaderSize >>> 3)
  let header ← Outcome.ofExcept (fun error => AnyError.transmute error.withoutSrc)
    (crates.transmuteOnePedantic 32 (bytesOf headerWords))
  let records ← Outcome.ofExcept (fun error => AnyError.transmute error.withoutSrc)
    (crates.transmuteMany size (bytesOf recordWords))
  let (tailSeg, headSeg) ← splitAt records (head header).toNat
  let headLen := min headSeg.length (count header).toNat
  let tailLen ← subtract (count header).toNat headLen
  let first ← sliceTo headSeg headLen
  let second ← sliceTo tailSeg tailLen
  .ok (header, first, second)

def parseEventQueue (dataWords : List UInt64) :
    Outcome AnyError (Block 32 × List (Block 88) × List (Block 88)) :=
  parseQueue crates eventSize crates.eventQueueHead crates.eventQueueCount dataWords

def parseReqQueue (dataWords : List UInt64) :
    Outcome AnyError (Block 32 × List (Block 80) × List (Block 80)) :=
  parseQueue crates requestSize crates.requestQueueHead crates.requestQueueCount dataWords

end Source

/-- The account bytes around `inner`. -/
def padded (inner : List UInt8) : List UInt8 :=
  accountHeadPadding ++ inner ++ accountTailPadding

/-- The part between head and tail markers, for data long enough to have both. -/
def innerBytes (bytes : List UInt8) : List UInt8 :=
  (bytes.take (bytes.length - 7)).drop 5

@[simp] theorem length_padded (inner : List UInt8) :
    (padded inner).length = inner.length + 12 := by
  simp [padded, accountHeadPadding, accountTailPadding]

@[simp] theorem innerBytes_padded (inner : List UInt8) : innerBytes (padded inner) = inner := by
  have front : (padded inner).take ((padded inner).length - 7) = accountHeadPadding ++ inner := by
    rw [length_padded]
    exact List.take_left' (by simp [accountHeadPadding])
  rw [innerBytes, front]
  rfl

section Padding

variable {crates : Crates} {data : Buffer}

/-- Data shorter than the head marker is sliced before its length is tested. -/
theorem removeDexAccountPadding_short (short : data.bytes.length < 5) :
    removeDexAccountPadding crates data = .panic "range end index out of range for slice" := by
  unfold removeDexAccountPadding
  rw [sliceTo_of_lt (by simpa [accountHeadPadding] using short)]
  rfl

/-- Beyond the unguarded slice, everything but a padded account is an error. -/
theorem removeDexAccountPadding_not_padded (long : 5 ≤ data.bytes.length)
    (mismatch : ∀ inner, data.bytes ≠ padded inner) :
    (removeDexAccountPadding crates data).IsErr := by
  unfold removeDexAccountPadding
  rw [sliceTo_of_le (by simpa [accountHeadPadding] using long), Outcome.ok_bind]
  split_ifs with tooShort headMismatch
  · trivial
  · trivial
  · simp only [accountHeadPadding, accountTailPadding, List.length_cons, List.length_nil,
      not_lt] at tooShort
    rw [subtract_of_le (by simp [accountTailPadding]; omega), Outcome.ok_bind,
      sliceFrom_of_le (by omega), Outcome.ok_bind]
    split_ifs with tailMismatch
    · trivial
    · -- both markers match, so the data is padded after all
      exfalso
      simp only [ne_eq, not_not] at headMismatch tailMismatch
      apply mismatch (innerBytes data.bytes)
      have front : data.bytes.take 5 ++ innerBytes data.bytes =
          data.bytes.take (data.bytes.length - 7) := by
        have five : (data.bytes.take (data.bytes.length - 7)).take 5 = data.bytes.take 5 := by
          rw [List.take_take, Nat.min_eq_left (by omega)]
        rw [innerBytes, ← five, List.take_append_drop]
      calc data.bytes
          = data.bytes.take (data.bytes.length - 7) ++ data.bytes.drop (data.bytes.length - 7) :=
            (List.take_append_drop _ _).symm
        _ = padded (innerBytes data.bytes) := by
            rw [← front]
            exact congrArg₂ (· ++ innerBytes data.bytes ++ ·) headMismatch tailMismatch

theorem removeDexAccountPadding_padded {inner : List UInt8} (isPadded : data.bytes = padded inner) :
    removeDexAccountPadding crates data =
      match crates.transmuteManyPedantic ⟨inner, data.address + 5⟩ with
      | .ok wordSlice => .ok (.borrowed wordSlice)
      | .error transmuteError =>
          match crates.transmuteCopy transmuteError with
          | .ok wordVec => .ok (.owned wordVec)
          | .error error => .err (.transmute error.withoutSrc) := by
  have length : data.bytes.length = inner.length + 12 := by rw [isPadded, length_padded]
  have head : data.bytes.take 5 = accountHeadPadding := by
    rw [isPadded]
    rfl
  have tail : data.bytes.drop (data.bytes.length - 7) = accountTailPadding := by
    rw [length, isPadded]
    exact List.drop_left' (by simp [accountHeadPadding])
  have cut : (data.bytes.take (data.bytes.length - 7)).drop 5 = inner := by
    rw [isPadded]
    exact innerBytes_padded inner
  have five : accountHeadPadding.length = 5 := rfl
  have seven : accountTailPadding.length = 7 := rfl
  unfold removeDexAccountPadding
  rw [five, seven, sliceTo_of_le (by omega), Outcome.ok_bind, if_neg (by omega),
    if_neg (not_not.mpr head), subtract_of_le (by omega), Outcome.ok_bind,
    sliceFrom_of_le (by omega), Outcome.ok_bind, if_neg (not_not.mpr tail),
    sliceTo_of_le (by omega), Outcome.ok_bind, sliceFrom_of_le (by simp; omega), Outcome.ok_bind,
    cut]

theorem removeDexAccountPadding_words (laws : crates.TransmuteLaws) {inner : List UInt8}
    (isPadded : data.bytes = padded inner) (nonempty : inner ≠ [])
    (whole : inner.length % 8 = 0) :
    ∃ cow, removeDexAccountPadding crates data = .ok cow ∧ cow.words = wordsOf inner := by
  rw [removeDexAccountPadding_padded isPadded]
  by_cases aligned : (data.address + 5) % 8 = 0
  · refine ⟨.borrowed (wordsOf inner), ?_, rfl⟩
    rw [laws.pedantic_aligned ⟨inner, data.address + 5⟩ nonempty whole aligned]
  · refine ⟨.owned (wordsOf inner), ?_, rfl⟩
    rw [laws.pedantic_unaligned ⟨inner, data.address + 5⟩ nonempty whole aligned]
    simp only [laws.copy_unaligned]

end Padding

end RustHelper
