import RustHelper.DexAccounts
import RustHelper.ReferenceCrates

/-!
# Queue accounts decode to their ring buffers

The queue parsers return the live records in queue order whenever the header is
in range, and otherwise panic.
-/

namespace RustHelper

open ByteBlocks CheckedSlices Effect

/-- The first four words of a queue account. -/
def queueHeader (words : List UInt64) (enough : 4 ≤ words.length) : Block 32 where
  bytes := bytesOf (words.take 4)
  length_eq := by
    rw [length_bytesOf, List.length_take, Nat.min_eq_left enough]

def queueRecords (size : Nat) (words : List UInt64) : List (Block size) :=
  wholeBlocks size (bytesOf (words.drop 4))

section Parser

variable {crates : Crates} {size : Nat} {head count : Block 32 → UInt64} {words : List UInt64}

theorem parseQueue_short (short : words.length < 4) :
    parseQueue crates size head count words = .panic "assertion failed: mid <= self.len()" := by
  unfold parseQueue
  rw [splitAt_of_lt (by simpa [queueHeaderSize] using short)]
  rfl

/-- A header without one whole record behind it is an error. -/
theorem parseQueue_no_record (laws : crates.RecordLaws) (enough : 4 ≤ words.length)
    (none : 8 * (words.length - 4) < size) :
    (parseQueue crates size head count words).IsErr := by
  have header : crates.transmuteOnePedantic 32 (bytesOf (words.take 4)) =
      .ok (queueHeader words enough) := laws.one_exact 32 (queueHeader words enough)
  have records : crates.transmuteMany size (bytesOf (words.drop 4)) = .error .guard :=
    laws.many_short size _ (by simpa using none)
  unfold parseQueue
  rw [splitAt_of_le (by simpa [queueHeaderSize] using enough), Outcome.ok_bind]
  change Outcome.IsErr (Outcome.bind (Outcome.ofExcept _
    (crates.transmuteOnePedantic 32 (bytesOf (words.take 4)))) _)
  rw [header]
  change Outcome.IsErr (Outcome.bind (Outcome.ofExcept _
    (crates.transmuteMany size (bytesOf (words.drop 4)))) _)
  rw [records]
  trivial

/-- Once header and records are read, the parser splits the ring at `head` and cuts both
halves; either step panics when the header is out of range. -/
theorem parseQueue_of_read {header : Block 32} {records : List (Block size)}
    (enough : 4 ≤ words.length)
    (isHeader : crates.transmuteOnePedantic 32 (bytesOf (words.take 4)) = .ok header)
    (areRecords : crates.transmuteMany size (bytesOf (words.drop 4)) = .ok records) :
    parseQueue crates size head count words =
      if (head header).toNat ≤ records.length then
        if (count header).toNat ≤ records.length then
          .ok (header, Ring.headSegment records (head header).toNat (count header).toNat,
            Ring.tailSegment records (head header).toNat (count header).toNat)
        else .panic "range end index out of range for slice"
      else .panic "assertion failed: mid <= self.len()" := by
  unfold parseQueue
  rw [splitAt_of_le (by simpa [queueHeaderSize] using enough), Outcome.ok_bind]
  change Outcome.bind (Outcome.ofExcept _
    (crates.transmuteOnePedantic 32 (bytesOf (words.take 4)))) _ = _
  rw [isHeader]
  change Outcome.bind (Outcome.ofExcept _
    (crates.transmuteMany size (bytesOf (words.drop 4)))) _ = _
  rw [areRecords]
  change Outcome.bind (splitAt records _) _ = _
  by_cases headInRange : (head header).toNat ≤ records.length
  · rw [splitAt_of_le headInRange, if_pos headInRange]
    change Outcome.bind (subtract (count header).toNat
      (min (records.drop (head header).toNat).length (count header).toNat)) _ = _
    have headLen : min (records.drop (head header).toNat).length (count header).toNat =
        Ring.headLength records (head header).toNat (count header).toNat := by
      rw [List.length_drop]
      rfl
    rw [headLen, subtract_of_le Ring.headLength_le]
    change Outcome.bind (sliceTo (records.drop (head header).toNat)
      (Ring.headLength records (head header).toNat (count header).toNat)) _ = _
    rw [sliceTo_of_le (by rw [List.length_drop]; exact Nat.min_le_left _ _)]
    change Outcome.bind (sliceTo (records.take (head header).toNat) _) _ = _
    by_cases countInRange : (count header).toNat ≤ records.length
    · have tailFits := (Ring.tail_fits_iff headInRange).mpr countInRange
      rw [sliceTo_of_le (by rw [List.length_take]; omega), if_pos countInRange]
      rfl
    · have tailLong := mt (Ring.tail_fits_iff headInRange).mp countInRange
      rw [sliceTo_of_lt (by rw [List.length_take]; omega), if_neg countInRange]
      rfl
  · rw [splitAt_of_lt (by omega), if_neg headInRange]
    rfl

/-- Words with at least one record behind the header are read as documented. -/
theorem parseQueue_records (laws : crates.RecordLaws) (enough : 4 ≤ words.length)
    (positive : 0 < size) (some : size ≤ 8 * (words.length - 4)) :
    parseQueue crates size head count words =
      let header := queueHeader words enough
      let records := queueRecords size words
      if (head header).toNat ≤ records.length then
        if (count header).toNat ≤ records.length then
          .ok (header, Ring.headSegment records (head header).toNat (count header).toNat,
            Ring.tailSegment records (head header).toNat (count header).toNat)
        else .panic "range end index out of range for slice"
      else .panic "assertion failed: mid <= self.len()" :=
  parseQueue_of_read enough (laws.one_exact 32 (queueHeader words enough))
    (laws.many_whole size _ positive (by simpa using some))

/-- What is parsed was read from words in range, and is the ring's live part. -/
theorem parseQueue_eq_ok {header : Block 32} {first second : List (Block size)}
    (parsed : parseQueue crates size head count words = .ok (header, first, second)) :
    ∃ records, crates.transmuteOnePedantic 32 (bytesOf (words.take 4)) = .ok header ∧
      crates.transmuteMany size (bytesOf (words.drop 4)) = .ok records ∧
      (head header).toNat ≤ records.length ∧ (count header).toNat ≤ records.length ∧
      first = Ring.headSegment records (head header).toNat (count header).toNat ∧
      second = Ring.tailSegment records (head header).toNat (count header).toNat := by
  by_cases enough : 4 ≤ words.length
  · have whole := parsed
    unfold parseQueue at parsed
    rw [splitAt_of_le (by simpa [queueHeaderSize] using enough), Outcome.ok_bind] at parsed
    obtain ⟨readHeader, isHeader, parsed⟩ := Outcome.bind_eq_ok_iff.mp parsed
    obtain ⟨records, areRecords, -⟩ := Outcome.bind_eq_ok_iff.mp parsed
    have isHeader := Outcome.ofExcept_eq_ok_iff.mp isHeader
    have areRecords := Outcome.ofExcept_eq_ok_iff.mp areRecords
    rw [parseQueue_of_read enough isHeader areRecords] at whole
    split_ifs at whole with headInRange countInRange
    cases whole
    exact ⟨records, isHeader, areRecords, headInRange, countInRange, rfl, rfl⟩
  · rw [parseQueue_short (not_le.mp enough)] at parsed
    cases parsed

end Parser

section Accounts

/-- The body of a queue account: header, records and what does not fill a record. -/
def queueBody {size : Nat} (header : Block 32) (records : List (Block size))
    (slack : List UInt8) : List UInt8 :=
  header.bytes ++ joined records ++ slack

variable {size : Nat} {header : Block 32} {records : List (Block size)} {slack : List UInt8}

theorem length_queueBody (header : Block 32) (records : List (Block size)) (slack : List UInt8) :
    (queueBody header records slack).length = 32 + size * records.length + slack.length := by
  simp [queueBody]
  omega

theorem bytesOf_wordsOf_queueBody (whole : (queueBody header records slack).length % 8 = 0) :
    bytesOf (wordsOf (queueBody header records slack)) = queueBody header records slack :=
  bytesOf_wordsOf whole

theorem four_le_length_words :
    4 ≤ (wordsOf (queueBody header records slack)).length := by
  rw [length_wordsOf, length_queueBody]
  omega

theorem bytesOf_split (whole : (queueBody header records slack).length % 8 = 0) :
    bytesOf ((wordsOf (queueBody header records slack)).take 4) = header.bytes ∧
      bytesOf ((wordsOf (queueBody header records slack)).drop 4) = joined records ++ slack := by
  have split : bytesOf ((wordsOf (queueBody header records slack)).take 4) ++
      bytesOf ((wordsOf (queueBody header records slack)).drop 4) =
        header.bytes ++ (joined records ++ slack) := by
    rw [← bytesOf_append, List.take_append_drop, bytesOf_wordsOf_queueBody whole, queueBody,
      List.append_assoc]
  apply List.append_inj split
  rw [length_bytesOf, List.length_take, Nat.min_eq_left four_le_length_words, header.length_eq]

theorem queueHeader_queueBody (whole : (queueBody header records slack).length % 8 = 0) :
    queueHeader (wordsOf (queueBody header records slack)) four_le_length_words = header :=
  Block.ext (bytesOf_split whole).1

theorem queueRecords_queueBody (whole : (queueBody header records slack).length % 8 = 0)
    (short : slack.length < size) :
    queueRecords size (wordsOf (queueBody header records slack)) = records := by
  rw [queueRecords, (bytesOf_split whole).2, wholeBlocks_joined records slack short]

/-- A padded queue account with an in-range header is decoded to the live
records of its ring buffer, in two segments. -/
theorem decode_queueBody {crates : Crates} (laws : crates.TransmuteLaws)
    {head count : Block 32 → UInt64} (positive : 0 < size) (nonempty : 0 < records.length)
    (whole : (queueBody header records slack).length % 8 = 0) (short : slack.length < size)
    (headInRange : (head header).toNat ≤ records.length)
    (countInRange : (count header).toNat ≤ records.length) {data : Buffer}
    (isPadded : data.bytes = padded (queueBody header records slack)) :
    ∃ cow s0 s1, removeDexAccountPadding crates data = .ok cow ∧
      parseQueue crates size head count cow.words = .ok (header, s0, s1) ∧
      s0 ++ s1 = Ring.contents records nonempty (head header).toNat (count header).toNat ∧
      s0.length + s1.length = (count header).toNat := by
  have occupied : queueBody header records slack ≠ [] := by
    intro empty
    have length := congrArg List.length empty
    rw [length_queueBody] at length
    simp at length
  obtain ⟨cow, removed, words⟩ := removeDexAccountPadding_words laws isPadded occupied whole
  have oneRecord : size ≤ size * records.length := Nat.le_mul_of_pos_right size nonempty
  have enough : size ≤ 8 * ((wordsOf (queueBody header records slack)).length - 4) := by
    have length := length_queueBody header records slack
    rw [length_wordsOf]
    omega
  have contents := Ring.segments_eq_contents nonempty headInRange countInRange
  refine ⟨cow, _, _, removed, ?_, contents, ?_⟩
  · rw [words, parseQueue_records laws.toRecordLaws four_le_length_words positive enough]
    simp only [queueHeader_queueBody whole, queueRecords_queueBody whole short]
    rw [if_pos headInRange, if_pos countInRange]
  · rw [← List.length_append, contents, Ring.length_contents]

end Accounts

/-- Queue accounts decode to exactly the live records of the ring, in order. -/
theorem queueAccounts_decode (crates : Crates) (laws : crates.TransmuteLaws)
    (header : Block 32) (slack : List UInt8) (address : Nat) :
    (∀ (a : List (Block 88)) (nonempty : 0 < a.length),
      (crates.eventQueueHead header).toNat ≤ a.length →
      (crates.eventQueueCount header).toNat ≤ a.length → slack.length < 88 →
      (header.bytes ++ joined a ++ slack).length % 8 = 0 →
      ∃ cow s0 s1,
        removeDexAccountPadding crates ⟨padded (header.bytes ++ joined a ++ slack), address⟩ =
          .ok cow ∧
        parseEventQueue crates cow.words = .ok (header, s0, s1) ∧
        s0 ++ s1 = Ring.contents a nonempty (crates.eventQueueHead header).toNat
          (crates.eventQueueCount header).toNat ∧
        s0.length + s1.length = (crates.eventQueueCount header).toNat) ∧
    ∀ (a : List (Block 80)) (nonempty : 0 < a.length),
      (crates.requestQueueHead header).toNat ≤ a.length →
      (crates.requestQueueCount header).toNat ≤ a.length → slack.length < 80 →
      (header.bytes ++ joined a ++ slack).length % 8 = 0 →
      ∃ cow s0 s1,
        removeDexAccountPadding crates ⟨padded (header.bytes ++ joined a ++ slack), address⟩ =
          .ok cow ∧
        parseReqQueue crates cow.words = .ok (header, s0, s1) ∧
        s0 ++ s1 = Ring.contents a nonempty (crates.requestQueueHead header).toNat
          (crates.requestQueueCount header).toNat ∧
        s0.length + s1.length = (crates.requestQueueCount header).toNat := by
  constructor
  · intro a nonempty headInRange countInRange short whole
    exact decode_queueBody laws (by omega) nonempty whole short headInRange countInRange rfl
  · intro a nonempty headInRange countInRange short whole
    exact decode_queueBody laws (by omega) nonempty whole short headInRange countInRange rfl

/-- A queue of two events that starts at the second one is decoded with the
wrapped event last. -/
theorem queueAccounts_decode_wrapped :
    let first := Reference.eventOf ⟨1, 0, 0, 0⟩
    let second := Reference.eventOf ⟨2, 0, 0, 0⟩
    let header := Reference.queueHeader 1 2
    ∃ cow s0 s1,
      removeDexAccountPadding referenceCrates
        ⟨padded (header.bytes ++ joined [first, second] ++ []), 0⟩ = .ok cow ∧
      parseEventQueue referenceCrates cow.words = .ok (header, s0, s1) ∧
      s0 ++ s1 = [second, first] := by
  intro first second header
  have head : (referenceCrates.eventQueueHead header).toNat = 1 := by simp [header]
  have count : (referenceCrates.eventQueueCount header).toNat = 2 := by simp [header]
  obtain ⟨cow, s0, s1, removed, parsed, contents, _⟩ :=
    (queueAccounts_decode referenceCrates referenceCrates_transmuteLaws header [] 0).1
      [first, second] (by simp) (by simp [head]) (by simp [count]) (by simp) (by simp)
  refine ⟨cow, s0, s1, removed, parsed, ?_⟩
  rw [contents, head, count]
  simp [Ring.contents, List.ofFn_succ]

end RustHelper
