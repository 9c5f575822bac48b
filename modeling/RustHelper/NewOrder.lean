import RustHelper.WireKeys
import RustHelper.MarketKeys

/-!
# Orders on the wire

The `Order` message and its conversion to an instruction of the DEX program.
-/

namespace RustHelper

open Effect

structure PbProgramId where
  id : Option PbPubkey

/-- `serum.NewOrderInstructionV3`; enumerations arrive as open-ended numbers. -/
structure PbNewOrderInstructionV3 where
  side : Bool
  limitPrice : UInt64
  maxCoinQty : UInt64
  maxNativePcQtyIncludingFees : UInt64
  selfTradeBehavior : Int32
  orderType : Int32
  clientOrderId : UInt64
  limit : UInt32
  deriving DecidableEq

structure PbOrder where
  order : Option PbNewOrderInstructionV3
  dexProgramId : Option PbProgramId
  payer : Option PbKeypair
  wallet : Option PbPubkey
  market : Option PbMarketState
  orders : Option PbPubkey

/-- `NonZeroU64::new(value).ok_or(error)` -/
def nonZero (value : UInt64) (error : Status) : Outcome Status NonZeroU64 :=
  if nonzero : value ≠ 0 then .ok ⟨value, nonzero⟩ else .err error

/-- The branch of `convert_new_order_v3` on `self_trade_behavior`. -/
def convertSelfTradeBehavior (number : Int32) : Outcome Status SelfTradeBehavior :=
  if number = 2 then .ok .abortTransaction
  else if number = 1 then .ok .cancelProvide
  else if number = 0 then .ok .decrementTake
  else .err (.invalidArgument "bad self trade behavior")

/-- The branch on `order_type`. -/
def convertOrderType (number : Int32) : Outcome Status OrderType :=
  if number = 1 then .ok .immediateOrCancel
  else if number = 0 then .ok .limit
  else if number = 2 then .ok .postOnly
  else .err (.invalidArgument "bad order type")

/-- The check of `limit` and its cast. -/
def convertLimit (limit : UInt32) : Outcome Status UInt16 :=
  if 65535 ≤ limit then .err (.invalidArgument "bad limit type")
  else .ok limit.toUInt16

/-- `convert_new_order_v3`, from the present order on. -/
def convertOrder (order : PbNewOrderInstructionV3) : Outcome Status NewOrderInstructionV3 := do
  let side := if order.side then Side.bid else Side.ask
  let limitPrice ← nonZero order.limitPrice (.invalidArgument "limit_price is zero")
  let maxCoinQty ← nonZero order.maxCoinQty (.invalidArgument "max_coin_qty is zero")
  let maxNativePcQtyIncludingFees ← nonZero order.maxNativePcQtyIncludingFees
    (.invalidArgument "max_coin_qty is zero")
  let selfTradeBehavior ← convertSelfTradeBehavior order.selfTradeBehavior
  let orderType ← convertOrderType order.orderType
  let limit ← convertLimit order.limit
  .ok
    { side, limitPrice, maxCoinQty, maxNativePcQtyIncludingFees, selfTradeBehavior, orderType
      clientOrderId := order.clientOrderId
      limit }

def convertNewOrderV3 (req : PbOrder) : Outcome Status NewOrderInstructionV3 :=
  match req.order with
  | some y => convertOrder y
  | none => .err (.invalidArgument "no order")

/-- The number that stands for the value in a message. -/
def SelfTradeBehavior.number : SelfTradeBehavior → Int32
  | .decrementTake => 0
  | .cancelProvide => 1
  | .abortTransaction => 2

def OrderType.number : OrderType → Int32
  | .limit => 0
  | .immediateOrCancel => 1
  | .postOnly => 2

/-- The fields of the order are such that an instruction can hold them. -/
structure Representable (order : PbNewOrderInstructionV3) : Prop where
  limitPrice : order.limitPrice ≠ 0
  maxCoinQty : order.maxCoinQty ≠ 0
  maxNativePcQtyIncludingFees : order.maxNativePcQtyIncludingFees ≠ 0
  selfTradeBehavior : ∃ behavior : SelfTradeBehavior, behavior.number = order.selfTradeBehavior
  orderType : ∃ type : OrderType, type.number = order.orderType
  limit : order.limit ≤ 65535

/-- The instruction says what the order expresses. -/
structure Expresses (order : PbNewOrderInstructionV3) (instruction : NewOrderInstructionV3) :
    Prop where
  side : instruction.side = if order.side then .bid else .ask
  limitPrice : instruction.limitPrice.val = order.limitPrice
  maxCoinQty : instruction.maxCoinQty.val = order.maxCoinQty
  maxNativePcQtyIncludingFees :
    instruction.maxNativePcQtyIncludingFees.val = order.maxNativePcQtyIncludingFees
  selfTradeBehavior : instruction.selfTradeBehavior.number = order.selfTradeBehavior
  orderType : instruction.orderType.number = order.orderType
  clientOrderId : instruction.clientOrderId = order.clientOrderId
  limit : instruction.limit.toUInt32 = order.limit

/-- The enumerations have three values each. -/
theorem representable_iff_fields {order : PbNewOrderInstructionV3} :
    Representable order ↔
      (order.limitPrice ≠ 0 ∧ order.maxCoinQty ≠ 0 ∧ order.maxNativePcQtyIncludingFees ≠ 0) ∧
        order.selfTradeBehavior ∈ [0, 1, 2] ∧ order.orderType ∈ [0, 1, 2] ∧
          order.limit ≤ 65535 := by
  have behaviors (number : Int32) :
      (∃ behavior : SelfTradeBehavior, behavior.number = number) ↔ number ∈ [0, 1, 2] := by
    constructor
    · rintro ⟨behavior, rfl⟩
      cases behavior <;> decide
    · simp only [List.mem_cons, List.not_mem_nil, or_false]
      rintro (rfl | rfl | rfl)
      exacts [⟨.decrementTake, rfl⟩, ⟨.cancelProvide, rfl⟩, ⟨.abortTransaction, rfl⟩]
  have types (number : Int32) :
      (∃ type : OrderType, type.number = number) ↔ number ∈ [0, 1, 2] := by
    constructor
    · rintro ⟨type, rfl⟩
      cases type <;> decide
    · simp only [List.mem_cons, List.not_mem_nil, or_false]
      rintro (rfl | rfl | rfl)
      exacts [⟨.limit, rfl⟩, ⟨.immediateOrCancel, rfl⟩, ⟨.postOnly, rfl⟩]
  rw [← behaviors, ← types]
  constructor
  · rintro ⟨limitPrice, maxCoinQty, maxNative, behavior, type, limit⟩
    exact ⟨⟨limitPrice, maxCoinQty, maxNative⟩, behavior, type, limit⟩
  · rintro ⟨⟨limitPrice, maxCoinQty, maxNative⟩, behavior, type, limit⟩
    exact ⟨limitPrice, maxCoinQty, maxNative, behavior, type, limit⟩

section Fields

theorem nonZero_eq_ok_iff {value : UInt64} {error : Status} {result : NonZeroU64} :
    nonZero value error = .ok result ↔ result.val = value := by
  unfold nonZero
  split_ifs with nonzero
  · simp [Subtype.ext_iff, eq_comm]
  · rw [not_not] at nonzero
    simp [nonzero, result.property]

theorem convertSelfTradeBehavior_eq_ok_iff {number : Int32} {behavior : SelfTradeBehavior} :
    convertSelfTradeBehavior number = .ok behavior ↔ behavior.number = number := by
  unfold convertSelfTradeBehavior
  split_ifs with isTwo isOne isZero
  · subst isTwo
    cases behavior <;> decide
  · subst isOne
    cases behavior <;> decide
  · subst isZero
    cases behavior <;> decide
  · cases behavior <;> simp [SelfTradeBehavior.number, eq_comm, isTwo, isOne, isZero]

theorem convertOrderType_eq_ok_iff {number : Int32} {type : OrderType} :
    convertOrderType number = .ok type ↔ type.number = number := by
  unfold convertOrderType
  split_ifs with isOne isZero isTwo
  · subst isOne
    cases type <;> decide
  · subst isZero
    cases type <;> decide
  · subst isTwo
    cases type <;> decide
  · cases type <;> simp [OrderType.number, eq_comm, isTwo, isOne, isZero]

/-- The comparison also refuses the largest limit that the cast keeps. -/
theorem convertLimit_eq_ok_iff {limit : UInt32} {result : UInt16} :
    convertLimit limit = .ok result ↔ limit ≠ 65535 ∧ result.toUInt32 = limit := by
  unfold convertLimit
  have bound := result.toNat_lt
  simp only [UInt32.le_iff_toNat_le, ne_eq, ← UInt32.toNat_inj, UInt16.toNat_toUInt32,
    UInt32.reduceToNat]
  split_ifs with large
  · simp only [false_iff, not_and]
    omega
  · have kept : limit.toUInt16.toNat = limit.toNat := by
      rw [UInt32.toNat_toUInt16]
      omega
    simp only [Outcome.ok.injEq, ← UInt16.toNat_inj, kept]
    omega

theorem exists_toUInt32_eq_iff {limit : UInt32} :
    (∃ small : UInt16, small.toUInt32 = limit) ↔ limit ≤ 65535 := by
  simp only [UInt32.le_iff_toNat_le, ← UInt32.toNat_inj, UInt16.toNat_toUInt32,
    UInt32.reduceToNat]
  constructor
  · rintro ⟨small, same⟩
    have bound := small.toNat_lt
    omega
  · intro fits
    refine ⟨limit.toUInt16, ?_⟩
    rw [UInt32.toNat_toUInt16]
    omega

@[simp] theorem nonZero_not_panics (value : UInt64) (error : Status) :
    ¬ (nonZero value error).Panics := by
  unfold nonZero
  split_ifs <;> exact id

@[simp] theorem convertSelfTradeBehavior_not_panics (number : Int32) :
    ¬ (convertSelfTradeBehavior number).Panics := by
  unfold convertSelfTradeBehavior
  split_ifs <;> exact id

@[simp] theorem convertOrderType_not_panics (number : Int32) :
    ¬ (convertOrderType number).Panics := by
  unfold convertOrderType
  split_ifs <;> exact id

@[simp] theorem convertLimit_not_panics (limit : UInt32) : ¬ (convertLimit limit).Panics := by
  unfold convertLimit
  split_ifs <;> exact id

end Fields

section Orders

variable {order other : PbNewOrderInstructionV3} {instruction : NewOrderInstructionV3}

/-- An order is representable when some instruction says the same. -/
theorem representable_iff : Representable order ↔ ∃ instruction, Expresses order instruction := by
  constructor
  · intro valid
    obtain ⟨behavior, isBehavior⟩ := valid.selfTradeBehavior
    obtain ⟨type, isType⟩ := valid.orderType
    obtain ⟨limit, isLimit⟩ := exists_toUInt32_eq_iff.mpr valid.limit
    exact ⟨⟨if order.side then .bid else .ask, ⟨_, valid.limitPrice⟩, ⟨_, valid.maxCoinQty⟩,
      ⟨_, valid.maxNativePcQtyIncludingFees⟩, behavior, type, order.clientOrderId, limit⟩,
      rfl, rfl, rfl, rfl, isBehavior, isType, rfl, isLimit⟩
  · rintro ⟨instruction, expresses⟩
    constructor
    · exact expresses.limitPrice ▸ instruction.limitPrice.property
    · exact expresses.maxCoinQty ▸ instruction.maxCoinQty.property
    · exact expresses.maxNativePcQtyIncludingFees ▸ instruction.maxNativePcQtyIncludingFees.property
    · exact ⟨_, expresses.selfTradeBehavior⟩
    · exact ⟨_, expresses.orderType⟩
    · exact exists_toUInt32_eq_iff.mp ⟨_, expresses.limit⟩

/-- Two orders that one instruction expresses are the same order. -/
theorem Expresses.unique (first : Expresses order instruction)
    (second : Expresses other instruction) : order = other := by
  have side : order.side = other.side := by
    have same := first.side.symm.trans second.side
    cases hside : order.side <;> cases hother : other.side <;> simp [hside, hother] at same ⊢
  have limitPrice := first.limitPrice.symm.trans second.limitPrice
  have maxCoinQty := first.maxCoinQty.symm.trans second.maxCoinQty
  have maxNative :=
    first.maxNativePcQtyIncludingFees.symm.trans second.maxNativePcQtyIncludingFees
  have behavior := first.selfTradeBehavior.symm.trans second.selfTradeBehavior
  have type := first.orderType.symm.trans second.orderType
  have clientOrderId := first.clientOrderId.symm.trans second.clientOrderId
  have limit := first.limit.symm.trans second.limit
  cases order
  cases other
  simp_all

theorem convertOrder_eq_ok_iff :
    convertOrder order = .ok instruction ↔ order.limit ≠ 65535 ∧ Expresses order instruction := by
  unfold convertOrder
  simp only [Outcome.bind_eq_ok_iff, nonZero_eq_ok_iff, convertSelfTradeBehavior_eq_ok_iff,
    convertOrderType_eq_ok_iff, convertLimit_eq_ok_iff]
  constructor
  · rintro ⟨_, limitPrice, _, maxCoinQty, _, maxNative, _, behavior, _, type, _,
      ⟨small, limit⟩, built⟩
    cases built
    exact ⟨small, rfl, limitPrice, maxCoinQty, maxNative, behavior, type, rfl, limit⟩
  · rintro ⟨small, expresses⟩
    have maxNative := expresses.maxNativePcQtyIncludingFees
    refine ⟨_, expresses.limitPrice, _, expresses.maxCoinQty, _, maxNative, _,
      expresses.selfTradeBehavior, _, expresses.orderType, _, ⟨small, expresses.limit⟩, ?_⟩
    rw [← expresses.side, ← expresses.clientOrderId]

theorem convertOrder_not_panics (order : PbNewOrderInstructionV3) :
    ¬ (convertOrder order).Panics := by
  simp [convertOrder, Outcome.panics_bind_iff]

end Orders

section Messages

/-- The message holds an order that an instruction can express. -/
def HoldsRepresentable (req : PbOrder) : Prop :=
  ∃ order, req.order = some order ∧ Representable order

theorem convertNewOrderV3_eq_ok_iff {req : PbOrder} {instruction : NewOrderInstructionV3} :
    convertNewOrderV3 req = .ok instruction ↔
      ∃ order, req.order = some order ∧ order.limit ≠ 65535 ∧ Expresses order instruction := by
  unfold convertNewOrderV3
  cases req.order with
  | none => simp
  | some order => simp [convertOrder_eq_ok_iff]

theorem convertNewOrderV3_not_panics (req : PbOrder) : ¬ (convertNewOrderV3 req).Panics := by
  unfold convertNewOrderV3
  cases req.order with
  | none => exact id
  | some order => exact convertOrder_not_panics order

/-- An order with the largest limit is refused. -/
theorem convertNewOrderV3_isOk_iff (req : PbOrder) :
    (∃ instruction, convertNewOrderV3 req = .ok instruction) ↔
      HoldsRepresentable req ∧ ∀ order, req.order = some order → order.limit ≠ 65535 := by
  constructor
  · rintro ⟨instruction, accepted⟩
    obtain ⟨order, present, small, expresses⟩ := convertNewOrderV3_eq_ok_iff.mp accepted
    refine ⟨⟨order, present, representable_iff.mpr ⟨instruction, expresses⟩⟩, ?_⟩
    intro other isOther
    cases present.symm.trans isOther
    exact small
  · rintro ⟨⟨order, present, representable⟩, small⟩
    obtain ⟨instruction, expresses⟩ := representable_iff.mp representable
    exact ⟨instruction, convertNewOrderV3_eq_ok_iff.mpr
      ⟨order, present, small order present, expresses⟩⟩

/-- The conversion accepts exactly the representable orders, refuses all others
with an error, expresses what it accepts and never confuses two orders, exactly
for the messages without a representable order of the largest limit. -/
theorem newOrderConversion_exact (req : PbOrder) :
    (((∃ instruction, convertNewOrderV3 req = .ok instruction) ↔ HoldsRepresentable req) ∧
      ((convertNewOrderV3 req).IsErr ↔ ¬ HoldsRepresentable req) ∧
      (∀ instruction, convertNewOrderV3 req = .ok instruction →
        ∃ order, req.order = some order ∧ Expresses order instruction) ∧
      ∀ other instruction, convertNewOrderV3 req = .ok instruction →
        convertNewOrderV3 other = .ok instruction → req.order = other.order) ↔
    ¬ (HoldsRepresentable req ∧ ∃ order, req.order = some order ∧ order.limit = 65535) := by
  constructor
  · rintro ⟨accepts, _⟩ ⟨representable, order, present, largest⟩
    exact ((convertNewOrderV3_isOk_iff req).mp (accepts.mpr representable)).2 order present largest
  · intro small
    have accepts : (∃ instruction, convertNewOrderV3 req = .ok instruction) ↔
        HoldsRepresentable req := by
      rw [convertNewOrderV3_isOk_iff]
      refine and_iff_left_of_imp fun representable order present largest => ?_
      exact small ⟨representable, order, present, largest⟩
    refine ⟨accepts, ?_, ?_, ?_⟩
    · rw [← accepts]
      have noPanic := convertNewOrderV3_not_panics req
      generalize convertNewOrderV3 req = outcome at noPanic
      cases outcome with
      | ok instruction => simp [Outcome.IsErr]
      | err error => simp [Outcome.IsErr]
      | panic message => exact absurd trivial noPanic
    · intro instruction accepted
      obtain ⟨order, present, _, expresses⟩ := convertNewOrderV3_eq_ok_iff.mp accepted
      exact ⟨order, present, expresses⟩
    · intro other instruction accepted acceptedOther
      obtain ⟨order, present, _, expresses⟩ := convertNewOrderV3_eq_ok_iff.mp accepted
      obtain ⟨second, presentOther, _, expressesOther⟩ :=
        convertNewOrderV3_eq_ok_iff.mp acceptedOther
      rw [present, presentOther, expresses.unique expressesOther]

/-- An order for at most 65535 matches is representable, and refused. -/
theorem newOrderConversion_refuses_largest_limit :
    let order : PbNewOrderInstructionV3 := ⟨true, 1, 1, 1, 0, 0, 7, 65535⟩
    HoldsRepresentable ⟨some order, none, none, none, none, none⟩ ∧
      convertNewOrderV3 ⟨some order, none, none, none, none, none⟩ =
        .err (.invalidArgument "bad limit type") := by
  intro order
  have representable : Representable order :=
    ⟨by decide, by decide, by decide, ⟨.decrementTake, rfl⟩, ⟨.limit, rfl⟩, by decide⟩
  exact ⟨⟨order, rfl, representable⟩, by decide⟩

end Messages

end RustHelper
