import RustHelper.WireKeys

/-!
# The key set of a market and its wire form

The converters of `serum.rs` between the keys of a market and the
`MarketPubkeys` message, field by field.
-/

namespace RustHelper

open Effect

/-- `dex::MarketPubkeys`. -/
structure MarketPubkeys where
  market : Pubkey
  reqQ : Pubkey
  eventQ : Pubkey
  bids : Pubkey
  asks : Pubkey
  coinVault : Pubkey
  pcVault : Pubkey
  vaultSignerKey : Pubkey
  deriving DecidableEq

/-- `serum.MarketPubkeys`. -/
structure PbMarketPubkeys where
  market : Option PbPubkey
  reqQ : Option PbPubkey
  eventQ : Option PbPubkey
  bids : Option PbPubkey
  asks : Option PbPubkey
  coinVault : Option PbPubkey
  pcVault : Option PbPubkey
  vaultSignerKey : Option PbPubkey
  deriving DecidableEq

inductive PbMarket
  | id (id : PbPubkey)
  | state (state : PbMarketPubkeys)
  deriving DecidableEq

structure PbMarketState where
  market : Option PbMarket
  deriving DecidableEq

def convertMarketPubkeys (ans : MarketPubkeys) : PbMarketPubkeys where
  market := some (reversePubkey ans.market)
  reqQ := some (reversePubkey ans.reqQ)
  eventQ := some (reversePubkey ans.eventQ)
  bids := some (reversePubkey ans.bids)
  asks := some (reversePubkey ans.asks)
  coinVault := some (reversePubkey ans.coinVault)
  pcVault := some (reversePubkey ans.pcVault)
  vaultSignerKey := some (reversePubkey ans.vaultSignerKey)

/-- `match &field { Some(x) => convert_pubkey(x)?, None => return Err(..) }` -/
def requiredKey (field : Option PbPubkey) : Outcome AnyError Pubkey :=
  match field with
  | some x => convertPubkey x
  | none => .err (.message "bad variable")

def reverseMarketPubkeys (ans : PbMarketPubkeys) : Outcome AnyError MarketPubkeys := do
  let market ← requiredKey ans.market
  let reqQ ← requiredKey ans.reqQ
  let eventQ ← requiredKey ans.eventQ
  let bids ← requiredKey ans.bids
  let asks ← requiredKey ans.asks
  let coinVault ← requiredKey ans.coinVault
  let pcVault ← requiredKey ans.pcVault
  let vaultSignerKey ← requiredKey ans.vaultSignerKey
  .ok { market, reqQ, eventQ, bids, asks, coinVault, pcVault, vaultSignerKey }

section Codec

/-- The field is present and has the length of a key. -/
def ValidKey (field : Option PbPubkey) : Prop := ∃ x, field = some x ∧ x.data.length = 32

structure ValidKeys (p : PbMarketPubkeys) : Prop where
  market : ValidKey p.market
  reqQ : ValidKey p.reqQ
  eventQ : ValidKey p.eventQ
  bids : ValidKey p.bids
  asks : ValidKey p.asks
  coinVault : ValidKey p.coinVault
  pcVault : ValidKey p.pcVault
  vaultSignerKey : ValidKey p.vaultSignerKey

theorem requiredKey_isOk_iff (field : Option PbPubkey) :
    (∃ key, requiredKey field = .ok key) ↔ ValidKey field := by
  cases field with
  | none => simp [requiredKey, ValidKey]
  | some x => simpa [requiredKey, ValidKey] using convertPubkey_isOk_iff x

/-- The decoder reads every key from the field of its name. -/
theorem reverseMarketPubkeys_eq_ok_iff (p : PbMarketPubkeys) (m : MarketPubkeys) :
    reverseMarketPubkeys p = .ok m ↔
      requiredKey p.market = .ok m.market ∧ requiredKey p.reqQ = .ok m.reqQ ∧
      requiredKey p.eventQ = .ok m.eventQ ∧ requiredKey p.bids = .ok m.bids ∧
      requiredKey p.asks = .ok m.asks ∧ requiredKey p.coinVault = .ok m.coinVault ∧
      requiredKey p.pcVault = .ok m.pcVault ∧
      requiredKey p.vaultSignerKey = .ok m.vaultSignerKey := by
  simp only [reverseMarketPubkeys, Outcome.bind_eq_ok_iff, Outcome.ok.injEq]
  constructor
  · rintro ⟨_, market, _, reqQ, _, eventQ, _, bids, _, asks, _, coinVault, _, pcVault, _,
      vaultSignerKey, rfl⟩
    exact ⟨market, reqQ, eventQ, bids, asks, coinVault, pcVault, vaultSignerKey⟩
  · rintro ⟨market, reqQ, eventQ, bids, asks, coinVault, pcVault, vaultSignerKey⟩
    exact ⟨_, market, _, reqQ, _, eventQ, _, bids, _, asks, _, coinVault, _, pcVault, _,
      vaultSignerKey, rfl⟩

theorem reverseMarketPubkeys_isOk_iff (p : PbMarketPubkeys) :
    (∃ m, reverseMarketPubkeys p = .ok m) ↔ ValidKeys p := by
  simp only [reverseMarketPubkeys_eq_ok_iff]
  constructor
  · rintro ⟨m, market, reqQ, eventQ, bids, asks, coinVault, pcVault, vaultSignerKey⟩
    exact
      { market := (requiredKey_isOk_iff _).mp ⟨_, market⟩
        reqQ := (requiredKey_isOk_iff _).mp ⟨_, reqQ⟩
        eventQ := (requiredKey_isOk_iff _).mp ⟨_, eventQ⟩
        bids := (requiredKey_isOk_iff _).mp ⟨_, bids⟩
        asks := (requiredKey_isOk_iff _).mp ⟨_, asks⟩
        coinVault := (requiredKey_isOk_iff _).mp ⟨_, coinVault⟩
        pcVault := (requiredKey_isOk_iff _).mp ⟨_, pcVault⟩
        vaultSignerKey := (requiredKey_isOk_iff _).mp ⟨_, vaultSignerKey⟩ }
  · intro valid
    obtain ⟨market, isMarket⟩ := (requiredKey_isOk_iff _).mpr valid.market
    obtain ⟨reqQ, isReqQ⟩ := (requiredKey_isOk_iff _).mpr valid.reqQ
    obtain ⟨eventQ, isEventQ⟩ := (requiredKey_isOk_iff _).mpr valid.eventQ
    obtain ⟨bids, isBids⟩ := (requiredKey_isOk_iff _).mpr valid.bids
    obtain ⟨asks, isAsks⟩ := (requiredKey_isOk_iff _).mpr valid.asks
    obtain ⟨coinVault, isCoinVault⟩ := (requiredKey_isOk_iff _).mpr valid.coinVault
    obtain ⟨pcVault, isPcVault⟩ := (requiredKey_isOk_iff _).mpr valid.pcVault
    obtain ⟨vaultSignerKey, isVaultSignerKey⟩ :=
      (requiredKey_isOk_iff _).mpr valid.vaultSignerKey
    exact ⟨⟨market, reqQ, eventQ, bids, asks, coinVault, pcVault, vaultSignerKey⟩, isMarket,
      isReqQ, isEventQ, isBids, isAsks, isCoinVault, isPcVault, isVaultSignerKey⟩

/-- No encoded key set is read back: its first field is refused. -/
theorem reverseMarketPubkeys_convertMarketPubkeys (m : MarketPubkeys) :
    reverseMarketPubkeys (convertMarketPubkeys m) =
      .err (.message "pubkey of wrong length") := by
  have refused : requiredKey (convertMarketPubkeys m).market =
      .err (.message "pubkey of wrong length") := convertPubkey_reversePubkey m.market
  unfold reverseMarketPubkeys
  rw [refused]
  rfl

theorem convertMarketPubkeys_ne {p : PbMarketPubkeys} (valid : ValidKeys p) (m : MarketPubkeys) :
    convertMarketPubkeys m ≠ p := by
  rintro rfl
  obtain ⟨x, isMarket, length⟩ := valid.market
  cases isMarket
  rw [length_reversePubkey] at length
  omega

def sameKeys (key : Pubkey) : MarketPubkeys := ⟨key, key, key, key, key, key, key, key⟩

end Codec

end RustHelper
