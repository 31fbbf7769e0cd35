import BrevisCircuits.Engine.Pattern
import BrevisCircuits.Circuits.Volume
import BrevisCircuits.Circuits.Liquidity
import BrevisCircuits.Circuits.Bidirectional
import BrevisCircuits.Circuits.Twap
import BrevisCircuits.Circuits.LayerzeroMessage
import BrevisCircuits.Circuits.Holdings
import BrevisCircuits.Circuits.NftOwnership

/-
  What the circuits' validation checks, against the engine's matcher.

  Each receipt circuit's `AssertEach` predicate is a hand-written conjunction of
  equalities; its declared pattern (`pattern`) is the same constants read as an
  `Engine.ReceiptPattern`. The storage circuits assert a slot's contract and key at fixed
  positions; their declared patterns are `Engine.SlotPattern`s.

  What is proved:
    1. `matches_iff` (one per family) — the hand-written predicate accepts a record exactly
       when the engine's matcher accepts it at the declared pattern; the bidirectional
       predicate also needs both address words to be 248-bit values.
    2. `validation_exact` — so validation is exact for every circuit that declares its
       whole pattern: it accepts a batch iff every record matches, and an accepted run's
       records all match.
    3. `accepts_approval_log_and_foreign_slot_key` — nftOwnership compares no event id,
       and the TWAP circuits compare a slot's contract only: nftOwnership accepts an
       ERC-721 `Approval` log as its evidence of ownership, and uniswap-v2-twap two slots
       of the pair at key `0` instead of `price1CumulativeLast`.
    4. `accepts_fields_of_two_logs` — no circuit but nftOwnership compares the `LogPos`
       of its tracked fields: sushiswap accepts receipts whose amount and user come from
       two different logs.
    5. `twap_accepts_one_slot_twice` — nothing rejects a record supplied twice: a TWAP
       circuit meets its "exactly two slots" check with one slot given twice, and counts
       its value twice.
-/
namespace Brevis

open Engine

/-! ## Declared patterns and the refinement of the hand-written predicates -/

namespace VolumeLayout

variable (L : VolumeLayout)

/-- Both tracked fields come from the declared event of the declared contract; field 1
holds the user. -/
def pattern : ReceiptPattern :=
  ⟨[(0, ⟨L.contract, L.eventId, false, L.amountIndex⟩),
    (1, ⟨L.contract, L.eventId, L.userIsTopic, L.userIndex⟩)], [1]⟩

variable {L} {u : Uint248} {r : Receipt}

theorem matches_iff : L.Matches u r ↔ L.pattern.Matches u r := by
  simp only [Matches, pattern, ReceiptPattern.Matches, ReceiptPattern.UserHolds,
    FieldPattern.Matches, List.mem_cons, List.not_mem_nil, or_false, forall_eq_or_imp,
    forall_eq, exists_eq_or_imp, exists_eq_left, reduceCtorEq, false_or, true_or, and_true]
  tauto

end VolumeLayout

namespace BalancerWeighted

/-- Both tracked fields come from the vault's `Swap`; no field holds the user. -/
def pattern : ReceiptPattern :=
  ⟨[(0, ⟨vaultAddress, eventIdSwap, false, 1⟩), (1, ⟨vaultAddress, eventIdSwap, true, 3⟩)], []⟩

theorem matches_iff {u : Uint248} {r : Receipt} : Matches r ↔ pattern.Matches u r := by
  simp only [Matches, pattern, ReceiptPattern.Matches, ReceiptPattern.UserHolds,
    FieldPattern.Matches, List.mem_cons, List.not_mem_nil, or_false, forall_eq_or_imp,
    forall_eq, exists_eq_or_imp, exists_eq_left, reduceCtorEq, false_or, true_or, and_true]
  tauto

end BalancerWeighted

namespace LiquidityLayout

variable (L : LiquidityLayout)

/-- The three tracked fields of `Mint`: `sender` (topic 1), which holds the user, and the
two amounts (data fields 0 and 1). -/
def pattern : ReceiptPattern :=
  ⟨[(0, ⟨L.contract, L.eventId, true, 1⟩), (1, ⟨L.contract, L.eventId, false, 0⟩),
    (2, ⟨L.contract, L.eventId, false, 1⟩)], [0]⟩

variable {L} {u : Uint248} {r : Receipt}

theorem matches_iff : L.Matches u r ↔ L.pattern.Matches u r := by
  simp only [Matches, pattern, ReceiptPattern.Matches, ReceiptPattern.UserHolds,
    FieldPattern.Matches, List.mem_cons, List.not_mem_nil, or_false, forall_eq_or_imp,
    forall_eq, exists_eq_or_imp, exists_eq_left, reduceCtorEq, false_or, true_or, and_true]
  tauto

end LiquidityLayout

namespace BidirectionalLayout

variable (L : BidirectionalLayout)

/-- The four tracked fields of `Swap`; `sender` (topic 1) or `to` (topic 2) holds the
user. -/
def pattern : ReceiptPattern :=
  ⟨[(0, ⟨L.contract, L.eventId, false, 1⟩), (1, ⟨L.contract, L.eventId, false, 3⟩),
    (2, ⟨L.contract, L.eventId, true, 1⟩), (3, ⟨L.contract, L.eventId, true, 2⟩)], [2, 3]⟩

/-- Both address words are 248-bit values, as the two `ToUint248` calls assert. -/
def AddressWordsFit (r : Receipt) : Prop :=
  (r.fields 2).value.toNat < 2 ^ 248 ∧ (r.fields 3).value.toNat < 2 ^ 248

variable {L} {u : Uint248} {r : Receipt}

theorem matches_iff : L.Matches u r ↔ L.pattern.Matches u r ∧ AddressWordsFit r := by
  simp only [Matches, pattern, AddressWordsFit, ReceiptPattern.Matches,
    ReceiptPattern.UserHolds,
    FieldPattern.Matches, List.mem_cons, List.not_mem_nil, or_false, forall_eq_or_imp,
    forall_eq, exists_eq_or_imp, exists_eq_left, reduceCtorEq, false_or, true_or, and_true]
  tauto

end BidirectionalLayout

namespace LayerzeroMessage

/-- The one tracked field, `dstAddress` (data field 2) of `PayloadStored`; no user. -/
def pattern : ReceiptPattern :=
  ⟨[(0, ⟨endpointEthereum, eventIdPayloadStored, false, 2⟩)], []⟩

theorem matches_iff {u : Uint248} {r : Receipt} : Matches r ↔ pattern.Matches u r := by
  simp only [Matches, pattern, ReceiptPattern.Matches, ReceiptPattern.UserHolds,
    FieldPattern.Matches, List.mem_cons, List.not_mem_nil, or_false, forall_eq_or_imp,
    forall_eq, exists_eq_or_imp, exists_eq_left, reduceCtorEq, false_or, true_or, and_true]

end LayerzeroMessage

namespace TokenHolder

/-- USDC's `balanceOf[HolderAddr]`. -/
def slotPattern (keccak : Bytes32 → Bytes32 → Bytes32) (c : AppCircuit) : SlotPattern :=
  ⟨usdcTokenAddr, slotOfStructFieldInMapping keccak 9 0 (toBytes32 c.holderAddr)⟩

end TokenHolder

namespace MultichainBalance

/-- `balanceOf[HolderAddr]` of USDC on Ethereum, the pattern of slot 0. -/
def slotPatternEthereum (keccak : Bytes32 → Bytes32 → Bytes32) (c : AppCircuit) :
    SlotPattern :=
  ⟨usdcEthereum, slotOfStructFieldInMapping keccak 9 0 (toBytes32 c.holderAddr)⟩

/-- `balanceOf[HolderAddr]` of USDC on BSC, the pattern of slot 1. -/
def slotPatternBsc (keccak : Bytes32 → Bytes32 → Bytes32) (c : AppCircuit) : SlotPattern :=
  ⟨usdcBsc, slotOfStructFieldInMapping keccak 9 0 (toBytes32 c.holderAddr)⟩

end MultichainBalance

/-! ## Exactness -/

theorem validation_exact :
    (∀ (L : VolumeLayout) u B, assertEach B (L.check u) = .ok () ↔ validate L.pattern u B) ∧
    (∀ (L : VolumeLayout) cap u m inp o, L.define cap u m inp = .ok o ↔
      inp.receipts.length = cap ∧ validate L.pattern u inp.receipts ∧
      VolumeLayout.aggregate u m inp.receipts = .ok o) ∧
    (∀ u B, assertEach B BalancerWeighted.check = .ok () ↔
      validate BalancerWeighted.pattern u B) ∧
    (∀ (c : BalancerWeighted.AppCircuit) inp o, c.define inp = .ok o ↔
      inp.receipts.length = 50 ∧ validate BalancerWeighted.pattern c.userAddr inp.receipts ∧
      VolumeLayout.aggregate c.userAddr c.minVolume inp.receipts = .ok o) ∧
    (∀ (L : LiquidityLayout) u B, assertEach B (L.check u) = .ok () ↔ validate L.pattern u B) ∧
    (∀ (L : LiquidityLayout) cap u m₀ m₁ inp o, L.define cap u m₀ m₁ inp = .ok o ↔
      inp.receipts.length = cap ∧ validate L.pattern u inp.receipts ∧
      LiquidityLayout.aggregate u m₀ m₁ inp.receipts = .ok o) ∧
    (∀ (L : BidirectionalLayout) u B, assertEach B (L.check u) = .ok () ↔
      validate L.pattern u B ∧ ∀ r ∈ B, BidirectionalLayout.AddressWordsFit r) ∧
    (∀ (L : BidirectionalLayout) cap u m₀ m₁ inp o, L.define cap u m₀ m₁ inp = .ok o ↔
      inp.receipts.length = cap ∧ validate L.pattern u inp.receipts ∧
      (∀ r ∈ inp.receipts, BidirectionalLayout.AddressWordsFit r) ∧
      BidirectionalLayout.aggregate u m₀ m₁ inp.receipts = .ok o) ∧
    (∀ u B, assertEach B LayerzeroMessage.check = .ok () ↔
      validate LayerzeroMessage.pattern u B) ∧
    (∀ (c : LayerzeroMessage.AppCircuit) inp o, c.define inp = .ok o ↔
      inp.receipts.length = 50 ∧ validate LayerzeroMessage.pattern c.userAddr inp.receipts ∧
      c.minMessageCount.toNat ≤ inp.receipts.length % scalarField ∧
      (∀ x ∈ LayerzeroMessage.record c inp.receipts, x.value < 2 ^ x.bits) ∧
      o = LayerzeroMessage.record c inp.receipts) ∧
    (∀ keccak (c : TokenHolder.AppCircuit) inp o, c.define keccak inp = .ok o ↔
      ∃ s, inp.storageSlots = [s] ∧ (TokenHolder.slotPattern keccak c).Matches s ∧
        s.value.toNat < 2 ^ 248 ∧ TokenHolder.minimumBalance.toNat ≤ s.value.toNat ∧
        c.holderAddr.toNat < 2 ^ 160 ∧ o = TokenHolder.record c s) ∧
    (∀ keccak (c : MultichainBalance.AppCircuit) inp o, c.define keccak inp = .ok o ↔
      ∃ s₀ s₁, inp.storageSlots = [s₀, s₁] ∧
        (MultichainBalance.slotPatternEthereum keccak c).Matches s₀ ∧
        (MultichainBalance.slotPatternBsc keccak c).Matches s₁ ∧
        s₀.value.toNat < 2 ^ 248 ∧ s₁.value.toNat < 2 ^ 248 ∧
        c.minTotalBalance.toNat ≤ s₀.value.toNat + s₁.value.toNat ∧
        s₀.value.toNat + s₁.value.toNat < 2 ^ 248 ∧ c.holderAddr.toNat < 2 ^ 160 ∧
        o = MultichainBalance.record c s₀ s₁) := by
  refine ⟨fun L u B => ?_, fun L cap u m inp o => ?_, fun u B => ?_, fun c inp o => ?_,
    fun L u B => ?_, fun L cap u m₀ m₁ inp o => ?_, fun L u B => ?_,
    fun L cap u m₀ m₁ inp o => ?_, fun u B => ?_, fun c inp o => ?_,
    fun keccak c inp o => ?_, fun keccak c inp o => ?_⟩
  · simp only [assertEach_eq_ok, VolumeLayout.check_eq_ok_true, VolumeLayout.matches_iff,
      validate_eq_true]
  · simp only [VolumeLayout.define_eq_ok, VolumeLayout.matches_iff, validate_eq_true]
  · simp only [assertEach_eq_ok, BalancerWeighted.check_eq_ok_true,
      BalancerWeighted.matches_iff (u := u), validate_eq_true]
  · simp only [BalancerWeighted.define_eq_ok, BalancerWeighted.matches_iff (u := c.userAddr),
      validate_eq_true]
  · simp only [assertEach_eq_ok, LiquidityLayout.check_eq_ok_true,
      LiquidityLayout.matches_iff, validate_eq_true]
  · simp only [LiquidityLayout.define_eq_ok, LiquidityLayout.matches_iff, validate_eq_true]
  · simp only [assertEach_eq_ok, BidirectionalLayout.check_eq_ok_true,
      BidirectionalLayout.matches_iff, validate_eq_true, forall_and]
  · simp only [BidirectionalLayout.define_eq_ok, BidirectionalLayout.matches_iff,
      validate_eq_true, forall_and, and_assoc]
  · simp only [assertEach_eq_ok, LayerzeroMessage.check_eq_ok_true,
      LayerzeroMessage.matches_iff (u := u), validate_eq_true]
  · simp only [LayerzeroMessage.define_eq_ok, LayerzeroMessage.matches_iff (u := c.userAddr),
      validate_eq_true]
  · simp only [TokenHolder.define_eq_ok, TokenHolder.slotPattern, SlotPattern.Matches, and_assoc]
  · simp only [MultichainBalance.define_eq_ok, MultichainBalance.slotPatternEthereum,
      MultichainBalance.slotPatternBsc, SlotPattern.Matches, and_assoc]

/-! ## What validation leaves unchecked -/

/-- nftOwnership with contract `1`, owner `2` and token `3`. -/
def nftSampleCircuit : NftOwnership.AppCircuit := ⟨1, 2, 3⟩

/-- A receipt whose fields are topic 2 (value `2`) and topic 3 (value `3`) of one log of
contract `1`, both carrying the event id `e`. -/
def nftSampleReceipt (e : Uint248) : Receipt where
  blockNum := 1
  mptKeyPath := 0
  fields := ![⟨1, 0, e, true, 2, 2⟩, ⟨1, 0, e, true, 3, 3⟩, default, default]

/-- uniswap-v2-twap on the USDC/WETH pair, prices between `1` and `10`. -/
def twapSampleCircuit : UniswapV2Twap.AppCircuit :=
  ⟨0xB4e16d0168e52d35CaCD2c6185b44281Ec28C9Dc#248, 1, 10, 100, 200⟩

/-- A slot of the pair at block `b`, key `key`, holding `3`. -/
def twapSampleSlot (key : Bytes32) (b : Uint32) : StorageSlot :=
  ⟨b, twapSampleCircuit.pairAddr, key, 3⟩

/-- The event id of ERC-721 `Approval(address,address,uint256)`, whose topic 2 is the
approved address and topic 3 the token: the topic layout of `Transfer`. -/
def approvalEventId : Uint248 :=
  parseEventID 0x8c5be1e5ebec7d5bd14f71427d1e84f3dd0314c0f7b2291e5b200ac8c7c3b925

theorem accepts_approval_log_and_foreign_slot_key :
    nftSampleCircuit.define ⟨[nftSampleReceipt approvalEventId], []⟩ =
      .ok [outputAddress 2, outputAddress 1, outputUint 248 3, outputUint 64 1] ∧
    twapSampleCircuit.define ⟨[], [twapSampleSlot 0 1, twapSampleSlot 0 2]⟩ =
      .ok [outputAddress twapSampleCircuit.pairAddr.toNat, outputUint 248 6, outputUint 248 1,
        outputUint 248 10, outputUint 64 100] := by
  decide

/-- A sushiswap receipt whose amount (`amount1Out`, `5`) is read from the log at position
`0` and whose user (`to`, `7`) from the log at position `1`. -/
def swapFromTwoLogs : Receipt where
  blockNum := 1
  mptKeyPath := 0
  fields := ![⟨Sushiswap.usdcWethPair, 0, Sushiswap.eventIdSwap, false, 3, 5⟩,
    ⟨Sushiswap.usdcWethPair, 1, Sushiswap.eventIdSwap, true, 2, 7⟩, default, default]

theorem accepts_fields_of_two_logs :
    (swapFromTwoLogs.fields 0).logPos ≠ (swapFromTwoLogs.fields 1).logPos ∧
    Sushiswap.AppCircuit.define ⟨7, 0⟩ ⟨List.replicate 50 swapFromTwoLogs, []⟩ =
      .ok (VolumeLayout.record 7 0 (List.replicate 50 swapFromTwoLogs)) := by
  decide

theorem twap_accepts_one_slot_twice :
    twapSampleCircuit.define ⟨[], [twapSampleSlot 9 1, twapSampleSlot 9 1]⟩ =
      .ok [outputAddress twapSampleCircuit.pairAddr.toNat, outputUint 248 6, outputUint 248 1,
        outputUint 248 10, outputUint 64 100] := by
  decide

end Brevis
