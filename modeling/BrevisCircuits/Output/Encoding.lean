import BrevisCircuits.Circuits.LayerzeroMessage
import BrevisCircuits.Circuits.NftOwnership
import BrevisCircuits.Properties.Arithmetic

/-
  The output buffer and the decoders the documentation gives for it.

  The SDK packs the output record into one buffer, which is not among the sources; the
  design fixes its layout: each value big-endian in as many bytes as its declared width,
  concatenated in declaration order (`pack`: an address takes 20 bytes, a `uint248` 31, a
  `uint64` 8). `unpack` reads values back at those offsets. The tokenHolder and
  nftOwnership documentation give Solidity `handleProofResult` bodies that read the buffer
  as 32-byte words at offsets 0, 32, 64 (and 96); a calldata slice past the end of the
  buffer reverts (`calldataSlice`).

  What is proved:
    1. `fromBytesBE_toBytesBE`, `unpack_pack` — the packed layout round-trips: reading at
       the packed offsets gives back every value that fits its width.
    2. `documented_decoders_revert` — on every accepted run the packed output is 59 bytes
       (tokenHolder) or 79 bytes (nftOwnership), and the documented decoder reads past its
       end: it reverts and decodes nothing.
    3. `accepted_outputs_unpack` — for every circuit, decoding an accepted run's buffer at
       the circuit's own byte layout (`[20, 31, 31, 8]` for the single-total circuits,
       `[20, 8, 8]` for layerzero, …) gives back exactly the values it output.
-/
namespace Brevis

/-! ## Packing -/

/-- The `n`-byte big-endian encoding of `v`. -/
def toBytesBE : Nat → Nat → List UInt8
  | 0, _ => []
  | n + 1, v => toBytesBE n (v / 256) ++ [UInt8.ofNat (v % 256)]

/-- The value of a big-endian byte string. -/
def fromBytesBE (bs : List UInt8) : Nat :=
  bs.foldl (fun acc b => acc * 256 + b.toNat) 0

/-- The bytes an output takes in the buffer: its width in bytes. -/
def Output.byteWidth (o : Output) : Nat := o.bits / 8

/-- Modelled from the spec: the SDK's packing of the output record is not among the
sources. Each value takes a fixed big-endian slot of its declared width, concatenated in
declaration order ("`[address:20 bytes][uint-248:31 bytes]...`"). -/
def pack : List Output → List UInt8
  | [] => []
  | o :: os => toBytesBE o.byteWidth o.value ++ pack os

/-- Read values of the byte widths `ws` from a buffer, each at the offset packing puts it. -/
def unpack : List Nat → List UInt8 → Option (List Nat)
  | [], _ => some []
  | w :: ws, bs =>
    if w ≤ bs.length then (fromBytesBE (bs.take w) :: ·) <$> unpack ws (bs.drop w) else none

@[simp] theorem length_toBytesBE (n v : Nat) : (toBytesBE n v).length = n := by
  induction n generalizing v with
  | zero => rfl
  | succ n ih => simp [toBytesBE, ih]

theorem fromBytesBE_append_singleton (bs : List UInt8) (b : UInt8) :
    fromBytesBE (bs ++ [b]) = fromBytesBE bs * 256 + b.toNat := by
  simp [fromBytesBE, List.foldl_append]

theorem fromBytesBE_toBytesBE {n v : Nat} (h : v < 256 ^ n) : fromBytesBE (toBytesBE n v) = v := by
  induction n generalizing v with
  | zero => simp_all [toBytesBE, fromBytesBE]
  | succ n ih =>
    have hdiv : v / 256 < 256 ^ n := Nat.div_lt_of_lt_mul (by rwa [Nat.mul_comm, ← Nat.pow_succ])
    rw [toBytesBE, fromBytesBE_append_singleton, ih hdiv,
      UInt8.toNat_ofNat_of_lt (Nat.mod_lt _ (by decide))]
    simp only [UInt8.size]
    omega

@[simp] theorem byteWidth_outputAddress (v : Nat) : (outputAddress v).byteWidth = 20 :=
  show 160 / 8 = 20 from rfl

@[simp] theorem byteWidth_outputUint (bits v : Nat) : (outputUint bits v).byteWidth = bits / 8 :=
  rfl

theorem two_pow_eq_256_pow {b : Nat} (h : b % 8 = 0) : 2 ^ b = 256 ^ (b / 8) := by
  rw [show (256 : Nat) = 2 ^ 8 from rfl, ← Nat.pow_mul,
    Nat.mul_div_cancel' (Nat.dvd_of_mod_eq_zero h)]

theorem unpack_pack {os : List Output} (h : ∀ o ∈ os, o.bits % 8 = 0 ∧ o.value < 2 ^ o.bits) :
    unpack (os.map Output.byteWidth) (pack os) = some (os.map Output.value) := by
  induction os with
  | nil => rfl
  | cons o os ih =>
    obtain ⟨h8, hlt⟩ := h o (List.mem_cons_self _ _)
    rw [two_pow_eq_256_pow h8] at hlt
    simp only [List.map_cons, unpack, pack, List.length_append, length_toBytesBE,
      Nat.le_add_right, if_true, List.take_left', List.drop_left',
      ih fun x hx => h x (List.mem_cons_of_mem _ hx), Output.byteWidth, fromBytesBE_toBytesBE hlt]
    rfl

/-! ## The documented decoders -/

/-- `data[s:e]` of a calldata byte array: it reverts unless `s ≤ e ≤ data.length`. -/
def calldataSlice (data : List UInt8) (s e : Nat) : Option (List UInt8) :=
  if s ≤ e ∧ e ≤ data.length then some ((data.drop s).take (e - s)) else none

/-- `uint256(bytes32(data[s:s+32]))`: the 32-byte word at offset `s`. -/
def wordAt (data : List UInt8) (s : Nat) : Option Nat :=
  fromBytesBE <$> calldataSlice data s (s + 32)

theorem wordAt_eq_none {data : List UInt8} {s : Nat} (h : data.length < s + 32) :
    wordAt data s = none := by
  simp only [wordAt, calldataSlice]
  rw [if_neg (by omega)]
  rfl

namespace TokenHolderVerifier

/-- `handleProofResult` of the tokenHolder documentation: the holder, the balance and the
block number, `none` where it reverts. -/
def handleProofResult (circuitOutput : List UInt8) : Option (Nat × Nat × Nat) := do
  let holderAddr := (← wordAt circuitOutput 0) % 2 ^ 160
  let balance := (← wordAt circuitOutput 32) % 2 ^ 248
  let blockNum := (← wordAt circuitOutput 64) % 2 ^ 64
  pure (holderAddr, balance, blockNum)

theorem handleProofResult_eq_none {data : List UInt8} (h : data.length < 96) :
    handleProofResult data = none := by
  simp only [handleProofResult, wordAt_eq_none (s := 64) (by omega : data.length < 64 + 32)]
  cases wordAt data 0 <;> cases wordAt data 32 <;> rfl

end TokenHolderVerifier

namespace NFTOwnershipVerifier

/-- `handleProofResult` of the nftOwnership documentation: the owner, the NFT contract, the
token id and the block number, `none` where it reverts. -/
def handleProofResult (circuitOutput : List UInt8) : Option (Nat × Nat × Nat × Nat) := do
  let owner := (← wordAt circuitOutput 0) % 2 ^ 160
  let nftContract := (← wordAt circuitOutput 32) % 2 ^ 160
  let tokenId ← wordAt circuitOutput 64
  let blockNum := (← wordAt circuitOutput 96) % 2 ^ 64
  pure (owner, nftContract, tokenId, blockNum)

theorem handleProofResult_eq_none {data : List UInt8} (h : data.length < 128) :
    handleProofResult data = none := by
  simp only [handleProofResult, wordAt_eq_none (s := 96) (by omega : data.length < 96 + 32)]
  cases wordAt data 0 <;> cases wordAt data 32 <;> cases wordAt data 64 <;> rfl

end NFTOwnershipVerifier

theorem documented_decoders_revert :
    (∀ keccak (c : TokenHolder.AppCircuit) inp o, c.define keccak inp = .ok o →
      (pack o).length = 59 ∧ TokenHolderVerifier.handleProofResult (pack o) = none) ∧
    (∀ (c : NftOwnership.AppCircuit) inp o, c.define inp = .ok o →
      (pack o).length = 79 ∧ NFTOwnershipVerifier.handleProofResult (pack o) = none) := by
  refine ⟨fun keccak c inp o h => ?_, fun c inp o h => ?_⟩
  · obtain ⟨s, -, -, -, -, -, -, rfl⟩ := TokenHolder.define_eq_ok.mp h
    have hlen : (pack (TokenHolder.record c s)).length = 59 := by
      simp only [TokenHolder.record, pack, List.length_append, length_toBytesBE,
        byteWidth_outputAddress, byteWidth_outputUint, List.length_nil]
    exact ⟨hlen, TokenHolderVerifier.handleProofResult_eq_none (by omega)⟩
  · obtain ⟨r, -, -, -, -, rfl⟩ := NftOwnership.define_eq_ok.mp h
    have hlen : (pack (NftOwnership.record c r)).length = 79 := by
      simp only [NftOwnership.record, pack, List.length_append, length_toBytesBE,
        byteWidth_outputAddress, byteWidth_outputUint, List.length_nil]
    exact ⟨hlen, NFTOwnershipVerifier.handleProofResult_eq_none (by omega)⟩

theorem documented_decoders_revert_on_honest_runs :
    (TokenHolder.AppCircuit.define (fun k _ => k) ⟨5⟩
        ⟨[], [TokenHolder.honestSlot (fun k _ => k) ⟨5⟩ 150000000]⟩ =
      .ok [outputAddress 5, outputUint 248 150000000, outputUint 64 1] ∧
      (pack [outputAddress 5, outputUint 248 150000000, outputUint 64 1]).length = 59 ∧
      TokenHolderVerifier.handleProofResult
        (pack [outputAddress 5, outputUint 248 150000000, outputUint 64 1]) = none) ∧
    (NftOwnership.AppCircuit.define ⟨1, 2, 3⟩ ⟨[NftOwnership.honestReceipt ⟨1, 2, 3⟩ 0], []⟩ =
      .ok [outputAddress 2, outputAddress 1, outputUint 248 3, outputUint 64 1] ∧
      (pack [outputAddress 2, outputAddress 1, outputUint 248 3, outputUint 64 1]).length = 79 ∧
      NFTOwnershipVerifier.handleProofResult
        (pack [outputAddress 2, outputAddress 1, outputUint 248 3, outputUint 64 1]) = none) := by
  have h₁ : TokenHolder.AppCircuit.define (fun k _ => k) ⟨5⟩
      ⟨[], [TokenHolder.honestSlot (fun k _ => k) ⟨5⟩ 150000000]⟩ =
      .ok [outputAddress 5, outputUint 248 150000000, outputUint 64 1] := by decide
  have h₂ : NftOwnership.AppCircuit.define ⟨1, 2, 3⟩
      ⟨[NftOwnership.honestReceipt ⟨1, 2, 3⟩ 0], []⟩ =
      .ok [outputAddress 2, outputAddress 1, outputUint 248 3, outputUint 64 1] := by decide
  exact ⟨⟨h₁, documented_decoders_revert.1 _ _ _ _ h₁⟩,
    ⟨h₂, documented_decoders_revert.2 _ _ _ h₂⟩⟩

/-- `unpack_pack` at a record whose widths are the given numbers of bytes. -/
theorem unpack_pack_eq {os : List Output} {ws : List Nat} (hw : os.map Output.bits = ws.map (8 * ·))
    (hfit : ∀ o ∈ os, o.value < 2 ^ o.bits) :
    unpack ws (pack os) = some (os.map Output.value) := by
  have hbytes : os.map Output.byteWidth = ws := by
    have h := congrArg (List.map (· / 8)) hw
    simp only [List.map_map, Function.comp_def] at h
    simpa using h
  refine hbytes ▸ unpack_pack fun o ho => ⟨?_, hfit o ho⟩
  obtain ⟨w, -, hw'⟩ := List.mem_map.mp (hw ▸ List.mem_map_of_mem Output.bits ho)
  rw [← hw']
  exact Nat.mul_mod_right 8 w

theorem accepted_outputs_unpack :
    (∀ (L : VolumeLayout) cap u m inp o, L.define cap u m inp = .ok o →
      unpack [20, 31, 31, 8] (pack o) = some (o.map Output.value)) ∧
    (∀ (c : BalancerWeighted.AppCircuit) inp o, c.define inp = .ok o →
      unpack [20, 31, 31, 8] (pack o) = some (o.map Output.value)) ∧
    (∀ (L : LiquidityLayout) cap u m₀ m₁ inp o, L.define cap u m₀ m₁ inp = .ok o →
      unpack [20, 31, 31, 8] (pack o) = some (o.map Output.value)) ∧
    (∀ (L : BidirectionalLayout) cap u m₀ m₁ inp o, L.define cap u m₀ m₁ inp = .ok o →
      unpack [20, 31, 31, 31, 8] (pack o) = some (o.map Output.value)) ∧
    (∀ cap p lo hi sb eb inp o, Twap.define cap p lo hi sb eb inp = .ok o →
      unpack [20, 31, 31, 31, 8] (pack o) = some (o.map Output.value)) ∧
    (∀ (c : LayerzeroMessage.AppCircuit) inp o, c.define inp = .ok o →
      unpack [20, 8, 8] (pack o) = some (o.map Output.value)) ∧
    (∀ keccak (c : TokenHolder.AppCircuit) inp o, c.define keccak inp = .ok o →
      unpack [20, 31, 8] (pack o) = some (o.map Output.value)) ∧
    (∀ keccak (c : MultichainBalance.AppCircuit) inp o, c.define keccak inp = .ok o →
      unpack [20, 31, 31, 31, 31] (pack o) = some (o.map Output.value)) ∧
    (∀ (c : NftOwnership.AppCircuit) inp o, c.define inp = .ok o →
      unpack [20, 20, 31, 8] (pack o) = some (o.map Output.value)) := by
  refine ⟨fun L cap u m inp o h => ?_, fun c inp o h => ?_, fun L cap u m₀ m₁ inp o h => ?_,
    fun L cap u m₀ m₁ inp o h => ?_, fun cap p lo hi sb eb inp o h => ?_, fun c inp o h => ?_,
    fun keccak c inp o h => ?_, fun keccak c inp o h => ?_, fun c inp o h => ?_⟩
  · obtain ⟨-, -, hout, rfl⟩ :=
      VolumeLayout.aggregate_eq_ok.mp (VolumeLayout.define_eq_ok.mp h).2.2
    exact unpack_pack_eq (by simp [VolumeLayout.record]) hout
  · obtain ⟨-, -, hout, rfl⟩ :=
      VolumeLayout.aggregate_eq_ok.mp (BalancerWeighted.define_eq_ok.mp h).2.2
    exact unpack_pack_eq (by simp [VolumeLayout.record]) hout
  · obtain ⟨-, -, -, -, hout, rfl⟩ :=
      LiquidityLayout.aggregate_eq_ok.mp (LiquidityLayout.define_eq_ok.mp h).2.2
    exact unpack_pack_eq (by simp [LiquidityLayout.record]) hout
  · obtain ⟨-, -, -, -, hout, rfl⟩ :=
      BidirectionalLayout.aggregate_eq_ok.mp (BidirectionalLayout.define_eq_ok.mp h).2.2
    exact unpack_pack_eq (by simp [BidirectionalLayout.record]) hout
  · obtain ⟨-, -, -, -, -, -, hout, rfl⟩ := Twap.define_eq_ok.mp h
    exact unpack_pack_eq (by simp [Twap.record]) hout
  · obtain ⟨-, -, -, hout, rfl⟩ := LayerzeroMessage.define_eq_ok.mp h
    exact unpack_pack_eq (by simp [LayerzeroMessage.record]) hout
  · obtain ⟨s, -, -, -, hlt, -, hh, rfl⟩ := TokenHolder.define_eq_ok.mp h
    refine unpack_pack_eq (by simp [TokenHolder.record]) ?_
    simp only [TokenHolder.record, List.forall_mem_cons, List.not_mem_nil, false_implies,
      implies_true, and_true, outputAddress, outputUint]
    exact ⟨hh, hlt, uint32_toNat_lt_two_pow_64 _⟩
  · obtain ⟨s₀, s₁, -, -, -, -, -, hlt₀, hlt₁, -, hsum, hh, rfl⟩ :=
      MultichainBalance.define_eq_ok.mp h
    refine unpack_pack_eq (by simp [MultichainBalance.record]) ?_
    simp only [MultichainBalance.record, List.forall_mem_cons, List.not_mem_nil, false_implies,
      implies_true, and_true, outputAddress, outputUint]
    exact ⟨hh, hlt₀, hlt₁, hsum, BitVec.isLt _⟩
  · obtain ⟨r, -, -, ho, hn, rfl⟩ := NftOwnership.define_eq_ok.mp h
    refine unpack_pack_eq (by simp [NftOwnership.record]) ?_
    simp only [NftOwnership.record, List.forall_mem_cons, List.not_mem_nil, false_implies,
      implies_true, and_true, outputAddress, outputUint]
    exact ⟨ho, hn, BitVec.isLt _, uint32_toNat_lt_two_pow_64 _⟩

/-- The layerzero-message receipts of the run below. -/
def payloadSample : List Receipt := List.replicate 50 (LayerzeroMessage.honestReceipt 0)

theorem accepted_outputs_unpack_on_honest_runs :
    (Compound.AppCircuit.define ⟨7, 2⟩ ⟨compoundSample, []⟩ =
        .ok (VolumeLayout.record 7 2 compoundSample) ∧
      unpack [20, 31, 31, 8] (pack (VolumeLayout.record 7 2 compoundSample)) =
        some ((VolumeLayout.record 7 2 compoundSample).map Output.value)) ∧
    (BalancerWeighted.AppCircuit.define ⟨7, 2⟩ ⟨balancerSample, []⟩ =
        .ok (VolumeLayout.record 7 2 balancerSample) ∧
      unpack [20, 31, 31, 8] (pack (VolumeLayout.record 7 2 balancerSample)) =
        some ((VolumeLayout.record 7 2 balancerSample).map Output.value)) ∧
    (UniswapV2Lp.AppCircuit.define ⟨7, 1, 1⟩ ⟨liquiditySample, []⟩ =
        .ok (LiquidityLayout.record 7 liquiditySample) ∧
      unpack [20, 31, 31, 8] (pack (LiquidityLayout.record 7 liquiditySample)) =
        some ((LiquidityLayout.record 7 liquiditySample).map Output.value)) ∧
    (UniswapV2Bidirectional.AppCircuit.define ⟨7, 1, 1⟩ ⟨bidirectionalSample, []⟩ =
        .ok (BidirectionalLayout.record 7 bidirectionalSample) ∧
      unpack [20, 31, 31, 31, 8] (pack (BidirectionalLayout.record 7 bidirectionalSample)) =
        some ((BidirectionalLayout.record 7 bidirectionalSample).map Output.value)) ∧
    (UniswapV2Twap.AppCircuit.define ⟨5, 1, 10, 100, 200⟩ ⟨[], twapSample⟩ =
        .ok (Twap.record 5 1 10 100 200 twapSample) ∧
      unpack [20, 31, 31, 31, 8] (pack (Twap.record 5 1 10 100 200 twapSample)) =
        some ((Twap.record 5 1 10 100 200 twapSample).map Output.value)) ∧
    (LayerzeroMessage.AppCircuit.define ⟨7, 10⟩ ⟨payloadSample, []⟩ =
        .ok (LayerzeroMessage.record ⟨7, 10⟩ payloadSample) ∧
      unpack [20, 8, 8] (pack (LayerzeroMessage.record ⟨7, 10⟩ payloadSample)) =
        some ((LayerzeroMessage.record ⟨7, 10⟩ payloadSample).map Output.value)) ∧
    (TokenHolder.AppCircuit.define (fun k _ => k) ⟨5⟩
        ⟨[], [TokenHolder.honestSlot (fun k _ => k) ⟨5⟩ 150000000]⟩ =
      .ok [outputAddress 5, outputUint 248 150000000, outputUint 64 1] ∧
      unpack [20, 31, 8] (pack [outputAddress 5, outputUint 248 150000000, outputUint 64 1]) =
        some [5, 150000000, 1]) ∧
    (MultichainBalance.AppCircuit.define (fun k _ => k) ⟨5, 10⟩
        ⟨[], MultichainBalance.honestSlots (fun k _ => k) ⟨5, 10⟩ 6 4⟩ =
      .ok [outputAddress 5, outputUint 248 6, outputUint 248 4, outputUint 248 10,
        outputUint 248 10] ∧
      unpack [20, 31, 31, 31, 31] (pack [outputAddress 5, outputUint 248 6, outputUint 248 4,
        outputUint 248 10, outputUint 248 10]) = some [5, 6, 4, 10, 10]) ∧
    (NftOwnership.AppCircuit.define ⟨1, 2, 3⟩ ⟨[NftOwnership.honestReceipt ⟨1, 2, 3⟩ 0], []⟩ =
      .ok [outputAddress 2, outputAddress 1, outputUint 248 3, outputUint 64 1] ∧
      unpack [20, 20, 31, 8]
          (pack [outputAddress 2, outputAddress 1, outputUint 248 3, outputUint 64 1]) =
        some [2, 1, 3, 1]) := by
  have h₁ : Compound.AppCircuit.define ⟨7, 2⟩ ⟨compoundSample, []⟩ =
      .ok (VolumeLayout.record 7 2 compoundSample) := by decide
  have h₂ : BalancerWeighted.AppCircuit.define ⟨7, 2⟩ ⟨balancerSample, []⟩ =
      .ok (VolumeLayout.record 7 2 balancerSample) := by decide
  have h₃ : UniswapV2Lp.AppCircuit.define ⟨7, 1, 1⟩ ⟨liquiditySample, []⟩ =
      .ok (LiquidityLayout.record 7 liquiditySample) := by decide
  have h₄ : UniswapV2Bidirectional.AppCircuit.define ⟨7, 1, 1⟩ ⟨bidirectionalSample, []⟩ =
      .ok (BidirectionalLayout.record 7 bidirectionalSample) := by decide
  have h₅ : UniswapV2Twap.AppCircuit.define ⟨5, 1, 10, 100, 200⟩ ⟨[], twapSample⟩ =
      .ok (Twap.record 5 1 10 100 200 twapSample) := by decide
  have h₆ : LayerzeroMessage.AppCircuit.define ⟨7, 10⟩ ⟨payloadSample, []⟩ =
      .ok (LayerzeroMessage.record ⟨7, 10⟩ payloadSample) := by decide
  have h₇ : TokenHolder.AppCircuit.define (fun k _ => k) ⟨5⟩
      ⟨[], [TokenHolder.honestSlot (fun k _ => k) ⟨5⟩ 150000000]⟩ =
      .ok [outputAddress 5, outputUint 248 150000000, outputUint 64 1] := by decide
  have h₈ : MultichainBalance.AppCircuit.define (fun k _ => k) ⟨5, 10⟩
      ⟨[], MultichainBalance.honestSlots (fun k _ => k) ⟨5, 10⟩ 6 4⟩ =
      .ok [outputAddress 5, outputUint 248 6, outputUint 248 4, outputUint 248 10,
        outputUint 248 10] := by decide
  have h₉ : NftOwnership.AppCircuit.define ⟨1, 2, 3⟩
      ⟨[NftOwnership.honestReceipt ⟨1, 2, 3⟩ 0], []⟩ =
      .ok [outputAddress 2, outputAddress 1, outputUint 248 3, outputUint 64 1] := by decide
  exact ⟨⟨h₁, accepted_outputs_unpack.1 Compound.layout 30 7 2 ⟨compoundSample, []⟩ _ h₁⟩,
    ⟨h₂, accepted_outputs_unpack.2.1 ⟨7, 2⟩ ⟨balancerSample, []⟩ _ h₂⟩,
    ⟨h₃, accepted_outputs_unpack.2.2.1 UniswapV2Lp.layout 20 7 1 1 ⟨liquiditySample, []⟩ _ h₃⟩,
    ⟨h₄, accepted_outputs_unpack.2.2.2.1 UniswapV2Bidirectional.layout 50 7 1 1
      ⟨bidirectionalSample, []⟩ _ h₄⟩,
    ⟨h₅, accepted_outputs_unpack.2.2.2.2.1 2 5 1 10 100 200 ⟨[], twapSample⟩ _ h₅⟩,
    ⟨h₆, accepted_outputs_unpack.2.2.2.2.2.1 _ ⟨payloadSample, []⟩ _ h₆⟩,
    ⟨h₇, accepted_outputs_unpack.2.2.2.2.2.2.1 _ _ _ _ h₇⟩,
    ⟨h₈, accepted_outputs_unpack.2.2.2.2.2.2.2.1 _ _ _ _ h₈⟩,
    ⟨h₉, accepted_outputs_unpack.2.2.2.2.2.2.2.2 _ _ _ h₉⟩⟩

end Brevis
