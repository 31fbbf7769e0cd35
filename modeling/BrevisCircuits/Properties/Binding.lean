import BrevisCircuits.Properties.Matching
import BrevisCircuits.Properties.Arithmetic

/-
  Which parameters the evidence pins down.

  A circuit's output echoes some of its parameters. A parameter the validation compares
  with a record (a user field, a contract, a slot key) is fixed by the records: two
  accepted runs on one batch cannot disagree on it. A parameter compared with nothing is
  free: the same batch is accepted under every value of it, and the output says whatever
  the prover chose.

  What is proved:
    1. `outputs_bound_to_evidence` — for the single-total and liquidity circuits (the user
       field of any record fixes `UserAddr`), nftOwnership (its two fields fix all three
       parameters) and the storage circuits (the slot key fixes `HolderAddr`, given a hash
       that tells keys apart, `KeyInjective`), two accepted runs on one batch that agree on
       the thresholds give one output. One accepted run's output address is the user
       field of every record (`head_eq_user_of_accepts`), for the storage circuits the
       holder whose balance slot every slot is, and the block numbers nftOwnership and
       tokenHolder output are their record's own (`outputs_of_accepts`). A bidirectional
       run outputs its `UserAddr`, the sender or the recipient of every record.
    2. `unchecked_parameters_reach_outputs` — layerzero-message and balancer-weighted
       accept one batch under two `UserAddr`s and output each, and uniswap-v2-twap
       accepts one batch under two `EndBlock`s and outputs two block ranges.
-/
namespace Brevis

/-- The hash tells keys apart: two keys with one hash at one mapping slot are one key. -/
def KeyInjective (keccak : Bytes32 → Bytes32 → Bytes32) : Prop :=
  ∀ a b slot, keccak a slot = keccak b slot → a = b

theorem holder_eq_of_slot_eq {keccak : Bytes32 → Bytes32 → Bytes32} (hk : KeyInjective keccak)
    {a b : Uint248} (h : slotOfStructFieldInMapping keccak 9 0 (toBytes32 a) =
      slotOfStructFieldInMapping keccak 9 0 (toBytes32 b)) : a = b := by
  unfold slotOfStructFieldInMapping at h
  exact toBytes32_injective (hk _ _ _ (by
    rw [← BitVec.add_sub_cancel (keccak _ _) (BitVec.ofNat 256 0), h, BitVec.add_sub_cancel]))

theorem VolumeLayout.user_eq_of_accepts {L : VolumeLayout} {cap : Nat} {u u' m m' : Uint248}
    {inp : DataInput} {o o' : List Output} (hcap : 0 < cap) (h : L.define cap u m inp = .ok o)
    (h' : L.define cap u' m' inp = .ok o') : u = u' := by
  obtain ⟨hlen, hall, -⟩ := VolumeLayout.define_eq_ok.mp h
  obtain ⟨-, hall', -⟩ := VolumeLayout.define_eq_ok.mp h'
  obtain ⟨r, hr⟩ := List.exists_mem_of_length_pos (hlen ▸ hcap)
  obtain ⟨-, -, -, -, -, -, -, -, hu⟩ := hall r hr
  obtain ⟨-, -, -, -, -, -, -, -, hu'⟩ := hall' r hr
  exact BitVec.eq_of_toNat_eq (hu.symm.trans hu')

theorem LiquidityLayout.user_eq_of_accepts {L : LiquidityLayout} {cap : Nat}
    {u u' m₀ m₁ m₀' m₁' : Uint248} {inp : DataInput} {o o' : List Output} (hcap : 0 < cap)
    (h : L.define cap u m₀ m₁ inp = .ok o) (h' : L.define cap u' m₀' m₁' inp = .ok o') :
    u = u' := by
  obtain ⟨hlen, hall, -⟩ := LiquidityLayout.define_eq_ok.mp h
  obtain ⟨-, hall', -⟩ := LiquidityLayout.define_eq_ok.mp h'
  obtain ⟨r, hr⟩ := List.exists_mem_of_length_pos (hlen ▸ hcap)
  obtain ⟨-, -, -, -, -, -, -, -, -, -, -, -, hu⟩ := hall r hr
  obtain ⟨-, -, -, -, -, -, -, -, -, -, -, -, hu'⟩ := hall' r hr
  exact BitVec.eq_of_toNat_eq (hu.symm.trans hu')

theorem NftOwnership.circuit_eq_of_accepts {c c' : NftOwnership.AppCircuit} {inp : DataInput}
    {o o' : List Output} (h : c.define inp = .ok o) (h' : c'.define inp = .ok o') : c = c' := by
  obtain ⟨r, hr, ⟨hc, -, -, hv, -, -, -, ht, -⟩, -⟩ := NftOwnership.define_eq_ok.mp h
  obtain ⟨r', hr', ⟨hc', -, -, hv', -, -, -, ht', -⟩, -⟩ := NftOwnership.define_eq_ok.mp h'
  obtain rfl : r = r' := List.singleton_injective (hr.symm.trans hr')
  cases c
  cases c'
  simp only [NftOwnership.AppCircuit.mk.injEq]
  exact ⟨hc.symm.trans hc', BitVec.eq_of_toNat_eq (hv.symm.trans hv'),
    BitVec.eq_of_toNat_eq (ht.symm.trans ht')⟩

section Storage

variable {keccak : Bytes32 → Bytes32 → Bytes32} {inp : DataInput} {o o' : List Output}

theorem TokenHolder.circuit_eq_of_accepts (hk : KeyInjective keccak)
    {c c' : TokenHolder.AppCircuit} (h : c.define keccak inp = .ok o)
    (h' : c'.define keccak inp = .ok o') : c = c' := by
  obtain ⟨s, hs, -, hk₁, -⟩ := TokenHolder.define_eq_ok.mp h
  obtain ⟨s', hs', -, hk₁', -⟩ := TokenHolder.define_eq_ok.mp h'
  obtain rfl : s = s' := List.singleton_injective (hs.symm.trans hs')
  cases c
  cases c'
  exact congrArg _ (holder_eq_of_slot_eq hk (hk₁.symm.trans hk₁'))

theorem MultichainBalance.circuit_eq_of_accepts (hk : KeyInjective keccak)
    {c c' : MultichainBalance.AppCircuit} (hm : c.minTotalBalance = c'.minTotalBalance)
    (h : c.define keccak inp = .ok o) (h' : c'.define keccak inp = .ok o') : c = c' := by
  obtain ⟨s₀, s₁, hs, -, hk₀, -⟩ := MultichainBalance.define_eq_ok.mp h
  obtain ⟨s₀', s₁', hs', -, hk₀', -⟩ := MultichainBalance.define_eq_ok.mp h'
  obtain ⟨rfl, -⟩ : s₀ = s₀' ∧ s₁ = s₁' := by simpa using hs.symm.trans hs'
  cases c
  cases c'
  simp only [MultichainBalance.AppCircuit.mk.injEq] at hm ⊢
  exact ⟨holder_eq_of_slot_eq hk (hk₀.symm.trans hk₀'), hm⟩

end Storage

/-! ## What one accepted run's output is made of -/

section OneRun

variable {cap : Nat} {u m m₀ m₁ : Uint248} {inp : DataInput} {o : List Output}

theorem VolumeLayout.head_eq_user_of_accepts {L : VolumeLayout}
    (h : L.define cap u m inp = .ok o) :
    ∀ r ∈ inp.receipts, o.head? = some (outputAddress (r.fields 1).value.toNat) := by
  obtain ⟨-, hall, hagg⟩ := VolumeLayout.define_eq_ok.mp h
  obtain ⟨-, -, -, rfl⟩ := VolumeLayout.aggregate_eq_ok.mp hagg
  intro r hr
  obtain ⟨-, -, -, -, -, -, -, -, hu⟩ := hall r hr
  rw [hu]
  rfl

theorem LiquidityLayout.head_eq_user_of_accepts {L : LiquidityLayout}
    (h : L.define cap u m₀ m₁ inp = .ok o) :
    ∀ r ∈ inp.receipts, o.head? = some (outputAddress (r.fields 0).value.toNat) := by
  obtain ⟨-, hall, hagg⟩ := LiquidityLayout.define_eq_ok.mp h
  obtain ⟨-, -, -, -, -, rfl⟩ := LiquidityLayout.aggregate_eq_ok.mp hagg
  intro r hr
  obtain ⟨-, -, -, -, -, -, -, -, -, -, -, -, hu⟩ := hall r hr
  rw [hu]
  rfl

theorem BidirectionalLayout.head_eq_user_of_accepts {L : BidirectionalLayout}
    (h : L.define cap u m₀ m₁ inp = .ok o) :
    o.head? = some (outputAddress u.toNat) ∧ ∀ r ∈ inp.receipts,
      (r.fields 2).value.toNat = u.toNat ∨ (r.fields 3).value.toNat = u.toNat := by
  obtain ⟨-, hall, hagg⟩ := BidirectionalLayout.define_eq_ok.mp h
  obtain ⟨-, -, -, -, -, rfl⟩ := BidirectionalLayout.aggregate_eq_ok.mp hagg
  exact ⟨rfl, fun r hr => (hall r hr).2.2.2.2.2.2.2.2.2.2.2.2.2.2.2.2.2.2⟩

/-- Every output of nftOwnership is read off its one receipt: the owner and the token from
its two topics, the contract from its log, and the block number from the receipt. -/
theorem NftOwnership.outputs_of_accepts {c : NftOwnership.AppCircuit}
    (h : c.define inp = .ok o) :
    ∃ r, inp.receipts = [r] ∧
      o = [outputAddress (r.fields 0).value.toNat, outputAddress (r.fields 0).contract.toNat,
        outputUint 248 (r.fields 1).value.toNat, outputUint 64 r.blockNum.toNat] := by
  obtain ⟨r, hr, ⟨hc, -, -, hv, -, -, -, ht, -⟩, -, -, rfl⟩ := NftOwnership.define_eq_ok.mp h
  exact ⟨r, hr, by rw [NftOwnership.record, hc, hv, ht]⟩

variable {keccak : Bytes32 → Bytes32 → Bytes32}

/-- tokenHolder outputs the holder whose balance slot the one slot is, and that slot's
value and block number. -/
theorem TokenHolder.outputs_of_accepts {c : TokenHolder.AppCircuit}
    (h : c.define keccak inp = .ok o) :
    ∃ s, inp.storageSlots = [s] ∧
      s.slot = slotOfStructFieldInMapping keccak 9 0 (toBytes32 c.holderAddr) ∧
      o = [outputAddress c.holderAddr.toNat, outputUint 248 s.value.toNat,
        outputUint 64 s.blockNum.toNat] := by
  obtain ⟨s, hs, -, hk, -, -, -, rfl⟩ := TokenHolder.define_eq_ok.mp h
  exact ⟨s, hs, hk, rfl⟩

theorem MultichainBalance.head_eq_holder_of_accepts {c : MultichainBalance.AppCircuit}
    (h : c.define keccak inp = .ok o) :
    o.head? = some (outputAddress c.holderAddr.toNat) ∧ ∀ s ∈ inp.storageSlots,
      s.slot = slotOfStructFieldInMapping keccak 9 0 (toBytes32 c.holderAddr) := by
  obtain ⟨s₀, s₁, hs, -, hk₀, -, hk₁, -, -, -, -, -, rfl⟩ := MultichainBalance.define_eq_ok.mp h
  exact ⟨rfl, by simp [hs, hk₀, hk₁]⟩

end OneRun

/-- The binding of outputs to the evidence, family by family: two accepted runs on one
batch that agree on the thresholds give one output, and one accepted run's output address
is the user field of every record (the holder whose balance slot every slot is, for the
storage circuits), its block number the record's own. -/
theorem outputs_bound_to_evidence :
    (∀ (L : VolumeLayout) cap u u' m inp o o', 0 < cap →
      L.define cap u m inp = .ok o → L.define cap u' m inp = .ok o' → o = o') ∧
    (∀ (L : VolumeLayout) cap u m inp o, L.define cap u m inp = .ok o →
      ∀ r ∈ inp.receipts, o.head? = some (outputAddress (r.fields 1).value.toNat)) ∧
    (∀ (L : LiquidityLayout) cap u u' m₀ m₁ inp o o', 0 < cap →
      L.define cap u m₀ m₁ inp = .ok o → L.define cap u' m₀ m₁ inp = .ok o' → o = o') ∧
    (∀ (L : LiquidityLayout) cap u m₀ m₁ inp o, L.define cap u m₀ m₁ inp = .ok o →
      ∀ r ∈ inp.receipts, o.head? = some (outputAddress (r.fields 0).value.toNat)) ∧
    (∀ (c c' : NftOwnership.AppCircuit) inp o o',
      c.define inp = .ok o → c'.define inp = .ok o' → o = o') ∧
    (∀ (c : NftOwnership.AppCircuit) inp o, c.define inp = .ok o →
      ∃ r, inp.receipts = [r] ∧
        o = [outputAddress (r.fields 0).value.toNat, outputAddress (r.fields 0).contract.toNat,
          outputUint 248 (r.fields 1).value.toNat, outputUint 64 r.blockNum.toNat]) ∧
    (∀ keccak, KeyInjective keccak → ∀ (c c' : TokenHolder.AppCircuit) inp o o',
      c.define keccak inp = .ok o → c'.define keccak inp = .ok o' → o = o') ∧
    (∀ keccak (c : TokenHolder.AppCircuit) inp o, c.define keccak inp = .ok o →
      ∃ s, inp.storageSlots = [s] ∧
        s.slot = slotOfStructFieldInMapping keccak 9 0 (toBytes32 c.holderAddr) ∧
        o = [outputAddress c.holderAddr.toNat, outputUint 248 s.value.toNat,
          outputUint 64 s.blockNum.toNat]) ∧
    (∀ keccak, KeyInjective keccak → ∀ (c c' : MultichainBalance.AppCircuit) inp o o',
      c.minTotalBalance = c'.minTotalBalance →
      c.define keccak inp = .ok o → c'.define keccak inp = .ok o' → o = o') ∧
    (∀ keccak (c : MultichainBalance.AppCircuit) inp o, c.define keccak inp = .ok o →
      o.head? = some (outputAddress c.holderAddr.toNat) ∧ ∀ s ∈ inp.storageSlots,
        s.slot = slotOfStructFieldInMapping keccak 9 0 (toBytes32 c.holderAddr)) ∧
    (∀ (L : BidirectionalLayout) cap u m₀ m₁ inp o, L.define cap u m₀ m₁ inp = .ok o →
      o.head? = some (outputAddress u.toNat) ∧ ∀ r ∈ inp.receipts,
        (r.fields 2).value.toNat = u.toNat ∨ (r.fields 3).value.toNat = u.toNat) := by
  refine ⟨fun L cap u u' m inp o o' hcap h h' => ?_,
    fun _ _ _ _ _ _ h => VolumeLayout.head_eq_user_of_accepts h,
    fun L cap u u' m₀ m₁ inp o o' hcap h h' => ?_,
    fun _ _ _ _ _ _ _ h => LiquidityLayout.head_eq_user_of_accepts h,
    fun c c' inp o o' h h' => ?_, fun _ _ _ h => NftOwnership.outputs_of_accepts h,
    fun keccak hk c c' inp o o' h h' => ?_, fun _ _ _ _ h => TokenHolder.outputs_of_accepts h,
    fun keccak hk c c' inp o o' hm h h' => ?_,
    fun _ _ _ _ h => MultichainBalance.head_eq_holder_of_accepts h,
    fun _ _ _ _ _ _ _ h => BidirectionalLayout.head_eq_user_of_accepts h⟩
  -- the second run is the first: the records fix every parameter that is not a threshold
  · obtain rfl := VolumeLayout.user_eq_of_accepts hcap h h'
    exact Except.ok.inj (h.symm.trans h')
  · obtain rfl := LiquidityLayout.user_eq_of_accepts hcap h h'
    exact Except.ok.inj (h.symm.trans h')
  · obtain rfl := NftOwnership.circuit_eq_of_accepts h h'
    exact Except.ok.inj (h.symm.trans h')
  · obtain rfl := TokenHolder.circuit_eq_of_accepts hk h h'
    exact Except.ok.inj (h.symm.trans h')
  · obtain rfl := MultichainBalance.circuit_eq_of_accepts hk hm h h'
    exact Except.ok.inj (h.symm.trans h')

/-- Accepted runs of compound, uniswap-v2-lp and uniswap-v2-bidirectional on full batches,
and of nftOwnership, tokenHolder and multi-chain-balance, each with what the binding reads
off its output. -/
theorem outputs_bound_to_evidence_on_honest_runs :
    (0 < 30 ∧ Compound.AppCircuit.define ⟨7, 1⟩ ⟨compoundSample, []⟩ =
        .ok (VolumeLayout.record 7 1 compoundSample) ∧
      VolumeLayout.record 7 1 compoundSample = VolumeLayout.record 7 1 compoundSample ∧
      ∀ r ∈ compoundSample, (VolumeLayout.record 7 1 compoundSample).head? =
        some (outputAddress (r.fields 1).value.toNat)) ∧
    (0 < 20 ∧ UniswapV2Lp.AppCircuit.define ⟨7, 1, 1⟩ ⟨liquiditySample, []⟩ =
        .ok (LiquidityLayout.record 7 liquiditySample) ∧
      LiquidityLayout.record 7 liquiditySample = LiquidityLayout.record 7 liquiditySample ∧
      ∀ r ∈ liquiditySample, (LiquidityLayout.record 7 liquiditySample).head? =
        some (outputAddress (r.fields 0).value.toNat)) ∧
    (NftOwnership.AppCircuit.define ⟨1, 2, 3⟩ ⟨[NftOwnership.honestReceipt ⟨1, 2, 3⟩ 0], []⟩ =
        .ok (NftOwnership.record ⟨1, 2, 3⟩ (NftOwnership.honestReceipt ⟨1, 2, 3⟩ 0)) ∧
      NftOwnership.record ⟨1, 2, 3⟩ (NftOwnership.honestReceipt ⟨1, 2, 3⟩ 0) =
        NftOwnership.record ⟨1, 2, 3⟩ (NftOwnership.honestReceipt ⟨1, 2, 3⟩ 0) ∧
      ∃ r, [NftOwnership.honestReceipt ⟨1, 2, 3⟩ 0] = [r] ∧
        NftOwnership.record ⟨1, 2, 3⟩ (NftOwnership.honestReceipt ⟨1, 2, 3⟩ 0) =
          [outputAddress (r.fields 0).value.toNat, outputAddress (r.fields 0).contract.toNat,
            outputUint 248 (r.fields 1).value.toNat, outputUint 64 r.blockNum.toNat]) ∧
    (KeyInjective (fun k _ => k) ∧
      TokenHolder.AppCircuit.define (fun k _ => k) ⟨5⟩
          ⟨[], [TokenHolder.honestSlot (fun k _ => k) ⟨5⟩ 150000000]⟩ =
        .ok (TokenHolder.record ⟨5⟩ (TokenHolder.honestSlot (fun k _ => k) ⟨5⟩ 150000000)) ∧
      TokenHolder.record ⟨5⟩ (TokenHolder.honestSlot (fun k _ => k) ⟨5⟩ 150000000) =
        TokenHolder.record ⟨5⟩ (TokenHolder.honestSlot (fun k _ => k) ⟨5⟩ 150000000) ∧
      ∃ s, [TokenHolder.honestSlot (fun k _ => k) ⟨5⟩ 150000000] = [s] ∧
        s.slot = slotOfStructFieldInMapping (fun k _ => k) 9 0 (toBytes32 5) ∧
        TokenHolder.record ⟨5⟩ (TokenHolder.honestSlot (fun k _ => k) ⟨5⟩ 150000000) =
          [outputAddress 5, outputUint 248 s.value.toNat, outputUint 64 s.blockNum.toNat]) ∧
    (KeyInjective (fun k _ => k) ∧
      MultichainBalance.AppCircuit.define (fun k _ => k) ⟨5, 10⟩
          ⟨[], MultichainBalance.honestSlots (fun k _ => k) ⟨5, 10⟩ 6 4⟩ =
        .ok (MultichainBalance.record ⟨5, 10⟩ ⟨1, MultichainBalance.usdcEthereum, 5, 6⟩
          ⟨1, MultichainBalance.usdcBsc, 5, 4⟩) ∧
      MultichainBalance.record ⟨5, 10⟩ ⟨1, MultichainBalance.usdcEthereum, 5, 6⟩
          ⟨1, MultichainBalance.usdcBsc, 5, 4⟩ =
        MultichainBalance.record ⟨5, 10⟩ ⟨1, MultichainBalance.usdcEthereum, 5, 6⟩
          ⟨1, MultichainBalance.usdcBsc, 5, 4⟩ ∧
      (MultichainBalance.record ⟨5, 10⟩ ⟨1, MultichainBalance.usdcEthereum, 5, 6⟩
          ⟨1, MultichainBalance.usdcBsc, 5, 4⟩).head? = some (outputAddress 5) ∧
      ∀ s ∈ MultichainBalance.honestSlots (fun k _ => k) ⟨5, 10⟩ 6 4,
        s.slot = slotOfStructFieldInMapping (fun k _ => k) 9 0 (toBytes32 5)) ∧
    (UniswapV2Bidirectional.AppCircuit.define ⟨7, 1, 1⟩ ⟨bidirectionalSample, []⟩ =
        .ok (BidirectionalLayout.record 7 bidirectionalSample) ∧
      (BidirectionalLayout.record 7 bidirectionalSample).head? = some (outputAddress 7) ∧
      ∀ r ∈ bidirectionalSample, (r.fields 2).value.toNat = 7 ∨ (r.fields 3).value.toNat = 7) := by
  have hinj : KeyInjective (fun k _ => k) := fun _ _ _ h => h
  have h₁ : Compound.AppCircuit.define ⟨7, 1⟩ ⟨compoundSample, []⟩ =
      .ok (VolumeLayout.record 7 1 compoundSample) := by decide
  have h₂ : UniswapV2Lp.AppCircuit.define ⟨7, 1, 1⟩ ⟨liquiditySample, []⟩ =
      .ok (LiquidityLayout.record 7 liquiditySample) := by decide
  have h₃ : NftOwnership.AppCircuit.define ⟨1, 2, 3⟩
      ⟨[NftOwnership.honestReceipt ⟨1, 2, 3⟩ 0], []⟩ =
      .ok (NftOwnership.record ⟨1, 2, 3⟩ (NftOwnership.honestReceipt ⟨1, 2, 3⟩ 0)) := by decide
  have h₄ : TokenHolder.AppCircuit.define (fun k _ => k) ⟨5⟩
      ⟨[], [TokenHolder.honestSlot (fun k _ => k) ⟨5⟩ 150000000]⟩ =
      .ok (TokenHolder.record ⟨5⟩ (TokenHolder.honestSlot (fun k _ => k) ⟨5⟩ 150000000)) := by
    decide
  have h₅ : MultichainBalance.AppCircuit.define (fun k _ => k) ⟨5, 10⟩
      ⟨[], MultichainBalance.honestSlots (fun k _ => k) ⟨5, 10⟩ 6 4⟩ =
      .ok (MultichainBalance.record ⟨5, 10⟩ ⟨1, MultichainBalance.usdcEthereum, 5, 6⟩
        ⟨1, MultichainBalance.usdcBsc, 5, 4⟩) := by decide
  have h₆ : UniswapV2Bidirectional.AppCircuit.define ⟨7, 1, 1⟩ ⟨bidirectionalSample, []⟩ =
      .ok (BidirectionalLayout.record 7 bidirectionalSample) := by
    decide
  exact ⟨⟨by decide, h₁, outputs_bound_to_evidence.1 Compound.layout 30 7 7 1 _ _ _ (by decide)
      h₁ h₁, outputs_bound_to_evidence.2.1 Compound.layout 30 7 1 _ _ h₁⟩,
    ⟨by decide, h₂, outputs_bound_to_evidence.2.2.1 UniswapV2Lp.layout 20 7 7 1 1 _ _ _
      (by decide) h₂ h₂, outputs_bound_to_evidence.2.2.2.1 UniswapV2Lp.layout 20 7 1 1 _ _ h₂⟩,
    ⟨h₃, outputs_bound_to_evidence.2.2.2.2.1 _ _ _ _ _ h₃ h₃,
      outputs_bound_to_evidence.2.2.2.2.2.1 _ _ _ h₃⟩,
    ⟨hinj, h₄, outputs_bound_to_evidence.2.2.2.2.2.2.1 _ hinj _ _ _ _ _ h₄ h₄,
      outputs_bound_to_evidence.2.2.2.2.2.2.2.1 _ _ _ _ h₄⟩,
    ⟨hinj, h₅, outputs_bound_to_evidence.2.2.2.2.2.2.2.2.1 _ hinj _ _ _ _ _ rfl h₅ h₅,
      outputs_bound_to_evidence.2.2.2.2.2.2.2.2.2.1 _ _ _ _ h₅⟩,
    ⟨h₆, outputs_bound_to_evidence.2.2.2.2.2.2.2.2.2.2 UniswapV2Bidirectional.layout 50 7 1 1 _ _
      h₆⟩⟩

theorem unchecked_parameters_reach_outputs :
    LayerzeroMessage.AppCircuit.define ⟨1, 10⟩
        ⟨List.replicate 50 (LayerzeroMessage.honestReceipt 0), []⟩ =
      .ok [outputAddress 1, outputUint 64 50, outputUint 64 10] ∧
    LayerzeroMessage.AppCircuit.define ⟨2, 10⟩
        ⟨List.replicate 50 (LayerzeroMessage.honestReceipt 0), []⟩ =
      .ok [outputAddress 2, outputUint 64 50, outputUint 64 10] ∧
    BalancerWeighted.AppCircuit.define ⟨1, 0⟩
        ⟨List.replicate 50 (BalancerWeighted.honestReceipt 1), []⟩ =
      .ok [outputAddress 1, outputUint 248 50, outputUint 248 0, outputUint 64 50] ∧
    BalancerWeighted.AppCircuit.define ⟨2, 0⟩
        ⟨List.replicate 50 (BalancerWeighted.honestReceipt 1), []⟩ =
      .ok [outputAddress 2, outputUint 248 50, outputUint 248 0, outputUint 64 50] ∧
    twapSampleCircuit.define ⟨[], [twapSampleSlot 9 1, twapSampleSlot 9 2]⟩ =
      .ok [outputAddress twapSampleCircuit.pairAddr.toNat, outputUint 248 6, outputUint 248 1,
        outputUint 248 10, outputUint 64 100] ∧
    { twapSampleCircuit with endBlock := 300 }.define ⟨[], [twapSampleSlot 9 1, twapSampleSlot 9 2]⟩ =
      .ok [outputAddress twapSampleCircuit.pairAddr.toNat, outputUint 248 6, outputUint 248 1,
        outputUint 248 10, outputUint 64 200] := by
  decide

end Brevis
