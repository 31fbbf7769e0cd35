import BrevisCircuits.Circuits.Volume
import BrevisCircuits.Circuits.Liquidity
import BrevisCircuits.Circuits.Bidirectional
import BrevisCircuits.Circuits.Twap
import BrevisCircuits.Circuits.LayerzeroMessage
import BrevisCircuits.Properties.Arithmetic

/-
  The stream circuits do not depend on the order of their records, and an accepted run
  stays accepted under a weaker threshold.

  Every stream circuit reads its records only through the stream operations: `AssertEach`
  is a conjunction over the records, `Map` keeps one value per record, `Sum` and `Count`
  are sums, and no circuit reads a record at a position. The closed forms
  (`define_eq_ok`) therefore depend on the batch only through its length, the set of its
  records and its exact sums, all of which a permutation keeps.

  What is proved:
    1. `fieldSum_perm`, `valueSum_perm` — the exact sums are invariant under permutation.
    2. `order_independent` — for every single-total, liquidity, bidirectional, layerzero
       and TWAP circuit (balancer-weighted included), a batch and any permutation of it are
       accepted together, with the same output.
    3. `thresholds_monotone` — a batch accepted at some thresholds is accepted at any
       lower minimum (and, for TWAP, any higher maximum), with the output of the new
       parameters; the observed totals do not change.

  Which assertion fails first, on a rejected batch, can depend on the order: a failed
  `ToUint248` inside a later record's predicate is reported only if no earlier record
  failed. Acceptance and outputs do not.
-/
namespace Brevis

/-- The circuit accepts a batch of receipts and any reordering of it together, with the
same output. -/
def ReceiptOrderFree (define : DataInput → Circuit (List Output)) : Prop :=
  ∀ R R' S, R.Perm R' → ∀ o, define ⟨R, S⟩ = .ok o ↔ define ⟨R', S⟩ = .ok o

/-- The circuit accepts a batch of storage slots and any reordering of it together, with
the same output. -/
def SlotOrderFree (define : DataInput → Circuit (List Output)) : Prop :=
  ∀ R S S', S.Perm S' → ∀ o, define ⟨R, S⟩ = .ok o ↔ define ⟨R, S'⟩ = .ok o

variable {R R' : List Receipt}

theorem fieldSum_perm (i : Fin numMaxLogFields) (h : R.Perm R') : fieldSum i R = fieldSum i R' :=
  (h.map _).sum_eq

theorem valueSum_perm {S S' : List StorageSlot} (h : S.Perm S') :
    Twap.valueSum S = Twap.valueSum S' :=
  (h.map _).sum_eq

theorem order_independent :
    (∀ (L : VolumeLayout) cap u m, ReceiptOrderFree (L.define cap u m)) ∧
    (∀ c : BalancerWeighted.AppCircuit, ReceiptOrderFree c.define) ∧
    (∀ (L : LiquidityLayout) cap u m₀ m₁, ReceiptOrderFree (L.define cap u m₀ m₁)) ∧
    (∀ (L : BidirectionalLayout) cap u m₀ m₁, ReceiptOrderFree (L.define cap u m₀ m₁)) ∧
    (∀ c : LayerzeroMessage.AppCircuit, ReceiptOrderFree c.define) ∧
    (∀ cap p lo hi sb eb, SlotOrderFree (Twap.define cap p lo hi sb eb)) := by
  refine ⟨fun L cap u m R R' S h o => ?_, fun c R R' S h o => ?_,
    fun L cap u m₀ m₁ R R' S h o => ?_, fun L cap u m₀ m₁ R R' S h o => ?_,
    fun c R R' S h o => ?_, fun cap p lo hi sb eb R S S' h o => ?_⟩
  · simp only [VolumeLayout.define_eq_ok, VolumeLayout.aggregate_eq_ok, VolumeLayout.record,
      h.length_eq, h.mem_iff, fieldSum_perm 0 h]
  · simp only [BalancerWeighted.define_eq_ok, VolumeLayout.aggregate_eq_ok, VolumeLayout.record,
      h.length_eq, h.mem_iff, fieldSum_perm 0 h]
  · simp only [LiquidityLayout.define_eq_ok, LiquidityLayout.aggregate_eq_ok,
      LiquidityLayout.record, h.length_eq, h.mem_iff, fieldSum_perm 1 h, fieldSum_perm 2 h]
  · simp only [BidirectionalLayout.define_eq_ok, BidirectionalLayout.aggregate_eq_ok,
      BidirectionalLayout.record, h.length_eq, h.mem_iff, fieldSum_perm 0 h, fieldSum_perm 1 h]
  · simp only [LayerzeroMessage.define_eq_ok, LayerzeroMessage.record, h.length_eq, h.mem_iff]
  · simp only [Twap.define_eq_ok, Twap.record, h.length_eq, h.mem_iff, valueSum_perm h]

/-! ## Thresholds -/

theorem thresholds_monotone :
    (∀ (L : VolumeLayout) cap u m m' inp o, L.define cap u m inp = .ok o →
      m'.toNat ≤ m.toNat → L.define cap u m' inp = .ok (VolumeLayout.record u m' inp.receipts)) ∧
    (∀ (L : LiquidityLayout) cap u m₀ m₁ m₀' m₁' inp o, L.define cap u m₀ m₁ inp = .ok o →
      m₀'.toNat ≤ m₀.toNat → m₁'.toNat ≤ m₁.toNat → L.define cap u m₀' m₁' inp = .ok o) ∧
    (∀ (L : BidirectionalLayout) cap u m₀ m₁ m₀' m₁' inp o, L.define cap u m₀ m₁ inp = .ok o →
      m₀'.toNat ≤ m₀.toNat → m₁'.toNat ≤ m₁.toNat → L.define cap u m₀' m₁' inp = .ok o) ∧
    (∀ (c : LayerzeroMessage.AppCircuit) m' inp o, c.define inp = .ok o →
      m'.toNat ≤ c.minMessageCount.toNat →
      LayerzeroMessage.AppCircuit.define { c with minMessageCount := m' } inp =
        .ok (LayerzeroMessage.record { c with minMessageCount := m' } inp.receipts)) ∧
    (∀ cap p lo hi lo' hi' sb eb inp o, Twap.define cap p lo hi sb eb inp = .ok o →
      lo'.toNat ≤ lo.toNat → hi.toNat ≤ hi'.toNat →
      Twap.define cap p lo' hi' sb eb inp = .ok (Twap.record p lo' hi' sb eb inp.storageSlots)) := by
  refine ⟨fun L cap u m m' inp o h hm => ?_, fun L cap u m₀ m₁ m₀' m₁' inp o h hm₀ hm₁ => ?_,
    fun L cap u m₀ m₁ m₀' m₁' inp o h hm₀ hm₁ => ?_, fun c m' inp o h hm => ?_,
    fun cap p lo hi lo' hi' sb eb inp o h hlo hhi => ?_⟩
  · obtain ⟨hlen, hmatch, hagg⟩ := VolumeLayout.define_eq_ok.mp h
    obtain ⟨hfit, hmin, hout, -⟩ := VolumeLayout.aggregate_eq_ok.mp hagg
    refine VolumeLayout.define_eq_ok.mpr ⟨hlen, hmatch,
      VolumeLayout.aggregate_eq_ok.mpr ⟨hfit, hm.trans hmin, ?_, rfl⟩⟩
    simp only [VolumeLayout.record, List.forall_mem_cons, List.not_mem_nil, false_implies,
      implies_true, and_true] at hout ⊢
    exact ⟨hout.1, hout.2.1, m'.isLt, hout.2.2.2⟩
  · obtain ⟨hlen, hmatch, hagg⟩ := LiquidityLayout.define_eq_ok.mp h
    obtain ⟨hfit₁, hfit₂, hmin₀, hmin₁, hout, rfl⟩ := LiquidityLayout.aggregate_eq_ok.mp hagg
    exact LiquidityLayout.define_eq_ok.mpr ⟨hlen, hmatch, LiquidityLayout.aggregate_eq_ok.mpr
      ⟨hfit₁, hfit₂, hm₀.trans hmin₀, hm₁.trans hmin₁, hout, rfl⟩⟩
  · obtain ⟨hlen, hmatch, hagg⟩ := BidirectionalLayout.define_eq_ok.mp h
    obtain ⟨hfit₀, hfit₁, hmin₀, hmin₁, hout, rfl⟩ := BidirectionalLayout.aggregate_eq_ok.mp hagg
    exact BidirectionalLayout.define_eq_ok.mpr ⟨hlen, hmatch, BidirectionalLayout.aggregate_eq_ok.mpr
      ⟨hfit₀, hfit₁, hm₀.trans hmin₀, hm₁.trans hmin₁, hout, rfl⟩⟩
  · obtain ⟨hlen, hmatch, hmin, hout, -⟩ := LayerzeroMessage.define_eq_ok.mp h
    refine LayerzeroMessage.define_eq_ok.mpr ⟨hlen, hmatch, hm.trans hmin, ?_, rfl⟩
    simp only [LayerzeroMessage.record, List.forall_mem_cons, List.not_mem_nil, false_implies,
      implies_true, and_true] at hout ⊢
    exact ⟨hout.1, hout.2.1, lt_of_le_of_lt hm hout.2.2⟩
  · obtain ⟨hlen, hc, hfit, h2, hmin, hmax, hout, -⟩ := Twap.define_eq_ok.mp h
    refine Twap.define_eq_ok.mpr ⟨hlen, hc, hfit, h2, hlo.trans hmin, hmax.trans hhi, ?_, rfl⟩
    simp only [Twap.record, List.forall_mem_cons, List.not_mem_nil, false_implies,
      implies_true, and_true] at hout ⊢
    exact ⟨hout.1, hout.2.1, lo'.isLt, hi'.isLt, hout.2.2.2.2⟩

/-- Accepted runs of compound, uniswap-v2-lp, uniswap-v2-bidirectional, layerzero-message
and uniswap-v2-twap on full batches, each run again at lower minimums (and a higher TWAP
maximum). -/
theorem thresholds_monotone_on_honest_runs :
    Compound.AppCircuit.define ⟨7, 1⟩ ⟨compoundSample, []⟩ =
        .ok (VolumeLayout.record 7 1 compoundSample) ∧
      UniswapV2Lp.AppCircuit.define ⟨7, 0, 0⟩ ⟨liquiditySample, []⟩ =
        .ok (LiquidityLayout.record 7 liquiditySample) ∧
      UniswapV2Bidirectional.AppCircuit.define ⟨7, 0, 0⟩ ⟨bidirectionalSample, []⟩ =
        .ok (BidirectionalLayout.record 7 bidirectionalSample) ∧
      LayerzeroMessage.AppCircuit.define ⟨7, 1⟩
          ⟨List.replicate 50 (LayerzeroMessage.honestReceipt 0), []⟩ =
        .ok (LayerzeroMessage.record ⟨7, 1⟩ (List.replicate 50 (LayerzeroMessage.honestReceipt 0))) ∧
      UniswapV2Twap.AppCircuit.define ⟨5, 0, 20, 100, 200⟩ ⟨[], twapSample⟩ =
        .ok (Twap.record 5 0 20 100 200 twapSample) := by
  have h₁ : Compound.AppCircuit.define ⟨7, 2⟩ ⟨compoundSample, []⟩ =
      .ok (VolumeLayout.record 7 2 compoundSample) := by decide
  have h₂ : UniswapV2Lp.AppCircuit.define ⟨7, 1, 1⟩ ⟨liquiditySample, []⟩ =
      .ok (LiquidityLayout.record 7 liquiditySample) := by decide
  have h₃ : UniswapV2Bidirectional.AppCircuit.define ⟨7, 1, 1⟩ ⟨bidirectionalSample, []⟩ =
      .ok (BidirectionalLayout.record 7 bidirectionalSample) := by decide
  have h₄ : LayerzeroMessage.AppCircuit.define ⟨7, 10⟩
      ⟨List.replicate 50 (LayerzeroMessage.honestReceipt 0), []⟩ =
      .ok (LayerzeroMessage.record ⟨7, 10⟩
        (List.replicate 50 (LayerzeroMessage.honestReceipt 0))) := by decide
  have h₅ : UniswapV2Twap.AppCircuit.define ⟨5, 1, 10, 100, 200⟩ ⟨[], twapSample⟩ =
      .ok (Twap.record 5 1 10 100 200 twapSample) := by decide
  exact ⟨thresholds_monotone.1 Compound.layout 30 7 2 1 _ _ h₁ (by decide),
    thresholds_monotone.2.1 UniswapV2Lp.layout 20 7 1 1 0 0 _ _ h₂ (by decide) (by decide),
    thresholds_monotone.2.2.1 UniswapV2Bidirectional.layout 50 7 1 1 0 0 _ _ h₃ (by decide)
      (by decide),
    thresholds_monotone.2.2.2.1 ⟨7, 10⟩ 1 _ _ h₄ (by decide),
    thresholds_monotone.2.2.2.2 2 5 1 10 0 20 100 200 _ _ h₅ (by decide) (by decide)⟩

end Brevis
