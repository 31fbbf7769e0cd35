import BrevisCircuits.Engine.Pipeline
import BrevisCircuits.Properties.Matching
import BrevisCircuits.Properties.Arithmetic

/-
  The circuits against the engine they are instances of.

  Each receipt circuit is written out by hand, with its arithmetic in the field; the
  design describes one engine that every circuit parameterises (`Engine.Config`). Here
  each circuit family gets its configuration: its declared pattern (from
  `BrevisCircuits.Properties.Matching`), the summed fields with their thresholds, and its
  output layout. The engine's arithmetic is exact and checked; the circuits' wraps at the
  field order, so the two agree only where no sum reaches it.

  What is proved:
    1. `define_of_run` (one per family) — every batch the engine accepts, the circuit
       accepts, with the same output: at any capacity for the single-total, liquidity and
       balancer circuits, and for the bidirectional ones when both address words of every
       receipt are 248-bit values (the circuit's `ToUint248` asserts it, the engine's
       OR-pattern does not).
    2. `run_of_define` (one per family) — every batch the circuit accepts, the engine
       accepts, with the same output, at a capacity of 48 or less, and at any capacity
       below the field order when the exact totals stay below it (so at the capacity-50
       circuits too); balancer-weighted (capacity 50) when its exact total stays below the
       field order.
    3. `LayerzeroMessage.define_eq_ok_iff_run` — layerzero, which sums nothing, computes
       exactly the engine at its configuration.
    4. `circuits_refine_engine` — the above, for every receipt circuit family.
    5. `storage_circuits_refine_engine` — tokenHolder and multi-chain-balance, whose totals
       are one or two 248-bit values and never wrap, compute exactly the engine at their
       storage configurations, for every slot-key hash.
    6. `twap_circuits_refine_engine` — the TWAP circuits at the engine's two-sided
       configuration: a TWAP circuit's acceptance, together with the one check it leaves
       out (both slots at the storage index it declares), is exactly the engine's
       acceptance, with the same output.

  nftOwnership has no configuration here: it declares no event id, and it compares two
  fields' log positions, which no pattern of the design can say.
-/
namespace Brevis

open Engine

/-- A count output at 64 bits in a record whose values all fit is below the field
order. -/
private theorem count_lt_scalarField {os : List Output} {n : Nat}
    (h : ∀ x ∈ os, x.value < 2 ^ x.bits) (hn : outputUint 64 n ∈ os) : n < scalarField :=
  have hfit : n < 2 ^ 64 := h _ hn
  hfit.trans (by decide)

/-! ## Single-total circuits -/

namespace VolumeLayout

/-- The output layout of the single-total circuits: `[UserAddr, total, threshold, count]`. -/
def outputs (userAddr minVolume : Uint248) (totals : List Nat) (n : Nat) : List Output :=
  [outputAddress userAddr.toNat, outputUint 248 (totals.getD 0 0),
    outputUint 248 minVolume.toNat, outputUint 64 n]

/-- A single-total circuit as an engine configuration: field 0 summed against the
threshold, and no threshold on the count. -/
def config (L : VolumeLayout) (capacity : Nat) (userAddr minVolume : Uint248) : Config :=
  ⟨capacity, L.pattern, [(0, minVolume.toNat)], 0, outputs userAddr minVolume⟩

variable {L : VolumeLayout} {cap : Nat} {u m : Uint248} {B : List Receipt} {inp : DataInput}
  {o : List Output}

theorem record_eq_outputs (h₀ : fieldSum 0 B < scalarField) (hn : B.length < scalarField) :
    record u m B = outputs u m [fieldSum 0 B] B.length := by
  simp only [record, outputs, Nat.mod_eq_of_lt h₀, Nat.mod_eq_of_lt hn, List.getD_cons_zero]

/-- The aggregation stage of the circuit, from the engine's conditions on the batch. -/
theorem aggregate_of_run (hfit : ∀ r ∈ B, (r.fields 0).value.toNat < 2 ^ 248)
    (hlt : fieldSum 0 B < 2 ^ 248) (hmin : m.toNat ≤ fieldSum 0 B)
    (hout : ∀ x ∈ outputs u m [fieldSum 0 B] B.length, x.value < 2 ^ x.bits) :
    aggregate u m B = .ok (outputs u m [fieldSum 0 B] B.length) := by
  have h₀ := hlt.trans two_pow_248_lt_scalarField
  have hn : B.length < scalarField := count_lt_scalarField hout (by simp [outputs])
  rw [aggregate_eq_ok, record_eq_outputs h₀ hn, Nat.mod_eq_of_lt h₀]
  exact ⟨hfit, hmin, hout, rfl⟩

/-- The engine's conditions on the batch, from the circuit's aggregation stage, when the
exact total stays below the field order. -/
theorem run_conditions_of_aggregate (h₀ : fieldSum 0 B < scalarField)
    (hn : B.length < scalarField) (h : aggregate u m B = .ok o) :
    ((∀ r ∈ B, (r.fields 0).value.toNat < 2 ^ 248) ∧ fieldSum 0 B < 2 ^ 248 ∧
      m.toNat ≤ fieldSum 0 B) ∧
    (∀ x ∈ outputs u m [fieldSum 0 B] B.length, x.value < 2 ^ x.bits) ∧
    outputs u m [fieldSum 0 B] B.length = o := by
  obtain ⟨hfit, hmin, hout, rfl⟩ := aggregate_eq_ok.mp h
  rw [record_eq_outputs h₀ hn] at hout ⊢
  rw [Nat.mod_eq_of_lt h₀] at hmin
  exact ⟨⟨hfit, hout (outputUint 248 (fieldSum 0 B)) (by simp [outputs]), hmin⟩, hout, rfl⟩

theorem define_of_run (h : (L.config cap u m).run u inp.receipts = .ok o) :
    L.define cap u m inp = .ok o := by
  obtain ⟨hlen, hmatch, hamt, -, hout, rfl⟩ := Config.run_eq_ok.mp h
  simp only [config, List.mem_singleton, forall_eq, List.map_cons, List.map_nil] at hamt hout ⊢
  obtain ⟨hfit, hlt, hmin⟩ := hamt
  exact define_eq_ok.mpr ⟨hlen, fun r hr => matches_iff.mpr (hmatch r hr),
    aggregate_of_run hfit hlt hmin hout⟩

theorem run_of_define
    (hcap : cap ≤ 48 ∨ cap < scalarField ∧ fieldSum 0 inp.receipts < scalarField)
    (h : L.define cap u m inp = .ok o) :
    (L.config cap u m).run u inp.receipts = .ok o := by
  obtain ⟨hlen, hmatch, hagg⟩ := define_eq_ok.mp h
  have h₀ := fieldSum_lt_of_cap hlen hcap id (aggregate_eq_ok.mp hagg).1
  obtain ⟨hamt, hout, rfl⟩ :=
    run_conditions_of_aggregate h₀ (hlen ▸ lt_scalarField_of_cap hcap) hagg
  refine Config.run_eq_ok.mpr ⟨hlen, fun r hr => matches_iff.mp (hmatch r hr), ?_,
    Nat.zero_le _, ?_⟩
  all_goals simpa only [config, List.mem_singleton, forall_eq, List.map_cons, List.map_nil,
    and_true]

/-- Three compound `Mint` receipts, the last with another event id: the engine reports a
pattern mismatch, the circuit a failed `AssertEach`. -/
example :
    let B := [Compound.layout.honestReceipt 7 1, Compound.layout.honestReceipt 7 1,
      (⟨Compound.cUsdcAddress, 0, 1, false, 0⟩ : VolumeLayout).honestReceipt 7 1]
    (Compound.layout.config 3 7 0).run 7 B = .error .patternMismatch ∧
      Compound.layout.define 3 7 0 ⟨B, []⟩ = .error .assertEach := by
  decide

end VolumeLayout

namespace BalancerWeighted

/-- Balancer-weighted as an engine configuration: 50 receipts, its declared pattern, and
the single-total layout. -/
def AppCircuit.config (c : AppCircuit) : Config :=
  ⟨50, pattern, [(0, c.minVolume.toNat)], 0, VolumeLayout.outputs c.userAddr c.minVolume⟩

variable {c : AppCircuit} {inp : DataInput} {o : List Output}

theorem define_of_run (h : c.config.run c.userAddr inp.receipts = .ok o) :
    c.define inp = .ok o := by
  obtain ⟨hlen, hmatch, hamt, -, hout, rfl⟩ := Config.run_eq_ok.mp h
  simp only [AppCircuit.config, List.mem_singleton, forall_eq, List.map_cons,
    List.map_nil] at hamt hout hlen ⊢
  obtain ⟨hfit, hlt, hmin⟩ := hamt
  exact define_eq_ok.mpr ⟨hlen, fun r hr => matches_iff.mpr (hmatch r hr),
    VolumeLayout.aggregate_of_run hfit hlt hmin hout⟩

theorem run_of_define (h₀ : fieldSum 0 inp.receipts < scalarField) (h : c.define inp = .ok o) :
    c.config.run c.userAddr inp.receipts = .ok o := by
  obtain ⟨hlen, hmatch, hagg⟩ := define_eq_ok.mp h
  obtain ⟨hamt, hout, rfl⟩ :=
    VolumeLayout.run_conditions_of_aggregate h₀ (hlen ▸ by decide) hagg
  refine Config.run_eq_ok.mpr ⟨hlen, fun r hr => matches_iff.mp (hmatch r hr), ?_,
    Nat.zero_le _, ?_⟩
  all_goals simpa only [AppCircuit.config, List.mem_singleton, forall_eq, List.map_cons,
    List.map_nil, and_true]

end BalancerWeighted

/-! ## Liquidity circuits -/

namespace LiquidityLayout

/-- The output layout of the liquidity circuits: `[UserAddr, total0, total1, count]`. -/
def outputs (userAddr : Uint248) (totals : List Nat) (n : Nat) : List Output :=
  [outputAddress userAddr.toNat, outputUint 248 (totals.getD 0 0),
    outputUint 248 (totals.getD 1 0), outputUint 64 n]

/-- A liquidity circuit as an engine configuration: fields 1 and 2 summed, each against
its own threshold. -/
def config (L : LiquidityLayout) (capacity : Nat) (userAddr minLiquidityV0 minLiquidityV1 : Uint248) :
    Config :=
  ⟨capacity, L.pattern, [(1, minLiquidityV0.toNat), (2, minLiquidityV1.toNat)], 0,
    outputs userAddr⟩

variable {L : LiquidityLayout} {cap : Nat} {u m₀ m₁ : Uint248} {B : List Receipt}
  {inp : DataInput} {o : List Output}

theorem record_eq_outputs (h₁ : fieldSum 1 B < scalarField) (h₂ : fieldSum 2 B < scalarField)
    (hn : B.length < scalarField) :
    record u B = outputs u [fieldSum 1 B, fieldSum 2 B] B.length := by
  simp only [record, outputs, Nat.mod_eq_of_lt h₁, Nat.mod_eq_of_lt h₂, Nat.mod_eq_of_lt hn,
    List.getD_cons_zero, List.getD_cons_succ]

theorem define_of_run (h : (L.config cap u m₀ m₁).run u inp.receipts = .ok o) :
    L.define cap u m₀ m₁ inp = .ok o := by
  obtain ⟨hlen, hmatch, hamt, -, hout, rfl⟩ := Config.run_eq_ok.mp h
  simp only [config, List.mem_cons, List.not_mem_nil, or_false, forall_eq_or_imp, forall_eq,
    List.map_cons, List.map_nil] at hamt hout ⊢
  obtain ⟨⟨hfit₁, hlt₁, hmin₁⟩, hfit₂, hlt₂, hmin₂⟩ := hamt
  have h₁ := hlt₁.trans two_pow_248_lt_scalarField
  have h₂ := hlt₂.trans two_pow_248_lt_scalarField
  have hn : inp.receipts.length < scalarField := count_lt_scalarField hout (by simp [outputs])
  refine define_eq_ok.mpr ⟨hlen, fun r hr => matches_iff.mpr (hmatch r hr), ?_⟩
  rw [aggregate_eq_ok, record_eq_outputs h₁ h₂ hn, Nat.mod_eq_of_lt h₁, Nat.mod_eq_of_lt h₂]
  exact ⟨hfit₁, hfit₂, hmin₁, hmin₂, hout, rfl⟩

theorem run_of_define (hcap : cap ≤ 48 ∨ cap < scalarField ∧
      fieldSum 1 inp.receipts < scalarField ∧ fieldSum 2 inp.receipts < scalarField)
    (h : L.define cap u m₀ m₁ inp = .ok o) :
    (L.config cap u m₀ m₁).run u inp.receipts = .ok o := by
  obtain ⟨hlen, hmatch, hagg⟩ := define_eq_ok.mp h
  obtain ⟨hfit₁, hfit₂, hmin₁, hmin₂, hout, rfl⟩ := aggregate_eq_ok.mp hagg
  have h₁ := fieldSum_lt_of_cap hlen hcap And.left hfit₁
  have h₂ := fieldSum_lt_of_cap hlen hcap And.right hfit₂
  have hn : inp.receipts.length < scalarField := hlen ▸ lt_scalarField_of_cap hcap
  rw [record_eq_outputs h₁ h₂ hn] at hout ⊢
  rw [Nat.mod_eq_of_lt h₁] at hmin₁
  rw [Nat.mod_eq_of_lt h₂] at hmin₂
  refine Config.run_eq_ok.mpr ⟨hlen, fun r hr => matches_iff.mp (hmatch r hr), ?_,
    Nat.zero_le _, ?_⟩
  all_goals simp only [config, List.mem_cons, List.not_mem_nil, or_false, forall_eq_or_imp,
    forall_eq, List.map_cons, List.map_nil, and_true]
  · exact ⟨⟨hfit₁, hout (outputUint 248 (fieldSum 1 _)) (by simp [outputs]), hmin₁⟩, hfit₂,
      hout (outputUint 248 (fieldSum 2 _)) (by simp [outputs]), hmin₂⟩
  · exact hout

end LiquidityLayout

/-! ## Bidirectional circuits -/

namespace BidirectionalLayout

/-- The output layout of the bidirectional circuits:
`[UserAddr, totalIn, totalOut, totalIn + totalOut, count]`. -/
def outputs (userAddr : Uint248) (totals : List Nat) (n : Nat) : List Output :=
  [outputAddress userAddr.toNat, outputUint 248 (totals.getD 0 0),
    outputUint 248 (totals.getD 1 0), outputUint 248 (totals.getD 0 0 + totals.getD 1 0),
    outputUint 64 n]

/-- A bidirectional circuit as an engine configuration: its OR-pattern, fields 0 and 1
summed, each against its own threshold. -/
def config (L : BidirectionalLayout) (capacity : Nat) (userAddr minVolumeIn minVolumeOut : Uint248) :
    Config :=
  ⟨capacity, L.pattern, [(0, minVolumeIn.toNat), (1, minVolumeOut.toNat)], 0, outputs userAddr⟩

variable {L : BidirectionalLayout} {cap : Nat} {u m₀ m₁ : Uint248} {B : List Receipt}
  {inp : DataInput} {o : List Output}

theorem record_eq_outputs (h₀ : fieldSum 0 B < 2 ^ 248) (h₁ : fieldSum 1 B < 2 ^ 248)
    (hn : B.length < scalarField) :
    record u B = outputs u [fieldSum 0 B, fieldSum 1 B] B.length := by
  simp only [record, outputs, Nat.mod_eq_of_lt (h₀.trans two_pow_248_lt_scalarField),
    Nat.mod_eq_of_lt (h₁.trans two_pow_248_lt_scalarField), Nat.mod_eq_of_lt hn,
    Uint248API.add_of_lt_two_pow_248 h₀ h₁, List.getD_cons_zero, List.getD_cons_succ]

theorem define_of_run (h : (L.config cap u m₀ m₁).run u inp.receipts = .ok o)
    (hwords : ∀ r ∈ inp.receipts, AddressWordsFit r) :
    L.define cap u m₀ m₁ inp = .ok o := by
  obtain ⟨hlen, hmatch, hamt, -, hout, rfl⟩ := Config.run_eq_ok.mp h
  simp only [config, List.mem_cons, List.not_mem_nil, or_false, forall_eq_or_imp, forall_eq,
    List.map_cons, List.map_nil] at hamt hout ⊢
  obtain ⟨⟨hfit₀, hlt₀, hmin₀⟩, hfit₁, hlt₁, hmin₁⟩ := hamt
  have hn : inp.receipts.length < scalarField := count_lt_scalarField hout (by simp [outputs])
  refine define_eq_ok.mpr ⟨hlen, fun r hr => matches_iff.mpr ⟨hmatch r hr, hwords r hr⟩, ?_⟩
  rw [aggregate_eq_ok, record_eq_outputs hlt₀ hlt₁ hn,
    Nat.mod_eq_of_lt (hlt₀.trans two_pow_248_lt_scalarField),
    Nat.mod_eq_of_lt (hlt₁.trans two_pow_248_lt_scalarField)]
  exact ⟨hfit₀, hfit₁, hmin₀, hmin₁, hout, rfl⟩

theorem run_of_define (hcap : cap ≤ 48 ∨ cap < scalarField ∧
      fieldSum 0 inp.receipts < scalarField ∧ fieldSum 1 inp.receipts < scalarField)
    (h : L.define cap u m₀ m₁ inp = .ok o) :
    (L.config cap u m₀ m₁).run u inp.receipts = .ok o := by
  obtain ⟨hlen, hmatch, hagg⟩ := define_eq_ok.mp h
  obtain ⟨hfit₀, hfit₁, hmin₀, hmin₁, hout, rfl⟩ := aggregate_eq_ok.mp hagg
  have h₀ := fieldSum_lt_of_cap hlen hcap And.left hfit₀
  have h₁ := fieldSum_lt_of_cap hlen hcap And.right hfit₁
  have hlt₀ : fieldSum 0 inp.receipts < 2 ^ 248 := by
    simpa only [Nat.mod_eq_of_lt h₀] using
      hout (outputUint 248 (fieldSum 0 inp.receipts % scalarField)) (by simp [record])
  have hlt₁ : fieldSum 1 inp.receipts < 2 ^ 248 := by
    simpa only [Nat.mod_eq_of_lt h₁] using
      hout (outputUint 248 (fieldSum 1 inp.receipts % scalarField)) (by simp [record])
  have hn : inp.receipts.length < scalarField := hlen ▸ lt_scalarField_of_cap hcap
  rw [record_eq_outputs hlt₀ hlt₁ hn] at hout ⊢
  rw [Nat.mod_eq_of_lt h₀] at hmin₀
  rw [Nat.mod_eq_of_lt h₁] at hmin₁
  refine Config.run_eq_ok.mpr ⟨hlen, fun r hr => (matches_iff.mp (hmatch r hr)).1, ?_,
    Nat.zero_le _, ?_⟩
  all_goals simp only [config, List.mem_cons, List.not_mem_nil, or_false, forall_eq_or_imp,
    forall_eq, List.map_cons, List.map_nil, and_true]
  · exact ⟨⟨hfit₀, hlt₀, hmin₀⟩, hfit₁, hlt₁, hmin₁⟩
  · exact hout

end BidirectionalLayout

/-! ## LayerZero -/

namespace LayerzeroMessage

/-- The output layout of layerzero: `[UserAddr, count, threshold]`. -/
def outputs (c : AppCircuit) (_totals : List Nat) (n : Nat) : List Output :=
  [outputAddress c.userAddr.toNat, outputUint 64 n, outputUint 64 c.minMessageCount.toNat]

/-- Layerzero as an engine configuration: 50 receipts, nothing summed, the count against
`MinMessageCount`. -/
def AppCircuit.config (c : AppCircuit) : Config :=
  ⟨50, pattern, [], c.minMessageCount.toNat, outputs c⟩

theorem define_eq_ok_iff_run {c : AppCircuit} {inp : DataInput} {o : List Output} :
    c.define inp = .ok o ↔ c.config.run c.userAddr inp.receipts = .ok o := by
  rw [define_eq_ok, Config.run_eq_ok]
  simp only [AppCircuit.config, List.not_mem_nil, false_implies, implies_true, true_and,
    List.map_nil]
  refine and_congr_right fun hlen => ?_
  have hn : inp.receipts.length % scalarField = inp.receipts.length :=
    Nat.mod_eq_of_lt (hlen ▸ by decide)
  simp only [record, outputs, hn, ← matches_iff, eq_comm (a := o)]

end LayerzeroMessage

/-! ## Storage circuits -/

namespace TokenHolder

/-- The output layout of tokenHolder: `[HolderAddr, balance, block number]`. -/
def outputs (c : AppCircuit) (S : List StorageSlot) (total : Nat) : List Output :=
  [outputAddress c.holderAddr.toNat, outputUint 248 total,
    outputUint 64 (getUnderlying S 0).blockNum.toNat]

/-- tokenHolder as an engine configuration: one slot, USDC's `balanceOf[HolderAddr]`, whose
value must be at least `minimumBalance`. -/
def AppCircuit.config (keccak : Bytes32 → Bytes32 → Bytes32) (c : AppCircuit) : SlotConfig :=
  ⟨[slotPattern keccak c], minimumBalance.toNat, outputs c⟩

theorem define_eq_ok_iff_run {keccak : Bytes32 → Bytes32 → Bytes32} {c : AppCircuit}
    {inp : DataInput} {o : List Output} :
    c.define keccak inp = .ok o ↔ (c.config keccak).run inp.storageSlots = .ok o := by
  rw [define_eq_ok, SlotConfig.run_eq_ok]
  constructor
  · rintro ⟨s, hs, hc, hk, hlt, hmin, hh, rfl⟩
    simp only [hs, AppCircuit.config, outputs, record, slotPattern, SlotPattern.Matches,
      List.zip_cons_cons, List.zip_nil_right, List.mem_singleton, forall_eq, List.map_cons,
      List.map_nil, List.sum_cons, List.sum_nil, Nat.add_zero, getUnderlying_cons_zero,
      List.length_singleton, List.forall_mem_cons, List.not_mem_nil, false_implies,
      implies_true, and_true, true_and]
    exact ⟨⟨hc, hk⟩, hlt, hlt, hmin, hh, hlt, uint32_toNat_lt_two_pow_64 _⟩
  · rintro ⟨hlen, hmatch, -, hlt, hmin, hout, rfl⟩
    obtain ⟨s, hs⟩ := List.length_eq_one.mp hlen
    simp only [hs, AppCircuit.config, outputs, slotPattern, SlotPattern.Matches,
      List.zip_cons_cons, List.zip_nil_right, List.mem_singleton, forall_eq, List.map_cons,
      List.map_nil, List.sum_cons, List.sum_nil, Nat.add_zero, getUnderlying_cons_zero,
      List.forall_mem_cons] at hmatch hlt hmin hout ⊢
    exact ⟨s, rfl, hmatch.1, hmatch.2, hlt, hmin, hout.1, rfl⟩

/-- The design's single-field balance scenario: a USDC balance of 150 USDC against the
100 USDC threshold. -/
example : (AppCircuit.config (fun k _ => k) ⟨5⟩).run [honestSlot (fun k _ => k) ⟨5⟩ 150000000] =
    .ok [outputAddress 5, outputUint 248 150000000, outputUint 64 1] := by
  decide

end TokenHolder

namespace MultichainBalance

/-- The output layout of multi-chain-balance:
`[HolderAddr, balanceEthereum, balanceBSC, totalBalance, MinTotalBalance]`. -/
def outputs (c : AppCircuit) (S : List StorageSlot) (total : Nat) : List Output :=
  [outputAddress c.holderAddr.toNat, outputUint 248 (getUnderlying S 0).value.toNat,
    outputUint 248 (getUnderlying S 1).value.toNat, outputUint 248 total,
    outputUint 248 c.minTotalBalance.toNat]

/-- multi-chain-balance as an engine configuration: slot 0 the holder's USDC balance on
Ethereum, slot 1 on BSC, their total at least `MinTotalBalance`. -/
def AppCircuit.config (keccak : Bytes32 → Bytes32 → Bytes32) (c : AppCircuit) : SlotConfig :=
  ⟨[slotPatternEthereum keccak c, slotPatternBsc keccak c], c.minTotalBalance.toNat, outputs c⟩

theorem define_eq_ok_iff_run {keccak : Bytes32 → Bytes32 → Bytes32} {c : AppCircuit}
    {inp : DataInput} {o : List Output} :
    c.define keccak inp = .ok o ↔ (c.config keccak).run inp.storageSlots = .ok o := by
  rw [define_eq_ok, SlotConfig.run_eq_ok]
  constructor
  · rintro ⟨s₀, s₁, hs, hc₀, hk₀, hc₁, hk₁, hlt₀, hlt₁, hmin, hsum, hh, rfl⟩
    simp only [hs, AppCircuit.config, outputs, record, slotPatternEthereum, slotPatternBsc,
      SlotPattern.Matches, List.zip_cons_cons, List.zip_nil_right, List.mem_cons,
      List.not_mem_nil, or_false, forall_eq_or_imp, forall_eq, List.map_cons, List.map_nil,
      List.sum_cons, List.sum_nil, Nat.add_zero, getUnderlying_cons_zero,
      getUnderlying_cons_succ, List.length_cons, List.length_nil, List.forall_mem_cons,
      false_implies, implies_true, and_true, true_and]
    exact ⟨⟨⟨hc₀, hk₀⟩, hc₁, hk₁⟩, ⟨hlt₀, hlt₁⟩, hsum, hmin,
      ⟨hh, hlt₀, hlt₁, hsum, c.minTotalBalance.isLt⟩⟩
  · rintro ⟨hlen, hmatch, hfit, hsum, hmin, hout, rfl⟩
    obtain ⟨s₀, s₁, hs⟩ := List.length_eq_two.mp hlen
    simp only [hs, AppCircuit.config, outputs, slotPatternEthereum, slotPatternBsc,
      SlotPattern.Matches, List.zip_cons_cons, List.zip_nil_right, List.mem_cons,
      List.not_mem_nil, or_false, forall_eq_or_imp, forall_eq, List.map_cons, List.map_nil,
      List.sum_cons, List.sum_nil, Nat.add_zero, getUnderlying_cons_zero,
      getUnderlying_cons_succ, List.forall_mem_cons] at hmatch hfit hsum hmin hout ⊢
    exact ⟨s₀, s₁, rfl, hmatch.1.1, hmatch.1.2, hmatch.2.1, hmatch.2.2, hfit.1, hfit.2,
      hmin, hsum, hout.1, rfl⟩

end MultichainBalance

theorem storage_circuits_refine_engine :
    (∀ keccak (c : TokenHolder.AppCircuit) inp o,
      c.define keccak inp = .ok o ↔ (c.config keccak).run inp.storageSlots = .ok o) ∧
    (∀ keccak (c : MultichainBalance.AppCircuit) inp o,
      c.define keccak inp = .ok o ↔ (c.config keccak).run inp.storageSlots = .ok o) :=
  ⟨fun _ _ _ _ => TokenHolder.define_eq_ok_iff_run,
    fun _ _ _ _ => MultichainBalance.define_eq_ok_iff_run⟩

/-! ## TWAP circuits -/

namespace Twap

/-- The output layout of the TWAP circuits: `[pair, total, MinPrice, MaxPrice, block
range]`, the block range as the circuits compute it from the two parameters. -/
def outputs (pairAddr minPrice maxPrice startBlock endBlock : Uint248)
    (_slots : List StorageSlot) (total : Nat) : List Output :=
  [outputAddress pairAddr.toNat, outputUint 248 total, outputUint 248 minPrice.toNat,
    outputUint 248 maxPrice.toNat, outputUint 64 (Uint248API.sub endBlock.toNat startBlock.toNat)]

/-- A TWAP circuit as an engine configuration: two slots of the pair, both at the storage
index `index` the circuit declares, their total between `MinPrice` and `MaxPrice`. -/
def config (index : Nat) (pairAddr minPrice maxPrice startBlock endBlock : Uint248) :
    SlotRangeConfig :=
  ⟨[⟨pairAddr, BitVec.ofNat 256 index⟩, ⟨pairAddr, BitVec.ofNat 256 index⟩], minPrice.toNat,
    maxPrice.toNat, outputs pairAddr minPrice maxPrice startBlock endBlock⟩

variable {index : Nat} {p lo hi sb eb : Uint248} {inp : DataInput} {o : List Output}

/-- The circuit's acceptance, together with the one check it leaves out (both slots at
the declared storage index), is the engine's acceptance, with the same output. -/
theorem define_eq_ok_and_index_iff_run :
    (define 2 p lo hi sb eb inp = .ok o ∧
        ∀ s ∈ inp.storageSlots, s.slot = BitVec.ofNat 256 index) ↔
      (config index p lo hi sb eb).run inp.storageSlots = .ok o := by
  obtain ⟨R, S⟩ := inp
  have hsum {a b : Nat} (ha : a < 2 ^ 248) (hb : b < 2 ^ 248) : (a + b) % scalarField = a + b :=
    Nat.mod_eq_of_lt ((Nat.add_lt_add ha hb).trans (by decide))
  rw [define_eq_ok, SlotRangeConfig.run_eq_ok]
  by_cases hlen : S.length = 2
  · obtain ⟨s₀, s₁, rfl⟩ := List.length_eq_two.mp hlen
    simp only [config, outputs, valueSum, record, SlotPattern.Matches, List.zip_cons_cons,
      List.zip_nil_right, List.map_cons, List.map_nil, List.sum_cons, List.sum_nil,
      Nat.add_zero, List.forall_mem_cons, List.not_mem_nil, false_implies, implies_true,
      and_true, hlen, true_and]
    constructor
    · rintro ⟨⟨hc, hfit, -, hlo, hhi, hout, rfl⟩, hk⟩
      rw [hsum hfit.1 hfit.2] at hlo hhi hout ⊢
      exact ⟨rfl, ⟨⟨hc.1, hk.1⟩, hc.2, hk.2⟩, hfit, hout.2.1, hlo, hhi, hout, rfl⟩
    · rintro ⟨-, hmatch, hfit, -, hlo, hhi, hout, rfl⟩
      rw [hsum hfit.1 hfit.2]
      exact ⟨⟨⟨hmatch.1.1, hmatch.2.1⟩, hfit, rfl, hlo, hhi, hout, rfl⟩, hmatch.1.2, hmatch.2.2⟩
  · -- both sides ask for exactly two slots
    simp [hlen, config]

end Twap

namespace UniswapV2Twap

/-- uniswap-v2-twap as an engine configuration: both slots at `price1CumulativeLast`. -/
def AppCircuit.config (c : AppCircuit) : SlotRangeConfig :=
  Twap.config slotPrice1CumulativeLast c.pairAddr c.minPrice c.maxPrice c.startBlock c.endBlock

end UniswapV2Twap

namespace UniswapV3Twap

/-- uniswap-v3-twap as an engine configuration: both slots at `slot0`. -/
def AppCircuit.config (c : AppCircuit) : SlotRangeConfig :=
  Twap.config slotSlot0 c.poolAddr c.minPrice c.maxPrice c.startBlock c.endBlock

end UniswapV3Twap

theorem twap_circuits_refine_engine :
    (∀ (c : UniswapV2Twap.AppCircuit) inp o,
      (c.define inp = .ok o ∧ ∀ s ∈ inp.storageSlots,
          s.slot = BitVec.ofNat 256 UniswapV2Twap.slotPrice1CumulativeLast) ↔
        c.config.run inp.storageSlots = .ok o) ∧
    (∀ (c : UniswapV3Twap.AppCircuit) inp o,
      (c.define inp = .ok o ∧ ∀ s ∈ inp.storageSlots,
          s.slot = BitVec.ofNat 256 UniswapV3Twap.slotSlot0) ↔
        c.config.run inp.storageSlots = .ok o) :=
  ⟨fun _ _ _ => Twap.define_eq_ok_and_index_iff_run,
    fun _ _ _ => Twap.define_eq_ok_and_index_iff_run⟩

/-- Two slots of the pair at storage index 8 (`price0CumulativeLast`) instead of 9: the
circuit accepts them, the engine reports a pattern mismatch. -/
example :
    twapSampleCircuit.define ⟨[], [twapSampleSlot 8 1, twapSampleSlot 8 2]⟩ =
        .ok [outputAddress twapSampleCircuit.pairAddr.toNat, outputUint 248 6, outputUint 248 1,
          outputUint 248 10, outputUint 64 100] ∧
      twapSampleCircuit.config.run [twapSampleSlot 8 1, twapSampleSlot 8 2] =
        .error .patternMismatch := by
  decide

/-! ## Every receipt circuit family -/

theorem circuits_refine_engine :
    (∀ (L : VolumeLayout) cap u m inp o,
      ((L.config cap u m).run u inp.receipts = .ok o → L.define cap u m inp = .ok o) ∧
      (cap ≤ 48 ∨ cap < scalarField ∧ fieldSum 0 inp.receipts < scalarField →
        L.define cap u m inp = .ok o → (L.config cap u m).run u inp.receipts = .ok o)) ∧
    (∀ (c : BalancerWeighted.AppCircuit) inp o,
      (c.config.run c.userAddr inp.receipts = .ok o → c.define inp = .ok o) ∧
      (fieldSum 0 inp.receipts < scalarField → c.define inp = .ok o →
        c.config.run c.userAddr inp.receipts = .ok o)) ∧
    (∀ (L : LiquidityLayout) cap u m₀ m₁ inp o,
      ((L.config cap u m₀ m₁).run u inp.receipts = .ok o → L.define cap u m₀ m₁ inp = .ok o) ∧
      (cap ≤ 48 ∨ cap < scalarField ∧
          fieldSum 1 inp.receipts < scalarField ∧ fieldSum 2 inp.receipts < scalarField →
        L.define cap u m₀ m₁ inp = .ok o → (L.config cap u m₀ m₁).run u inp.receipts = .ok o)) ∧
    (∀ (L : BidirectionalLayout) cap u m₀ m₁ inp o,
      ((L.config cap u m₀ m₁).run u inp.receipts = .ok o →
        (∀ r ∈ inp.receipts, BidirectionalLayout.AddressWordsFit r) →
        L.define cap u m₀ m₁ inp = .ok o) ∧
      (cap ≤ 48 ∨ cap < scalarField ∧
          fieldSum 0 inp.receipts < scalarField ∧ fieldSum 1 inp.receipts < scalarField →
        L.define cap u m₀ m₁ inp = .ok o → (L.config cap u m₀ m₁).run u inp.receipts = .ok o)) ∧
    (∀ (c : LayerzeroMessage.AppCircuit) inp o,
      c.define inp = .ok o ↔ c.config.run c.userAddr inp.receipts = .ok o) :=
  ⟨fun _ _ _ _ _ _ => ⟨VolumeLayout.define_of_run, VolumeLayout.run_of_define⟩,
    fun _ _ _ => ⟨BalancerWeighted.define_of_run, BalancerWeighted.run_of_define⟩,
    fun _ _ _ _ _ _ _ => ⟨LiquidityLayout.define_of_run, LiquidityLayout.run_of_define⟩,
    fun _ _ _ _ _ _ _ => ⟨BidirectionalLayout.define_of_run, BidirectionalLayout.run_of_define⟩,
    fun _ _ _ => LayerzeroMessage.define_eq_ok_iff_run⟩

/-- The receipts of the layerzero run below. -/
def layerzeroSample : List Receipt := List.replicate 50 (LayerzeroMessage.honestReceipt 0)

/-- Full batches of sushiswap (capacity 50), balancer-weighted, uniswap-v2-lp,
uniswap-v2-bidirectional and layerzero-message, each accepted by the engine and the circuit
with one output. -/
theorem circuits_refine_engine_on_honest_runs :
    (Sushiswap.AppCircuit.define ⟨7, 2⟩ ⟨swapSample, []⟩ =
        .ok (VolumeLayout.outputs 7 2 [150] 50) ∧
      (Sushiswap.layout.config 50 7 2).run 7 swapSample =
        .ok (VolumeLayout.outputs 7 2 [150] 50)) ∧
    (BalancerWeighted.AppCircuit.define ⟨7, 2⟩ ⟨balancerSample, []⟩ =
        .ok (VolumeLayout.outputs 7 2 [50] 50) ∧
      (BalancerWeighted.AppCircuit.config ⟨7, 2⟩).run 7 balancerSample =
        .ok (VolumeLayout.outputs 7 2 [50] 50)) ∧
    (UniswapV2Lp.AppCircuit.define ⟨7, 1, 1⟩ ⟨liquiditySample, []⟩ =
        .ok (LiquidityLayout.outputs 7 [40, 60] 20) ∧
      (UniswapV2Lp.layout.config 20 7 1 1).run 7 liquiditySample =
        .ok (LiquidityLayout.outputs 7 [40, 60] 20)) ∧
    (UniswapV2Bidirectional.AppCircuit.define ⟨7, 1, 1⟩ ⟨bidirectionalSample, []⟩ =
        .ok (BidirectionalLayout.outputs 7 [100, 50] 50) ∧
      (UniswapV2Bidirectional.layout.config 50 7 1 1).run 7 bidirectionalSample =
        .ok (BidirectionalLayout.outputs 7 [100, 50] 50)) ∧
    (LayerzeroMessage.AppCircuit.define ⟨7, 10⟩ ⟨layerzeroSample, []⟩ =
        .ok (LayerzeroMessage.outputs ⟨7, 10⟩ [] 50) ↔
      (LayerzeroMessage.AppCircuit.config ⟨7, 10⟩).run 7 layerzeroSample =
        .ok (LayerzeroMessage.outputs ⟨7, 10⟩ [] 50)) := by
  have h₁ : (Sushiswap.layout.config 50 7 2).run 7 swapSample =
      .ok (VolumeLayout.outputs 7 2 [150] 50) := by decide
  have h₂ : (BalancerWeighted.AppCircuit.config ⟨7, 2⟩).run 7 balancerSample =
      .ok (VolumeLayout.outputs 7 2 [50] 50) := by decide
  have h₃ : (UniswapV2Lp.layout.config 20 7 1 1).run 7 liquiditySample =
      .ok (LiquidityLayout.outputs 7 [40, 60] 20) := by decide
  have h₄ : (UniswapV2Bidirectional.layout.config 50 7 1 1).run 7 bidirectionalSample =
      .ok (BidirectionalLayout.outputs 7 [100, 50] 50) := by decide
  have hw : ∀ r ∈ bidirectionalSample, BidirectionalLayout.AddressWordsFit r := by
    simp only [BidirectionalLayout.AddressWordsFit]
    decide
  have hs : 50 ≤ 48 ∨ 50 < scalarField ∧ fieldSum 0 swapSample < scalarField := .inr (by decide)
  have hb : fieldSum 0 balancerSample < scalarField := by decide
  have hl : 20 ≤ 48 ∨ 20 < scalarField ∧ fieldSum 1 liquiditySample < scalarField ∧
      fieldSum 2 liquiditySample < scalarField := .inl (by decide)
  have hd : 50 ≤ 48 ∨ 50 < scalarField ∧ fieldSum 0 bidirectionalSample < scalarField ∧
      fieldSum 1 bidirectionalSample < scalarField := .inr (by decide)
  have d₁ := (circuits_refine_engine.1 Sushiswap.layout 50 7 2 ⟨swapSample, []⟩ _).1 h₁
  have d₂ := (circuits_refine_engine.2.1 ⟨7, 2⟩ ⟨balancerSample, []⟩ _).1 h₂
  have d₃ := (circuits_refine_engine.2.2.1 UniswapV2Lp.layout 20 7 1 1 ⟨liquiditySample, []⟩
    _).1 h₃
  have d₄ := (circuits_refine_engine.2.2.2.1 UniswapV2Bidirectional.layout 50 7 1 1
    ⟨bidirectionalSample, []⟩ _).1 h₄ hw
  exact ⟨⟨d₁, (circuits_refine_engine.1 Sushiswap.layout 50 7 2 ⟨swapSample, []⟩ _).2 hs d₁⟩,
    ⟨d₂, (circuits_refine_engine.2.1 ⟨7, 2⟩ ⟨balancerSample, []⟩ _).2 hb d₂⟩,
    ⟨d₃, (circuits_refine_engine.2.2.1 UniswapV2Lp.layout 20 7 1 1 ⟨liquiditySample, []⟩
      _).2 hl d₃⟩,
    ⟨d₄, (circuits_refine_engine.2.2.2.1 UniswapV2Bidirectional.layout 50 7 1 1
      ⟨bidirectionalSample, []⟩ _).2 hd d₄⟩,
    circuits_refine_engine.2.2.2.2 ⟨7, 10⟩ ⟨layerzeroSample, []⟩ _⟩

end Brevis
