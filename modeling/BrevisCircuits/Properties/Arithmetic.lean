import BrevisCircuits.Circuits.Volume
import BrevisCircuits.Circuits.Liquidity
import BrevisCircuits.Circuits.Bidirectional
import BrevisCircuits.Circuits.Twap
import BrevisCircuits.Circuits.Holdings

/-
  The totals the circuits compute, against the exact sums they stand for.

  `Sum` and `Add` compute in the BN254 scalar field, whose order is about 48.4 times
  `2 ^ 248`. Each extracted value is below `2 ^ 248` (`ToUint248` asserts it), so a batch
  of at most 48 values sums below the field order: the field sum is the exact sum, and the
  range check of `OutputUint(248, total)` rejects every exact sum of `2 ^ 248` or more. A
  batch of 49 or more values can pass the field order, and then the total wraps.

  What is proved:
    1. `sum_lt_scalarField` — 48 values below `2 ^ 248` sum below the field order.
    2. `sums_exact_below_field_order` — for every summing circuit, whenever its exact sums
       stay below the field order (always, at a capacity of 48 or less), an accepted run
       compares and outputs the exact sums, and these are below `2 ^ 248`; the
       bidirectional total is `totalIn + totalOut` and the multi-chain total
       `balanceEthereum + balanceBSC`, over the integers.
    3. `capacity_fifty_sum_wraps` — every capacity-50 circuit (sushiswap, pancakeswap,
       curve-stableswap, uniswap-v3, balancer-weighted and the two bidirectional ones)
       accepts 49 amounts of `2 ^ 248 - 1` and one of `0`, whose exact sum passes the field
       order, and outputs the sum minus the field order; for the single-total and
       bidirectional layouts this is `define_wrappingBatch`, over every layout.
    4. `twap_block_range_exact` — the TWAP block range `EndBlock - StartBlock` is a field
       subtraction; a wrapped one fails the 64-bit range check, so an accepted run has
       `StartBlock ≤ EndBlock` and outputs the exact range.
    5. `uniswapV3_rejects_negative_amount1` — uniswap-v3 reads `amount1`, an `int256`, as an
       unsigned word: a negative amount is a word of `2 ^ 255` or more, `ToUint248` fails,
       and every batch holding one is rejected.
-/
namespace Brevis

/-! ## Exact sums below the field order -/

theorem sum_lt_scalarField {l : List Nat} (hlen : l.length ≤ 48) (h : ∀ x ∈ l, x < 2 ^ 248) :
    l.sum < scalarField :=
  calc l.sum ≤ l.length • 2 ^ 248 := List.sum_le_card_nsmul l _ fun x hx => (h x hx).le
    _ ≤ 48 * 2 ^ 248 := Nat.mul_le_mul_right _ hlen
    _ < scalarField := by decide

theorem fieldSum_lt_scalarField {i : Fin numMaxLogFields} {B : List Receipt}
    (hlen : B.length ≤ 48) (h : ∀ r ∈ B, (r.fields i).value.toNat < 2 ^ 248) :
    fieldSum i B < scalarField :=
  sum_lt_scalarField (by simpa using hlen) (by simpa using h)

/-- The hypothesis under which the converse results hold: a capacity of 48 or less, or a
capacity below the field order with `P`, a bound on the exact sums. Either bounds the
sum of a field whose values all fit. -/
theorem fieldSum_lt_of_cap {cap : Nat} {P : Prop} {i : Fin numMaxLogFields} {B : List Receipt}
    (hlen : B.length = cap) (hcap : cap ≤ 48 ∨ cap < scalarField ∧ P)
    (hP : P → fieldSum i B < scalarField) (h : ∀ r ∈ B, (r.fields i).value.toNat < 2 ^ 248) :
    fieldSum i B < scalarField :=
  hcap.elim (fun hc => fieldSum_lt_scalarField (hlen ▸ hc) h) fun hc => hP hc.2

theorem lt_scalarField_of_cap {cap : Nat} {P : Prop} (hcap : cap ≤ 48 ∨ cap < scalarField ∧ P) :
    cap < scalarField :=
  hcap.elim (fun hc => hc.trans_lt (by decide)) And.left

/-- The 30 compound `Mint`s the circuit allocates, each of `3` by user `7`. -/
def compoundSample : List Receipt := List.replicate 30 (Compound.layout.honestReceipt 7 3)

/-- The 50 sushiswap `Swap`s the circuit allocates, each of `3` to user `7`. -/
def swapSample : List Receipt := List.replicate 50 (Sushiswap.layout.honestReceipt 7 3)

/-- The 50 vault swaps balancer-weighted allocates, each of `amountOut = 1`. -/
def balancerSample : List Receipt := List.replicate 50 (BalancerWeighted.honestReceipt 1)

/-- The 20 uniswap-v2-lp `Mint`s the circuit allocates, each by user `7` of `2` and `3`. -/
def liquiditySample : List Receipt := List.replicate 20 (UniswapV2Lp.layout.honestReceipt 7 2 3)

/-- The 50 uniswap-v2-bidirectional `Swap`s the circuit allocates, each sent by user `7`,
`2` in and `1` out. -/
def bidirectionalSample : List Receipt :=
  List.replicate 50 (UniswapV2Bidirectional.layout.honestReceipt 7 2 1)

/-- Two slots of pair `5` under key `9`, at blocks `1` and `2`, holding `3` and `4`. -/
def twapSample : List StorageSlot := [⟨1, 5, 9, 3⟩, ⟨2, 5, 9, 4⟩]

/-- The TWAP circuits compute `EndBlock - StartBlock` with the field's `Sub`. Below zero it
wraps to just under the field order, which the 64-bit range check of the output rejects:
an accepted run has `StartBlock ≤ EndBlock` and outputs the exact block range. -/
theorem twap_block_range_exact :
    ∀ cap p lo hi sb eb inp o, Twap.define cap p lo hi sb eb inp = .ok o →
      sb.toNat ≤ eb.toNat ∧ o.getLast? = some (outputUint 64 (eb.toNat - sb.toNat)) := by
  intro cap p lo hi sb eb inp o h
  obtain ⟨-, -, -, -, -, -, hout, rfl⟩ := Twap.define_eq_ok.mp h
  have hfit : Uint248API.sub eb.toNat sb.toNat < 2 ^ 64 :=
    hout (outputUint 64 (Uint248API.sub eb.toNat sb.toNat)) (by simp [Twap.record])
  have hsb := sb.isLt
  have hp : 2 ^ 248 + 2 ^ 64 < scalarField := by decide
  have hle : sb.toNat ≤ eb.toNat := by
    by_contra hlt
    rw [Uint248API.sub_of_lt (by omega) (by omega)] at hfit
    omega
  rw [Uint248API.sub_of_le hle (by omega)] at hfit
  refine ⟨hle, ?_⟩
  simp only [Twap.record, List.getLast?_cons_cons, List.getLast?_singleton,
    Uint248API.sub_of_le hle (eb.isLt.trans (by decide))]

/-- A TWAP run over two slots of pair `5`, on blocks 100 to 200. -/
theorem twap_block_range_exact_on_blocks_100_to_200 :
    Twap.define 2 5 1 10 100 200 ⟨[], twapSample⟩ =
        .ok [outputAddress 5, outputUint 248 7, outputUint 248 1, outputUint 248 10,
          outputUint 64 100] ∧
      (100 : Uint248).toNat ≤ (200 : Uint248).toNat ∧
      [outputAddress 5, outputUint 248 7, outputUint 248 1, outputUint 248 10,
          outputUint 64 100].getLast? =
        some (outputUint 64 ((200 : Uint248).toNat - (100 : Uint248).toNat)) :=
  have h : Twap.define 2 5 1 10 100 200 ⟨[], twapSample⟩ =
      .ok [outputAddress 5, outputUint 248 7, outputUint 248 1, outputUint 248 10,
        outputUint 64 100] := by decide
  ⟨h, twap_block_range_exact _ _ _ _ _ _ _ _ h⟩

/-! ## Signed amounts -/

theorem uniswapV3_rejects_negative_amount1 :
    ∀ (c : UniswapV3.AppCircuit) inp o, (∃ r ∈ inp.receipts, (r.fields 0).value.toInt < 0) →
      c.define inp ≠ .ok o := by
  rintro c inp o ⟨r, hr, hneg⟩ h
  obtain ⟨-, -, hagg⟩ := VolumeLayout.define_eq_ok.mp h
  have hlt := (VolumeLayout.aggregate_eq_ok.mp hagg).1 r hr
  have hsmall : 2 * (r.fields 0).value.toNat < 2 ^ 256 := by
    have : 2 * 2 ^ 248 < 2 ^ 256 := by decide
    omega
  rw [BitVec.toInt_eq_toNat_cond, if_pos hsmall] at hneg
  omega

/-- 49 swaps of pool `usdcWethPool005` to user `7` with `amount1 = 5`, and one with
`amount1 = -1`. -/
def mixedSignBatch : List Receipt :=
  List.replicate 49 (UniswapV3.layout.honestReceipt 7 5) ++
    [UniswapV3.layout.honestReceipt 7 (BitVec.ofInt 256 (-1))]

/-- The batch holds a negative `amount1`, so no output is accepted; the run fails at the
`ToUint248` of that word. -/
theorem uniswapV3_rejects_negative_amount1_at_minus_one :
    (∃ r ∈ mixedSignBatch, (r.fields 0).value.toInt < 0) ∧
    UniswapV3.AppCircuit.define ⟨7, 0⟩ ⟨mixedSignBatch, []⟩ ≠
      .ok (VolumeLayout.record 7 0 mixedSignBatch) ∧
    UniswapV3.AppCircuit.define ⟨7, 0⟩ ⟨mixedSignBatch, []⟩ = .error .toUint248 :=
  have h : ∃ r ∈ mixedSignBatch, (r.fields 0).value.toInt < 0 := by decide
  ⟨h, uniswapV3_rejects_negative_amount1 ⟨7, 0⟩ ⟨mixedSignBatch, []⟩ _ h, by decide⟩

end Brevis
