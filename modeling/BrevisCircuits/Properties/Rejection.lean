import BrevisCircuits.Properties.Refinement

/-
  The circuits' failures against the engine's errors.

  `BrevisCircuits.Properties.Refinement` compares the circuits with the engine on the
  runs that accept. The design also asks that a run that fails say which invariant broke,
  as one of four errors. A circuit fails at an SDK call; `Failure.kind` is the design's
  error for each call. Here each circuit's whole result, its failure read through
  `Failure.kind`, is compared with the engine's run on the same evidence.

  The proof is a simulation, stage by stage. Each SDK call computes the engine stage it
  stands for, failure for failure (`newDataStream_mapError`, `assertEach_mapError`,
  `assertIsLessOrEqual_mapError`, `commitOutputs_mapError`), and `bind_congr_ok` carries
  what a stage's success says (the batch has the capacity) into the next. The sums are
  where the two can part: the circuits add in the field and range-check the total only
  when they output it.

  What is proved, `define_mapError` (one per family), the circuit's result with its
  failure read through `Failure.kind` equal to the engine's run:
    1. layerzero, tokenHolder and multi-chain-balance: on every input;
    2. the single-total circuits at a capacity of 48 or less, or at a capacity below the
       field order when the exact total stays below it, when the user word of every
       receipt is a 248-bit value;
    3. balancer-weighted when its exact total stays below the field order;
    4. the liquidity and bidirectional circuits when every address word the circuit
       casts is a 248-bit value and each exact total fits 248 bits: they cast both
       amount fields before they compare either total, the engine totals and compares
       one field after the other.
  `circuits_fail_as_engine` collects them. The TWAP circuits check no storage index, so
  their simulation, `twap_circuits_fail_as_engine`, holds for slots at the declared index,
  when two 248-bit values sum within 248 bits.

  Outside the hypotheses the two part: a receipt whose user word does not fit 248 bits is
  a pattern mismatch to the engine, and a failed `ToUint248` to the circuit (the example
  after the single-total case); a liquidity batch whose first total does not fit 248 bits
  and whose second is under its threshold is an overflow to the engine, and an unmet
  threshold to the circuit (the example after the liquidity case); two TWAP slots whose
  sum is `2 ^ 248` are an overflow to the engine, and a failed `MaxPrice` to the circuit.
-/
namespace Brevis

open Engine

/-- The design's error for the SDK call at which a circuit fails. -/
def Failure.kind : Failure → Error
  | .capacityMismatch => .capacityMismatch
  | .assertEach => .patternMismatch
  | .assertIsEqual => .patternMismatch
  | .assertIsLessOrEqual => .thresholdUnmet
  | .toUint248 => .overflow
  | .outputRange => .overflow

/-! ## The simulation, stage by stage -/

section Simulation

variable {α β : Type}

theorem mapError_bind {x : Circuit α} {f : α → Circuit β} :
    (x >>= f).mapError Failure.kind =
      x.mapError Failure.kind >>= fun a => (f a).mapError Failure.kind := by
  cases x <;> rfl

/-- A bind is a congruence once the continuations agree on the values `x` returns. -/
theorem bind_congr_ok {ε : Type} {x : Except ε α} {f g : α → Except ε β}
    (h : ∀ a, x = .ok a → f a = g a) : x >>= f = x >>= g := by
  cases x with
  | error e => rfl
  | ok a => exact h a rfl

theorem ok_bind {ε : Type} {a : α} {f : α → Except ε β} :
    (Except.ok a >>= f) = f a :=
  rfl

theorem error_bind {ε : Type} {e : ε} {f : α → Except ε β} :
    (Except.error e >>= f) = .error e :=
  rfl

theorem throw_bind {ε : Type} {e : ε} {f : α → Except ε β} :
    (throw e >>= f) = .error e :=
  rfl

/-- A `mapM` whose every step returns `g a` when `P a` holds and fails with `e` otherwise
returns the map of `g`, or fails with `e`. -/
theorem mapM_eq_ite {ε : Type} {f : α → Except ε β} {P : α → Prop} [DecidablePred P]
    {g : α → β} {e : ε} (hf : ∀ a, f a = if P a then .ok (g a) else .error e) (l : List α) :
    l.mapM f = if ∀ a ∈ l, P a then .ok (l.map g) else .error e := by
  induction l with
  | nil => rfl
  | cons a l ih =>
    rw [List.mapM_cons, hf, ih]
    by_cases ha : P a
    · by_cases hl : ∀ b ∈ l, P b
      · rw [if_pos ha, if_pos hl, if_pos (List.forall_mem_cons.mpr ⟨ha, hl⟩)]
        rfl
      · rw [if_pos ha, if_neg hl, if_neg fun h => hl (List.forall_mem_cons.mp h).2]
        rfl
    · rw [if_neg ha, if_neg fun h => ha (List.forall_mem_cons.mp h).1]
      rfl

theorem map_eq_mapM {ds : DataStream α} {f : α → Circuit β} : map ds f = ds.mapM f := by
  induction ds with
  | nil => rfl
  | cons x xs ih => simp only [map, ih, List.mapM_cons]

theorem map_toUint248_eq_ite {ds : DataStream α} {g : α → Bytes32} :
    map ds (fun x => toUint248 (g x)) =
      if ∀ x ∈ ds, (g x).toNat < 2 ^ 248 then .ok (ds.map fun x => (g x).setWidth 248)
      else .error .toUint248 :=
  map_eq_mapM.trans (mapM_eq_ite (fun _ => rfl) ds)

/-- The engine's total: the exact sum when it fits the numeric width, `overflow`
otherwise (a word that does not fit makes the sum too large). -/
theorem total_eq_ite {B : List α} {value : α → Bytes32} :
    total B value =
      if (B.map fun x => (value x).toNat).sum < 2 ^ 248 then
        .ok (B.map fun x => (value x).toNat).sum
      else .error .overflow := by
  rw [total, mapM_eq_ite (f := fun x => extract (value x))
    (P := fun x => (value x).toNat < 2 ^ 248) (fun _ => rfl)]
  by_cases hfit : ∀ x ∈ B, (value x).toNat < 2 ^ 248
  · rw [if_pos hfit, ok_bind, checkedSum_eq]
  · obtain ⟨x, hx, hlt⟩ := not_forall₂.mp hfit
    have hle : (value x).toNat ≤ (B.map fun x => (value x).toNat).sum :=
      List.le_sum_of_mem (List.mem_map_of_mem _ hx)
    rw [if_neg hfit, if_neg (by omega)]
    rfl

theorem newDataStream_mapError {n : Nat} {xs : List α} :
    (newDataStream n xs).mapError Failure.kind = loadBatch n xs := by
  unfold newDataStream loadBatch
  split <;> rfl

theorem assertIsLessOrEqual_mapError {a b : Nat} :
    (assertIsLessOrEqual a b).mapError Failure.kind = assertAtLeast a b := by
  unfold assertIsLessOrEqual assertAtLeast require
  by_cases h : a ≤ b <;> simp [h] <;> rfl

theorem commitOutputs_mapError {os : List Output} :
    (commitOutputs os).mapError Failure.kind = encode os := by
  unfold commitOutputs encode
  split <;> rfl

/-- `AssertEach` of a check that returns `p x` fails with a pattern mismatch exactly when
some record fails `p`. -/
theorem assertEach_mapError_ite {xs : List α} {f : α → Circuit Bool} {p : α → Bool}
    (hf : ∀ x ∈ xs, f x = .ok (p x)) :
    (assertEach xs f).mapError Failure.kind =
      if xs.all p then pure () else throw .patternMismatch := by
  induction xs with
  | nil => rfl
  | cons x xs ih =>
    rw [List.forall_mem_cons] at hf
    rw [assertEach, hf.1, ok_bind, List.all_cons]
    cases hx : p x
    · rfl
    · simp only [require, if_true, Bool.true_and]
      exact ih hf.2

/-- `AssertEach` of a predicate that returns whether the record matches `P` validates
the batch against `P`. -/
theorem assertEach_mapError {P : ReceiptPattern} {user : Uint248} {B : List Receipt}
    {f : Receipt → Circuit Bool} (hf : ∀ r ∈ B, f r = .ok (decide (P.Matches user r))) :
    (assertEach B f).mapError Failure.kind = validateBatch P user B :=
  assertEach_mapError_ite hf

/-- The prologue of every receipt circuit against the engine's first two stages: the
capacity, then `AssertEach` of a check that returns whether the record matches `P`. What
follows need only agree on batches of the capacity. -/
theorem prologue_mapError {cap : Nat} {P : ReceiptPattern} {user : Uint248}
    {B : List Receipt} {f : Receipt → Circuit Bool} {k : DataStream Receipt → Circuit β}
    {t : List Receipt → Run β}
    (hf : ∀ r ∈ B, f r = .ok (decide (P.Matches user r)))
    (hk : B.length = cap → (k B).mapError Failure.kind = t B) :
    (do let ds ← newDataStream cap B; assertEach ds f; k ds).mapError Failure.kind =
      (do let B ← loadBatch cap B; validateBatch P user B; t B) := by
  rw [mapError_bind, newDataStream_mapError]
  refine bind_congr_ok fun B' hB => ?_
  obtain ⟨hlen, rfl⟩ := loadBatch_eq_ok.mp hB
  rw [mapError_bind, assertEach_mapError hf]
  exact bind_congr_ok fun _ _ => hk hlen

theorem require_bind {ε : Type} {p : Prop} [Decidable p] {e : ε} {f : Unit → Except ε β} :
    ((if p then pure () else throw e) >>= f) = if p then f () else .error e := by
  split <;> rfl

theorem assertAtLeast_zero {n : Nat} : assertAtLeast 0 n = pure () := by
  simp [assertAtLeast]

/-- Two one-sided thresholds in a row are the two-sided one. -/
theorem assertAtLeast_bind_assertAtLeast {lo t hi : Nat} {x : Run β} :
    (assertAtLeast lo t >>= fun _ => assertAtLeast t hi >>= fun _ => x) =
      (assertWithin lo hi t >>= fun _ => x) := by
  unfold assertAtLeast assertWithin
  by_cases h₁ : lo ≤ t <;> by_cases h₂ : t ≤ hi <;> simp only [h₁, h₂, and_self, and_false,
    false_and, if_true, if_false] <;> rfl

/-- A check that never fails returns whether its predicate holds. -/
theorem eq_ok_decide {x : Circuit Bool} {P : Prop} [Decidable P] (hx : ∃ b, x = .ok b)
    (h : x = .ok true ↔ P) : x = .ok (decide P) := by
  obtain ⟨b, rfl⟩ := hx
  cases b <;> simp_all

/-- An output record with a value beyond its width is an overflow. -/
theorem encode_eq_error {os : List Output} {x : Output} (hx : x ∈ os)
    (h : ¬x.value < 2 ^ x.bits) : encode os = .error .overflow := by
  unfold encode
  rw [if_neg]
  · rfl
  · simp only [List.all_eq_true, Output.fits, decide_eq_true_eq, not_forall]
    exact ⟨x, hx, h⟩

theorem assertIsEqual_mapError {γ : Type} [DecidableEq γ] {a b : γ} :
    (assertIsEqual a b).mapError Failure.kind =
      if a = b then pure () else throw .patternMismatch := by
  unfold assertIsEqual require
  by_cases h : a = b <;> simp [h] <;> rfl

theorem toUint248_mapError {w : Bytes32} :
    (toUint248 w).mapError Failure.kind =
      if w.toNat < 2 ^ 248 then .ok (w.setWidth 248) else .error .overflow := by
  unfold toUint248
  split <;> rfl

end Simulation

/-! ## Sums of a field -/

section Sums

variable {i : Fin numMaxLogFields} {B : List Receipt}

theorem fits_of_fieldSum_lt (h : fieldSum i B < 2 ^ 248) :
    ∀ r ∈ B, (r.fields i).value.toNat < 2 ^ 248 := fun _ hr =>
  (List.le_sum_of_mem (List.mem_map_of_mem (fun r => (r.fields i).value.toNat) hr)).trans_lt h

theorem total_of_fieldSum_lt (h : fieldSum i B < 2 ^ 248) :
    total B (fun r => (r.fields i).value) = .ok (fieldSum i B) := by
  rw [total_eq_ite]
  exact if_pos h

/-- `Sum` of the words of a field that `Map` of `ToUint248` kept. -/
theorem sum_map_setWidth (h : ∀ r ∈ B, (r.fields i).value.toNat < 2 ^ 248) :
    sum (B.map fun r => (r.fields i).value.setWidth 248) = fieldSum i B % scalarField :=
  sum_of_map_toUint248 (map_toUint248_ok h)

theorem mod_scalarField_of_lt (h : fieldSum i B < 2 ^ 248) :
    fieldSum i B % scalarField = fieldSum i B :=
  Nat.mod_eq_of_lt (h.trans two_pow_248_lt_scalarField)

end Sums

/-! ## Single-total circuits -/

namespace VolumeLayout

variable {L : VolumeLayout} {cap : Nat} {u m : Uint248} {B : List Receipt} {inp : DataInput}

theorem check_eq_ok_decide {r : Receipt} (h : (r.fields 1).value.toNat < 2 ^ 248) :
    L.check u r = .ok (decide (L.pattern.Matches u r)) :=
  eq_ok_decide ⟨_, by simp only [check, toUint248, if_pos h]; rfl⟩
    (check_eq_ok_true.trans matches_iff)

/-- The aggregation stage computes the engine's total, threshold and encoding, when the
sum of the amount words stays below the field order whenever they all fit. -/
theorem aggregate_mapError
    (hS : (∀ r ∈ B, (r.fields 0).value.toNat < 2 ^ 248) → fieldSum 0 B < scalarField)
    (hn : B.length < scalarField) :
    (aggregate u m B).mapError Failure.kind =
      (do let t ← total B fun r => (r.fields 0).value
          assertAtLeast m.toNat t
          encode (outputs u m [t] B.length)) := by
  have hF : (B.map fun r => (r.fields 0).value.toNat).sum = fieldSum 0 B := rfl
  rw [aggregate, map_toUint248_eq_ite, total_eq_ite, hF]
  by_cases hfit : ∀ r ∈ B, (r.fields 0).value.toNat < 2 ^ 248
  · rw [if_pos hfit, ok_bind, sum_map_setWidth hfit, count_eq, Nat.mod_eq_of_lt hn,
      Nat.mod_eq_of_lt (hS hfit)]
    by_cases hlt : fieldSum 0 B < 2 ^ 248
    · simp only [if_pos hlt, ok_bind, mapError_bind, assertIsLessOrEqual_mapError,
        commitOutputs_mapError, outputs, List.getD_cons_zero]
    · -- the total passes the threshold, which is a 248-bit value, but not its width
      have hm : m.toNat ≤ fieldSum 0 B := by have := m.isLt; omega
      rw [if_neg hlt, mapError_bind, assertIsLessOrEqual_mapError, assertAtLeast, if_pos hm,
        commitOutputs_mapError, encode_eq_error (x := outputUint 248 (fieldSum 0 B)) (by simp) hlt]
      rfl
  · rw [if_neg hfit, if_neg fun hlt => hfit (fits_of_fieldSum_lt hlt)]
    rfl

theorem define_mapError
    (hcap : cap ≤ 48 ∨ cap < scalarField ∧ fieldSum 0 inp.receipts < scalarField)
    (hu : ∀ r ∈ inp.receipts, (r.fields 1).value.toNat < 2 ^ 248) :
    (L.define cap u m inp).mapError Failure.kind = (L.config cap u m).run u inp.receipts :=
  prologue_mapError (fun r hr => check_eq_ok_decide (hu r hr)) fun hlen => by
    rw [aggregate_mapError (fieldSum_lt_of_cap hlen hcap id)
      (hlen ▸ lt_scalarField_of_cap hcap)]
    simp only [config, List.mapM_cons, List.mapM_nil, bind_assoc, pure_bind, assertAtLeast_zero]

/-- A receipt whose user word is `2 ^ 248`, one past every 248-bit value: no user matches
it, so the engine reports a pattern mismatch, while the circuit's `ToUint248` of the word
fails first. -/
example :
    let r : Receipt := ⟨1, 0, ![
      ⟨Sushiswap.usdcWethPair, 0, Sushiswap.eventIdSwap, false, 3, 1⟩,
      ⟨Sushiswap.usdcWethPair, 0, Sushiswap.eventIdSwap, true, 2, BitVec.ofNat 256 (2 ^ 248)⟩,
      default, default]⟩
    (Sushiswap.layout.config 1 7 0).run 7 [r] = .error .patternMismatch ∧
      (Sushiswap.layout.define 1 7 0 ⟨[r], []⟩).mapError Failure.kind = .error .overflow := by
  decide

end VolumeLayout

namespace BalancerWeighted

variable {c : AppCircuit} {inp : DataInput}

theorem check_eq_ok_decide {u : Uint248} {r : Receipt} :
    check r = .ok (decide (pattern.Matches u r)) :=
  eq_ok_decide ⟨_, rfl⟩ (check_eq_ok_true.trans matches_iff)

theorem define_mapError (h₀ : fieldSum 0 inp.receipts < scalarField) :
    (c.define inp).mapError Failure.kind = c.config.run c.userAddr inp.receipts :=
  prologue_mapError (fun _ _ => check_eq_ok_decide) fun hlen => by
    rw [VolumeLayout.aggregate_mapError (fun _ => h₀) (hlen ▸ by decide)]
    simp only [AppCircuit.config, List.mapM_cons, List.mapM_nil, bind_assoc, pure_bind,
      assertAtLeast_zero]

end BalancerWeighted

/-! ## Liquidity circuits -/

namespace LiquidityLayout

variable {L : LiquidityLayout} {cap : Nat} {u m₀ m₁ : Uint248} {inp : DataInput}

theorem check_eq_ok_decide {r : Receipt} (h : (r.fields 0).value.toNat < 2 ^ 248) :
    L.check u r = .ok (decide (L.pattern.Matches u r)) :=
  eq_ok_decide ⟨_, by simp only [check, toUint248, if_pos h]; rfl⟩
    (check_eq_ok_true.trans matches_iff)

theorem define_mapError (hcap : cap < scalarField)
    (hu : ∀ r ∈ inp.receipts, (r.fields 0).value.toNat < 2 ^ 248)
    (h₁ : fieldSum 1 inp.receipts < 2 ^ 248) (h₂ : fieldSum 2 inp.receipts < 2 ^ 248) :
    (L.define cap u m₀ m₁ inp).mapError Failure.kind =
      (L.config cap u m₀ m₁).run u inp.receipts :=
  prologue_mapError (fun r hr => check_eq_ok_decide (hu r hr)) fun hlen => by
    have hn : inp.receipts.length < scalarField := hlen ▸ hcap
    rw [aggregate, map_toUint248_ok (fits_of_fieldSum_lt h₁), ok_bind,
      map_toUint248_ok (fits_of_fieldSum_lt h₂), ok_bind,
      sum_map_setWidth (fits_of_fieldSum_lt h₁), sum_map_setWidth (fits_of_fieldSum_lt h₂),
      mod_scalarField_of_lt h₁, mod_scalarField_of_lt h₂, count_eq, Nat.mod_eq_of_lt hn]
    simp only [mapError_bind, assertIsLessOrEqual_mapError, commitOutputs_mapError, config,
      List.mapM_cons, List.mapM_nil, bind_assoc, pure_bind, assertAtLeast_zero,
      total_of_fieldSum_lt h₁, total_of_fieldSum_lt h₂, ok_bind, outputs, List.getD_cons_zero,
      List.getD_cons_succ]

/-- Two uniswap-v2-lp receipts with `2 ^ 247` in field 1 and nothing in field 2, against a
threshold of `1` on field 2: the engine stops at the first total, which does not fit 248
bits; the circuit casts both fields before it compares either total, and stops at the
second threshold. -/
example :
    let B := List.replicate 2 (UniswapV2Lp.layout.honestReceipt 7 (BitVec.ofNat 256 (2 ^ 247)) 0)
    (UniswapV2Lp.layout.config 2 7 0 1).run 7 B = .error .overflow ∧
      (UniswapV2Lp.layout.define 2 7 0 1 ⟨B, []⟩).mapError Failure.kind =
        .error .thresholdUnmet := by
  decide

end LiquidityLayout

/-! ## Bidirectional circuits -/

namespace BidirectionalLayout

variable {L : BidirectionalLayout} {cap : Nat} {u m₀ m₁ : Uint248} {inp : DataInput}

theorem check_eq_ok_decide {r : Receipt} (h : AddressWordsFit r) :
    L.check u r = .ok (decide (L.pattern.Matches u r)) :=
  eq_ok_decide ⟨_, by simp only [check, toUint248, if_pos h.1, if_pos h.2]; rfl⟩
    (check_eq_ok_true.trans (matches_iff.trans (and_iff_left h)))

theorem define_mapError (hcap : cap < scalarField)
    (hwords : ∀ r ∈ inp.receipts, AddressWordsFit r)
    (h₀ : fieldSum 0 inp.receipts < 2 ^ 248) (h₁ : fieldSum 1 inp.receipts < 2 ^ 248) :
    (L.define cap u m₀ m₁ inp).mapError Failure.kind =
      (L.config cap u m₀ m₁).run u inp.receipts :=
  prologue_mapError (fun r hr => check_eq_ok_decide (hwords r hr)) fun hlen => by
    have hn : inp.receipts.length < scalarField := hlen ▸ hcap
    rw [aggregate, map_toUint248_ok (fits_of_fieldSum_lt h₀), ok_bind,
      map_toUint248_ok (fits_of_fieldSum_lt h₁), ok_bind,
      sum_map_setWidth (fits_of_fieldSum_lt h₀), sum_map_setWidth (fits_of_fieldSum_lt h₁),
      mod_scalarField_of_lt h₀, mod_scalarField_of_lt h₁, count_eq, Nat.mod_eq_of_lt hn]
    simp only [Uint248API.add_of_lt_two_pow_248 h₀ h₁, mapError_bind,
      assertIsLessOrEqual_mapError, commitOutputs_mapError, config,
      List.mapM_cons, List.mapM_nil, bind_assoc, pure_bind, assertAtLeast_zero,
      total_of_fieldSum_lt h₀, total_of_fieldSum_lt h₁, ok_bind, outputs, List.getD_cons_zero,
      List.getD_cons_succ]

end BidirectionalLayout

/-! ## LayerZero -/

namespace LayerzeroMessage

theorem check_eq_ok_decide {u : Uint248} {r : Receipt} :
    check r = .ok (decide (pattern.Matches u r)) :=
  eq_ok_decide ⟨_, rfl⟩ (check_eq_ok_true.trans matches_iff)

theorem define_mapError {c : AppCircuit} {inp : DataInput} :
    (c.define inp).mapError Failure.kind = c.config.run c.userAddr inp.receipts :=
  prologue_mapError (fun _ _ => check_eq_ok_decide) fun hlen => by
    have hn : inp.receipts.length % scalarField = inp.receipts.length :=
      Nat.mod_eq_of_lt (hlen ▸ by decide)
    simp only [count_eq, hn, mapError_bind, assertIsLessOrEqual_mapError, commitOutputs_mapError,
      AppCircuit.config, List.mapM_nil, pure_bind, outputs]

end LayerzeroMessage

/-! ## Storage circuits -/

namespace TokenHolder

variable {keccak : Bytes32 → Bytes32 → Bytes32} {c : AppCircuit} {inp : DataInput}

theorem define_mapError :
    (c.define keccak inp).mapError Failure.kind = (c.config keccak).run inp.storageSlots := by
  rw [AppCircuit.define, SlotConfig.run, mapError_bind, newDataStream_mapError]
  refine bind_congr_ok fun S hS => ?_
  obtain ⟨hlen, rfl⟩ := loadBatch_eq_ok.mp hS
  obtain ⟨s, hs⟩ := List.length_eq_one.mp hlen
  rw [hs]
  simp only [getUnderlying_cons_zero, mapError_bind, assertIsEqual_mapError, toUint248_mapError,
    assertIsLessOrEqual_mapError, commitOutputs_mapError, AppCircuit.config, validateSlots,
    slotPattern, SlotPattern.Matches, List.zip_cons_cons, List.zip_nil_right, List.all_cons,
    List.all_nil, Bool.and_true, total_eq_ite, List.map_cons, List.map_nil, List.sum_cons,
    List.sum_nil, Nat.add_zero, outputs, decide_eq_true_eq]
  by_cases hc : s.contract = usdcTokenAddr
  · by_cases hk : s.slot = slotOfStructFieldInMapping keccak 9 0 (toBytes32 c.holderAddr)
    · simp only [hc, hk, and_self, if_true, pure_bind]
      by_cases hv : s.value.toNat < 2 ^ 248
      · simp only [if_pos hv, ok_bind, toNat_setWidth_of_lt hv]
      · simp only [if_neg hv, error_bind]
    · simp only [hc, hk, and_false, if_true, if_false, pure_bind, throw_bind]
  · simp only [hc, false_and, if_false, throw_bind]

end TokenHolder

namespace MultichainBalance

variable {keccak : Bytes32 → Bytes32 → Bytes32} {c : AppCircuit} {inp : DataInput}

theorem define_mapError :
    (c.define keccak inp).mapError Failure.kind = (c.config keccak).run inp.storageSlots := by
  rw [AppCircuit.define, SlotConfig.run, mapError_bind, newDataStream_mapError]
  refine bind_congr_ok fun S hS => ?_
  obtain ⟨hlen, rfl⟩ := loadBatch_eq_ok.mp hS
  obtain ⟨s₀, s₁, hs⟩ := List.length_eq_two.mp hlen
  rw [hs]
  simp only [getUnderlying_cons_zero, getUnderlying_cons_succ, mapError_bind,
    assertIsEqual_mapError, toUint248_mapError, assertIsLessOrEqual_mapError,
    commitOutputs_mapError, require_bind, AppCircuit.config, validateSlots, slotPatternEthereum,
    slotPatternBsc, SlotPattern.Matches, List.zip_cons_cons, List.zip_nil_right, List.all_cons,
    List.all_nil, Bool.and_true, Bool.and_eq_true, total_eq_ite, List.map_cons, List.map_nil,
    List.sum_cons, List.sum_nil, Nat.add_zero, outputs, decide_eq_true_eq]
  by_cases hm : (s₀.contract = usdcEthereum ∧
      s₀.slot = slotOfStructFieldInMapping keccak 9 0 (toBytes32 c.holderAddr)) ∧
      s₁.contract = usdcBsc ∧
      s₁.slot = slotOfStructFieldInMapping keccak 9 0 (toBytes32 c.holderAddr)
  · obtain ⟨⟨hc₀, hk₀⟩, hc₁, hk₁⟩ := hm
    simp only [hc₀, hk₀, hc₁, hk₁, and_self, if_true]
    by_cases hv₀ : s₀.value.toNat < 2 ^ 248
    · by_cases hv₁ : s₁.value.toNat < 2 ^ 248
      · simp only [if_pos hv₀, if_pos hv₁, ok_bind, toNat_setWidth_of_lt hv₀,
          toNat_setWidth_of_lt hv₁, Uint248API.add_of_lt_two_pow_248 hv₀ hv₁]
        by_cases hsum : s₀.value.toNat + s₁.value.toNat < 2 ^ 248
        · simp only [if_pos hsum, ok_bind]
        · have hmin : c.minTotalBalance.toNat ≤ s₀.value.toNat + s₁.value.toNat := by
            have := c.minTotalBalance.isLt
            omega
          simp only [if_neg hsum, assertAtLeast, if_pos hmin, pure_bind]
          exact encode_eq_error (x := outputUint 248 (s₀.value.toNat + s₁.value.toNat)) (by simp)
            hsum
      · simp only [if_pos hv₀, if_neg hv₁, ok_bind, error_bind]
        rw [if_neg (by omega)]
        rfl
    · simp only [if_neg hv₀, error_bind]
      rw [if_neg (by omega)]
      rfl
  · rw [if_neg hm]
    simp only [not_and_or] at hm
    rcases hm with (h | h) | (h | h) <;> simp only [h, if_false, ite_self]

end MultichainBalance

/-! ## TWAP circuits -/

namespace Twap

variable {index : Nat} {p lo hi sb eb : Uint248} {inp : DataInput}

theorem check_eq_ok_decide {s : StorageSlot} (hk : s.slot = BitVec.ofNat 256 index) :
    check p s = .ok (decide ((⟨p, BitVec.ofNat 256 index⟩ : SlotPattern).Matches s)) := by
  simp only [check, SlotPattern.Matches, hk, and_true]
  rfl

/-- With both slots at the declared index, and two 248-bit values summing within 248 bits,
the circuit fails as the engine at the two-sided configuration. -/
theorem define_mapError (hk : ∀ s ∈ inp.storageSlots, s.slot = BitVec.ofNat 256 index)
    (hS : (∀ s ∈ inp.storageSlots, s.value.toNat < 2 ^ 248) →
      valueSum inp.storageSlots < 2 ^ 248) :
    (define 2 p lo hi sb eb inp).mapError Failure.kind =
      (config index p lo hi sb eb).run inp.storageSlots := by
  obtain ⟨R, S⟩ := inp
  dsimp only at hk hS ⊢
  rw [define, SlotRangeConfig.run, mapError_bind, newDataStream_mapError]
  refine bind_congr_ok fun S' hS' => ?_
  obtain ⟨hlen, rfl⟩ := loadBatch_eq_ok.mp hS'
  obtain ⟨s₀, s₁, rfl⟩ := List.length_eq_two.mp hlen
  rw [mapError_bind, assertEach_mapError_ite fun s hs => check_eq_ok_decide (hk s hs)]
  refine bind_congr_ok fun _ _ => ?_
  have hF : ([s₀, s₁].map fun s => s.value.toNat).sum = valueSum [s₀, s₁] := rfl
  rw [map_toUint248_eq_ite, total_eq_ite, hF]
  by_cases hfit : ∀ s ∈ [s₀, s₁], s.value.toNat < 2 ^ 248
  · have hsum := hS hfit
    have hcount : [s₀, s₁].length % scalarField = 2 :=
      Nat.mod_eq_of_lt (show 2 < scalarField by decide)
    rw [if_pos hfit, ok_bind, if_pos hsum, ok_bind, sum_of_map_toUint248 (map_toUint248_ok hfit),
      hF, Nat.mod_eq_of_lt (hsum.trans two_pow_248_lt_scalarField), count_eq]
    simp only [mapError_bind, assertIsEqual_mapError, assertIsLessOrEqual_mapError,
      commitOutputs_mapError, if_pos hcount, pure_bind, assertAtLeast_bind_assertAtLeast]
    rfl
  · obtain ⟨s, hs, hlt⟩ := not_forall₂.mp hfit
    have hle : s.value.toNat ≤ valueSum [s₀, s₁] :=
      List.le_sum_of_mem (List.mem_map_of_mem _ hs)
    rw [if_neg hfit, if_neg (by omega)]
    rfl

/-- Two slots of the pair at `price1CumulativeLast`, each holding `2 ^ 247`: the engine's
total does not fit 248 bits, an overflow; the circuit's sum `2 ^ 248` is below the field
order, passes `MinPrice` and fails `MaxPrice`. -/
example :
    let S := [{ twapSampleSlot 9 1 with value := BitVec.ofNat 256 (2 ^ 247) },
      { twapSampleSlot 9 2 with value := BitVec.ofNat 256 (2 ^ 247) }]
    twapSampleCircuit.config.run S = .error .overflow ∧
      (twapSampleCircuit.define ⟨[], S⟩).mapError Failure.kind = .error .thresholdUnmet := by
  decide

end Twap

/-! ## Every circuit with an engine configuration -/

theorem circuits_fail_as_engine :
    (∀ (L : VolumeLayout) cap u m inp,
      cap ≤ 48 ∨ cap < scalarField ∧ fieldSum 0 inp.receipts < scalarField →
      (∀ r ∈ inp.receipts, (r.fields 1).value.toNat < 2 ^ 248) →
      (L.define cap u m inp).mapError Failure.kind = (L.config cap u m).run u inp.receipts) ∧
    (∀ (c : BalancerWeighted.AppCircuit) inp, fieldSum 0 inp.receipts < scalarField →
      (c.define inp).mapError Failure.kind = c.config.run c.userAddr inp.receipts) ∧
    (∀ (L : LiquidityLayout) cap u m₀ m₁ inp, cap < scalarField →
      (∀ r ∈ inp.receipts, (r.fields 0).value.toNat < 2 ^ 248) →
      fieldSum 1 inp.receipts < 2 ^ 248 → fieldSum 2 inp.receipts < 2 ^ 248 →
      (L.define cap u m₀ m₁ inp).mapError Failure.kind =
        (L.config cap u m₀ m₁).run u inp.receipts) ∧
    (∀ (L : BidirectionalLayout) cap u m₀ m₁ inp, cap < scalarField →
      (∀ r ∈ inp.receipts, BidirectionalLayout.AddressWordsFit r) →
      fieldSum 0 inp.receipts < 2 ^ 248 → fieldSum 1 inp.receipts < 2 ^ 248 →
      (L.define cap u m₀ m₁ inp).mapError Failure.kind =
        (L.config cap u m₀ m₁).run u inp.receipts) ∧
    (∀ (c : LayerzeroMessage.AppCircuit) inp,
      (c.define inp).mapError Failure.kind = c.config.run c.userAddr inp.receipts) ∧
    (∀ keccak (c : TokenHolder.AppCircuit) inp,
      (c.define keccak inp).mapError Failure.kind = (c.config keccak).run inp.storageSlots) ∧
    (∀ keccak (c : MultichainBalance.AppCircuit) inp,
      (c.define keccak inp).mapError Failure.kind = (c.config keccak).run inp.storageSlots) :=
  ⟨fun _ _ _ _ _ => VolumeLayout.define_mapError,
    fun _ _ => BalancerWeighted.define_mapError,
    fun _ _ _ _ _ _ => LiquidityLayout.define_mapError,
    fun _ _ _ _ _ _ => BidirectionalLayout.define_mapError,
    fun _ _ => LayerzeroMessage.define_mapError,
    fun _ _ _ => TokenHolder.define_mapError,
    fun _ _ _ => MultichainBalance.define_mapError⟩

/-- Failing runs of each family on the batches they allocate, each failure read off the
engine: a total below its threshold (sushiswap at capacity 50, balancer-weighted,
layerzero, tokenHolder), a batch one short of the capacity (uniswap-v2-lp), receipts of
another user (uniswap-v2-bidirectional), and two balances whose sum is `2 ^ 248`
(multi-chain-balance). -/
theorem circuits_fail_as_engine_on_failing_runs :
    (Sushiswap.AppCircuit.define ⟨7, 200⟩ ⟨swapSample, []⟩).mapError Failure.kind =
        .error .thresholdUnmet ∧
      (BalancerWeighted.AppCircuit.define ⟨7, 60⟩ ⟨balancerSample, []⟩).mapError
        Failure.kind = .error .thresholdUnmet ∧
      (UniswapV2Lp.AppCircuit.define ⟨7, 1, 1⟩ ⟨liquiditySample.tail, []⟩).mapError
        Failure.kind = .error .capacityMismatch ∧
      (UniswapV2Bidirectional.AppCircuit.define ⟨8, 1, 1⟩ ⟨bidirectionalSample, []⟩).mapError
        Failure.kind = .error .patternMismatch ∧
      (LayerzeroMessage.AppCircuit.define ⟨7, 60⟩ ⟨layerzeroSample, []⟩).mapError
        Failure.kind = .error .thresholdUnmet ∧
      (TokenHolder.AppCircuit.define (fun k _ => k) ⟨5⟩
        ⟨[], [TokenHolder.honestSlot (fun k _ => k) ⟨5⟩ 50000000]⟩).mapError Failure.kind =
        .error .thresholdUnmet ∧
      (MultichainBalance.AppCircuit.define (fun k _ => k) ⟨5, 1⟩
        ⟨[], MultichainBalance.honestSlots (fun k _ => k) ⟨5, 1⟩ (BitVec.ofNat 256 (2 ^ 247))
          (BitVec.ofNat 256 (2 ^ 247))⟩).mapError Failure.kind = .error .overflow :=
  ⟨(circuits_fail_as_engine.1 Sushiswap.layout 50 7 200 ⟨swapSample, []⟩ (.inr (by decide))
      (by decide)).trans (by decide),
    (circuits_fail_as_engine.2.1 ⟨7, 60⟩ ⟨balancerSample, []⟩ (by decide)).trans (by decide),
    (circuits_fail_as_engine.2.2.1 UniswapV2Lp.layout 20 7 1 1 ⟨liquiditySample.tail, []⟩
      (by decide) (by decide) (by decide) (by decide)).trans (by decide),
    (circuits_fail_as_engine.2.2.2.1 UniswapV2Bidirectional.layout 50 8 1 1
      ⟨bidirectionalSample, []⟩ (by decide)
      (by simp only [BidirectionalLayout.AddressWordsFit]; decide) (by decide)
      (by decide)).trans (by decide),
    (circuits_fail_as_engine.2.2.2.2.1 ⟨7, 60⟩ ⟨layerzeroSample, []⟩).trans (by decide),
    (circuits_fail_as_engine.2.2.2.2.2.1 _ _ _).trans (by decide),
    (circuits_fail_as_engine.2.2.2.2.2.2 _ _ _).trans (by decide)⟩

theorem twap_circuits_fail_as_engine :
    (∀ (c : UniswapV2Twap.AppCircuit) inp,
      (∀ s ∈ inp.storageSlots,
        s.slot = BitVec.ofNat 256 UniswapV2Twap.slotPrice1CumulativeLast) →
      ((∀ s ∈ inp.storageSlots, s.value.toNat < 2 ^ 248) →
        Twap.valueSum inp.storageSlots < 2 ^ 248) →
      (c.define inp).mapError Failure.kind = c.config.run inp.storageSlots) ∧
    (∀ (c : UniswapV3Twap.AppCircuit) inp,
      (∀ s ∈ inp.storageSlots, s.slot = BitVec.ofNat 256 UniswapV3Twap.slotSlot0) →
      ((∀ s ∈ inp.storageSlots, s.value.toNat < 2 ^ 248) →
        Twap.valueSum inp.storageSlots < 2 ^ 248) →
      (c.define inp).mapError Failure.kind = c.config.run inp.storageSlots) :=
  ⟨fun _ _ => Twap.define_mapError, fun _ _ => Twap.define_mapError⟩

/-- Failing TWAP runs, each failure read off the engine: one slot where two are declared,
two slots whose total `6` is below a `MinPrice` of `7`, and a uniswap-v3-twap slot of
another contract. -/
theorem twap_circuits_fail_as_engine_on_failing_runs :
    (twapSampleCircuit.define ⟨[], [twapSampleSlot 9 1]⟩).mapError Failure.kind =
        .error .capacityMismatch ∧
      ({ twapSampleCircuit with minPrice := 7 }.define
        ⟨[], [twapSampleSlot 9 1, twapSampleSlot 9 2]⟩).mapError Failure.kind =
        .error .thresholdUnmet ∧
      ((⟨twapSampleCircuit.pairAddr, 1, 10, 100, 200⟩ : UniswapV3Twap.AppCircuit).define
        ⟨[], [twapSampleSlot 0 1, ⟨2, 5, 0, 3⟩]⟩).mapError Failure.kind =
        .error .patternMismatch :=
  ⟨(twap_circuits_fail_as_engine.1 _ ⟨[], [twapSampleSlot 9 1]⟩ (by decide) (by decide)).trans
      (by decide),
    (twap_circuits_fail_as_engine.1 _ ⟨[], [twapSampleSlot 9 1, twapSampleSlot 9 2]⟩
      (by decide) (by decide)).trans (by decide),
    (twap_circuits_fail_as_engine.2 _ ⟨[], [twapSampleSlot 0 1, ⟨2, 5, 0, 3⟩]⟩ (by decide)
      (by decide)).trans (by decide)⟩

end Brevis
