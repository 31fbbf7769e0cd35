import BrevisCircuits.Engine.Pattern
import BrevisCircuits.Sdk.Api

/-
  The engine's pipeline, as the design describes it. A batch is loaded at the declared
  capacity and validated against the declared pattern; the value field of each summed
  kind is extracted from every record as an unsigned word and summed with width-checked
  addition; each total, and the count, is compared with its threshold; and the output
  values are encoded, each checked against its declared width. Every stage hands its
  result on or ends the run with one of the four errors of the design's taxonomy: there
  is no retry and no partial output.

  This is the abstract side, over exact natural numbers at the circuits' numeric width of
  248 bits. The circuits compute it by hand, in the field;
  `BrevisCircuits.Properties.Refinement` says when they compute the same.

  Design ↔ Lean:
    PatternMismatch, CapacityMismatch, Overflow, ThresholdUnmet ↔ `Error`
    Batch Validator      ↔ `loadBatch`, `validateBatch`, `validateSlots`
    Extractor            ↔ `extract`
    Aggregator           ↔ `checkedAdd`, `checkedSum`, `total`
    Threshold Asserter   ↔ `assertAtLeast` (one-sided), `assertWithin` (two-sided)
    Output Encoder       ↔ `encode`
    one circuit          ↔ `Config` (receipts), `SlotConfig` (storage slots),
                           `SlotRangeConfig` (storage slots, a two-sided bound), each with
                           its `run`

  What is proved:
    1. `foldlM_checkedAdd` — the aggregator's run lemma: from a partial sum below the
       width, the fold of `checkedAdd` returns the exact sum when it fits and fails with
       `overflow` otherwise. So `checkedSum` never wraps (`checkedSum_eq`).
    2. One spec lemma per stage, saying exactly when it succeeds and with what; from them,
       `Config.run_eq_ok`, `SlotConfig.run_eq_ok` and `SlotRangeConfig.run_eq_ok`, the
       closed forms of whole runs.
-/
namespace Brevis

namespace Engine

/-- The design's error taxonomy: a failed run says which invariant broke. -/
inductive Error where
  | patternMismatch
  | capacityMismatch
  | overflow
  | thresholdUnmet
  deriving DecidableEq, Repr

/-- A run of the pipeline: its result, or the error that ended it. -/
abbrev Run := Except Error

/-- A `mapM` whose every step succeeds exactly when `P` holds, with `g` of its input,
succeeds exactly when `P` holds throughout, with the map of `g`. -/
theorem mapM_eq_ok {α β : Type} {f : α → Run β} {P : α → Prop} {g : α → β}
    (hf : ∀ a b, f a = .ok b ↔ P a ∧ g a = b) {l : List α} {bs : List β} :
    l.mapM f = .ok bs ↔ (∀ a ∈ l, P a) ∧ l.map g = bs := by
  induction l generalizing bs with
  | nil => simp only [List.mapM_nil, Circuit.pure_eq_ok, List.not_mem_nil, List.map_nil,
      false_implies, implies_true, true_and]
  | cons a l ih =>
    simp only [List.mapM_cons, Circuit.bind_eq_ok, hf, ih, Circuit.pure_eq_ok, List.mem_cons,
      forall_eq_or_imp, List.map_cons]
    constructor
    · rintro ⟨_, ⟨ha, rfl⟩, _, ⟨hl, rfl⟩, rfl⟩
      exact ⟨⟨ha, hl⟩, rfl⟩
    · rintro ⟨⟨ha, hl⟩, rfl⟩
      exact ⟨_, ⟨ha, rfl⟩, _, ⟨hl, rfl⟩, rfl⟩

/-! ## Validation -/

/-- Load a batch: it must hold exactly the declared number of records. -/
def loadBatch {γ : Type} (capacity : Nat) (B : List γ) : Run (List γ) :=
  if B.length = capacity then pure B else throw .capacityMismatch

/-- Validate a batch: every record matches the pattern, or the whole batch fails. -/
def validateBatch (P : ReceiptPattern) (user : Uint248) (B : List Receipt) : Run Unit :=
  if validate P user B then pure () else throw .patternMismatch

/-! ## Extraction and aggregation -/

/-- The unsigned extractor: a word's value, which must fit the numeric width. -/
def extract (w : Bytes32) : Run Nat :=
  if w.toNat < 2 ^ 248 then pure w.toNat else throw .overflow

/-- The aggregator's step: width-checked addition, which fails rather than wrap. -/
def checkedAdd (acc x : Nat) : Run Nat :=
  if acc + x < 2 ^ 248 then pure (acc + x) else throw .overflow

/-- The aggregator's sum: `checkedAdd` folded over the values from zero. -/
def checkedSum (xs : List Nat) : Run Nat :=
  xs.foldlM checkedAdd 0

/-- The total of one value field over a batch: extraction, then the checked sum. -/
def total {γ : Type} (B : List γ) (value : γ → Bytes32) : Run Nat := do
  checkedSum (← B.mapM fun x => extract (value x))

/-! ## Assertion and encoding -/

/-- The one-sided threshold asserter: `threshold ≤ observed`. -/
def assertAtLeast (threshold observed : Nat) : Run Unit :=
  if threshold ≤ observed then pure () else throw .thresholdUnmet

/-- The two-sided threshold asserter of price-oracle ranges: `lo ≤ observed ≤ hi`. -/
def assertWithin (lo hi observed : Nat) : Run Unit :=
  if lo ≤ observed ∧ observed ≤ hi then pure () else throw .thresholdUnmet

/-- The output encoder's check: every value fits its declared width; nothing is
truncated. -/
def encode (os : List Output) : Run (List Output) :=
  if os.all Output.fits then pure os else throw .overflow

/-! ## The engine at one configuration -/

/-- One circuit as the engine sees it: the declared capacity and pattern, the summed
fields with the threshold of each, the threshold on the count, and the output layout over
the totals (in the order of `amounts`) and the count. -/
structure Config where
  capacity : Nat
  pattern : ReceiptPattern
  amounts : List (Fin numMaxLogFields × Nat)
  minCount : Nat
  outputs : List Nat → Nat → List Output

/-- The pipeline at a configuration, stage after stage. `user` is the circuit parameter
the pattern's user condition compares with. -/
def Config.run (C : Config) (user : Uint248) (B : List Receipt) : Run (List Output) := do
  let B ← loadBatch C.capacity B
  validateBatch C.pattern user B
  let totals ← C.amounts.mapM fun a => do
    let t ← total B fun r => (r.fields a.1).value
    assertAtLeast a.2 t
    pure t
  assertAtLeast C.minCount B.length
  encode (C.outputs totals B.length)

/-- A storage circuit as the engine sees it: the pattern declared for each slot position
(the capacity is their number), the threshold on the total of the slot values, and the
output layout over the slots and the total. -/
structure SlotConfig where
  patterns : List SlotPattern
  minTotal : Nat
  outputs : List StorageSlot → Nat → List Output

/-- Validate a slot batch: the slot at each position matches the pattern declared there. -/
def validateSlots (ps : List SlotPattern) (S : List StorageSlot) : Run Unit :=
  if (ps.zip S).all fun x => decide (x.1.Matches x.2) then pure () else throw .patternMismatch

/-- The pipeline at a storage configuration. -/
def SlotConfig.run (C : SlotConfig) (S : List StorageSlot) : Run (List Output) := do
  let S ← loadBatch C.patterns.length S
  validateSlots C.patterns S
  let t ← total S StorageSlot.value
  assertAtLeast C.minTotal t
  encode (C.outputs S t)

/-- A storage circuit whose total is bounded on both sides, as the engine sees it: the
pattern declared for each slot position, the bounds, and the output layout. -/
structure SlotRangeConfig where
  patterns : List SlotPattern
  minTotal : Nat
  maxTotal : Nat
  outputs : List StorageSlot → Nat → List Output

/-- The pipeline at a storage configuration with a two-sided bound. -/
def SlotRangeConfig.run (C : SlotRangeConfig) (S : List StorageSlot) : Run (List Output) := do
  let S ← loadBatch C.patterns.length S
  validateSlots C.patterns S
  let t ← total S StorageSlot.value
  assertWithin C.minTotal C.maxTotal t
  encode (C.outputs S t)

/-! ## Spec lemmas of the stages -/

variable {γ : Type} {n : Nat} {B B' : List γ} {u : Unit}

@[simp] theorem loadBatch_eq_ok : loadBatch n B = .ok B' ↔ B.length = n ∧ B = B' := by
  unfold loadBatch
  split <;> simp_all

@[simp] theorem validateBatch_eq_ok {P : ReceiptPattern} {user : Uint248} {R : List Receipt} :
    validateBatch P user R = .ok u ↔ ∀ r ∈ R, P.Matches user r := by
  unfold validateBatch
  split <;> simp_all

@[simp] theorem extract_eq_ok {w : Bytes32} {v : Nat} :
    extract w = .ok v ↔ w.toNat < 2 ^ 248 ∧ w.toNat = v := by
  unfold extract
  split <;> simp_all

/-- The aggregator's run lemma. -/
theorem foldlM_checkedAdd {acc : Nat} (h : acc < 2 ^ 248) (xs : List Nat) :
    xs.foldlM checkedAdd acc =
      if acc + xs.sum < 2 ^ 248 then .ok (acc + xs.sum) else .error .overflow := by
  induction xs generalizing acc with
  | nil =>
    rw [List.foldlM_nil, List.sum_nil, Nat.add_zero, if_pos h]
    rfl
  | cons x xs ih =>
    rw [List.foldlM_cons, List.sum_cons]
    by_cases hx : acc + x < 2 ^ 248
    · rw [checkedAdd, if_pos hx, ← Nat.add_assoc]
      exact ih hx
    · have hsum : ¬acc + (x + xs.sum) < 2 ^ 248 := by omega
      rw [checkedAdd, if_neg hx, if_neg hsum]
      rfl

/-- No silent overflow: the checked sum is the exact sum, or `overflow`. -/
theorem checkedSum_eq (xs : List Nat) :
    checkedSum xs = if xs.sum < 2 ^ 248 then .ok xs.sum else .error .overflow := by
  simpa using foldlM_checkedAdd (Nat.two_pow_pos 248) xs

@[simp] theorem checkedSum_eq_ok {xs : List Nat} {s : Nat} :
    checkedSum xs = .ok s ↔ xs.sum < 2 ^ 248 ∧ xs.sum = s := by
  rw [checkedSum_eq]
  split <;> simp_all

theorem total_eq_ok {value : γ → Bytes32} {t : Nat} :
    total B value = .ok t ↔
      (∀ x ∈ B, (value x).toNat < 2 ^ 248) ∧ (B.map fun x => (value x).toNat).sum < 2 ^ 248 ∧
        (B.map fun x => (value x).toNat).sum = t := by
  simp only [total, Circuit.bind_eq_ok, mapM_eq_ok fun x v => extract_eq_ok, checkedSum_eq_ok]
  constructor
  · rintro ⟨_, ⟨hfit, rfl⟩, h⟩
    exact ⟨hfit, h⟩
  · rintro ⟨hfit, h⟩
    exact ⟨_, ⟨hfit, rfl⟩, h⟩

@[simp] theorem assertAtLeast_eq_ok {threshold observed : Nat} :
    assertAtLeast threshold observed = .ok u ↔ threshold ≤ observed := by
  unfold assertAtLeast
  split <;> simp_all

@[simp] theorem assertWithin_eq_ok {lo hi observed : Nat} :
    assertWithin lo hi observed = .ok u ↔ lo ≤ observed ∧ observed ≤ hi := by
  unfold assertWithin
  split <;> simp_all

@[simp] theorem encode_eq_ok {os o : List Output} :
    encode os = .ok o ↔ (∀ x ∈ os, x.value < 2 ^ x.bits) ∧ os = o := by
  unfold encode
  split <;> simp_all [Output.fits]

/-- A total with its threshold, as `Config.run` computes it for each summed field. -/
theorem totalAtLeast_eq_ok {R : List Receipt} {a : Fin numMaxLogFields × Nat} {t : Nat} :
    (do let t ← total R fun r => (r.fields a.1).value; assertAtLeast a.2 t; pure t) = .ok t ↔
      ((∀ r ∈ R, (r.fields a.1).value.toNat < 2 ^ 248) ∧ fieldSum a.1 R < 2 ^ 248 ∧
        a.2 ≤ fieldSum a.1 R) ∧ fieldSum a.1 R = t := by
  simp only [Circuit.bind_eq_ok, total_eq_ok, assertAtLeast_eq_ok, Circuit.pure_eq_ok,
    exists_const, fieldSum]
  constructor
  · rintro ⟨_, ⟨hfit, hlt, rfl⟩, hmin, rfl⟩
    exact ⟨⟨hfit, hlt, hmin⟩, rfl⟩
  · rintro ⟨⟨hfit, hlt, hmin⟩, rfl⟩
    exact ⟨_, ⟨hfit, hlt, rfl⟩, hmin, rfl⟩

/-- The closed form of a run of the engine. -/
theorem Config.run_eq_ok {C : Config} {user : Uint248} {R : List Receipt} {o : List Output} :
    C.run user R = .ok o ↔
      R.length = C.capacity ∧ (∀ r ∈ R, C.pattern.Matches user r) ∧
      (∀ a ∈ C.amounts, (∀ r ∈ R, (r.fields a.1).value.toNat < 2 ^ 248) ∧
        fieldSum a.1 R < 2 ^ 248 ∧ a.2 ≤ fieldSum a.1 R) ∧
      C.minCount ≤ R.length ∧
      (∀ x ∈ C.outputs (C.amounts.map fun a => fieldSum a.1 R) R.length,
        x.value < 2 ^ x.bits) ∧
      C.outputs (C.amounts.map fun a => fieldSum a.1 R) R.length = o := by
  simp only [Config.run, Circuit.bind_eq_ok, loadBatch_eq_ok, validateBatch_eq_ok,
    mapM_eq_ok fun a t => totalAtLeast_eq_ok, assertAtLeast_eq_ok, encode_eq_ok, exists_const]
  constructor
  · rintro ⟨_, ⟨hlen, rfl⟩, hmatch, _, ⟨hamt, rfl⟩, hcount, hout, rfl⟩
    exact ⟨hlen, hmatch, hamt, hcount, hout, rfl⟩
  · rintro ⟨hlen, hmatch, hamt, hcount, hout, rfl⟩
    exact ⟨_, ⟨hlen, rfl⟩, hmatch, _, ⟨hamt, rfl⟩, hcount, hout, rfl⟩

@[simp] theorem validateSlots_eq_ok {ps : List SlotPattern} {S : List StorageSlot} :
    validateSlots ps S = .ok u ↔ ∀ x ∈ ps.zip S, x.1.Matches x.2 := by
  unfold validateSlots
  split <;> simp_all

/-- The closed form of a run of the engine at a storage configuration. -/
theorem SlotConfig.run_eq_ok {C : SlotConfig} {S : List StorageSlot} {o : List Output} :
    C.run S = .ok o ↔
      S.length = C.patterns.length ∧ (∀ x ∈ C.patterns.zip S, x.1.Matches x.2) ∧
      (∀ s ∈ S, s.value.toNat < 2 ^ 248) ∧ (S.map fun s => s.value.toNat).sum < 2 ^ 248 ∧
      C.minTotal ≤ (S.map fun s => s.value.toNat).sum ∧
      (∀ x ∈ C.outputs S (S.map fun s => s.value.toNat).sum, x.value < 2 ^ x.bits) ∧
      C.outputs S (S.map fun s => s.value.toNat).sum = o := by
  simp only [SlotConfig.run, Circuit.bind_eq_ok, loadBatch_eq_ok, validateSlots_eq_ok,
    total_eq_ok, assertAtLeast_eq_ok, encode_eq_ok, exists_const]
  constructor
  · rintro ⟨_, ⟨hlen, rfl⟩, hmatch, _, ⟨hfit, hlt, rfl⟩, hmin, hout, rfl⟩
    exact ⟨hlen, hmatch, hfit, hlt, hmin, hout, rfl⟩
  · rintro ⟨hlen, hmatch, hfit, hlt, hmin, hout, rfl⟩
    exact ⟨_, ⟨hlen, rfl⟩, hmatch, _, ⟨hfit, hlt, rfl⟩, hmin, hout, rfl⟩

/-- The closed form of a run of the engine at a storage configuration with a two-sided
bound. -/
theorem SlotRangeConfig.run_eq_ok {C : SlotRangeConfig} {S : List StorageSlot}
    {o : List Output} :
    C.run S = .ok o ↔
      S.length = C.patterns.length ∧ (∀ x ∈ C.patterns.zip S, x.1.Matches x.2) ∧
      (∀ s ∈ S, s.value.toNat < 2 ^ 248) ∧ (S.map fun s => s.value.toNat).sum < 2 ^ 248 ∧
      C.minTotal ≤ (S.map fun s => s.value.toNat).sum ∧
      (S.map fun s => s.value.toNat).sum ≤ C.maxTotal ∧
      (∀ x ∈ C.outputs S (S.map fun s => s.value.toNat).sum, x.value < 2 ^ x.bits) ∧
      C.outputs S (S.map fun s => s.value.toNat).sum = o := by
  simp only [SlotRangeConfig.run, Circuit.bind_eq_ok, loadBatch_eq_ok, validateSlots_eq_ok,
    total_eq_ok, assertWithin_eq_ok, encode_eq_ok, exists_const]
  constructor
  · rintro ⟨_, ⟨hlen, rfl⟩, hmatch, _, ⟨hfit, hlt, rfl⟩, ⟨hmin, hmax⟩, hout, rfl⟩
    exact ⟨hlen, hmatch, hfit, hlt, hmin, hmax, hout, rfl⟩
  · rintro ⟨hlen, hmatch, hfit, hlt, hmin, hmax, hout, rfl⟩
    exact ⟨_, ⟨hlen, rfl⟩, hmatch, _, ⟨hfit, hlt, rfl⟩, ⟨hmin, hmax⟩, hout, rfl⟩

end Engine

end Brevis
