import Mathlib

/- The data a Brevis application circuit reads, and what a run of its `Define` is.

   The circuits of this repository are written against the Brevis SDK (`sdk.Receipt`,
   `sdk.StorageSlot`, `sdk.DataInput`, `sdk.CircuitAPI`), which is not among the sources.
   The types below keep the fields the circuits read, at the SDK's widths: `Uint248`,
   `Uint32` and `Bytes32` are bit vectors of 248, 32 and 256 bits. A value a circuit
   computes (a sum, a count, a difference) is an element of the BN254 scalar field and is
   kept as its representative below `scalarField`: nothing truncates it to 248 bits.

   A run of `Define` is modelled by its result: the output record, or the first SDK
   assertion that fails (`Circuit := Except Failure`). A constraint system is satisfied
   exactly when none of its assertions fails, so "the circuit accepts" is "the run is
   `.ok`".

   Correspondence (Go ↔ Lean):
     `sdk.LogField`, `sdk.Receipt`, `sdk.StorageSlot` ↔ `LogField`, `Receipt`, `StorageSlot`
     `sdk.DataInput`                                 ↔ `DataInput`
     `Allocate() (maxReceipts, maxSlots, maxTxs)`    ↔ `Allocation`
     a failed `Assert*`, `ToUint248`, `Output*`      ↔ `Failure`
   `BlockBaseFee` and the transaction records are read by no circuit and are left out. -/
namespace Brevis

/-- The order of the BN254 scalar field, the field every circuit variable lives in. -/
def scalarField : Nat :=
  21888242871839275222246405745257275088548364400416034343698204186575808495617

/-- A 248-bit value fits the field: `Uint248` arithmetic below `scalarField` is exact. -/
theorem two_pow_249_lt_scalarField : 2 ^ 249 < scalarField := by decide

theorem two_pow_248_lt_scalarField : 2 ^ 248 < scalarField := by decide

abbrev Uint248 := BitVec 248
abbrev Uint32 := BitVec 32
abbrev Bytes32 := BitVec 256

/-- One field of one event log, with its provenance (`sdk.LogField`). `isTopic` is the
SDK's 0/1 flag: topic (indexed) or data field. -/
structure LogField where
  contract : Uint248
  logPos : Uint32
  eventID : Uint248
  isTopic : Bool
  index : Uint248
  value : Bytes32
  deriving DecidableEq, Inhabited, Repr

/-- The SDK tracks at most four log fields per receipt. -/
abbrev numMaxLogFields : Nat := 4

/-- A transaction receipt as the circuit sees it: where it was included and the log
fields it tracks (`sdk.Receipt`). -/
structure Receipt where
  blockNum : Uint32
  mptKeyPath : Uint32
  fields : Fin numMaxLogFields → LogField
  deriving Inhabited

/-- One storage slot of one contract at one block (`sdk.StorageSlot`). -/
structure StorageSlot where
  blockNum : Uint32
  contract : Uint248
  slot : Bytes32
  value : Bytes32
  deriving DecidableEq, Inhabited, Repr

/-- The evidence handed to `Define` (`sdk.DataInput`). -/
structure DataInput where
  receipts : List Receipt
  storageSlots : List StorageSlot

/-- What a circuit's `Allocate` declares: how many records of each kind it reads. -/
structure Allocation where
  maxReceipts : Nat
  maxStorage : Nat
  maxTransactions : Nat

/-- Why a run fails: the SDK call whose assertion does not hold. -/
inductive Failure where
  /-- The input does not hold exactly the allocated number of records. -/
  | capacityMismatch
  /-- A record of a stream fails the predicate of `AssertEach`. -/
  | assertEach
  | assertIsEqual
  | assertIsLessOrEqual
  /-- `ToUint248` of a `Bytes32` whose top byte is not zero. -/
  | toUint248
  /-- An output value wider than its declared width. -/
  | outputRange
  deriving DecidableEq, Repr

/-- A run of (part of) a circuit: its value, or the first failing assertion. -/
abbrev Circuit := Except Failure

/-- Runs are compared by value, so that a run on concrete evidence can be checked by
evaluation. -/
instance instDecidableEqCircuit {ε α : Type} [DecidableEq ε] [DecidableEq α] :
    DecidableEq (Except ε α) := fun x y =>
  match x, y with
  | .error e, .error e' =>
    if h : e = e' then isTrue (h ▸ rfl) else isFalse fun h' => by cases h'; exact h rfl
  | .ok a, .ok b =>
    if h : a = b then isTrue (h ▸ rfl) else isFalse fun h' => by cases h'; exact h rfl
  | .error _, .ok _ => isFalse fun h => by cases h
  | .ok _, .error _ => isFalse fun h => by cases h

namespace Circuit

/-! The lemmas hold for runs with any error type: the engine's runs use them too. -/

variable {ε α β : Type} {x : Except ε α} {f : α → Except ε β} {a : α} {b : β} {e : ε}

@[simp] theorem bind_eq_ok : x >>= f = .ok b ↔ ∃ a, x = .ok a ∧ f a = .ok b := by
  cases x <;> simp [bind, Except.bind]

@[simp] theorem fmap_eq_ok {g : α → β} : g <$> x = .ok b ↔ ∃ a, x = .ok a ∧ g a = b := by
  cases x <;> simp [Functor.map, Except.map]

@[simp] theorem pure_eq_ok : (pure a : Except ε α) = .ok a' ↔ a = a' := by
  simp [pure, Except.pure]

@[simp] theorem throw_ne_ok : (throw e : Except ε α) ≠ .ok a := by
  simp [throw, throwThe, MonadExceptOf.throw, Except.error]

end Circuit

/-- Fail with `e` unless `b` holds: every `Assert*` of the SDK. -/
def require (b : Bool) (e : Failure) : Circuit Unit :=
  if b then pure () else throw e

@[simp] theorem require_eq_ok {b : Bool} {e : Failure} {u : Unit} :
    require b e = .ok u ↔ b = true := by
  cases b <;> simp [require]

/-- One value of the output record, with the width it is declared at. -/
structure Output where
  bits : Nat
  value : Nat
  deriving DecidableEq, Repr

/-- The value fits its declared width. -/
def Output.fits (o : Output) : Bool := o.value < 2 ^ o.bits

end Brevis
