import BrevisCircuits.Sdk.Types

/- The SDK calls the circuits make, by what each computes or asserts, and one lemma per
   call saying exactly when it succeeds and with what value.

   `IsEqual`, `IsZero`, `And` and `Or` of `api.Uint248` are 0/1 values that the circuits
   only combine and return; they are written as `==`, `!`, `&&` and `||` on `Bool`. The
   calls that can fail or that compute in the field are definitions here:
     `api.ToUint248(b)` on a `Bytes32`   ↔ `toUint248` (asserts the top byte is zero)
     `sdk.ParseEventID`, `api.ToBytes32` ↔ `parseEventID`, `toBytes32`
     `u248.Add`, `u248.Sub`              ↔ `Uint248API.add`, `Uint248API.sub` (mod `scalarField`)
     `AssertIsEqual`, `AssertIsLessOrEqual` ↔ `assertIsEqual`, `assertIsLessOrEqual`
     `api.OutputAddress`, `api.OutputUint` ↔ `outputAddress`, `outputUint`, `commitOutputs`
     `sdk.NewDataStream`, `AssertEach`, `Map`, `Sum`, `Count`, `GetUnderlying`
                                          ↔ `newDataStream`, `assertEach`, `map`, `sum`,
                                            `count`, `getUnderlying`
     `api.SlotOfStructFieldInMapping`    ↔ `slotOfStructFieldInMapping` (keccak a parameter)
   `Sum` and `Count` fold `Add` over the stream, as the SDK's `Reduce` does, so they are
   sums in the field: `sum_eq` and `count_eq` give them as `%` of the exact sum. -/
namespace Brevis

variable {α β : Type}

/-! ## Field arithmetic and assertions -/

namespace Uint248API

/-- `u248.Add`: addition in the field, with no range check on the result. -/
def add (a b : Nat) : Nat := (a + b) % scalarField

/-- `u248.Sub`: subtraction in the field; below zero it wraps to `scalarField - (b - a)`. -/
def sub (a b : Nat) : Nat := (a + scalarField - b) % scalarField

theorem add_eq_of_lt {a b : Nat} (h : a + b < scalarField) : add a b = a + b :=
  Nat.mod_eq_of_lt h

/-- Two 248-bit values add without wrapping: their sum is below `2 ^ 249`. -/
theorem add_of_lt_two_pow_248 {a b : Nat} (ha : a < 2 ^ 248) (hb : b < 2 ^ 248) :
    add a b = a + b := by
  have h249 : 2 ^ 249 = 2 ^ 248 * 2 := Nat.pow_succ ..
  have := two_pow_249_lt_scalarField
  exact add_eq_of_lt (by omega)

theorem sub_of_le {a b : Nat} (h : b ≤ a) (ha : a < scalarField) : sub a b = a - b := by
  rw [sub, show a + scalarField - b = a - b + scalarField by omega, Nat.add_mod_right,
    Nat.mod_eq_of_lt (by omega)]

/-- Below zero, `Sub` wraps to just under the field order. -/
theorem sub_of_lt {a b : Nat} (h : a < b) (hb : b ≤ scalarField) :
    sub a b = a + scalarField - b :=
  Nat.mod_eq_of_lt (by omega)

end Uint248API

/-- `AssertIsEqual` of `api.Uint248`, `api.Uint32` or `api.Bytes32`. -/
def assertIsEqual {γ : Type} [DecidableEq γ] (a b : γ) : Circuit Unit :=
  require (decide (a = b)) .assertIsEqual

/-- `u248.AssertIsLessOrEqual(a, b)`: `a ≤ b` on the field representatives. -/
def assertIsLessOrEqual (a b : Nat) : Circuit Unit :=
  require (decide (a ≤ b)) .assertIsLessOrEqual

@[simp] theorem assertIsEqual_eq_ok {γ : Type} [DecidableEq γ] {a b : γ} {u : Unit} :
    assertIsEqual a b = .ok u ↔ a = b := by
  simp [assertIsEqual]

@[simp] theorem assertIsLessOrEqual_eq_ok {a b : Nat} {u : Unit} :
    assertIsLessOrEqual a b = .ok u ↔ a ≤ b := by
  simp [assertIsLessOrEqual]

/-! ## Casts -/

/-- `api.ToUint248` of a `Bytes32`: the word's low 248 bits, asserting that its top byte
is zero. -/
def toUint248 (v : Bytes32) : Circuit Uint248 :=
  if v.toNat < 2 ^ 248 then pure (v.setWidth 248) else throw .toUint248

/-- `sdk.ParseEventID` of a 32-byte event signature hash, which is not among the sources:
here it keeps the hash's leading six bytes, the width of the SDK's event ids. The circuits
only ever test two ids for equality, so nothing below depends on which bytes are kept. -/
def parseEventID (hash : Nat) : Uint248 := BitVec.ofNat 248 (hash / 2 ^ 208)

/-- `api.ToBytes32` of a `Uint248`: the value as a 32-byte word. -/
def toBytes32 (v : Uint248) : Bytes32 := v.setWidth 256

@[simp] theorem toNat_toBytes32 (v : Uint248) : (toBytes32 v).toNat = v.toNat := by
  rw [toBytes32, BitVec.toNat_setWidth, Nat.mod_eq_of_lt (v.isLt.trans (by decide))]

theorem toBytes32_injective : Function.Injective toBytes32 := fun a b h =>
  BitVec.eq_of_toNat_eq (by simpa only [toNat_toBytes32] using congrArg BitVec.toNat h)

theorem toNat_setWidth_of_lt {v : Bytes32} (h : v.toNat < 2 ^ 248) :
    (v.setWidth 248).toNat = v.toNat := by
  rw [BitVec.toNat_setWidth, Nat.mod_eq_of_lt h]

theorem toUint248_eq_ok {v : Bytes32} {w : Uint248} :
    toUint248 v = .ok w ↔ v.toNat < 2 ^ 248 ∧ w.toNat = v.toNat := by
  unfold toUint248
  split
  · rename_i h
    simp only [Circuit.pure_eq_ok, BitVec.toNat_eq, BitVec.toNat_setWidth, Nat.mod_eq_of_lt h]
    exact ⟨fun hw => ⟨h, hw.symm⟩, fun hw => hw.2.symm⟩
  · simp_all

/-- Equality with a 248-bit value through `ToUint248` is equality of the words. -/
theorem toUint248_eq_ok_iff_toNat {v : Bytes32} {w : Uint248} :
    toUint248 v = .ok w ↔ v.toNat = w.toNat := by
  rw [toUint248_eq_ok]
  exact ⟨fun h => h.2.symm, fun h => ⟨h ▸ w.isLt, h.symm⟩⟩

/-! ## Outputs -/

/-- `api.OutputAddress(v)`: an output of 160 bits. -/
def outputAddress (v : Nat) : Output := ⟨160, v⟩

/-- `api.OutputUint(bits, v)`. -/
def outputUint (bits v : Nat) : Output := ⟨bits, v⟩

@[simp] theorem bits_outputAddress (v : Nat) : (outputAddress v).bits = 160 := rfl

@[simp] theorem bits_outputUint (bits v : Nat) : (outputUint bits v).bits = bits := rfl

/-- A block number fits the 64 bits the circuits output it in. -/
theorem uint32_toNat_lt_two_pow_64 (v : Uint32) : v.toNat < 2 ^ 64 :=
  v.isLt.trans (by decide)

/-- The `Output*` calls at the end of `Define`, in order: each range-checks its value to its
width (the SDK decomposes it into that many bits) and appends it to the output record. -/
def commitOutputs (os : List Output) : Circuit (List Output) :=
  if os.all Output.fits then pure os else throw .outputRange

@[simp] theorem commitOutputs_eq_ok {os o : List Output} :
    commitOutputs os = .ok o ↔ (∀ x ∈ os, x.value < 2 ^ x.bits) ∧ os = o := by
  unfold commitOutputs
  split <;> simp_all [Output.fits]

/-! ## Data streams -/

/-- A stream of records (`sdk.DataStream`). Every record in it is live. -/
abbrev DataStream (γ : Type) := List γ

/-- Modelled from the spec: `sdk.NewDataStream` and the SDK's input assembly are not among
the sources. The spec fixes a circuit's capacity at `Allocate` time and makes it exact
("every declared slot must carry a record ... capacity is exact, not a maximum", §3, §5),
with a distinguishable `CapacityMismatch` failure (§7). -/
def newDataStream (capacity : Nat) (xs : List α) : Circuit (DataStream α) :=
  if xs.length = capacity then pure xs else throw .capacityMismatch

/-- `sdk.AssertEach(ds, f)`: every record of the stream passes `f`. -/
def assertEach (ds : DataStream α) (f : α → Circuit Bool) : Circuit Unit :=
  match ds with
  | [] => pure ()
  | x :: xs => do require (← f x) .assertEach; assertEach xs f

/-- `sdk.Map(ds, f)`. -/
def map (ds : DataStream α) (f : α → Circuit β) : Circuit (DataStream β) :=
  match ds with
  | [] => pure []
  | x :: xs => do
    let y ← f x
    let ys ← map xs f
    pure (y :: ys)

/-- `sdk.Sum(ds)`: `Add` folded over the stream from zero. -/
def sum (ds : DataStream Uint248) : Nat :=
  ds.foldl (fun acc v => Uint248API.add acc v.toNat) 0

/-- `sdk.Count(ds)`: `Add` of one for every record. -/
def count (ds : DataStream α) : Nat :=
  ds.foldl (fun acc _ => Uint248API.add acc 1) 0

/-- `sdk.GetUnderlying(ds, i)`: the `i`-th record of the stream. -/
def getUnderlying [Inhabited α] (ds : DataStream α) (i : Nat) : α :=
  ds.getD i default

/-- `api.SlotOfStructFieldInMapping(slot, offset, key)`: the storage key of field `offset`
of the entry at `key` of the mapping at `slot`, `keccak256(key ‖ slot) + offset`. The hash
is the parameter `keccak`. -/
def slotOfStructFieldInMapping (keccak : Bytes32 → Bytes32 → Bytes32) (slot offset : Nat)
    (key : Bytes32) : Bytes32 :=
  keccak key (BitVec.ofNat 256 slot) + BitVec.ofNat 256 offset

@[simp] theorem newDataStream_eq_ok {n : Nat} {xs ds : List α} :
    newDataStream n xs = .ok ds ↔ xs.length = n ∧ xs = ds := by
  unfold newDataStream
  split <;> simp_all

@[simp] theorem getUnderlying_cons_zero [Inhabited α] {x : α} {xs : List α} :
    getUnderlying (x :: xs) 0 = x := rfl

@[simp] theorem getUnderlying_cons_succ [Inhabited α] {x : α} {xs : List α} {i : Nat} :
    getUnderlying (x :: xs) (i + 1) = getUnderlying xs i := rfl

theorem assertEach_eq_ok {ds : DataStream α} {f : α → Circuit Bool} {u : Unit} :
    assertEach ds f = .ok u ↔ ∀ x ∈ ds, f x = .ok true := by
  induction ds with
  | nil => simp [assertEach]
  | cons x xs ih => simp [assertEach, ih]

/-- The prologue of every stream circuit: take the input as a stream, then `AssertEach`. -/
theorem newDataStream_assertEach_eq_ok {cap : Nat} {xs : List α} {f : α → Circuit Bool}
    {k : DataStream α → Circuit β} {b : β} :
    (do let ds ← newDataStream cap xs; assertEach ds f; k ds) = .ok b ↔
      xs.length = cap ∧ (∀ x ∈ xs, f x = .ok true) ∧ k xs = .ok b := by
  simp only [Circuit.bind_eq_ok, newDataStream_eq_ok, assertEach_eq_ok]
  constructor
  · rintro ⟨_, ⟨hlen, rfl⟩, -, hall, h⟩
    exact ⟨hlen, hall, h⟩
  · rintro ⟨hlen, hall, h⟩
    exact ⟨_, ⟨hlen, rfl⟩, (), hall, h⟩

theorem map_eq_ok {ds : DataStream α} {f : α → Circuit β} {ys : List β} :
    map ds f = .ok ys ↔ List.Forall₂ (fun x y => f x = .ok y) ds ys := by
  induction ds generalizing ys with
  | nil => cases ys <;> simp [map]
  | cons x xs ih => cases ys <;> simp [map, ih]

/-- `Map` of a `ToUint248`: it succeeds exactly when every word fits 248 bits, and then it
keeps every word's value. -/
theorem map_toUint248_eq_ok {ds : DataStream α} {g : α → Bytes32} {ys : List Uint248} :
    map ds (fun x => toUint248 (g x)) = .ok ys ↔
      (∀ x ∈ ds, (g x).toNat < 2 ^ 248) ∧ ys.map BitVec.toNat = ds.map (fun x => (g x).toNat) := by
  simp only [map_eq_ok, toUint248_eq_ok]
  induction ds generalizing ys with
  | nil => cases ys <;> simp
  | cons x xs ih =>
    cases ys with
    | nil => simp
    | cons y ys =>
      simp only [List.forall₂_cons, ih, List.mem_cons, forall_eq_or_imp, List.map_cons,
        List.cons.injEq]
      tauto

/-- Every `Map` of a `ToUint248` has some value once every word fits 248 bits. -/
theorem map_toUint248_ok {ds : DataStream α} {g : α → Bytes32}
    (h : ∀ x ∈ ds, (g x).toNat < 2 ^ 248) :
    map ds (fun x => toUint248 (g x)) = .ok (ds.map fun x => (g x).setWidth 248) := by
  rw [map_toUint248_eq_ok]
  refine ⟨h, ?_⟩
  simp only [List.map_map]
  exact List.map_congr_left fun x hx => toNat_setWidth_of_lt (h x hx)

private theorem foldl_add_mod (xs : List Nat) (b : Nat) :
    xs.foldl (fun acc v => Uint248API.add acc v) (b % scalarField) =
      (b + xs.sum) % scalarField := by
  induction xs generalizing b with
  | nil => simp
  | cons x xs ih =>
    have hx : Uint248API.add (b % scalarField) x = (b + x) % scalarField := by
      simp [Uint248API.add, Nat.mod_add_mod]
    rw [List.foldl_cons, hx, ih, List.sum_cons, Nat.add_assoc]

/-- `Sum` is the exact sum reduced into the field. -/
theorem sum_eq (ds : DataStream Uint248) : sum ds = (ds.map BitVec.toNat).sum % scalarField := by
  have h := foldl_add_mod (ds.map BitVec.toNat) 0
  rw [Nat.zero_mod, List.foldl_map, Nat.zero_add] at h
  exact h

/-- `Sum` of the values a `Map` of `ToUint248` extracted: the exact sum of the words,
reduced into the field. -/
theorem sum_of_map_toUint248 {ds : DataStream α} {g : α → Bytes32} {ys : List Uint248}
    (h : map ds (fun x => toUint248 (g x)) = .ok ys) :
    sum ys = (ds.map fun x => (g x).toNat).sum % scalarField := by
  rw [sum_eq, (map_toUint248_eq_ok.mp h).2]

/-- The exact sum of the words of field `i` over a batch of receipts. -/
def fieldSum (i : Fin numMaxLogFields) (B : List Receipt) : Nat :=
  (B.map fun r => (r.fields i).value.toNat).sum

/-- `Count` is the number of records, reduced into the field. -/
theorem count_eq (ds : DataStream α) : count ds = ds.length % scalarField := by
  have h := foldl_add_mod (ds.map fun _ => 1) 0
  rw [Nat.zero_mod, List.foldl_map, Nat.zero_add] at h
  simpa [count] using h

end Brevis
