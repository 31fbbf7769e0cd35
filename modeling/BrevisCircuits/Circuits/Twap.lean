import BrevisCircuits.Sdk.Api

/- The price-oracle circuits: uniswap-v2-twap and uniswap-v3-twap. They read a stream of
   two storage slots. `AssertEach` compares each slot's contract with the pair (pool)
   parameter and nothing else: the slot keys the circuits declare (`Slot_Price1CumulativeLast`,
   `Slot_Slot0`) are never read. The slot values are summed, the count is asserted to be
   2, the sum is bounded by `MinPrice` and `MaxPrice`, and `EndBlock - StartBlock`
   (field subtraction of two parameters) is output as the block range. The two circuits
   are the same program; they differ only in the name of the address parameter. -/
namespace Brevis

namespace Twap

/-- The predicate both circuits hand to `AssertEach`: the slot's contract is the pair. -/
def check (pairAddr : Uint248) (s : StorageSlot) : Circuit Bool := do
  let contractMatches := s.contract == pairAddr
  pure contractMatches

/-- The shared `Define`, for a circuit that allocates `capacity` slots. -/
def define (capacity : Nat) (pairAddr minPrice maxPrice startBlock endBlock : Uint248)
    (inp : DataInput) : Circuit (List Output) := do
  let slots ← newDataStream capacity inp.storageSlots
  assertEach slots (check pairAddr)
  let prices ← map slots fun s => toUint248 s.value
  let totalPrices := sum prices
  let slotCount := count slots
  assertIsEqual slotCount 2
  assertIsLessOrEqual minPrice.toNat totalPrices
  assertIsLessOrEqual totalPrices maxPrice.toNat
  let blockRange := Uint248API.sub endBlock.toNat startBlock.toNat
  commitOutputs [outputAddress pairAddr.toNat, outputUint 248 totalPrices,
    outputUint 248 minPrice.toNat, outputUint 248 maxPrice.toNat, outputUint 64 blockRange]

/-- The exact sum of the slot values. -/
def valueSum (B : List StorageSlot) : Nat := (B.map fun s => s.value.toNat).sum

/-- The output record of an accepted run over `B`. -/
def record (pairAddr minPrice maxPrice startBlock endBlock : Uint248) (B : List StorageSlot) :
    List Output :=
  [outputAddress pairAddr.toNat, outputUint 248 (valueSum B % scalarField),
    outputUint 248 minPrice.toNat, outputUint 248 maxPrice.toNat,
    outputUint 64 (Uint248API.sub endBlock.toNat startBlock.toNat)]

variable {p lo hi sb eb : Uint248} {cap : Nat} {inp : DataInput} {o : List Output}

theorem define_eq_ok :
    define cap p lo hi sb eb inp = .ok o ↔
      inp.storageSlots.length = cap ∧ (∀ s ∈ inp.storageSlots, s.contract = p) ∧
      (∀ s ∈ inp.storageSlots, s.value.toNat < 2 ^ 248) ∧
      inp.storageSlots.length % scalarField = 2 ∧
      lo.toNat ≤ valueSum inp.storageSlots % scalarField ∧
      valueSum inp.storageSlots % scalarField ≤ hi.toNat ∧
      (∀ x ∈ record p lo hi sb eb inp.storageSlots, x.value < 2 ^ x.bits) ∧
      o = record p lo hi sb eb inp.storageSlots := by
  simp only [define, newDataStream_assertEach_eq_ok]
  simp only [check, Circuit.pure_eq_ok, beq_iff_eq, Circuit.bind_eq_ok, assertIsEqual_eq_ok,
    assertIsLessOrEqual_eq_ok, commitOutputs_eq_ok, count_eq]
  constructor
  · rintro ⟨hlen, hall, ys, hys, -, h2, -, hlo, -, hhi, hout, rfl⟩
    rw [sum_of_map_toUint248 hys] at *
    exact ⟨hlen, hall, (map_toUint248_eq_ok.mp hys).1, h2, hlo, hhi, hout, rfl⟩
  · rintro ⟨hlen, hall, hlt, h2, hlo, hhi, hout, rfl⟩
    have hys := map_toUint248_ok (g := fun s : StorageSlot => s.value) hlt
    refine ⟨hlen, hall, _, hys, (), ?_⟩
    rw [sum_of_map_toUint248 hys]
    exact ⟨h2, (), hlo, (), hhi, hout, rfl⟩

end Twap

/-! ## `uniswap-v2-twap` -/

namespace UniswapV2Twap

structure AppCircuit where
  pairAddr : Uint248
  minPrice : Uint248
  maxPrice : Uint248
  startBlock : Uint248
  endBlock : Uint248

/-- The storage index of `price1CumulativeLast` in a Uniswap V2 pair. The circuit declares
it but never reads it. -/
def slotPrice1CumulativeLast : Nat := 9

def allocate : Allocation := ⟨0, 2, 0⟩

def AppCircuit.define (c : AppCircuit) (inp : DataInput) : Circuit (List Output) :=
  Twap.define allocate.maxStorage c.pairAddr c.minPrice c.maxPrice c.startBlock c.endBlock inp

end UniswapV2Twap

/-! ## `uniswap-v3-twap` -/

namespace UniswapV3Twap

structure AppCircuit where
  poolAddr : Uint248
  minPrice : Uint248
  maxPrice : Uint248
  startBlock : Uint248
  endBlock : Uint248

/-- The storage index of `slot0` in a Uniswap V3 pool. The circuit declares it but never
reads it. -/
def slotSlot0 : Nat := 0

def allocate : Allocation := ⟨0, 2, 0⟩

def AppCircuit.define (c : AppCircuit) (inp : DataInput) : Circuit (List Output) :=
  Twap.define allocate.maxStorage c.poolAddr c.minPrice c.maxPrice c.startBlock c.endBlock inp

end UniswapV3Twap

end Brevis
