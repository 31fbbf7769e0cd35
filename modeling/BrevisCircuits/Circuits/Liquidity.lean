import BrevisCircuits.Sdk.Api

/- The liquidity-provider circuits: uniswap-v2-lp, sushiswap-lp and pancakeswap-lp. All
   three read the Uniswap V2 `Mint(address indexed sender, uint amount0, uint amount1)`
   event of one pair and differ only in the pair: field 0 is the sender (topic 1), which
   must be `UserAddr`, fields 1 and 2 the amounts (data fields 0 and 1). Each amount is
   summed and compared with its own threshold, and `[UserAddr, total0, total1, count]`
   is output. `LiquidityLayout.define_eq_ok` says exactly which runs accept. -/
namespace Brevis

/-- The pair and the event a liquidity circuit reads. -/
structure LiquidityLayout where
  contract : Uint248
  eventId : Uint248

namespace LiquidityLayout

variable (L : LiquidityLayout)

/-- The predicate the circuits hand to `AssertEach`. -/
def check (userAddr : Uint248) (r : Receipt) : Circuit Bool := do
  let contractMatches :=
    (r.fields 0).contract == L.contract && (r.fields 1).contract == L.contract &&
    (r.fields 2).contract == L.contract
  let eventIdMatches :=
    (r.fields 0).eventID == L.eventId && (r.fields 1).eventID == L.eventId &&
    (r.fields 2).eventID == L.eventId
  let fieldIndicesCorrect :=
    (r.fields 0).isTopic && (r.fields 0).index == 1 &&
    !(r.fields 1).isTopic && (r.fields 1).index == 0 &&
    !(r.fields 2).isTopic && (r.fields 2).index == 1
  let userMatches := (← toUint248 (r.fields 0).value) == userAddr
  pure (contractMatches && eventIdMatches && fieldIndicesCorrect && userMatches)

/-- The part of `Define` after `AssertEach`. -/
def aggregate (userAddr minLiquidityV0 minLiquidityV1 : Uint248)
    (receipts : DataStream Receipt) : Circuit (List Output) := do
  let liquidityToken0 ← map receipts fun r => toUint248 (r.fields 1).value
  let liquidityToken1 ← map receipts fun r => toUint248 (r.fields 2).value
  let totalLiquidityToken0 := sum liquidityToken0
  let totalLiquidityToken1 := sum liquidityToken1
  assertIsLessOrEqual minLiquidityV0.toNat totalLiquidityToken0
  assertIsLessOrEqual minLiquidityV1.toNat totalLiquidityToken1
  let mintCount := count receipts
  commitOutputs [outputAddress userAddr.toNat, outputUint 248 totalLiquidityToken0,
    outputUint 248 totalLiquidityToken1, outputUint 64 mintCount]

/-- The shared `Define`, for a circuit that allocates `capacity` receipts. -/
def define (capacity : Nat) (userAddr minLiquidityV0 minLiquidityV1 : Uint248)
    (inp : DataInput) : Circuit (List Output) := do
  let receipts ← newDataStream capacity inp.receipts
  assertEach receipts (L.check userAddr)
  aggregate userAddr minLiquidityV0 minLiquidityV1 receipts

/-- A receipt `check` accepts. -/
def Matches (userAddr : Uint248) (r : Receipt) : Prop :=
  (r.fields 0).contract = L.contract ∧ (r.fields 1).contract = L.contract ∧
  (r.fields 2).contract = L.contract ∧
  (r.fields 0).eventID = L.eventId ∧ (r.fields 1).eventID = L.eventId ∧
  (r.fields 2).eventID = L.eventId ∧
  (r.fields 0).isTopic = true ∧ (r.fields 0).index = 1 ∧
  (r.fields 1).isTopic = false ∧ (r.fields 1).index = 0 ∧
  (r.fields 2).isTopic = false ∧ (r.fields 2).index = 1 ∧
  (r.fields 0).value.toNat = userAddr.toNat

/-- The output record of an accepted run over `B`. -/
def record (userAddr : Uint248) (B : List Receipt) : List Output :=
  [outputAddress userAddr.toNat, outputUint 248 (fieldSum 1 B % scalarField),
    outputUint 248 (fieldSum 2 B % scalarField), outputUint 64 (B.length % scalarField)]

variable {L} {u m₀ m₁ : Uint248} {r : Receipt}

theorem check_eq_ok_true : L.check u r = .ok true ↔ L.Matches u r := by
  simp only [check, Matches, Circuit.bind_eq_ok, Circuit.pure_eq_ok, toUint248_eq_ok_iff_toNat,
    Bool.and_eq_true, beq_iff_eq, Bool.not_eq_true', exists_eq_right_right]
  tauto

theorem aggregate_eq_ok {B : List Receipt} {o : List Output} :
    aggregate u m₀ m₁ B = .ok o ↔
      (∀ r ∈ B, (r.fields 1).value.toNat < 2 ^ 248) ∧
      (∀ r ∈ B, (r.fields 2).value.toNat < 2 ^ 248) ∧
      m₀.toNat ≤ fieldSum 1 B % scalarField ∧ m₁.toNat ≤ fieldSum 2 B % scalarField ∧
      (∀ x ∈ record u B, x.value < 2 ^ x.bits) ∧ o = record u B := by
  simp only [aggregate, Circuit.bind_eq_ok, assertIsLessOrEqual_eq_ok, commitOutputs_eq_ok,
    count_eq]
  constructor
  · rintro ⟨ys, hys, zs, hzs, -, h₀, -, h₁, hout, rfl⟩
    rw [sum_of_map_toUint248 hys, sum_of_map_toUint248 hzs] at *
    exact ⟨(map_toUint248_eq_ok.mp hys).1, (map_toUint248_eq_ok.mp hzs).1, h₀, h₁, hout, rfl⟩
  · rintro ⟨hlt₀, hlt₁, h₀, h₁, hout, rfl⟩
    have hys := map_toUint248_ok (g := fun r : Receipt => (r.fields 1).value) hlt₀
    have hzs := map_toUint248_ok (g := fun r : Receipt => (r.fields 2).value) hlt₁
    refine ⟨_, hys, _, hzs, (), ?_⟩
    rw [sum_of_map_toUint248 hys, sum_of_map_toUint248 hzs]
    exact ⟨h₀, (), h₁, hout, rfl⟩

theorem define_eq_ok {cap : Nat} {inp : DataInput} {o : List Output} :
    L.define cap u m₀ m₁ inp = .ok o ↔
      inp.receipts.length = cap ∧ (∀ r ∈ inp.receipts, L.Matches u r) ∧
      aggregate u m₀ m₁ inp.receipts = .ok o := by
  simp only [define, newDataStream_assertEach_eq_ok, check_eq_ok_true]

/-- A receipt of one honest `Mint` by `u` of `amount0` and `amount1`. -/
def honestReceipt (L : LiquidityLayout) (u : Uint248) (amount0 amount1 : Bytes32) : Receipt where
  blockNum := 1
  mptKeyPath := 0
  fields := ![⟨L.contract, 0, L.eventId, true, 1, toBytes32 u⟩,
    ⟨L.contract, 0, L.eventId, false, 0, amount0⟩, ⟨L.contract, 0, L.eventId, false, 1, amount1⟩,
    default]

end LiquidityLayout

/-! ## `uniswap-v2-lp` -/

namespace UniswapV2Lp

structure AppCircuit where
  userAddr : Uint248
  minLiquidityV0 : Uint248
  minLiquidityV1 : Uint248

/-- `Mint(address,uint256,uint256)` of Uniswap V2 and its forks. -/
def eventIdMint : Uint248 :=
  parseEventID 0x4c209b5fc8ad50758f13e2e1088ba56a560dff690a1c6fef26394f4c03821c4f

/-- The Uniswap V2 USDC/WETH pair. -/
def usdcWethPair : Uint248 := 0xB4e16d0168e52d35CaCD2c6185b44281Ec28C9Dc#248

def allocate : Allocation := ⟨20, 0, 0⟩

def layout : LiquidityLayout := ⟨usdcWethPair, eventIdMint⟩

def AppCircuit.define (c : AppCircuit) (inp : DataInput) : Circuit (List Output) :=
  layout.define allocate.maxReceipts c.userAddr c.minLiquidityV0 c.minLiquidityV1 inp

example : AppCircuit.define ⟨7, 40, 60⟩ ⟨List.replicate 20 (layout.honestReceipt 7 2 3), []⟩ =
    .ok [outputAddress 7, outputUint 248 40, outputUint 248 60, outputUint 64 20] := by
  decide

end UniswapV2Lp

/-! ## `sushiswap-lp` -/

namespace SushiswapLp

structure AppCircuit where
  userAddr : Uint248
  minLiquidityV0 : Uint248
  minLiquidityV1 : Uint248

/-- `Mint(address,uint256,uint256)` of Uniswap V2 and its forks. -/
def eventIdMint : Uint248 :=
  parseEventID 0x4c209b5fc8ad50758f13e2e1088ba56a560dff690a1c6fef26394f4c03821c4f

/-- The SushiSwap USDC/WETH pair. -/
def usdcWethPair : Uint248 := 0x397FF1542f962076d0BFE58eA045FfA2d347ACa0#248

def allocate : Allocation := ⟨20, 0, 0⟩

def layout : LiquidityLayout := ⟨usdcWethPair, eventIdMint⟩

def AppCircuit.define (c : AppCircuit) (inp : DataInput) : Circuit (List Output) :=
  layout.define allocate.maxReceipts c.userAddr c.minLiquidityV0 c.minLiquidityV1 inp

end SushiswapLp

/-! ## `pancakeswap-lp` -/

namespace PancakeswapLp

structure AppCircuit where
  userAddr : Uint248
  minLiquidityV0 : Uint248
  minLiquidityV1 : Uint248

/-- `Mint(address,uint256,uint256)` of Uniswap V2 and its forks. -/
def eventIdMint : Uint248 :=
  parseEventID 0x4c209b5fc8ad50758f13e2e1088ba56a560dff690a1c6fef26394f4c03821c4f

/-- The PancakeSwap BUSD/WBNB pair. -/
def busdWbnbPair : Uint248 := 0x58F876857a02D6762E0101bb5C46A8c1ED44Dc16#248

def allocate : Allocation := ⟨20, 0, 0⟩

def layout : LiquidityLayout := ⟨busdWbnbPair, eventIdMint⟩

def AppCircuit.define (c : AppCircuit) (inp : DataInput) : Circuit (List Output) :=
  layout.define allocate.maxReceipts c.userAddr c.minLiquidityV0 c.minLiquidityV1 inp

end PancakeswapLp

end Brevis
