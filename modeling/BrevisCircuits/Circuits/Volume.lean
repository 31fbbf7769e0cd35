import BrevisCircuits.Sdk.Api

/- The receipt circuits that prove one total: sushiswap, pancakeswap, curve-stableswap,
   uniswap-v3, polygon-bridge, compound and aave. Their `Define`s are one program over
   different constants. Every receipt tracks two fields of one event, field 0 the amount
   (a data field) and field 1 the user (a topic or a data field); `AssertEach` checks both
   fields' contract and event id, their positions, and that the user field holds
   `UserAddr`; the amounts are summed, the sum is compared with the threshold, and
   `[UserAddr, total, threshold, count]` is output.

   `VolumeLayout` is what differs between them, `VolumeLayout.define` the shared program,
   and each circuit's `AppCircuit.define` is that program at the circuit's own constants.
   `VolumeLayout.define_eq_ok` says exactly which runs accept and what they output; every
   later statement about these circuits is read off it. -/
namespace Brevis

/-- What a single-total receipt circuit declares: the contract and event of both tracked
fields, the data index of the amount, and the kind and index of the user field. -/
structure VolumeLayout where
  contract : Uint248
  eventId : Uint248
  amountIndex : Uint248
  userIsTopic : Bool
  userIndex : Uint248

namespace VolumeLayout

variable (L : VolumeLayout)

/-- The predicate the circuits hand to `AssertEach`. -/
def check (userAddr : Uint248) (r : Receipt) : Circuit Bool := do
  let contractMatches :=
    (r.fields 0).contract == L.contract && (r.fields 1).contract == L.contract
  let eventIdMatches := (r.fields 0).eventID == L.eventId && (r.fields 1).eventID == L.eventId
  let fieldIndicesCorrect :=
    !(r.fields 0).isTopic && (r.fields 0).index == L.amountIndex &&
    (r.fields 1).isTopic == L.userIsTopic && (r.fields 1).index == L.userIndex
  let userMatches := (← toUint248 (r.fields 1).value) == userAddr
  pure (contractMatches && eventIdMatches && fieldIndicesCorrect && userMatches)

/-- The part of `Define` after `AssertEach`: extract the amounts, sum them, assert the
threshold, count the receipts and output. Balancer-weighted shares it. -/
def aggregate (userAddr minVolume : Uint248) (receipts : DataStream Receipt) :
    Circuit (List Output) := do
  let volumes ← map receipts fun r => toUint248 (r.fields 0).value
  let totalVolume := sum volumes
  assertIsLessOrEqual minVolume.toNat totalVolume
  let swapCount := count receipts
  commitOutputs [outputAddress userAddr.toNat, outputUint 248 totalVolume,
    outputUint 248 minVolume.toNat, outputUint 64 swapCount]

/-- The shared `Define`, for a circuit that allocates `capacity` receipts. -/
def define (capacity : Nat) (userAddr minVolume : Uint248) (inp : DataInput) :
    Circuit (List Output) := do
  let receipts ← newDataStream capacity inp.receipts
  assertEach receipts (L.check userAddr)
  aggregate userAddr minVolume receipts

/-- A receipt `check` accepts: both fields carry the declared contract and event, sit at the
declared positions, and the user field holds `userAddr`. -/
def Matches (userAddr : Uint248) (r : Receipt) : Prop :=
  (r.fields 0).contract = L.contract ∧ (r.fields 1).contract = L.contract ∧
  (r.fields 0).eventID = L.eventId ∧ (r.fields 1).eventID = L.eventId ∧
  (r.fields 0).isTopic = false ∧ (r.fields 0).index = L.amountIndex ∧
  (r.fields 1).isTopic = L.userIsTopic ∧ (r.fields 1).index = L.userIndex ∧
  (r.fields 1).value.toNat = userAddr.toNat

/-- The output record of an accepted run over `B`. -/
def record (userAddr minVolume : Uint248) (B : List Receipt) : List Output :=
  [outputAddress userAddr.toNat, outputUint 248 (fieldSum 0 B % scalarField),
    outputUint 248 minVolume.toNat, outputUint 64 (B.length % scalarField)]

variable {L} {u m : Uint248} {r : Receipt}

theorem check_eq_ok_true : L.check u r = .ok true ↔ L.Matches u r := by
  simp only [check, Matches, Circuit.bind_eq_ok, Circuit.pure_eq_ok, toUint248_eq_ok_iff_toNat,
    Bool.and_eq_true, beq_iff_eq, Bool.not_eq_true', exists_eq_right_right]
  tauto

theorem aggregate_eq_ok {B : List Receipt} {o : List Output} :
    aggregate u m B = .ok o ↔
      (∀ r ∈ B, (r.fields 0).value.toNat < 2 ^ 248) ∧ m.toNat ≤ fieldSum 0 B % scalarField ∧
      (∀ x ∈ record u m B, x.value < 2 ^ x.bits) ∧ o = record u m B := by
  simp only [aggregate, Circuit.bind_eq_ok, assertIsLessOrEqual_eq_ok, commitOutputs_eq_ok,
    count_eq]
  constructor
  · rintro ⟨ys, hys, -, hmin, hout, rfl⟩
    rw [sum_of_map_toUint248 hys] at hmin hout ⊢
    exact ⟨(map_toUint248_eq_ok.mp hys).1, hmin, hout, rfl⟩
  · rintro ⟨hlt, hmin, hout, rfl⟩
    have hys := map_toUint248_ok (g := fun r : Receipt => (r.fields 0).value) hlt
    refine ⟨_, hys, (), ?_⟩
    rw [sum_of_map_toUint248 hys]
    exact ⟨hmin, hout, rfl⟩

theorem define_eq_ok {cap : Nat} {inp : DataInput} {o : List Output} :
    L.define cap u m inp = .ok o ↔
      inp.receipts.length = cap ∧ (∀ r ∈ inp.receipts, L.Matches u r) ∧
      aggregate u m inp.receipts = .ok o := by
  simp only [define, newDataStream_assertEach_eq_ok, check_eq_ok_true]

/-- A receipt of one honest log of the layout's event: amount `amount`, user `u`. -/
def honestReceipt (L : VolumeLayout) (u : Uint248) (amount : Bytes32) : Receipt where
  blockNum := 1
  mptKeyPath := 0
  fields := ![⟨L.contract, 0, L.eventId, false, L.amountIndex, amount⟩,
    ⟨L.contract, 0, L.eventId, L.userIsTopic, L.userIndex, toBytes32 u⟩, default, default]

end VolumeLayout

/-! ## `sushiswap`: SushiSwap trading volume -/

namespace Sushiswap

structure AppCircuit where
  userAddr : Uint248
  minVolume : Uint248

/-- `Swap(address,uint256,uint256,uint256,uint256,address)` of Uniswap V2 and its forks. -/
def eventIdSwap : Uint248 := parseEventID 0xd78ad95fa46c994b6551d0da85fc275fe613ce37657fb8d5e3d130840159d822

/-- The SushiSwap USDC/WETH pair. -/
def usdcWethPair : Uint248 := 0x397FF1542f962076d0BFE58eA045FfA2d347ACa0#248

def allocate : Allocation := ⟨50, 0, 0⟩

def layout : VolumeLayout := ⟨usdcWethPair, eventIdSwap, 3, true, 2⟩

/-- `Define`: the amount is `amount1Out` (data field 3), the user is `to` (topic 2). -/
def AppCircuit.define (c : AppCircuit) (inp : DataInput) : Circuit (List Output) :=
  layout.define allocate.maxReceipts c.userAddr c.minVolume inp

example : AppCircuit.define ⟨7, 100⟩ ⟨List.replicate 50 (layout.honestReceipt 7 3), []⟩ =
    .ok [outputAddress 7, outputUint 248 150, outputUint 248 100, outputUint 64 50] := by
  decide

end Sushiswap

/-! ## `pancakeswap`: PancakeSwap V2 trading volume (BSC) -/

namespace Pancakeswap

structure AppCircuit where
  userAddr : Uint248
  minVolume : Uint248

/-- `Swap` of PancakeSwap V2, the Uniswap V2 event. -/
def eventIdSwap : Uint248 := parseEventID 0xd78ad95fa46c994b6551d0da85fc275fe613ce37657fb8d5e3d130840159d822

/-- The PancakeSwap BUSD/WBNB pair. -/
def busdWbnbPair : Uint248 := 0x58F876857a02D6762E0101bb5C46A8c1ED44Dc16#248

def allocate : Allocation := ⟨50, 0, 0⟩

def layout : VolumeLayout := ⟨busdWbnbPair, eventIdSwap, 3, true, 2⟩

/-- `Define`: the amount is `amount1Out` (data field 3), the user is `to` (topic 2). -/
def AppCircuit.define (c : AppCircuit) (inp : DataInput) : Circuit (List Output) :=
  layout.define allocate.maxReceipts c.userAddr c.minVolume inp

end Pancakeswap

/-! ## `curvestableswap`: Curve 3pool exchange volume -/

namespace CurveStableswap

structure AppCircuit where
  userAddr : Uint248
  minVolume : Uint248

/-- `TokenExchange(address,int128,uint256,int128,uint256)`. -/
def eventIdTokenExchange : Uint248 := parseEventID 0x8b3e96f2b889fa771c53c981b40daf005f63f637f1869f707052d15a3dd97140

/-- The Curve 3pool. -/
def threePoolAddress : Uint248 := 0xbEbc44782C7dB0a1A60Cb6fe97d0b483032FF1C7#248

def allocate : Allocation := ⟨50, 0, 0⟩

def layout : VolumeLayout := ⟨threePoolAddress, eventIdTokenExchange, 3, true, 1⟩

/-- `Define`: the amount is `tokens_bought` (data field 3), the user is `buyer` (topic 1). -/
def AppCircuit.define (c : AppCircuit) (inp : DataInput) : Circuit (List Output) :=
  layout.define allocate.maxReceipts c.userAddr c.minVolume inp

end CurveStableswap

/-! ## `uniswapv3`: Uniswap V3 trading volume -/

namespace UniswapV3

structure AppCircuit where
  userAddr : Uint248
  minVolume : Uint248

/-- `Swap(address,address,int256,int256,uint160,uint128,int24)` of Uniswap V3. -/
def eventIdSwap : Uint248 := parseEventID 0xc42079f94a6350d7e6235f29174924f928cc2ac818eb64fed8004e115fbcca67

/-- The 0.05% USDC/WETH pool. -/
def usdcWethPool005 : Uint248 := 0x88e6A0c2dDD26FEEb64F039a2c41296FcB3f5640#248

def allocate : Allocation := ⟨50, 0, 0⟩

def layout : VolumeLayout := ⟨usdcWethPool005, eventIdSwap, 1, true, 2⟩

/-- `Define`: the amount is `amount1` (data field 1, an `int256` read as it is), the user is `recipient` (topic 2). -/
def AppCircuit.define (c : AppCircuit) (inp : DataInput) : Circuit (List Output) :=
  layout.define allocate.maxReceipts c.userAddr c.minVolume inp

end UniswapV3

/-! ## `polygonbridge`: Ethereum → Polygon bridge deposits -/

namespace PolygonBridge

structure AppCircuit where
  userAddr : Uint248
  minBridgeAmount : Uint248

/-- `LockedEther(address,address,address,uint256)` of the RootChainManager. -/
def eventIdLockedEther : Uint248 := parseEventID 0x9b217a401a5ddf7c4d474074aff9958a18d48690d77cc2151c4706aa7348b401

/-- The Polygon PoS RootChainManager. -/
def rootChainManager : Uint248 := 0xA0c68C638235ee32657e8f720a23ceC1bFc77C77#248

def allocate : Allocation := ⟨30, 0, 0⟩

def layout : VolumeLayout := ⟨rootChainManager, eventIdLockedEther, 0, true, 1⟩

/-- `Define`: the amount is `amount` (data field 0), the user is `depositor` (topic 1). -/
def AppCircuit.define (c : AppCircuit) (inp : DataInput) : Circuit (List Output) :=
  layout.define allocate.maxReceipts c.userAddr c.minBridgeAmount inp

end PolygonBridge

/-! ## `compound`: Compound V2 supply -/

namespace Compound

structure AppCircuit where
  userAddr : Uint248
  minSupply : Uint248

/-- `Mint(address,uint256,uint256)` of a cToken. -/
def eventIdMint : Uint248 := parseEventID 0x4c209b5fc8ad50758f13e2e1088ba56a560dff690a1c6fef26394f4c03821c4f

/-- cUSDC. -/
def cUsdcAddress : Uint248 := 0x39AA39c021dfbaE8faC545936693aC917d5E7563#248

def allocate : Allocation := ⟨30, 0, 0⟩

def layout : VolumeLayout := ⟨cUsdcAddress, eventIdMint, 1, false, 0⟩

/-- `Define`: the amount is `mintAmount` (data field 1), the user is `minter` (data field 0). -/
def AppCircuit.define (c : AppCircuit) (inp : DataInput) : Circuit (List Output) :=
  layout.define allocate.maxReceipts c.userAddr c.minSupply inp

end Compound

/-! ## `aave`: Aave V3 deposits -/

namespace Aave

structure AppCircuit where
  userAddr : Uint248
  minDeposit : Uint248

/-- `Supply(address,address,address,uint256,uint16)` of the Aave V3 pool. -/
def eventIdSupply : Uint248 := parseEventID 0x2b627736bca15cd5381dcf80b0bf11fd197d01a037c52b927a881a10fb73ba61

/-- The Aave V3 pool. -/
def poolAddress : Uint248 := 0x87870Bca3F3fD6335C3F4ce8392D69350B4fA4E2#248

def allocate : Allocation := ⟨30, 0, 0⟩

def layout : VolumeLayout := ⟨poolAddress, eventIdSupply, 1, false, 0⟩

/-- `Define`: the amount is `amount` (data field 1), the user is `user` (data field 0). -/
def AppCircuit.define (c : AppCircuit) (inp : DataInput) : Circuit (List Output) :=
  layout.define allocate.maxReceipts c.userAddr c.minDeposit inp

end Aave

/-! ## `balancer-weighted`: Balancer V2 swap volume

Its `AssertEach` predicate has no user field: it keeps its own body. -/

namespace BalancerWeighted

structure AppCircuit where
  userAddr : Uint248
  minVolume : Uint248

/-- `Swap(bytes32,address,address,uint256,uint256)` of the Balancer V2 vault. -/
def eventIdSwap : Uint248 :=
  parseEventID 0x2170c741c41531aec20e7c107c24eecfdd15e69c9bb0a8dd37b1840b9e0b207b

/-- The Balancer V2 vault. -/
def vaultAddress : Uint248 := 0xBA12222222228d8Ba445958a75a0704d566BF2C8#248

def allocate : Allocation := ⟨50, 0, 0⟩

/-- The `AssertEach` predicate: field 0 is `amountOut` (data field 1), field 1 `tokenOut`
(topic 3); no field is compared with `UserAddr`. -/
def check (r : Receipt) : Circuit Bool := do
  let contractMatches :=
    (r.fields 0).contract == vaultAddress && (r.fields 1).contract == vaultAddress
  let eventIdMatches := (r.fields 0).eventID == eventIdSwap && (r.fields 1).eventID == eventIdSwap
  let fieldIndicesCorrect :=
    !(r.fields 0).isTopic && (r.fields 0).index == 1 &&
    (r.fields 1).isTopic && (r.fields 1).index == 3
  pure (contractMatches && eventIdMatches && fieldIndicesCorrect)

def AppCircuit.define (c : AppCircuit) (inp : DataInput) : Circuit (List Output) := do
  let receipts ← newDataStream allocate.maxReceipts inp.receipts
  assertEach receipts check
  VolumeLayout.aggregate c.userAddr c.minVolume receipts

/-- A receipt `check` accepts. -/
def Matches (r : Receipt) : Prop :=
  (r.fields 0).contract = vaultAddress ∧ (r.fields 1).contract = vaultAddress ∧
  (r.fields 0).eventID = eventIdSwap ∧ (r.fields 1).eventID = eventIdSwap ∧
  (r.fields 0).isTopic = false ∧ (r.fields 0).index = 1 ∧
  (r.fields 1).isTopic = true ∧ (r.fields 1).index = 3

theorem check_eq_ok_true {r : Receipt} : check r = .ok true ↔ Matches r := by
  simp only [check, Matches, Circuit.pure_eq_ok, Bool.and_eq_true, beq_iff_eq,
    Bool.not_eq_true']
  tauto

theorem define_eq_ok {c : AppCircuit} {inp : DataInput} {o : List Output} :
    c.define inp = .ok o ↔
      inp.receipts.length = 50 ∧ (∀ r ∈ inp.receipts, Matches r) ∧
      VolumeLayout.aggregate c.userAddr c.minVolume inp.receipts = .ok o := by
  simp only [AppCircuit.define, newDataStream_assertEach_eq_ok, check_eq_ok_true]; rfl

/-- A receipt of one honest vault `Swap`: `amountOut` is `amount`. -/
def honestReceipt (amount : Bytes32) : Receipt where
  blockNum := 1
  mptKeyPath := 0
  fields := ![⟨vaultAddress, 0, eventIdSwap, false, 1, amount⟩,
    ⟨vaultAddress, 0, eventIdSwap, true, 3, 0⟩, default, default]

end BalancerWeighted

end Brevis
