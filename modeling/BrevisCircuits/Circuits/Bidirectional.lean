import BrevisCircuits.Sdk.Api

/- The bidirectional volume circuits: uniswap-v2-bidirectional and
   sushiswap-bidirectional. Both read the Uniswap V2 `Swap` event of one pair and track
   four fields: `amount1In` (data field 1), `amount1Out` (data field 3), `sender`
   (topic 1) and `to` (topic 2). A receipt is accepted when the sender OR the recipient
   is `UserAddr`; both directions are summed, each against its own threshold, and their
   sum `totalVolume` is output with them. Both address fields go through `ToUint248`
   before they are compared, so both must be 248-bit words even when only one of them is
   the user (`BidirectionalLayout.Matches`). -/
namespace Brevis

/-- The pair and the event a bidirectional circuit reads. -/
structure BidirectionalLayout where
  contract : Uint248
  eventId : Uint248

namespace BidirectionalLayout

variable (L : BidirectionalLayout)

/-- The predicate the circuits hand to `AssertEach`. -/
def check (userAddr : Uint248) (r : Receipt) : Circuit Bool := do
  let contractMatches :=
    (r.fields 0).contract == L.contract && (r.fields 1).contract == L.contract &&
    (r.fields 2).contract == L.contract && (r.fields 3).contract == L.contract
  let eventIdMatches :=
    (r.fields 0).eventID == L.eventId && (r.fields 1).eventID == L.eventId &&
    (r.fields 2).eventID == L.eventId && (r.fields 3).eventID == L.eventId
  let fieldIndicesCorrect :=
    !(r.fields 0).isTopic && (r.fields 0).index == 1 &&
    !(r.fields 1).isTopic && (r.fields 1).index == 3 &&
    (r.fields 2).isTopic && (r.fields 2).index == 1 &&
    (r.fields 3).isTopic && (r.fields 3).index == 2
  let senderMatches := (← toUint248 (r.fields 2).value) == userAddr
  let recipientMatches := (← toUint248 (r.fields 3).value) == userAddr
  let userMatches := senderMatches || recipientMatches
  pure (contractMatches && eventIdMatches && fieldIndicesCorrect && userMatches)

/-- The part of `Define` after `AssertEach`. -/
def aggregate (userAddr minVolumeIn minVolumeOut : Uint248) (receipts : DataStream Receipt) :
    Circuit (List Output) := do
  let volumesIn ← map receipts fun r => toUint248 (r.fields 0).value
  let volumesOut ← map receipts fun r => toUint248 (r.fields 1).value
  let totalVolumeIn := sum volumesIn
  let totalVolumeOut := sum volumesOut
  assertIsLessOrEqual minVolumeIn.toNat totalVolumeIn
  assertIsLessOrEqual minVolumeOut.toNat totalVolumeOut
  let totalVolume := Uint248API.add totalVolumeIn totalVolumeOut
  let swapCount := count receipts
  commitOutputs [outputAddress userAddr.toNat, outputUint 248 totalVolumeIn,
    outputUint 248 totalVolumeOut, outputUint 248 totalVolume, outputUint 64 swapCount]

/-- The shared `Define`, for a circuit that allocates `capacity` receipts. -/
def define (capacity : Nat) (userAddr minVolumeIn minVolumeOut : Uint248) (inp : DataInput) :
    Circuit (List Output) := do
  let receipts ← newDataStream capacity inp.receipts
  assertEach receipts (L.check userAddr)
  aggregate userAddr minVolumeIn minVolumeOut receipts

/-- A receipt `check` accepts: all four fields at the declared provenance, both address
words of 248 bits, and one of them `userAddr`. -/
def Matches (userAddr : Uint248) (r : Receipt) : Prop :=
  (r.fields 0).contract = L.contract ∧ (r.fields 1).contract = L.contract ∧
  (r.fields 2).contract = L.contract ∧ (r.fields 3).contract = L.contract ∧
  (r.fields 0).eventID = L.eventId ∧ (r.fields 1).eventID = L.eventId ∧
  (r.fields 2).eventID = L.eventId ∧ (r.fields 3).eventID = L.eventId ∧
  (r.fields 0).isTopic = false ∧ (r.fields 0).index = 1 ∧
  (r.fields 1).isTopic = false ∧ (r.fields 1).index = 3 ∧
  (r.fields 2).isTopic = true ∧ (r.fields 2).index = 1 ∧
  (r.fields 3).isTopic = true ∧ (r.fields 3).index = 2 ∧
  (r.fields 2).value.toNat < 2 ^ 248 ∧ (r.fields 3).value.toNat < 2 ^ 248 ∧
  ((r.fields 2).value.toNat = userAddr.toNat ∨ (r.fields 3).value.toNat = userAddr.toNat)

/-- The output record of an accepted run over `B`. -/
def record (userAddr : Uint248) (B : List Receipt) : List Output :=
  [outputAddress userAddr.toNat, outputUint 248 (fieldSum 0 B % scalarField),
    outputUint 248 (fieldSum 1 B % scalarField),
    outputUint 248 (Uint248API.add (fieldSum 0 B % scalarField) (fieldSum 1 B % scalarField)),
    outputUint 64 (B.length % scalarField)]

variable {L} {u m₀ m₁ : Uint248} {r : Receipt}

theorem check_eq_ok_true : L.check u r = .ok true ↔ L.Matches u r := by
  simp only [check, Matches, Circuit.bind_eq_ok, Circuit.pure_eq_ok, toUint248_eq_ok,
    Bool.and_eq_true, Bool.or_eq_true, beq_iff_eq, Bool.not_eq_true']
  constructor
  · rintro ⟨w₂, ⟨hlt₂, hw₂⟩, w₃, ⟨hlt₃, hw₃⟩, h⟩
    rw [BitVec.toNat_eq (x := w₂), BitVec.toNat_eq (x := w₃), hw₂, hw₃] at h
    tauto
  · intro h
    obtain ⟨hlt₂, hlt₃⟩ : (r.fields 2).value.toNat < 2 ^ 248 ∧
        (r.fields 3).value.toNat < 2 ^ 248 := by tauto
    refine ⟨_, ⟨hlt₂, toNat_setWidth_of_lt hlt₂⟩, _, ⟨hlt₃, toNat_setWidth_of_lt hlt₃⟩, ?_⟩
    rw [BitVec.toNat_eq (x := (r.fields 2).value.setWidth 248),
      BitVec.toNat_eq (x := (r.fields 3).value.setWidth 248), toNat_setWidth_of_lt hlt₂,
      toNat_setWidth_of_lt hlt₃]
    tauto

theorem aggregate_eq_ok {B : List Receipt} {o : List Output} :
    aggregate u m₀ m₁ B = .ok o ↔
      (∀ r ∈ B, (r.fields 0).value.toNat < 2 ^ 248) ∧
      (∀ r ∈ B, (r.fields 1).value.toNat < 2 ^ 248) ∧
      m₀.toNat ≤ fieldSum 0 B % scalarField ∧ m₁.toNat ≤ fieldSum 1 B % scalarField ∧
      (∀ x ∈ record u B, x.value < 2 ^ x.bits) ∧ o = record u B := by
  simp only [aggregate, Circuit.bind_eq_ok, assertIsLessOrEqual_eq_ok, commitOutputs_eq_ok,
    count_eq]
  constructor
  · rintro ⟨ys, hys, zs, hzs, -, h₀, -, h₁, hout, rfl⟩
    rw [sum_of_map_toUint248 hys, sum_of_map_toUint248 hzs] at *
    exact ⟨(map_toUint248_eq_ok.mp hys).1, (map_toUint248_eq_ok.mp hzs).1, h₀, h₁, hout, rfl⟩
  · rintro ⟨hlt₀, hlt₁, h₀, h₁, hout, rfl⟩
    have hys := map_toUint248_ok (g := fun r : Receipt => (r.fields 0).value) hlt₀
    have hzs := map_toUint248_ok (g := fun r : Receipt => (r.fields 1).value) hlt₁
    refine ⟨_, hys, _, hzs, (), ?_⟩
    rw [sum_of_map_toUint248 hys, sum_of_map_toUint248 hzs]
    exact ⟨h₀, (), h₁, hout, rfl⟩

theorem define_eq_ok {cap : Nat} {inp : DataInput} {o : List Output} :
    L.define cap u m₀ m₁ inp = .ok o ↔
      inp.receipts.length = cap ∧ (∀ r ∈ inp.receipts, L.Matches u r) ∧
      aggregate u m₀ m₁ inp.receipts = .ok o := by
  simp only [define, newDataStream_assertEach_eq_ok, check_eq_ok_true]

/-- A receipt of one honest `Swap` sent by `u` to the zero address, with `amountIn` and
`amountOut` as `amount1In` and `amount1Out`. -/
def honestReceipt (L : BidirectionalLayout) (u : Uint248) (amountIn amountOut : Bytes32) :
    Receipt where
  blockNum := 1
  mptKeyPath := 0
  fields := ![⟨L.contract, 0, L.eventId, false, 1, amountIn⟩,
    ⟨L.contract, 0, L.eventId, false, 3, amountOut⟩, ⟨L.contract, 0, L.eventId, true, 1, toBytes32 u⟩,
    ⟨L.contract, 0, L.eventId, true, 2, 0⟩]

end BidirectionalLayout

/-! ## `uniswap-v2-bidirectional` -/

namespace UniswapV2Bidirectional

structure AppCircuit where
  userAddr : Uint248
  minVolumeIn : Uint248
  minVolumeOut : Uint248

/-- `Swap(address,uint256,uint256,uint256,uint256,address)` of Uniswap V2. -/
def eventIdSwap : Uint248 :=
  parseEventID 0xd78ad95fa46c994b6551d0da85fc275fe613ce37657fb8d5e3d130840159d822

/-- The Uniswap V2 USDC/WETH pair. -/
def usdcWethPair : Uint248 := 0xB4e16d0168e52d35CaCD2c6185b44281Ec28C9Dc#248

def allocate : Allocation := ⟨50, 0, 0⟩

def layout : BidirectionalLayout := ⟨usdcWethPair, eventIdSwap⟩

def AppCircuit.define (c : AppCircuit) (inp : DataInput) : Circuit (List Output) :=
  layout.define allocate.maxReceipts c.userAddr c.minVolumeIn c.minVolumeOut inp

example : AppCircuit.define ⟨7, 100, 50⟩ ⟨List.replicate 50 (layout.honestReceipt 7 2 1), []⟩ =
    .ok [outputAddress 7, outputUint 248 100, outputUint 248 50, outputUint 248 150,
      outputUint 64 50] := by
  decide

end UniswapV2Bidirectional

/-! ## `sushiswap-bidirectional` -/

namespace SushiswapBidirectional

structure AppCircuit where
  userAddr : Uint248
  minVolumeIn : Uint248
  minVolumeOut : Uint248

/-- `Swap(address,uint256,uint256,uint256,uint256,address)` of SushiSwap, the Uniswap V2
event. -/
def eventIdSwap : Uint248 :=
  parseEventID 0xd78ad95fa46c994b6551d0da85fc275fe613ce37657fb8d5e3d130840159d822

/-- The SushiSwap USDC/WETH pair. -/
def usdcWethPair : Uint248 := 0x397FF1542f962076d0BFE58eA045FfA2d347ACa0#248

def allocate : Allocation := ⟨50, 0, 0⟩

def layout : BidirectionalLayout := ⟨usdcWethPair, eventIdSwap⟩

def AppCircuit.define (c : AppCircuit) (inp : DataInput) : Circuit (List Output) :=
  layout.define allocate.maxReceipts c.userAddr c.minVolumeIn c.minVolumeOut inp

end SushiswapBidirectional

end Brevis
