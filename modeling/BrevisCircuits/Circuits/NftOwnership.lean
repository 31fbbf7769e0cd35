import BrevisCircuits.Sdk.Api

/- nftOwnership: one receipt, read at position 0 with `GetUnderlying`. Field 0 must be
   topic 2 (`to`) of a log of `NFTContractAddr` with value `OwnerAddr`, field 1 topic 3
   (`tokenId`) of the same contract with value `TokenID`, and the two fields must share
   their `LogPos`. Neither field's `EventID` is compared with anything: any event of the
   contract with that topic layout is accepted (`define_eq_ok`). The outputs are the three
   parameters and the receipt's block number. -/
namespace Brevis

namespace NftOwnership

structure AppCircuit where
  nftContractAddr : Uint248
  ownerAddr : Uint248
  tokenID : Uint248

def allocate : Allocation := ⟨1, 0, 0⟩

def AppCircuit.define (c : AppCircuit) (inp : DataInput) : Circuit (List Output) := do
  let receipts ← newDataStream allocate.maxReceipts inp.receipts
  let receipt := getUnderlying receipts 0
  assertIsEqual (receipt.fields 0).contract c.nftContractAddr
  assertIsEqual (receipt.fields 0).isTopic true
  assertIsEqual (receipt.fields 0).index 2
  assertIsEqual (← toUint248 (receipt.fields 0).value) c.ownerAddr
  assertIsEqual (receipt.fields 1).contract c.nftContractAddr
  assertIsEqual (receipt.fields 1).isTopic true
  assertIsEqual (receipt.fields 1).index 3
  assertIsEqual (← toUint248 (receipt.fields 1).value) c.tokenID
  assertIsEqual (receipt.fields 0).logPos (receipt.fields 1).logPos
  commitOutputs [outputAddress c.ownerAddr.toNat, outputAddress c.nftContractAddr.toNat,
    outputUint 248 c.tokenID.toNat, outputUint 64 receipt.blockNum.toNat]

/-- A receipt the assertions of `define` accept. -/
def AppCircuit.Matches (c : AppCircuit) (r : Receipt) : Prop :=
  (r.fields 0).contract = c.nftContractAddr ∧ (r.fields 0).isTopic = true ∧
  (r.fields 0).index = 2 ∧ (r.fields 0).value.toNat = c.ownerAddr.toNat ∧
  (r.fields 1).contract = c.nftContractAddr ∧ (r.fields 1).isTopic = true ∧
  (r.fields 1).index = 3 ∧ (r.fields 1).value.toNat = c.tokenID.toNat ∧
  (r.fields 0).logPos = (r.fields 1).logPos

/-- The output record of an accepted run on the receipt `r`. -/
def record (c : AppCircuit) (r : Receipt) : List Output :=
  [outputAddress c.ownerAddr.toNat, outputAddress c.nftContractAddr.toNat,
    outputUint 248 c.tokenID.toNat, outputUint 64 r.blockNum.toNat]

variable {c : AppCircuit} {inp : DataInput} {o : List Output}

theorem define_eq_ok :
    c.define inp = .ok o ↔
      ∃ r, inp.receipts = [r] ∧ c.Matches r ∧ c.ownerAddr.toNat < 2 ^ 160 ∧
        c.nftContractAddr.toNat < 2 ^ 160 ∧ o = record c r := by
  obtain ⟨R, S⟩ := inp
  simp only [AppCircuit.define, Circuit.bind_eq_ok, newDataStream_eq_ok, allocate,
    List.length_eq_one, assertIsEqual_eq_ok, commitOutputs_eq_ok, toUint248_eq_ok_iff_toNat,
    exists_const, List.forall_mem_cons, List.not_mem_nil, false_implies, implies_true, and_true,
    outputAddress, outputUint]
  constructor
  · rintro ⟨_, ⟨⟨r, rfl⟩, rfl⟩, h0c, h0t, h0i, _, h0v, rfl, h1c, h1t, h1i, _, h1v, rfl, hpos,
      ⟨ho, hn, -⟩, rfl⟩
    exact ⟨r, rfl, ⟨h0c, h0t, h0i, h0v, h1c, h1t, h1i, h1v, hpos⟩, ho, hn, rfl⟩
  · rintro ⟨r, rfl, ⟨h0c, h0t, h0i, h0v, h1c, h1t, h1i, h1v, hpos⟩, ho, hn, rfl⟩
    exact ⟨[r], ⟨⟨r, rfl⟩, rfl⟩, h0c, h0t, h0i, _, h0v, rfl, h1c, h1t, h1i, _, h1v, rfl, hpos,
      ⟨ho, hn, c.tokenID.isLt, uint32_toNat_lt_two_pow_64 _⟩, rfl⟩

/-- A receipt of one honest ERC-721 `Transfer` of `TokenID` to `OwnerAddr`, carrying the
event id `e`. -/
def honestReceipt (c : AppCircuit) (e : Uint248) : Receipt where
  blockNum := 1
  mptKeyPath := 0
  fields := ![⟨c.nftContractAddr, 0, e, true, 2, toBytes32 c.ownerAddr⟩,
    ⟨c.nftContractAddr, 0, e, true, 3, toBytes32 c.tokenID⟩, default, default]

example : AppCircuit.define ⟨1, 2, 3⟩ ⟨[honestReceipt ⟨1, 2, 3⟩ 0], []⟩ =
    .ok [outputAddress 2, outputAddress 1, outputUint 248 3, outputUint 64 1] := by
  decide

end NftOwnership

end Brevis
