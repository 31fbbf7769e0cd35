import BrevisCircuits.Sdk.Api

/- layerzero-message: counts `PayloadStored` events of the LayerZero endpoint. Each
   receipt tracks one field, `dstAddress` (data field 2), checked for contract, event and
   position only; no field is compared with `UserAddr`. The count is compared with
   `MinMessageCount` and `[UserAddr, count, MinMessageCount]` is output. -/
namespace Brevis

namespace LayerzeroMessage

structure AppCircuit where
  userAddr : Uint248
  minMessageCount : Uint248

/-- `PayloadStored(uint16,bytes,address,uint64,bytes,bytes)` of the LayerZero endpoint. -/
def eventIdPayloadStored : Uint248 :=
  parseEventID 0xe9bded5f24a4168e4f3bf44e00298c993b22376aad8c58c7dda9718a54cbea82

/-- The LayerZero endpoint on Ethereum. -/
def endpointEthereum : Uint248 := 0x66A71Dcef29A0fFBDBE3c6a460a3B5BC225Cd675#248

def allocate : Allocation := ⟨50, 0, 0⟩

/-- The predicate handed to `AssertEach`. -/
def check (r : Receipt) : Circuit Bool := do
  let contractMatches := (r.fields 0).contract == endpointEthereum
  let eventIdMatches := (r.fields 0).eventID == eventIdPayloadStored
  let fieldIndexCorrect := !(r.fields 0).isTopic && (r.fields 0).index == 2
  pure (contractMatches && eventIdMatches && fieldIndexCorrect)

def AppCircuit.define (c : AppCircuit) (inp : DataInput) : Circuit (List Output) := do
  let receipts ← newDataStream allocate.maxReceipts inp.receipts
  assertEach receipts check
  let messageCount := count receipts
  assertIsLessOrEqual c.minMessageCount.toNat messageCount
  commitOutputs [outputAddress c.userAddr.toNat, outputUint 64 messageCount,
    outputUint 64 c.minMessageCount.toNat]

/-- A receipt `check` accepts. -/
def Matches (r : Receipt) : Prop :=
  (r.fields 0).contract = endpointEthereum ∧ (r.fields 0).eventID = eventIdPayloadStored ∧
  (r.fields 0).isTopic = false ∧ (r.fields 0).index = 2

/-- The output record of an accepted run over `B`. -/
def record (c : AppCircuit) (B : List Receipt) : List Output :=
  [outputAddress c.userAddr.toNat, outputUint 64 (B.length % scalarField),
    outputUint 64 c.minMessageCount.toNat]

theorem check_eq_ok_true {r : Receipt} : check r = .ok true ↔ Matches r := by
  simp only [check, Matches, Circuit.pure_eq_ok, Bool.and_eq_true, beq_iff_eq,
    Bool.not_eq_true', and_assoc]

theorem define_eq_ok {c : AppCircuit} {inp : DataInput} {o : List Output} :
    c.define inp = .ok o ↔
      inp.receipts.length = 50 ∧ (∀ r ∈ inp.receipts, Matches r) ∧
      c.minMessageCount.toNat ≤ inp.receipts.length % scalarField ∧
      (∀ x ∈ record c inp.receipts, x.value < 2 ^ x.bits) ∧ o = record c inp.receipts := by
  simp only [AppCircuit.define, newDataStream_assertEach_eq_ok]
  simp only [check_eq_ok_true, Circuit.bind_eq_ok, assertIsLessOrEqual_eq_ok,
    commitOutputs_eq_ok, count_eq, exists_const, record, allocate, eq_comm (a := o)]

/-- A receipt of one honest `PayloadStored` whose `dstAddress` is `dst`. -/
def honestReceipt (dst : Bytes32) : Receipt where
  blockNum := 1
  mptKeyPath := 0
  fields := ![⟨endpointEthereum, 0, eventIdPayloadStored, false, 2, dst⟩, default, default, default]

example : AppCircuit.define ⟨7, 10⟩ ⟨List.replicate 50 (honestReceipt 0), []⟩ =
    .ok [outputAddress 7, outputUint 64 50, outputUint 64 10] := by
  decide

end LayerzeroMessage

end Brevis
