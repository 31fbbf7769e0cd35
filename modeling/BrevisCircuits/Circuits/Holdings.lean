import BrevisCircuits.Sdk.Api

/- The balance circuits: tokenHolder and multi-chain-balance. They do not use stream
   operations: they take the storage slots as a stream only to read fixed positions with
   `GetUnderlying`. tokenHolder reads one slot, asserts it is USDC's `balanceOf[HolderAddr]`
   (mapping slot 9) and that the balance is at least 100 USDC; multi-chain-balance reads
   two, the same key in USDC on Ethereum and on BSC, and bounds their sum by
   `MinTotalBalance`. The slot key is `SlotOfStructFieldInMapping`, a keccak hash computed in
   the circuit; the hash is the parameter `keccak` of both `define`s. -/
namespace Brevis

variable (keccak : Bytes32 → Bytes32 → Bytes32)

/-! ## `tokenHolder` -/

namespace TokenHolder

structure AppCircuit where
  holderAddr : Uint248

/-- USDC on Ethereum. -/
def usdcTokenAddr : Uint248 := 0xA0b86991c6218b36c1d19D4a2e9Eb0cE3606eB48#248

/-- 100 USDC (six decimals). -/
def minimumBalance : Uint248 := 100000000#248

def allocate : Allocation := ⟨0, 1, 0⟩

def AppCircuit.define (c : AppCircuit) (inp : DataInput) : Circuit (List Output) := do
  let slots ← newDataStream allocate.maxStorage inp.storageSlots
  let slot := getUnderlying slots 0
  assertIsEqual slot.contract usdcTokenAddr
  let balanceSlot := slotOfStructFieldInMapping keccak 9 0 (toBytes32 c.holderAddr)
  assertIsEqual slot.slot balanceSlot
  let balance ← toUint248 slot.value
  assertIsLessOrEqual minimumBalance.toNat balance.toNat
  commitOutputs [outputAddress c.holderAddr.toNat, outputUint 248 balance.toNat,
    outputUint 64 slot.blockNum.toNat]

/-- The output record of an accepted run on the slot `s`. -/
def record (c : AppCircuit) (s : StorageSlot) : List Output :=
  [outputAddress c.holderAddr.toNat, outputUint 248 s.value.toNat,
    outputUint 64 s.blockNum.toNat]

variable {keccak} {c : AppCircuit} {inp : DataInput} {o : List Output}

theorem define_eq_ok :
    c.define keccak inp = .ok o ↔
      ∃ s, inp.storageSlots = [s] ∧ s.contract = usdcTokenAddr ∧
        s.slot = slotOfStructFieldInMapping keccak 9 0 (toBytes32 c.holderAddr) ∧
        s.value.toNat < 2 ^ 248 ∧ minimumBalance.toNat ≤ s.value.toNat ∧
        c.holderAddr.toNat < 2 ^ 160 ∧ o = record c s := by
  obtain ⟨R, S⟩ := inp
  simp only [AppCircuit.define, Circuit.bind_eq_ok, newDataStream_eq_ok, allocate,
    List.length_eq_one, assertIsEqual_eq_ok, assertIsLessOrEqual_eq_ok, commitOutputs_eq_ok,
    toUint248_eq_ok]
  constructor
  · rintro ⟨_, ⟨⟨s, rfl⟩, rfl⟩, -, hc, -, hk, w, ⟨hlt, hw⟩, -, hmin, hout, rfl⟩
    simp only [getUnderlying_cons_zero, hw] at hc hk hlt hmin hout ⊢
    exact ⟨s, rfl, hc, hk, hlt, hmin, hout _ (List.mem_cons_self _ _), rfl⟩
  · rintro ⟨s, rfl, hc, hk, hlt, hmin, hh, rfl⟩
    refine ⟨[s], ⟨⟨s, rfl⟩, rfl⟩, (), hc, (), hk, _, ⟨hlt, toNat_setWidth_of_lt hlt⟩, (), ?_⟩
    simp only [getUnderlying_cons_zero, toNat_setWidth_of_lt hlt]
    refine ⟨hmin, ?_, rfl⟩
    simp only [List.mem_cons, List.mem_singleton, List.not_mem_nil, or_false]
    rintro x (rfl | rfl | rfl)
    · exact hh
    · exact hlt
    · exact uint32_toNat_lt_two_pow_64 s.blockNum

/-- USDC's `balanceOf[HolderAddr]` slot at block `1`, holding `balance`. -/
def honestSlot (keccak : Bytes32 → Bytes32 → Bytes32) (c : AppCircuit) (balance : Bytes32) :
    StorageSlot :=
  ⟨1, usdcTokenAddr, slotOfStructFieldInMapping keccak 9 0 (toBytes32 c.holderAddr), balance⟩

example : AppCircuit.define (fun k _ => k) ⟨5⟩ ⟨[], [honestSlot (fun k _ => k) ⟨5⟩ 150000000]⟩ =
    .ok [outputAddress 5, outputUint 248 150000000, outputUint 64 1] := by
  decide

end TokenHolder

/-! ## `multi-chain-balance` -/

namespace MultichainBalance

structure AppCircuit where
  holderAddr : Uint248
  minTotalBalance : Uint248

/-- USDC on Ethereum. -/
def usdcEthereum : Uint248 := 0xA0b86991c6218b36c1d19D4a2e9Eb0cE3606eB48#248

/-- USDC on BSC. -/
def usdcBsc : Uint248 := 0x8AC76a51cc950d9822D68b83fE1Ad97B32Cd580d#248

def allocate : Allocation := ⟨0, 2, 0⟩

def AppCircuit.define (c : AppCircuit) (inp : DataInput) : Circuit (List Output) := do
  let slots ← newDataStream allocate.maxStorage inp.storageSlots
  let slot0 := getUnderlying slots 0
  let slot1 := getUnderlying slots 1
  assertIsEqual slot0.contract usdcEthereum
  assertIsEqual slot1.contract usdcBsc
  let balanceSlotEth := slotOfStructFieldInMapping keccak 9 0 (toBytes32 c.holderAddr)
  let balanceSlotBsc := slotOfStructFieldInMapping keccak 9 0 (toBytes32 c.holderAddr)
  assertIsEqual slot0.slot balanceSlotEth
  assertIsEqual slot1.slot balanceSlotBsc
  let balanceEthereum ← toUint248 slot0.value
  let balanceBSC ← toUint248 slot1.value
  let totalBalance := Uint248API.add balanceEthereum.toNat balanceBSC.toNat
  assertIsLessOrEqual c.minTotalBalance.toNat totalBalance
  commitOutputs [outputAddress c.holderAddr.toNat, outputUint 248 balanceEthereum.toNat,
    outputUint 248 balanceBSC.toNat, outputUint 248 totalBalance,
    outputUint 248 c.minTotalBalance.toNat]

/-- The output record of an accepted run on the slots `s₀`, `s₁`. -/
def record (c : AppCircuit) (s₀ s₁ : StorageSlot) : List Output :=
  [outputAddress c.holderAddr.toNat, outputUint 248 s₀.value.toNat,
    outputUint 248 s₁.value.toNat, outputUint 248 (s₀.value.toNat + s₁.value.toNat),
    outputUint 248 c.minTotalBalance.toNat]

variable {keccak} {c : AppCircuit} {inp : DataInput} {o : List Output}

theorem define_eq_ok :
    c.define keccak inp = .ok o ↔
      ∃ s₀ s₁, inp.storageSlots = [s₀, s₁] ∧
        s₀.contract = usdcEthereum ∧
        s₀.slot = slotOfStructFieldInMapping keccak 9 0 (toBytes32 c.holderAddr) ∧
        s₁.contract = usdcBsc ∧
        s₁.slot = slotOfStructFieldInMapping keccak 9 0 (toBytes32 c.holderAddr) ∧
        s₀.value.toNat < 2 ^ 248 ∧ s₁.value.toNat < 2 ^ 248 ∧
        c.minTotalBalance.toNat ≤ s₀.value.toNat + s₁.value.toNat ∧
        s₀.value.toNat + s₁.value.toNat < 2 ^ 248 ∧ c.holderAddr.toNat < 2 ^ 160 ∧
        o = record c s₀ s₁ := by
  obtain ⟨R, S⟩ := inp
  simp only [AppCircuit.define, Circuit.bind_eq_ok, newDataStream_eq_ok, allocate,
    List.length_eq_two, assertIsEqual_eq_ok, assertIsLessOrEqual_eq_ok, commitOutputs_eq_ok,
    toUint248_eq_ok]
  constructor
  · rintro ⟨_, ⟨⟨s₀, s₁, rfl⟩, rfl⟩, -, hc₀, -, hc₁, -, hk₀, -, hk₁, w₀, ⟨hlt₀, hw₀⟩,
      w₁, ⟨hlt₁, hw₁⟩, -, hmin, hout, rfl⟩
    simp only [getUnderlying_cons_zero, getUnderlying_cons_succ] at *
    simp only [hw₀, hw₁, Uint248API.add_of_lt_two_pow_248 hlt₀ hlt₁, List.forall_mem_cons,
      List.not_mem_nil, false_implies,
      implies_true, and_true, outputAddress, outputUint] at hmin hout
    exact ⟨s₀, s₁, rfl, hc₀, hk₀, hc₁, hk₁, hlt₀, hlt₁, hmin, hout.2.2.2.1, hout.1, by
      simp only [hw₀, hw₁, getUnderlying_cons_zero, getUnderlying_cons_succ,
        Uint248API.add_of_lt_two_pow_248 hlt₀ hlt₁, record]⟩
  · rintro ⟨s₀, s₁, rfl, hc₀, hk₀, hc₁, hk₁, hlt₀, hlt₁, hmin, hsum, hh, rfl⟩
    refine ⟨[s₀, s₁], ⟨⟨s₀, s₁, rfl⟩, rfl⟩, (), hc₀, (), hc₁, (), hk₀, (), hk₁, _,
      ⟨hlt₀, toNat_setWidth_of_lt hlt₀⟩, _, ⟨hlt₁, toNat_setWidth_of_lt hlt₁⟩, (), ?_⟩
    simp only [getUnderlying_cons_zero, getUnderlying_cons_succ, toNat_setWidth_of_lt hlt₀,
      toNat_setWidth_of_lt hlt₁, Uint248API.add_of_lt_two_pow_248 hlt₀ hlt₁,
      List.forall_mem_cons, List.not_mem_nil, false_implies,
      implies_true, and_true, outputAddress, outputUint]
    exact ⟨hmin, ⟨hh, hlt₀, hlt₁, hsum, c.minTotalBalance.isLt⟩, rfl⟩

/-- The holder's two USDC balance slots at block `1`, on Ethereum and on BSC. -/
def honestSlots (keccak : Bytes32 → Bytes32 → Bytes32) (c : AppCircuit)
    (balanceEthereum balanceBsc : Bytes32) : List StorageSlot :=
  [⟨1, usdcEthereum, slotOfStructFieldInMapping keccak 9 0 (toBytes32 c.holderAddr),
      balanceEthereum⟩,
    ⟨1, usdcBsc, slotOfStructFieldInMapping keccak 9 0 (toBytes32 c.holderAddr), balanceBsc⟩]

end MultichainBalance

end Brevis
