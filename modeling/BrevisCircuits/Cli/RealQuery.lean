import BrevisCircuits.Circuits.Holdings

/- The real-query test: the program that asks a gateway for a tokenHolder input and, when
   the gateway answers with an error, prints a diagnosis of the error text. Its pure parts
   are modelled here.

   `calculateBalanceSlot` stands where keccak256 of the holder and the mapping slot should
   be, and returns the zero hash for every input; `main` adds the storage query at that
   slot and builds tokenHolder for the holder.

   `analyzeError` sorts the error text by keywords, group after group, with
   `containsAny`, `contains` and `toLower`, Go routines over the bytes of strings.
   `contains` tries `substr` at every start from `0` to `len(s) - len(substr)`:
     1. `contains_finds_exactly_infixes` — it finds `substr` exactly when the lower-cased
        `substr` is a contiguous part (`<:+:`) of the lower-cased `s`;
     2. `analyzeError_diagnoses_first_group` — the diagnosis is that of the first keyword
        group, in the program's order, one of whose keywords is a contiguous part of the
        lower-cased text, and `unknown` when there is none; so a text and its lower-cased
        copy get one diagnosis.
-/
namespace Brevis

namespace RealQuery

/-! ## The storage query -/

/-- `TestHolderAddress`. -/
def testHolderAddress : BitVec 160 := 0x28C6c06298d514Db089934071355E5743bf21d60#160

/-- `USDCContract`. -/
def usdcContract : Uint248 := 0xA0b86991c6218b36c1d19D4a2e9Eb0cE3606eB48#248

/-- `TestBlockNumber`. -/
def testBlockNumber : Nat := 18000000

/-- `calculateBalanceSlot`: the zero hash (`common.Hash{}`), whatever the address and the
mapping slot. -/
def calculateBalanceSlot (_addr : BitVec 160) (_mappingSlot : UInt64) : Bytes32 := 0

/-- The storage record `main` adds: USDC at `TestBlockNumber`, at the slot
`calculateBalanceSlot` gives for the holder and mapping slot 9, holding whatever `value`
the chain has there. -/
def storageQuery (holder : BitVec 160) (value : Bytes32) : StorageSlot :=
  ⟨BitVec.ofNat 32 testBlockNumber, usdcContract, calculateBalanceSlot holder 9, value⟩

/-- The circuit `main` builds: tokenHolder at `ConstUint248(holderAddr.Big())`. -/
def circuit (holder : BitVec 160) : TokenHolder.AppCircuit := ⟨holder.setWidth 248⟩

/-! ## Byte strings -/

/-- The bytes of a Go string literal: its UTF-8 encoding. -/
def bytes (s : String) : List UInt8 := s.toUTF8.data.toList

/-- One byte of `toLower`: `'A'` to `'Z'` moved up by 32, every other byte kept. -/
def lowerByte (c : UInt8) : UInt8 := if c ≥ 'A'.toUInt8 ∧ c ≤ 'Z'.toUInt8 then c + 32 else c

/-- `toLower`: ASCII capitals lowered, byte by byte. -/
def toLower (s : List UInt8) : List UInt8 := s.map lowerByte

/-- `contains`: both strings lower-cased, then `s[i:i+len(substr)] == substr` tried at
every start `i` from `0` to `len(s) - len(substr)`, none when `substr` is the longer. -/
def contains (s substr : List UInt8) : Bool :=
  let s := toLower s
  let substr := toLower substr
  (List.range (s.length + 1 - substr.length)).any fun i =>
    (s.drop i).take substr.length == substr

/-- `containsAny`: whether `contains` holds for some keyword, tried in order. -/
def containsAny (s : List UInt8) (substrs : List (List UInt8)) : Bool :=
  substrs.any (contains s)

theorem lowerByte_lowerByte (c : UInt8) : lowerByte (lowerByte c) = lowerByte c := by
  have hle {a b : UInt8} : a ≤ b ↔ a.toNat ≤ b.toNat := Iff.rfl
  have hA : 'A'.toUInt8.toNat = 65 := rfl
  have hZ : 'Z'.toUInt8.toNat = 90 := rfl
  by_cases h : c ≥ 'A'.toUInt8 ∧ c ≤ 'Z'.toUInt8
  · have hc : (c + 32).toNat = c.toNat + 32 := by
      simp only [ge_iff_le, hle, hA, hZ] at h
      rw [UInt8.toNat_add, UInt8.toNat_ofNat, Nat.mod_eq_of_lt, Nat.mod_eq_of_lt] <;>
        simp only [UInt8.size] <;> omega
    rw [show lowerByte c = c + 32 from if_pos h, lowerByte, if_neg]
    simp only [ge_iff_le, hle, hc, hA, hZ, not_and, not_le] at h ⊢
    omega
  · have hc : lowerByte c = c := if_neg h
    rw [hc, hc]

@[simp] theorem toLower_toLower (s : List UInt8) : toLower (toLower s) = toLower s := by
  simp only [toLower, List.map_map, Function.comp_def, lowerByte_lowerByte]

/-- The scan of `contains`: some start `i ≤ len(s) - len(t)` has `s[i:i+len(t)] == t`
exactly when `t` is a contiguous part of `s`. -/
theorem any_range_take_drop_iff {s t : List UInt8} :
    ((List.range (s.length + 1 - t.length)).any fun i => (s.drop i).take t.length == t) =
      true ↔ t <:+: s := by
  rw [List.any_eq_true]
  constructor
  · rintro ⟨i, -, h⟩
    rw [← beq_iff_eq.mp h]
    exact (List.take_prefix _ _).isInfix.trans (List.drop_suffix _ _).isInfix
  · rintro ⟨a, b, rfl⟩
    refine ⟨a.length, List.mem_range.mpr ?_, beq_iff_eq.mpr ?_⟩
    · simp only [List.length_append]
      omega
    · rw [List.append_assoc, List.drop_left' rfl, List.take_left' rfl]

theorem contains_eq_true_iff {s substr : List UInt8} :
    contains s substr = true ↔ toLower substr <:+: toLower s :=
  any_range_take_drop_iff

theorem containsAny_eq_true_iff {s : List UInt8} {substrs : List (List UInt8)} :
    containsAny s substrs = true ↔ ∃ t ∈ substrs, toLower t <:+: toLower s := by
  simp only [containsAny, List.any_eq_true, contains_eq_true_iff]

theorem contains_finds_exactly_infixes :
    (∀ s substr, contains s substr = true ↔ toLower substr <:+: toLower s) ∧
    (∀ s substrs, containsAny s substrs = true ↔ ∃ t ∈ substrs, toLower t <:+: toLower s) :=
  ⟨fun _ _ => contains_eq_true_iff, fun _ _ => containsAny_eq_true_iff⟩

/-! ## The diagnosis -/

/-- The verdict `analyzeError` prints, by its banner. -/
inductive Diagnosis where
  /-- AUTHENTICATION ERROR DETECTED -/
  | authentication
  /-- NETWORK/CONNECTION ERROR -/
  | network
  /-- RATE LIMIT ERROR -/
  | rateLimit
  /-- RPC/BLOCKCHAIN ERROR -/
  | rpc
  /-- UNKNOWN ERROR -/
  | unknown
  deriving DecidableEq, Repr

/-- `analyzeError` on the text `errMsg` of the error: the first keyword group that
`containsAny` finds in it decides the banner; the advice under each banner is fixed
text. -/
def analyzeError (errMsg : List UInt8) : Diagnosis :=
  if containsAny errMsg (["auth", "unauthorized", "forbidden", "permission"].map bytes) then
    .authentication
  else if containsAny errMsg (["unavailable", "connection", "network"].map bytes) then
    .network
  else if containsAny errMsg (["rate limit", "quota", "throttle"].map bytes) then
    .rateLimit
  else if containsAny errMsg (["rpc", "block", "chain"].map bytes) then
    .rpc
  else .unknown

/-- The keyword groups of `analyzeError` with their verdicts, in the order it tries them. -/
def keywordGroups : List (Diagnosis × List String) :=
  [(.authentication, ["auth", "unauthorized", "forbidden", "permission"]),
    (.network, ["unavailable", "connection", "network"]),
    (.rateLimit, ["rate limit", "quota", "throttle"]),
    (.rpc, ["rpc", "block", "chain"])]

/-- Every keyword is already lower case, so `contains` looks for it as written. -/
theorem toLower_keyword : ∀ g ∈ keywordGroups, ∀ k ∈ g.2, toLower (bytes k) = bytes k := by
  decide

/-- A keyword group is found in `errMsg` exactly when one of its keywords is a contiguous
part of the lower-cased text. -/
theorem containsAny_keywords {g : Diagnosis × List String} (hg : g ∈ keywordGroups)
    (errMsg : List UInt8) :
    containsAny errMsg (g.2.map bytes) = g.2.any fun k => decide (bytes k <:+: toLower errMsg) := by
  rw [Bool.eq_iff_iff, containsAny_eq_true_iff, List.any_eq_true]
  simp only [List.mem_map, decide_eq_true_eq, exists_exists_and_eq_and]
  exact exists_congr fun k => and_congr_right fun hk => by rw [toLower_keyword g hg k hk]

/-- The diagnosis as a search: the verdict of the first keyword group with a keyword in
the lower-cased text. -/
theorem analyzeError_eq_find (errMsg : List UInt8) :
    analyzeError errMsg =
      ((keywordGroups.find? fun g => g.2.any fun k => decide (bytes k <:+: toLower errMsg)).map
        Prod.fst).getD .unknown := by
  have h := fun g hg => containsAny_keywords (g := g) hg errMsg
  simp only [keywordGroups, List.mem_cons, List.not_mem_nil, or_false, forall_eq_or_imp,
    forall_eq] at h
  obtain ⟨h₁, h₂, h₃, h₄⟩ := h
  rw [analyzeError, h₁, h₂, h₃, h₄]
  clear h₁ h₂ h₃ h₄
  simp only [keywordGroups, List.find?_cons]
  split_ifs <;> simp_all only [Bool.not_eq_true, Option.map_some', Option.getD_some,
    List.find?_nil, Option.map_none', Option.getD_none]

/-- A text and its lower-cased copy get one diagnosis. -/
theorem analyzeError_toLower (errMsg : List UInt8) :
    analyzeError (toLower errMsg) = analyzeError errMsg := by
  rw [analyzeError_eq_find, analyzeError_eq_find, toLower_toLower]

theorem analyzeError_diagnoses_first_group (errMsg : List UInt8) :
    analyzeError errMsg =
      ((keywordGroups.find? fun g => g.2.any fun k => decide (bytes k <:+: toLower errMsg)).map
        Prod.fst).getD .unknown ∧
    analyzeError (toLower errMsg) = analyzeError errMsg :=
  ⟨analyzeError_eq_find errMsg, analyzeError_toLower errMsg⟩

end RealQuery

end Brevis
