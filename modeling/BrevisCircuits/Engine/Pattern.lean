import BrevisCircuits.Sdk.Types

/-
  The engine's pattern matcher and batch validator, as the design describes them: the
  abstract side of the matching that every circuit's `AssertEach` predicate and
  `AssertIsEqual` calls implement by hand.

  A `FieldPattern` is the provenance a tracked log field must carry: contract, event id,
  topic flag and index. A `ReceiptPattern` lists the tracked fields of a receipt with their
  patterns, and the user condition: the fields of which one must hold the circuit's
  parameter. That is one field for most circuits, `sender` or `to` for the bidirectional
  ones (the matcher's OR combinator), and none for a circuit without a user condition. A
  `SlotPattern` is the contract and key a storage slot must carry. `validate` is the
  conjunctive fold over the batch: no record is skipped, and one record that fails makes
  the batch fail.

  What is proved:
    1. `validate_eq_true` — the validator accepts exactly the batches of which every
       record matches, so one mismatching record fails the batch, whatever the other
       records are.

  How each circuit's hand-written predicate refines `ReceiptPattern.Matches` at its
  declared pattern is in `BrevisCircuits.Properties.Matching`.
-/
namespace Brevis

namespace Engine

/-- The provenance a tracked log field must carry. -/
structure FieldPattern where
  contract : Uint248
  eventId : Uint248
  isTopic : Bool
  index : Uint248
  deriving DecidableEq, Repr

/-- A log field matches when all four provenance items equal the declared ones. -/
def FieldPattern.Matches (p : FieldPattern) (f : LogField) : Prop :=
  f.contract = p.contract ∧ f.eventID = p.eventId ∧ f.isTopic = p.isTopic ∧ f.index = p.index

instance (p : FieldPattern) (f : LogField) : Decidable (p.Matches f) :=
  inferInstanceAs (Decidable (_ ∧ _))

/-- The declared pattern of one receipt: a pattern per tracked field, and the fields of
which one must hold the circuit's parameter (`[]`: no user condition). -/
structure ReceiptPattern where
  fields : List (Fin numMaxLogFields × FieldPattern)
  userFields : List (Fin numMaxLogFields)

/-- The user condition: no field is named, or one of the named fields holds `user`. -/
def ReceiptPattern.UserHolds (P : ReceiptPattern) (user : Uint248) (r : Receipt) : Prop :=
  P.userFields = [] ∨ ∃ i ∈ P.userFields, (r.fields i).value.toNat = user.toNat

/-- A receipt matches when every tracked field matches its pattern and the user condition
holds. -/
def ReceiptPattern.Matches (P : ReceiptPattern) (user : Uint248) (r : Receipt) : Prop :=
  (∀ x ∈ P.fields, x.2.Matches (r.fields x.1)) ∧ P.UserHolds user r

instance (P : ReceiptPattern) (user : Uint248) (r : Receipt) : Decidable (P.Matches user r) :=
  haveI : Decidable (∀ x ∈ P.fields, x.2.Matches (r.fields x.1)) := List.decidableBAll _ _
  inferInstanceAs (Decidable (_ ∧ (_ ∨ _)))

/-- The declared contract and key of a storage slot. -/
structure SlotPattern where
  contract : Uint248
  slot : Bytes32
  deriving DecidableEq, Repr

def SlotPattern.Matches (p : SlotPattern) (s : StorageSlot) : Prop :=
  s.contract = p.contract ∧ s.slot = p.slot

instance (p : SlotPattern) (s : StorageSlot) : Decidable (p.Matches s) :=
  inferInstanceAs (Decidable (_ ∧ _))

/-- The batch validator: the conjunction of the matcher over every record. -/
def validate (P : ReceiptPattern) (user : Uint248) (B : List Receipt) : Bool :=
  B.all fun r => decide (P.Matches user r)

variable {P : ReceiptPattern} {user : Uint248} {B : List Receipt}

@[simp] theorem validate_eq_true : validate P user B = true ↔ ∀ r ∈ B, P.Matches user r := by
  simp [validate]

end Engine

end Brevis
