import AegisOt.Gateway.Evidence

/-!
# Delegation grants

`DelegationGrant` of `delegation.py`. A `frozenset` is the list of its elements in the order in
which this object iterates them; Python does not say which order that is, and another object with
the same value may have another one.
-/

namespace AegisOt

/-- The instant of an aware `datetime`. -/
def Timestamp.instant (t : Timestamp) : Time := t.wall - t.utcOffset.getD 0

/-- The texts that `model_dump(mode="json")` writes, and Ed25519. -/
class DelegationPrimitives where
  datetimeText : Timestamp → String
  /-- `float.__repr__`. -/
  floatRepr : ℚ → List Char
  floatRepr_scanned : ∀ x, Json.scanNumber (floatRepr x) = some (floatRepr x, [])
  /-- `sign_bytes`. -/
  sign : PrivateKey → ByteArray → String
  /-- `verify_bytes`. -/
  verify : PublicKey → ByteArray → String → Bool

/-- The value of an `Operation`. -/
def Operation.value : Operation → String
  | .isolateAsset => "isolate_asset"
  | .restoreAsset => "restore_asset"
  | .shedLoad => "shed_load"
  | .dispatchBattery => "dispatch_battery"

/-- `DelegationGrant`, with what its fields and `valid_window` demand. -/
structure DelegationGrant where
  grantId : String
  issuerId : String
  subjectId : String
  missionId : String
  resources : List String
  operations : List Operation
  notBefore : Timestamp
  expiresAt : Timestamp
  riskLimit : ℚ
  delegationDepthRemaining : Nat
  parentGrantId : Option String
  signature : String
  textsNonempty : grantId ≠ "" ∧ issuerId ≠ "" ∧ subjectId ≠ "" ∧ missionId ≠ ""
  resourcesValid : resources ≠ [] ∧ resources.Nodup
  operationsValid : operations ≠ [] ∧ operations.Nodup
  riskLimitValid : 0 ≤ riskLimit ∧ riskLimit ≤ 100
  windowValid : notBefore.utcOffset.isSome ∧ expiresAt.utcOffset.isSome ∧
    notBefore.instant < expiresAt.instant
  deriving DecidableEq

namespace DelegationGrant

/-- The same value in an object that iterates its sets in other orders. -/
def reordered (g : DelegationGrant) (resources : List String) (operations : List Operation)
    (hresources : g.resources.Perm resources) (hoperations : g.operations.Perm operations) :
    DelegationGrant :=
  { g with
    resources := resources
    operations := operations
    resourcesValid := ⟨fun h => g.resourcesValid.1 (List.perm_nil.mp (h ▸ hresources)),
      hresources.nodup_iff.mp g.resourcesValid.2⟩
    operationsValid := ⟨fun h => g.operationsValid.1 (List.perm_nil.mp (h ▸ hoperations)),
      hoperations.nodup_iff.mp g.operationsValid.2⟩ }

/-- The two objects have the same value. -/
def Same (g h : DelegationGrant) : Prop :=
  ∃ resources operations hresources hoperations,
    h = g.reordered resources operations hresources hoperations

variable [DelegationPrimitives]

/-- The items that `model_dump(mode="json", exclude={"signature"})` leaves, in key order. -/
def members (g : DelegationGrant) : List (String × Json) :=
  [("delegation_depth_remaining", .ofInt g.delegationDepthRemaining),
    ("expires_at", .str (DelegationPrimitives.datetimeText g.expiresAt)),
    ("grant_id", .str g.grantId),
    ("issuer_id", .str g.issuerId),
    ("mission_id", .str g.missionId),
    ("not_before", .str (DelegationPrimitives.datetimeText g.notBefore)),
    ("operations", .arr (g.operations.map (fun operation => .str operation.value))),
    ("parent_grant_id", g.parentGrantId.elim .null .str),
    ("resources", .arr (g.resources.map .str)),
    ("risk_limit", .num (DelegationPrimitives.floatRepr g.riskLimit)),
    ("subject_id", .str g.subjectId)]

/-- `signing_bytes`. -/
def signingBytes (g : DelegationGrant) : ByteArray := Json.canonicalBytes (.obj g.members)

/-- `signed`. -/
def signed (g : DelegationGrant) (key : PrivateKey) : DelegationGrant :=
  { g with signature := DelegationPrimitives.sign key g.signingBytes }

@[simp] theorem signingBytes_signed (g : DelegationGrant) (key : PrivateKey) :
    (g.signed key).signingBytes = g.signingBytes := rfl

end DelegationGrant

end AegisOt
