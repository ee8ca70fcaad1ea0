import AegisOt.Artifacts
import AegisOt.Misc.Checks
import AegisOt.Misc.SortedMap
import Mathlib.Data.List.Dedup

/-!
# Degraded-operation artifacts

The snapshots, leases, reversals and results of `m5_degraded.py`, with the lineage that
`DegradedOperationState` checks carried as fields of its structure. A `frozenset` is the list of its
members, and a `tuple` of digests that has to be sorted and unique is a set of digests.
-/

namespace AegisOt

/-- `DegradedRole`. -/
inductive DegradedRole where
  | identity
  | policy
  | evidence
  | gateway
  | observer
  | evaluator
  | coordination
  | management
  | otAdapter
  deriving DecidableEq, Repr

/-- `RoleCondition`. -/
inductive RoleCondition where
  | healthy
  | unavailable
  | untrusted
  | unknown
  | conflicting
  | compromised
  deriving DecidableEq, Repr

/-- `DegradedBehavior`. -/
inductive DegradedBehavior where
  | safeState
  | holdState
  | missionPreserving
  deriving DecidableEq, Repr

/-- `DegradedAdmissionOutcome`. -/
inductive DegradedAdmissionOutcome where
  | continuePrimaryAssurance
  | safeState
  | holdState
  deriving DecidableEq, Repr

namespace DegradedRole

/-- The members in their order. -/
def all : List DegradedRole :=
  [.identity, .policy, .evidence, .gateway, .observer, .evaluator, .coordination, .management,
    .otAdapter]

theorem mem_all (role : DegradedRole) : role ∈ all := by
  cases role <;> decide

/-- `role.value`. -/
def value : DegradedRole → String
  | .identity => "identity"
  | .policy => "policy"
  | .evidence => "evidence"
  | .gateway => "gateway"
  | .observer => "observer"
  | .evaluator => "candidate_evaluator"
  | .coordination => "coordination"
  | .management => "management"
  | .otAdapter => "ot_adapter"

/-- The members in the order of their values. -/
def sorted : List DegradedRole :=
  [.evaluator, .coordination, .evidence, .gateway, .identity, .management, .observer, .otAdapter,
    .policy]

/-- `ROLE_LOSS_POLICIES[role].behavior`. -/
def lossBehavior : DegradedRole → DegradedBehavior
  | .identity => .safeState
  | .policy => .safeState
  | .evidence => .holdState
  | .gateway => .safeState
  | .observer => .holdState
  | .evaluator => .holdState
  | .coordination => .holdState
  | .management => .missionPreserving
  | .otAdapter => .holdState

end DegradedRole

/-- `condition.value`. -/
def RoleCondition.value : RoleCondition → String
  | .healthy => "healthy"
  | .unavailable => "unavailable"
  | .untrusted => "untrusted"
  | .unknown => "unknown"
  | .conflicting => "conflicting"
  | .compromised => "compromised"

/-- `DegradedRuntimeSnapshot`; its two mappings have every role. -/
structure DegradedRuntimeSnapshot where
  snapshotId : String
  capturedAt : Time
  roleConditions : DegradedRole → RoleCondition
  communicationConditions : DegradedRole → RoleCondition
  unresolvedEffect : Bool

/-- `affected_roles`. -/
def DegradedRuntimeSnapshot.affectedRoles (s : DegradedRuntimeSnapshot) : List DegradedRole :=
  DegradedRole.all.filter (fun role =>
    s.roleConditions role ≠ .healthy || s.communicationConditions role ≠ .healthy)

/-- `DegradedModeAuthorization`. -/
structure DegradedModeAuthorization where
  authorizationId : String
  sequence : Nat
  authorityId : String
  modeName : String
  behavior : DegradedBehavior
  affectedRoles : List DegradedRole
  allowedActorIds : List String
  allowedMissionIds : List String
  allowedResources : List String
  allowedOperations : List Operation
  maximumRiskScore : ℚ
  snapshotSha256 : Sha256
  recoveryCheckpointId : String
  nonce : String
  issuedAt : Time
  expiresAt : Time
  signature : String
  deriving DecidableEq

/-- `DegradedModeReversal`. -/
structure DegradedModeReversal where
  reversalId : String
  sequence : Nat
  authorityId : String
  authorizationId : String
  authorizationSha256 : Sha256
  recoveryCheckpointId : String
  reasonCode : String
  nonce : String
  issuedAt : Time
  signature : String
  deriving DecidableEq

/-- The dictionary `material` of `_result`. -/
structure DegradedAdmissionMaterial where
  outcome : DegradedAdmissionOutcome
  reasons : List String
  evaluatedAt : Time
  snapshotSha256 : Sha256
  authorizationSha256 : Option Sha256
  modeName : Option String
  affectedRoles : List DegradedRole
  recoveryCheckpointId : Option String
  mayEnterPrimaryAssurance : Bool
  executionAuthorized : Bool
  deriving DecidableEq

/-- `DegradedAdmissionResult`. -/
structure DegradedAdmissionResult extends DegradedAdmissionMaterial where
  observableEventSha256 : Sha256
  deriving DecidableEq

/-- The checks of `DegradedAdmissionResult` on its fields, the reasons being some, and
    `require_non_bypass_result`. -/
structure DegradedAdmissionResult.Valid (r : DegradedAdmissionResult) : Prop where
  reasons : r.reasons ≠ []
  agrees : r.mayEnterPrimaryAssurance = true ↔ r.outcome = .continuePrimaryAssurance
  noExecution : r.executionAuthorized = false
  unique : r.reasons.Nodup
  sorted : r.affectedRoles.Pairwise fun a b => a.value ≤ b.value

/-- The dictionary `material` of `apply_reversal`. -/
structure DegradedReversalMaterial where
  applied : Bool
  reasons : List String
  evaluatedAt : Time
  authorizationSha256 : Sha256
  reversalSha256 : Sha256
  deriving DecidableEq

/-- `DegradedReversalResult`. -/
structure DegradedReversalResult extends DegradedReversalMaterial where
  observableEventSha256 : Sha256
  deriving DecidableEq

/-- Everything the gate hashes or signs; a signing payload is the artifact with its signature
    cleared. -/
inductive DegradedMaterial where
  | snapshot (snapshot : DegradedRuntimeSnapshot)
  | authorization (authorization : DegradedModeAuthorization)
  | reversal (reversal : DegradedModeReversal)
  | admission (material : DegradedAdmissionMaterial)
  | reversalResult (material : DegradedReversalMaterial)

/-- `_sha256`, SHA-256 of a text, and Ed25519. -/
class DegradedPrimitives where
  sha256 : DegradedMaterial → Sha256
  textSha256 : String → Sha256
  verifyBytes : PublicKey → DegradedMaterial → String → Bool

section

variable [DegradedPrimitives]

/-- `digest`. -/
def DegradedRuntimeSnapshot.digest (s : DegradedRuntimeSnapshot) : Sha256 :=
  DegradedPrimitives.sha256 (.snapshot s)

/-- `digest`. -/
def DegradedModeAuthorization.digest (a : DegradedModeAuthorization) : Sha256 :=
  DegradedPrimitives.sha256 (.authorization a)

/-- `digest`. -/
def DegradedModeReversal.digest (r : DegradedModeReversal) : Sha256 :=
  DegradedPrimitives.sha256 (.reversal r)

/-- The signature test of the gate: `a.signature and verify_bytes(...)`. -/
def DegradedModeAuthorization.signedBy (a : DegradedModeAuthorization) (key : PublicKey) : Bool :=
  a.signature ≠ "" &&
    DegradedPrimitives.verifyBytes key (.authorization { a with signature := "" }) a.signature

/-- The signature test of the gate: `r.signature and verify_bytes(...)`. -/
def DegradedModeReversal.signedBy (r : DegradedModeReversal) (key : PublicKey) : Bool :=
  r.signature ≠ "" &&
    DegradedPrimitives.verifyBytes key (.reversal { r with signature := "" }) r.signature

end

/-! ## The durable state -/

/-- A tuple of digests that is sorted and unique. -/
abbrev DigestSet := SortedMap Sha256 Unit

/-- `digest in digests`. -/
def DigestSet.has (digests : DigestSet) (digest : Sha256) : Bool := (digests.find? digest).isSome

theorem DigestSet.has_insert (digests : DigestSet) (digest digest' : Sha256) :
    DigestSet.has (digests.insert digest ()) digest' = true ↔
      digest = digest' ∨ digests.has digest' = true := by
  unfold DigestSet.has
  rw [SortedMap.find?_insert]
  by_cases h : digest = digest'
  · simp [h]
  · simp [h]

/-- `MAX_DEGRADED_STATE_ENTRIES`. -/
def maxDegradedStateEntries : Nat := 10000

/-- `DegradedOperationState`. -/
structure DegradedOperationState where
  authorityId : String
  highestAuthorizationSequence : Nat
  activeAuthorizationSha256 : Option Sha256
  highestReversalSequence : Nat
  acceptedReversalNonceSha256 : DigestSet
  revokedAuthorizationSha256 : DigestSet
  /-- `require_active_authorization_lineage`. -/
  lineage : highestAuthorizationSequence = 0 ↔ activeAuthorizationSha256 = none
  noncesFit : acceptedReversalNonceSha256.size ≤ maxDegradedStateEntries
  revokedFit : revokedAuthorizationSha256.size ≤ maxDegradedStateEntries
  deriving DecidableEq

/-- Before the first sequence there is no digest. -/
theorem noSequence_iff {α : Type} : 0 = 0 ↔ (none : Option α) = none :=
  ⟨fun _ => rfl, fun _ => rfl⟩

/-- `DegradedOperationState.initial`. -/
def DegradedOperationState.initial (authorityId : String) : DegradedOperationState where
  authorityId := authorityId
  highestAuthorizationSequence := 0
  activeAuthorizationSha256 := none
  highestReversalSequence := 0
  acceptedReversalNonceSha256 := .empty
  revokedAuthorizationSha256 := .empty
  lineage := noSequence_iff
  noncesFit := Nat.zero_le _
  revokedFit := Nat.zero_le _

end AegisOt
