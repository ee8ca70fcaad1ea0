import AegisOt.Anchor.Reference
import AegisOt.Runtime.OtRuntime

/-!
# Projections of a recovery result

The two closed models that a recovery result is copied into:
`LocalCoordinationProjection.from_recovery` of `coordination_anchor.py`, and the
`OtCoordinationRecoveryMetadata` that the OT runtime reports in its health. Types of fields that
the model's own types make true are not checked again.
-/

namespace AegisOt

namespace LocalCoordinationProjection

/-- The fence lineage in `require_closed_fence_lineage`. -/
def requireLineage (p : LocalCoordinationProjection) : Except AnchorError Unit :=
  if p.writerFencingToken = 0 then
    refuseIf (¬ (p.basedOnAnchorSequence = none ∧ p.basedOnAnchorSha256 = none))
      (.validation "unfenced baseline cannot claim anchor lineage")
  else
    refuseIf (p.basedOnAnchorSequence = none ∨ p.basedOnAnchorSha256 = none)
      (.validation "fenced local state requires exact anchor lineage")

/-- What `require_closed_fence_lineage` asks of an aligned state. -/
def requireAlignment (p : LocalCoordinationProjection) : Except AnchorError Unit := do
  refuseIf (p.pendingEffectCount ≠ 0)
    (.validation "aligned local state cannot retain a pending effect")
  if p.plantStateVersion = 0 then
    refuseIf (p.recoveryReason ≠ .alignedEmptyBaseline)
      (.validation "zero-state alignment requires the empty baseline reason")
  else
    refuseIf (p.recoveryReason ≠ .alignedAppliedChain)
      (.validation "nonzero alignment requires the applied-chain reason")

/-- The bounds of the fields and `require_closed_fence_lineage`. -/
def validate (p : LocalCoordinationProjection) : Except AnchorError Unit := do
  refuseIf (1 < p.pendingEffectCount)
    (.validation "pending_effect_count: Input should be less than or equal to 1")
  refuseIf (p.latestAppliedStateVersion = some 0)
    (.validation "latest_applied_state_version: Input should be greater than or equal to 1")
  p.requireLineage
  refuseIf (p.latestAppliedStateVersion.isNone ≠ p.latestAppliedStateSha256.isNone)
    (.validation "latest applied state projection must be complete")
  refuseIf (p.appliedEffectCount = 0 ∧ p.latestAppliedStateVersion ≠ none)
    (.validation "empty applied history cannot claim a latest applied state")
  refuseIf (0 < p.appliedEffectCount ∧ p.latestAppliedStateVersion = none)
    (.validation "applied history requires a latest applied state")
  refuseIf (p.recordCount < p.appliedEffectCount + p.pendingEffectCount)
    (.validation "record count cannot omit applied or pending effects")
  if p.recoveryStatus = .aligned then p.requireAlignment else pure ()

/-- `from_recovery`. -/
def fromRecovery (recovery : CoordinationRecoveryResult)
    (gatewayJournalSha256 otJournalSha256 plantModelSha256 : Sha256) (writerFencingToken : Nat)
    (basedOnAnchorSequence : Option Nat) (basedOnAnchorSha256 : Option Sha256) :
    Except AnchorError LocalCoordinationProjection := do
  let projection : LocalCoordinationProjection :=
    { gatewayJournalSha256 := gatewayJournalSha256
      otJournalSha256 := otJournalSha256
      plantModelSha256 := plantModelSha256
      plantStateVersion := recovery.plantStateVersion
      plantStateSha256 := recovery.plantStateDigest
      recoveryStatus := recovery.status
      recoveryReason := recovery.reason
      recordCount := recovery.recordCount
      appliedEffectCount := recovery.appliedEffectCount
      pendingEffectCount := recovery.pendingEffectCount
      latestAppliedStateVersion := recovery.latestAppliedStateVersion
      latestAppliedStateSha256 := recovery.latestAppliedStateDigest
      writerFencingToken := writerFencingToken
      basedOnAnchorSequence := basedOnAnchorSequence
      basedOnAnchorSha256 := basedOnAnchorSha256 }
  projection.validate
  pure projection

end LocalCoordinationProjection

/-- `OtCoordinationRecoveryMetadata`. -/
structure OtCoordinationRecoveryMetadata where
  status : CoordinationRecoveryStatus
  reason : CoordinationRecoveryReason
  recordCount : Nat
  appliedEffectCount : Nat
  pendingEffectCount : Nat
  plantModelDigest : Sha256
  plantStateVersion : Nat
  plantStateDigest : Sha256
  latestAppliedStateVersion : Option Nat
  latestAppliedStateDigest : Option Sha256
  pendingEffectId : Option EffectId
  pendingExpectedPostStateVersion : Option Nat
  pendingExpectedPostStateDigest : Option Sha256
  liveCommitArmed : Bool
  deriving DecidableEq

namespace OtCoordinationRecoveryMetadata

/-- The bounds of the fields and `require_consistent_projection`. -/
def validate (m : OtCoordinationRecoveryMetadata) : Except String Unit := do
  refuseIf (1 < m.pendingEffectCount)
    "pending_effect_count: Input should be less than or equal to 1"
  refuseIf (m.pendingExpectedPostStateVersion = some 0)
    "pending_expected_post_state_version: Input should be greater than or equal to 1"
  refuseIf (m.recordCount < m.appliedEffectCount + m.pendingEffectCount)
    "coordination recovery counts are inconsistent"
  refuseIf (¬ (m.appliedEffectCount = 0 ↔
      m.latestAppliedStateVersion = none ∧ m.latestAppliedStateDigest = none))
    "coordination recovery applied projection is inconsistent"
  refuseIf (¬ (m.pendingEffectCount = 0 ↔ m.pendingEffectId = none ∧
      m.pendingExpectedPostStateVersion = none ∧ m.pendingExpectedPostStateDigest = none))
    "coordination recovery pending projection is inconsistent"
  refuseIf (m.liveCommitArmed ∧ (m.status ≠ .recoveryRequired ∨ m.pendingEffectCount ≠ 1))
    "live commit marker requires one recoverable pending effect"

/-- `_coordination_recovery_projection_locked` on a result. The refresh before it keeps a live
    commit marker only for the effect that the result leaves at its pre-state. -/
def ofRecovery (result : CoordinationRecoveryResult) (plant : PlantHealthMetadata)
    (marker : Option LiveCommitMarker) : Except String OtCoordinationRecoveryMetadata := do
  let metadata : OtCoordinationRecoveryMetadata :=
    { status := result.status
      reason := result.reason
      recordCount := result.recordCount
      appliedEffectCount := result.appliedEffectCount
      pendingEffectCount := result.pendingEffectCount
      plantModelDigest := plant.modelDigest
      plantStateVersion := result.plantStateVersion
      plantStateDigest := result.plantStateDigest
      latestAppliedStateVersion := result.latestAppliedStateVersion
      latestAppliedStateDigest := result.latestAppliedStateDigest
      pendingEffectId := result.pendingEffectId
      pendingExpectedPostStateVersion := result.pendingExpectedPostStateVersion
      pendingExpectedPostStateDigest := result.pendingExpectedPostStateDigest
      liveCommitArmed := (marker.filter (OtProgram.pendingAtPreState result)).isSome }
  metadata.validate
  pure metadata

end OtCoordinationRecoveryMetadata

end AegisOt
