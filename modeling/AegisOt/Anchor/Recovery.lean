import AegisOt.Anchor.Reference

/-!
# Anchored recovery

`validate_anchored_coordination_recovery` of `coordination_anchor.py`: how a gateway judges its
local recovery state against a readback of the external anchor, an optional trusted floor and an
optional fence. The branches are in the order of the source; every one of them ends in a
decision, and none raises.
-/

namespace AegisOt

/-! ## Decisions -/

/-- `AnchoredRecoveryStatus`. -/
inductive AnchoredRecoveryStatus where
  | aligned
  | admissionReady
  | recoveryRequired
  | inconsistent
  | unavailable
  deriving DecidableEq, Repr

/-- `AnchoredRecoveryReason`. -/
inductive AnchoredRecoveryReason where
  | alignedToCurrentAnchor
  | currentFenceAdmissionReady
  | localAdvanceRequiresAnchor
  | localRecoveryRequired
  | localRecoveryFailClosed
  | anchorUnavailable
  | anchorReadbackInvalid
  | anchorReadbackStale
  | anchorStreamConflict
  | anchorSequenceStale
  | anchorEquivocation
  | anchorChainGap
  | anchorChainConflict
  | coordinatedRollbackDetected
  | anchoredStateConflict
  | unrecognizedLocalFence
  | fenceRequired
  | fenceInvalid
  | fenceStale
  | fenceConflict
  deriving DecidableEq, Repr

/-- `AnchoredRecoveryDecision`; `require_fail_closed_admission` holds of every decision that
    `_decision` builds. -/
structure AnchoredRecoveryDecision where
  status : AnchoredRecoveryStatus
  reason : AnchoredRecoveryReason
  admissionAllowed : Bool
  anchorSequence : Option Nat
  authorityFencingToken : Option Nat
  localFencingToken : Nat
  deriving DecidableEq

/-- `TrustedAnchorFloor`. -/
structure TrustedAnchorFloor where
  streamId : String
  anchorSequence : Nat
  anchorSha256 : Sha256
  authorityFencingToken : Nat
  deriving DecidableEq

/-- `_decision`. -/
def anchoredDecision (status : AnchoredRecoveryStatus) (reason : AnchoredRecoveryReason)
    (projection : LocalCoordinationProjection) (readback : Option CoordinationAnchorReadback) :
    AnchoredRecoveryDecision :=
  { status := status
    reason := reason
    admissionAllowed := decide (status = .admissionReady)
    anchorSequence := readback.map (fun r => r.anchor.anchorSequence)
    authorityFencingToken := readback.map (fun r => r.authorityFencingToken)
    localFencingToken := projection.writerFencingToken }

/-- `start <= evaluated_at < end` for an aware `evaluated_at`. -/
def DateTime.within (evaluatedAt : DateTime) (start stop : Time) : Bool :=
  match evaluatedAt with
  | .aware instant => decide (start ≤ instant ∧ instant < stop)
  | .naive => false

/-- `CoordinationAnchorReadback.valid_at`. -/
def CoordinationAnchorReadback.validAt (readback : CoordinationAnchorReadback)
    (evaluatedAt : DateTime) : Bool := evaluatedAt.within readback.readAt readback.expiresAt

/-! ## Checks -/

variable [AnchorPrimitives]

/-- `LocalCoordinationProjection.digest`. -/
def LocalCoordinationProjection.digest (projection : LocalCoordinationProjection) : Sha256 :=
  AnchorPrimitives.canonicalDigest (.projection projection)

/-- `SignedCoordinationAnchor.verify`. -/
def SignedCoordinationAnchor.verify (anchor : SignedCoordinationAnchor) (publicKey : PublicKey) :
    Bool :=
  decide (anchor.authorityKeyId = AnchorPrimitives.workloadKeyId publicKey) &&
    decide (anchor.signature ≠ "") &&
    AnchorPrimitives.verifyBytes publicKey (.anchor { anchor with signature := "" })
      anchor.signature

/-- `CoordinationAnchorReadback.verify`. -/
def CoordinationAnchorReadback.verify (readback : CoordinationAnchorReadback)
    (publicKey : PublicKey) : Bool :=
  decide (readback.authorityKeyId = AnchorPrimitives.workloadKeyId publicKey) &&
    readback.anchor.verify publicKey && decide (readback.signature ≠ "") &&
    AnchorPrimitives.verifyBytes publicKey (.readback { readback with signature := "" })
      readback.signature

/-- `TrustedAnchorFloor.from_readback`. -/
def TrustedAnchorFloor.fromReadback (readback : CoordinationAnchorReadback) :
    TrustedAnchorFloor :=
  { streamId := readback.anchor.streamId
    anchorSequence := readback.anchor.anchorSequence
    anchorSha256 := readback.anchor.digest
    authorityFencingToken := readback.authorityFencingToken }

/-- `_valid_floor`. -/
def validFloor (readback : CoordinationAnchorReadback) :
    Option TrustedAnchorFloor → Option AnchoredRecoveryReason
  | none => none
  | some floor =>
      let anchor := readback.anchor
      if floor.streamId ≠ anchor.streamId then some .anchorStreamConflict
      else if anchor.anchorSequence < floor.anchorSequence then some .anchorSequenceStale
      else if readback.authorityFencingToken < floor.authorityFencingToken then
        some .anchorSequenceStale
      else if anchor.anchorSequence = floor.anchorSequence then
        if anchor.digest ≠ floor.anchorSha256 then some .anchorEquivocation else none
      else if floor.anchorSequence + 1 < anchor.anchorSequence then some .anchorChainGap
      else if anchor.previousAnchorSha256 ≠ some floor.anchorSha256 then
        some .anchorChainConflict
      else none

/-- `_valid_fence`. -/
def validFence (fence : Option CoordinationFenceGrant) (readback : CoordinationAnchorReadback)
    (authorityPublicKey : PublicKey) (evaluatedAt : DateTime) : Option AnchoredRecoveryReason :=
  match fence with
  | none => some .fenceRequired
  | some fence =>
      let anchor := readback.anchor
      if fence.verify authorityPublicKey = false then some .fenceInvalid
      else if evaluatedAt.within fence.issuedAt fence.expiresAt = false then some .fenceStale
      else if fence.streamId ≠ anchor.streamId ∨
          fence.basedOnAnchorSequence ≠ anchor.anchorSequence ∨
          fence.basedOnAnchorSha256 ≠ anchor.digest then some .fenceConflict
      else if fence.fencingToken ≠ readback.authorityFencingToken ∨
          fence.fencingToken ≤ anchor.fencingToken then some .fenceStale
      else none

/-- The arguments of `validate_anchored_coordination_recovery` besides the local projection and
    the readback. -/
structure AnchorExpectation where
  streamId : String
  requestNonce : String
  authorityPublicKey : PublicKey
  evaluatedAt : DateTime
  trustedFloor : Option TrustedAnchorFloor
  fence : Option CoordinationFenceGrant
  requireFence : Bool

/-- The branch of `validate_anchored_coordination_recovery` for a local state whose digest is
    the anchored one. -/
def validateAnchored (projection : LocalCoordinationProjection)
    (readback : CoordinationAnchorReadback) (expected : AnchorExpectation) :
    AnchoredRecoveryDecision :=
  if expected.requireFence = false then
    anchoredDecision .aligned .alignedToCurrentAnchor projection readback
  else
    match validFence expected.fence readback expected.authorityPublicKey
        expected.evaluatedAt with
    | some failure =>
        let status := if failure ∈ [.fenceRequired, .fenceInvalid, .fenceStale] then
          .unavailable else .inconsistent
        anchoredDecision status failure projection readback
    | none => anchoredDecision .admissionReady .currentFenceAdmissionReady projection readback

/-- The branches of `validate_anchored_coordination_recovery` for a local state that is not the
    anchored one. -/
def validateUnanchored (projection : LocalCoordinationProjection)
    (readback : CoordinationAnchorReadback) : AnchoredRecoveryDecision :=
  let anchor := readback.anchor
  let anchored := anchor.projection
  if projection.writerFencingToken < anchored.writerFencingToken ∨
      projection.plantStateVersion < anchored.plantStateVersion then
    anchoredDecision .inconsistent .coordinatedRollbackDetected projection readback
  else if projection.plantModelSha256 ≠ anchored.plantModelSha256 ∨
      (projection.plantStateVersion = anchored.plantStateVersion ∧
        projection.plantStateSha256 ≠ anchored.plantStateSha256) then
    anchoredDecision .inconsistent .anchoredStateConflict projection readback
  else if projection.writerFencingToken = anchored.writerFencingToken then
    anchoredDecision .inconsistent .anchoredStateConflict projection readback
  else if projection.writerFencingToken ≠ readback.authorityFencingToken then
    anchoredDecision .inconsistent .unrecognizedLocalFence projection readback
  else if projection.basedOnAnchorSequence ≠ some anchor.anchorSequence ∨
      projection.basedOnAnchorSha256 ≠ some anchor.digest then
    anchoredDecision .inconsistent .fenceConflict projection readback
  else
    let reason := if projection.recoveryStatus = .recoveryRequired then .localRecoveryRequired
      else .localAdvanceRequiresAnchor
    anchoredDecision .recoveryRequired reason projection readback

/-- `validate_anchored_coordination_recovery`. -/
def validateAnchoredCoordinationRecovery (projection : LocalCoordinationProjection)
    (readback : Option CoordinationAnchorReadback) (expected : AnchorExpectation) :
    AnchoredRecoveryDecision :=
  if projection.recoveryStatus = .inconsistent ∨ projection.recoveryStatus = .unavailable then
    anchoredDecision .inconsistent .localRecoveryFailClosed projection readback
  else
    match readback with
    | none => anchoredDecision .unavailable .anchorUnavailable projection none
    | some readback =>
        if readback.anchor.streamId ≠ expected.streamId then
          anchoredDecision .inconsistent .anchorStreamConflict projection readback
        else if readback.requestNonce ≠ expected.requestNonce ∨
            readback.verify expected.authorityPublicKey = false then
          anchoredDecision .unavailable .anchorReadbackInvalid projection readback
        else if readback.validAt expected.evaluatedAt = false then
          anchoredDecision .unavailable .anchorReadbackStale projection readback
        else
          match validFloor readback expected.trustedFloor with
          | some failure =>
              let status := if failure ∈ [.anchorSequenceStale, .anchorChainGap] then
                .unavailable else .inconsistent
              anchoredDecision status failure projection readback
          | none =>
              if projection.digest = readback.anchor.projection.digest then
                validateAnchored projection readback expected
              else validateUnanchored projection readback

end AegisOt
