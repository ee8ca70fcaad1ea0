import AegisOt.Artifacts

/-!
# Capability artifact checks

The predicates of `capability_models.py`, `physical_models.py` and
`segmented_capability_models.py` that coordination relies on: digest and signature checks of
the observation and the permit, the bindings of a dispatch, and the check that a PLC
acknowledgment belongs to a transaction.
-/

namespace AegisOt

variable [Primitives]

/-- `bool(signature) and verify_bytes(public_key, payload, signature)`. -/
def verifySigned (publicKey : PublicKey) (payload : Material) (signature : String) : Bool :=
  decide (signature ≠ "") && Primitives.verifyBytes publicKey payload signature

namespace PhysicalStateSnapshot

/-- `PhysicalStateSnapshot.digest_material`: the snapshot without its digests and its observation
    envelope. -/
def digestMaterial (s : PhysicalStateSnapshot) : PhysicalStateSnapshot :=
  { s with
    stateDigest := 0
    observationDigest := 0
    observationSequence := 0
    observationSourceId := ""
    observationClockDomain := ""
    observedAt := 0 }

/-- `PhysicalStateSnapshot.observation_material`: the state digest and the observation envelope. -/
def observationMaterial (s : PhysicalStateSnapshot) : ObservationMaterial :=
  { stateDigest := s.stateDigest
    observedAt := s.observedAt
    observationSequence := s.observationSequence
    observationSourceId := s.observationSourceId
    observationClockDomain := s.observationClockDomain }

/-- `PhysicalStateSnapshot.verify_digest`. -/
def verifyDigest (s : PhysicalStateSnapshot) : Bool :=
  decide (s.stateDigest = Primitives.canonicalDigest (.snapshotState s.digestMaterial) ∧
    s.observationDigest = Primitives.canonicalDigest (.snapshotObservation s.observationMaterial))

end PhysicalStateSnapshot

namespace PhysicalControlCommand

def digest (c : PhysicalControlCommand) : Sha256 := Primitives.canonicalDigest (.command c)

end PhysicalControlCommand

namespace CandidateAssessment

def digest (a : CandidateAssessment) : Sha256 := Primitives.canonicalDigest (.assessment a)

end CandidateAssessment

namespace CapabilityActionRequest

def digest (r : CapabilityActionRequest) : Sha256 := Primitives.canonicalDigest (.action r)

end CapabilityActionRequest

/-- `physical_models.proposal_digest`. -/
def proposalDigest (p : ActionProposal) : Sha256 := Primitives.canonicalDigest (.proposal p)

namespace SignedObservationEnvelope

/-- `SignedObservationEnvelope.verify`. -/
def verify (o : SignedObservationEnvelope) (publicKey : PublicKey) : Bool :=
  verifySigned publicKey (.observation { o with signature := "" }) o.signature

end SignedObservationEnvelope

namespace ExecutionPermit

/-- `ExecutionPermit.verify`. -/
def verify (p : ExecutionPermit) (publicKey : PublicKey) : Bool :=
  verifySigned publicKey (.basePermit { p with signature := "" }) p.signature

end ExecutionPermit

namespace CapabilityExecutionPermit

def digest (p : CapabilityExecutionPermit) : Sha256 := Primitives.canonicalDigest (.permit p)

/-- `CapabilityExecutionPermit.verify`. -/
def verify (p : CapabilityExecutionPermit) (publicKey : PublicKey) : Bool :=
  p.basePermit.verify publicKey &&
    verifySigned publicKey (.permit { p with signature := "" }) p.signature

end CapabilityExecutionPermit

namespace SegmentedCapabilityDispatch

def digest (d : SegmentedCapabilityDispatch) : Sha256 := Primitives.canonicalDigest (.dispatch d)

/-- `SegmentedCapabilityDispatch.bindings_match`. -/
def bindingsMatch (d : SegmentedCapabilityDispatch) : Bool :=
  let request := d.request
  let observation := d.preObservation
  let proposal := request.proposal
  let decision := d.decision
  let assessment := d.assessment
  let permit := d.permit
  let base := permit.basePermit
  let snapshot := observation.snapshot
  decide (
    observation.phase = .preAuthorization ∧
    request.correlationId = observation.correlationId ∧
    request.observationId = observation.observationId ∧
    request.observationEnvelopeDigest = observation.envelopeDigest ∧
    request.observationChallengeNonce = observation.challengeNonce ∧
    proposal.observedStateVersion = snapshot.stateVersion ∧
    proposal.observedAt = snapshot.observedAt ∧
    decision.outcome = .permit ∧
    decision.proposalId = proposal.proposalId ∧
    decision.evidenceRecordHash ≠ none ∧
    assessment.safe = true ∧
    permit.requestDigest = request.digest ∧
    permit.observationId = observation.observationId ∧
    permit.observationEnvelopeDigest = observation.envelopeDigest ∧
    permit.observerId = observation.observerId ∧
    permit.observerKeyId = observation.observerKeyId ∧
    permit.observerBootEpoch = observation.observerBootEpoch ∧
    base.audience = permit.targetPlcId ∧
    base.proposalId = proposal.proposalId ∧
    base.proposalDigest = proposalDigest proposal ∧
    base.decisionId = decision.decisionId ∧
    some base.evidenceRecordHash = decision.evidenceRecordHash ∧
    base.policyVersion = decision.policyVersion ∧
    base.safetyVersion = decision.safetyVersion ∧
    base.stateVersion = decision.stateVersion ∧
    decision.stateVersion = snapshot.stateVersion ∧
    base.stateDigest = snapshot.stateDigest ∧
    base.observationDigest = snapshot.observationDigest ∧
    base.topologyDigest = snapshot.topologyDigest ∧
    base.modelDigest = snapshot.modelDigest ∧
    base.command.digest = base.commandDigest ∧
    base.commandDigest = assessment.commandDigest ∧
    base.assessmentDigest = assessment.digest ∧
    assessment.preState = snapshot ∧
    assessment.postState.stateVersion = base.expectedPostStateVersion ∧
    assessment.postState.stateDigest = base.expectedPostStateDigest ∧
    assessment.postState.topologyDigest = base.expectedPostTopologyDigest)

end SegmentedCapabilityDispatch

namespace PlcCommandAcknowledgment

def digest (a : PlcCommandAcknowledgment) : Sha256 :=
  Primitives.canonicalDigest (.acknowledgment a)

/-- `PlcCommandAcknowledgment.verify`. -/
def verify (a : PlcCommandAcknowledgment) (publicKey : PublicKey) : Bool :=
  verifySigned publicKey (.acknowledgment { a with signature := "" }) a.signature

/-- The rejections that assert one of the four replay reservations. -/
def replayRejection (a : PlcCommandAcknowledgment) : Bool :=
  decide (a.status = .rejected ∧ a.dispatchPhase = .preDispatch ∧
    a.reason ∈ ["transaction_replayed", "permit_replayed", "permit_nonce_replayed",
      "command_replayed"])

/-- The actuator setpoint a pre-state implies for a command. -/
def impliedSetpoint (command : PhysicalControlCommand) (pre : PhysicalStateSnapshot) : ℚ :=
  match command.commandType with
  | .setLineService => if command.resource ∈ pre.isolatedResources then 0 else 1
  | .setBatteryInjection => (pre.batteryInjectionMw.lookup command.resource).getD 0

/-- The identifier bindings checked first by `verify_for_transaction`. -/
def identifiersMatch (a : PlcCommandAcknowledgment) (request : CapabilityActionRequest)
    (permit : CapabilityExecutionPermit) (preObservation : SignedObservationEnvelope)
    (expectedPlcId expectedPlcKeyId expectedPlcBootEpoch : String) : Bool :=
  let base := permit.basePermit
  decide (
    a.requestDigest = request.digest ∧ request.digest = permit.requestDigest ∧
    a.permitDigest = permit.digest ∧
    a.observationEnvelopeDigest = preObservation.envelopeDigest ∧
    preObservation.envelopeDigest = permit.observationEnvelopeDigest ∧
    a.permitId = base.permitId ∧
    a.permitNonce = base.permitNonce ∧
    a.commandId = base.command.commandId ∧
    a.commandDigest = base.commandDigest ∧
    a.assessmentDigest = base.assessmentDigest ∧
    a.proposalId = base.proposalId ∧ base.proposalId = request.proposal.proposalId ∧
    a.decisionId = base.decisionId ∧
    a.plcId = expectedPlcId ∧
    a.plcKeyId = expectedPlcKeyId ∧
    a.plcBootEpoch = expectedPlcBootEpoch ∧
    permit.targetPlcId = expectedPlcId)

/-- The acknowledged pre-state is the observed and authorized one. -/
def authorizedPreStateMatches (a : PlcCommandAcknowledgment)
    (permit : CapabilityExecutionPermit) (preObservation : SignedObservationEnvelope) : Bool :=
  let base := permit.basePermit
  let snapshot := preObservation.snapshot
  decide (
    a.preState = snapshot ∧
    a.preStateDigest = snapshot.stateDigest ∧ snapshot.stateDigest = base.stateDigest ∧
    a.preStateVersion = snapshot.stateVersion ∧ snapshot.stateVersion = base.stateVersion ∧
    a.preState.observationDigest = snapshot.observationDigest ∧
    snapshot.observationDigest = base.observationDigest ∧
    a.preState.topologyDigest = snapshot.topologyDigest ∧
    snapshot.topologyDigest = base.topologyDigest ∧
    a.preState.modelDigest = snapshot.modelDigest ∧
    snapshot.modelDigest = base.modelDigest)

/-- The compare-and-swap rejections, each with the mismatch its reason asserts. -/
def casRejection (a : PlcCommandAcknowledgment) (base : ExecutionPermit) : Bool :=
  let sameModel := a.preState.modelDigest = base.modelDigest
  let sameTopology := sameModel ∧ a.preState.topologyDigest = base.topologyDigest
  let sameVersion := sameTopology ∧ a.preStateVersion = base.stateVersion
  let sameDigest := sameVersion ∧ a.preStateDigest = base.stateDigest
  decide (
    a.status = .rejected ∧
    (a.dispatchPhase = .preDispatch ∨ a.dispatchPhase = .knownNoEffect) ∧
    ((a.reason = "model_digest_changed" ∧ ¬ sameModel) ∨
      (a.reason = "topology_digest_changed" ∧ sameModel ∧
        a.preState.topologyDigest ≠ base.topologyDigest) ∨
      (a.reason = "precommit_state_version_changed" ∧ sameTopology ∧
        a.preStateVersion ≠ base.stateVersion) ∨
      (a.reason = "precommit_state_digest_changed" ∧ sameVersion ∧
        a.preStateDigest ≠ base.stateDigest) ∨
      (a.reason = "precommit_observation_changed" ∧ sameDigest ∧
        a.preState.observationDigest ≠ base.observationDigest)))

def casReasons : List String :=
  ["model_digest_changed", "topology_digest_changed", "precommit_state_version_changed",
    "precommit_state_digest_changed", "precommit_observation_changed"]

/-- The time a rejection may carry, by its reason. -/
def rejectionTimeValid (a : PlcCommandAcknowledgment) (base : ExecutionPermit) : Bool :=
  if a.reason = "permit_not_yet_valid" then decide (a.acknowledgedAt < base.issuedAt)
  else if a.reason ∈ ["permit_expired", "permit_expired_before_dispatch",
      "permit_expired_after_replay_reservation"] then
    decide (base.expiresAt ≤ a.acknowledgedAt)
  else if a.replayRejection then decide (base.issuedAt ≤ a.acknowledgedAt)
  else decide (base.issuedAt ≤ a.acknowledgedAt ∧ a.acknowledgedAt < base.expiresAt)

/-- `PlcCommandAcknowledgment.verify_for_transaction`. -/
def verifyForTransaction (a : PlcCommandAcknowledgment) (publicKey : PublicKey)
    (request : CapabilityActionRequest) (permit : CapabilityExecutionPermit)
    (preObservation : SignedObservationEnvelope)
    (expectedPlcId expectedPlcKeyId expectedPlcBootEpoch : String) : Bool :=
  let base := permit.basePermit
  let targetInstanceMatches := decide (permit.targetPlcKeyId = expectedPlcKeyId ∧
    permit.targetPlcBootEpoch = expectedPlcBootEpoch)
  let preStateValid := a.preState.verifyDigest && decide (
    a.preStateDigest = a.preState.stateDigest ∧
    a.preStateVersion = a.preState.stateVersion ∧
    a.preActuatorSetpoint = impliedSetpoint base.command a.preState)
  let authorized := a.authorizedPreStateMatches permit preObservation
  a.identifiersMatch request permit preObservation expectedPlcId expectedPlcKeyId
      expectedPlcBootEpoch &&
    a.verify publicKey && (targetInstanceMatches || a.replayRejection) && preStateValid &&
    match a.status with
    | .applied =>
        decide (base.issuedAt ≤ a.acknowledgedAt ∧ a.acknowledgedAt < base.expiresAt) &&
          authorized && decide (
            a.postStateDigest = some base.expectedPostStateDigest ∧
            a.postStateVersion = some base.expectedPostStateVersion ∧
            a.postTopologyDigest = some base.expectedPostTopologyDigest ∧
            a.postActuatorSetpoint = some base.command.setpoint)
    | .rejected =>
        a.rejectionTimeValid base &&
          ((authorized && decide (a.reason ∉ casReasons)) || a.replayRejection ||
            a.casRejection base) &&
          decide (a.postActuatorSetpoint = some a.preActuatorSetpoint)
    | .unknownEffect =>
        decide (a.dispatchPhase = .effectUnknown ∧ base.issuedAt ≤ a.acknowledgedAt) && authorized

end PlcCommandAcknowledgment

end AegisOt
