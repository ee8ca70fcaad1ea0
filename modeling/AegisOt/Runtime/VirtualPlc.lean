import AegisOt.Runtime.OtRuntime

/-!
# The virtual PLC

`CapabilityVirtualPlc` of `capability_plc.py` with the replay reservations of
`semantic_replay.py`: the checks on one authorization transaction, in their order, and the
dispatch to the plant. The clock, the plant and the ledger file answer as they like;
`PlcEnvironment` is what they answer during one `execute`.
-/

namespace AegisOt

variable [Primitives]

/-! ## Replay reservations -/

/-- `OrderlyRestartReplayReservations._state`. -/
structure ReplayReservations where
  requestDigests : List Sha256
  permitIds : List String
  permitNonces : List String
  commandIds : List String
  deriving DecidableEq

/-- The four values one transaction reserves. -/
structure ReplayKey where
  requestDigest : Sha256
  permitId : String
  permitNonce : String
  commandId : String
  deriving DecidableEq

/-- What `_load` and `_persist` raise: a `ValueError` with its text, or something else. -/
inductive LedgerError where
  | value (message : String)
  | other (description : String)
  deriving DecidableEq

namespace ReplayReservations

/-- `_replay_reason`. -/
def replayReason (state : ReplayReservations) (key : ReplayKey) : Option String :=
  if key.requestDigest ∈ state.requestDigests then some "transaction_replayed"
  else if key.permitId ∈ state.permitIds then some "permit_replayed"
  else if key.permitNonce ∈ state.permitNonces then some "permit_nonce_replayed"
  else if key.commandId ∈ state.commandIds then some "command_replayed"
  else none

/-- The state with the four values added. -/
def add (state : ReplayReservations) (key : ReplayKey) : ReplayReservations :=
  { requestDigests := state.requestDigests.insert key.requestDigest
    permitIds := state.permitIds.insert key.permitId
    permitNonces := state.permitNonces.insert key.permitNonce
    commandIds := state.commandIds.insert key.commandId }

/-- `reserve`, given what `_load` returned and what `_persist` did. -/
def reserve (loaded : Except LedgerError ReplayReservations)
    (persist : ReplayReservations → Except LedgerError Unit) (key : ReplayKey) :
    Except LedgerError ReplayReservations := do
  let state ← loaded
  match state.replayReason key with
  | some reason => throw (.value reason)
  | none => do
      persist (state.add key)
      pure (state.add key)

end ReplayReservations

/-! ## Plant and device -/

/-- The arguments of `apply_authorized_command` and of its variant with a deadline. -/
structure AuthorizedCommand where
  command : PhysicalControlCommand
  expectedPreStateVersion : Nat
  expectedPreStateDigest : Sha256
  expectedPreObservationDigest : Sha256
  expectedPostStateDigest : Sha256
  expectedPostTopologyDigest : Sha256
  authorizationExpiresAt : Option Time
  deriving DecidableEq

/-- What applying a command raises: a `PhysicalSimulationError` with its text, or anything
    else. -/
inductive PlantError where
  | simulation (reason : String)
  | other (description : String)
  deriving DecidableEq

/-- What `execute` lets through. -/
inductive PlcError where
  | ledger (error : LedgerError)
  | plant (description : String)
  /-- A `ValidationError` of the acknowledgment. -/
  | acknowledgment (message : String)
  deriving DecidableEq

/-- The attributes of `CapabilityVirtualPlc` that one transaction reads. -/
structure CapabilityVirtualPlc where
  plcId : String
  bootEpoch : String
  permitKeyId : String
  permitPublicKey : PublicKey
  observerInfo : ObserverInfo
  acknowledgmentPrivateKey : PrivateKey
  acknowledgmentKeyId : String
  scanCounter : Nat
  executeRequests : Nat
  deriving DecidableEq

/-- The answers of the clock, the plant and the ledger during one `execute`. -/
structure PlcEnvironment where
  evaluatedAt : Time
  current : Except String PhysicalStateSnapshot
  /-- The ledger as `replay_reason` loads it. -/
  ledger : Except LedgerError ReplayReservations
  simulateCandidate : PhysicalControlCommand → Except String CandidateAssessment
  commitTime : Time
  /-- The ledger as `reserve` loads it, and its write. -/
  reservedLedger : Except LedgerError ReplayReservations
  persist : ReplayReservations → Except LedgerError Unit
  finalDispatchTime : Time
  /-- The plant port is an `EffectDeadlineCapabilityPlcPlantPort`. -/
  carriesDeadline : Bool
  applyAuthorizedCommand : AuthorizedCommand → Except PlantError PhysicalStateSnapshot
  /-- `read_state` after a compare-and-swap rejection. -/
  reread : Except String PhysicalStateSnapshot
  /-- The clock at a late acknowledgment. -/
  acknowledgedAt : Time
  acknowledgmentId : String

namespace PlcCommandAcknowledgment

/-- The field constraints and `require_status_shape`. -/
def validate (a : PlcCommandAcknowledgment) : Except String Unit := do
  refuseIf (a.acknowledgmentId = "" ∨ a.permitId = "" ∨ a.permitNonce.length < 16 ∨
      a.commandId = "" ∨ a.proposalId = "" ∨ a.decisionId = "" ∨ a.plcId = "" ∨
      a.plcKeyId = "" ∨ a.plcBootEpoch.length < 16 ∨ a.plcScan = 0 ∨ a.reason = "" ∨
      a.simulationTimeS < 0)
    "field constraint violated"
  refuseIf (a.preState.verifyDigest = false) "PLC acknowledgment contains an invalid pre-state"
  refuseIf (a.preStateDigest ≠ a.preState.stateDigest ∨
      a.preStateVersion ≠ a.preState.stateVersion)
    "PLC acknowledgment pre-state fields are inconsistent"
  let postState := a.postStateDigest ≠ none ∨ a.postStateVersion ≠ none ∨
    a.postTopologyDigest ≠ none
  match a.status with
  | .applied => do
      refuseIf (a.dispatchPhase ≠ .committed)
        "applied acknowledgment must assert the committed phase"
      refuseIf (a.postStateDigest = none ∨ a.postStateVersion = none ∨
          a.postTopologyDigest = none ∨ a.postActuatorSetpoint = none)
        "applied acknowledgment requires complete post-state evidence"
  | .rejected => do
      refuseIf (a.dispatchPhase ≠ .preDispatch ∧ a.dispatchPhase ≠ .knownNoEffect)
        "rejected acknowledgment must establish a no-effect phase"
      refuseIf postState "rejected acknowledgment cannot assert a post-state"
      refuseIf (a.postActuatorSetpoint ≠ some a.preActuatorSetpoint)
        "rejected acknowledgment must evidence an unchanged actuator"
  | .unknownEffect => do
      refuseIf (a.dispatchPhase ≠ .effectUnknown)
        "unknown effect must assert the effect-unknown phase"
      refuseIf (postState ∨ a.postActuatorSetpoint ≠ none)
        "unknown effect cannot assert post-dispatch state"

end PlcCommandAcknowledgment

namespace CapabilityVirtualPlc

/-- `_actuator_setpoint`. -/
def actuatorSetpoint (state : PhysicalStateSnapshot) (command : PhysicalControlCommand) : ℚ :=
  match command.commandType with
  | .setLineService => if command.resource ∈ state.isolatedResources then 0 else 1
  | .setBatteryInjection => (state.batteryInjectionMw.lookup command.resource).getD 0

/-- What a branch of `_execute_locked` acknowledges. -/
structure Disposition where
  status : CommandStatus
  phase : DispatchPhase
  reason : String
  acknowledgedAt : Time
  preState : PhysicalStateSnapshot
  postState : Option PhysicalStateSnapshot

/-- `_acknowledge`. -/
def acknowledge (plc : CapabilityVirtualPlc) (acknowledgmentId : String)
    (dispatch : SegmentedCapabilityDispatch) (d : Disposition) :
    Except PlcError PlcCommandAcknowledgment := do
  let permit := dispatch.permit
  let base := permit.basePermit
  let command := base.command
  let acknowledgment : PlcCommandAcknowledgment :=
    { acknowledgmentId := acknowledgmentId
      requestDigest := dispatch.request.digest
      permitDigest := permit.digest
      observationEnvelopeDigest := permit.observationEnvelopeDigest
      permitId := base.permitId
      permitNonce := base.permitNonce
      commandId := command.commandId
      commandDigest := base.commandDigest
      assessmentDigest := base.assessmentDigest
      proposalId := base.proposalId
      decisionId := base.decisionId
      plcId := plc.plcId
      plcKeyId := plc.acknowledgmentKeyId
      plcBootEpoch := plc.bootEpoch
      plcScan := plc.scanCounter
      status := d.status
      dispatchPhase := d.phase
      reason := d.reason
      acknowledgedAt := d.acknowledgedAt
      preState := d.preState
      preStateDigest := d.preState.stateDigest
      preStateVersion := d.preState.stateVersion
      postStateDigest := d.postState.map (fun s => s.stateDigest)
      postStateVersion := d.postState.map (fun s => s.stateVersion)
      postTopologyDigest := d.postState.map (fun s => s.topologyDigest)
      preActuatorSetpoint := actuatorSetpoint d.preState command
      postActuatorSetpoint :=
        match d.postState with
        | some s => some (actuatorSetpoint s command)
        | none =>
            if d.status = .rejected then some (actuatorSetpoint d.preState command) else none
      simulationTimeS := (d.postState.getD d.preState).simulationTimeS
      signature := "" }
  (acknowledgment.validate).mapError .acknowledgment
  pure { acknowledgment with
    signature := Primitives.signBytes plc.acknowledgmentPrivateKey
      (.acknowledgment acknowledgment) }

/-- A rejection in the `PRE_DISPATCH` phase. -/
def preDispatch (reason : String) (acknowledgedAt : Time) (preState : PhysicalStateSnapshot) :
    Disposition :=
  ⟨.rejected, .preDispatch, reason, acknowledgedAt, preState, none⟩

/-- The `checks` of `_execute_locked`, each with the reason of its rejection. -/
def checks (plc : CapabilityVirtualPlc) (dispatch : SegmentedCapabilityDispatch)
    (evaluatedAt : Time) (current : PhysicalStateSnapshot) : List (Bool × String) :=
  let request := dispatch.request
  let permit := dispatch.permit
  let base := permit.basePermit
  let preObservation := dispatch.preObservation
  let decision := dispatch.decision
  let assessment := dispatch.assessment
  [(decide (base.audience = plc.plcId), "permit_wrong_audience"),
    (decide (permit.signingKeyId = plc.permitKeyId), "permit_unknown_signing_key"),
    (permit.verify plc.permitPublicKey, "permit_signature_invalid"),
    (decide (permit.targetPlcId = plc.plcId), "permit_wrong_plc"),
    (decide (permit.targetPlcKeyId = plc.acknowledgmentKeyId), "permit_wrong_plc_key"),
    (decide (permit.targetPlcBootEpoch = plc.bootEpoch), "permit_wrong_plc_boot"),
    (decide (permit.requestDigest = request.digest), "permit_request_digest_mismatch"),
    (decide (permit.observationId = preObservation.observationId),
      "permit_observation_id_mismatch"),
    (decide (permit.observationEnvelopeDigest = preObservation.envelopeDigest),
      "permit_observation_digest_mismatch"),
    (decide (permit.observerId = preObservation.observerId), "permit_observer_id_mismatch"),
    (decide (permit.observerKeyId = preObservation.observerKeyId),
      "permit_observer_key_mismatch"),
    (decide (permit.observerBootEpoch = preObservation.observerBootEpoch),
      "permit_observer_boot_mismatch"),
    (preObservation.verify plc.observerInfo.publicKey, "observation_signature_invalid"),
    (decide (preObservation.observerId = plc.observerInfo.observerId),
      "observation_source_mismatch"),
    (decide (preObservation.observerKeyId = plc.observerInfo.keyId), "observation_key_mismatch"),
    (decide (preObservation.observerBootEpoch = plc.observerInfo.bootEpoch),
      "observation_boot_mismatch"),
    (decide (preObservation.phase = .preAuthorization), "observation_phase_mismatch"),
    (decide (request.observationChallengeNonce = preObservation.challengeNonce),
      "observation_challenge_mismatch"),
    (decide (request.correlationId = preObservation.correlationId),
      "observation_correlation_mismatch"),
    (decide (request.proposal.observedStateVersion = preObservation.snapshot.stateVersion),
      "proposal_observation_version_mismatch"),
    (decide (request.proposal.observedAt = preObservation.snapshot.observedAt),
      "proposal_observation_time_mismatch"),
    (decide (base.issuedAt ≤ evaluatedAt), "permit_not_yet_valid"),
    (decide (evaluatedAt < base.expiresAt), "permit_expired"),
    (decide (base.proposalId = request.proposal.proposalId), "permit_proposal_id_mismatch"),
    (decide (base.proposalDigest = proposalDigest request.proposal),
      "permit_proposal_digest_mismatch"),
    (decide (base.decisionId = decision.decisionId), "permit_decision_id_mismatch"),
    (decide (decision.outcome = .permit), "decision_not_permit"),
    (decide (decision.proposalId = request.proposal.proposalId), "decision_proposal_mismatch"),
    (decide (decision.evidenceRecordHash = some base.evidenceRecordHash),
      "decision_evidence_mismatch"),
    (decide (base.policyVersion = decision.policyVersion), "decision_policy_version_mismatch"),
    (decide (base.safetyVersion = decision.safetyVersion), "decision_safety_version_mismatch"),
    (decide (base.stateVersion = decision.stateVersion), "decision_state_version_mismatch"),
    (decide (base.commandDigest = base.command.digest), "permit_command_digest_mismatch"),
    (decide (base.assessmentDigest = assessment.digest), "permit_assessment_digest_mismatch"),
    (assessment.safe, "candidate_not_safe"),
    (decide (assessment.commandDigest = base.commandDigest), "candidate_command_mismatch"),
    (decide (assessment.preState.stateDigest = base.stateDigest),
      "candidate_state_digest_mismatch"),
    (decide (assessment.postState.stateVersion = base.expectedPostStateVersion),
      "candidate_post_version_mismatch"),
    (decide (assessment.postState.stateDigest = base.expectedPostStateDigest),
      "candidate_post_digest_mismatch"),
    (decide (assessment.postState.topologyDigest = base.expectedPostTopologyDigest),
      "candidate_post_topology_mismatch"),
    (current.verifyDigest, "current_state_digest_invalid"),
    (decide (base.modelDigest = current.modelDigest), "model_digest_changed"),
    (decide (base.topologyDigest = current.topologyDigest), "topology_digest_changed"),
    (decide (base.stateVersion = current.stateVersion), "precommit_state_version_changed"),
    (decide (base.stateDigest = current.stateDigest), "precommit_state_digest_changed"),
    (decide (base.observationDigest = current.observationDigest),
      "precommit_observation_changed")]

/-- The reason of the first check that failed. -/
def firstFailure (checks : List (Bool × String)) : Option String :=
  (checks.find? (fun check => !check.1)).map Prod.snd

/-- The values a dispatch reserves. -/
def replayKey (dispatch : SegmentedCapabilityDispatch) : ReplayKey :=
  let base := dispatch.permit.basePermit
  ⟨dispatch.request.digest, base.permitId, base.permitNonce, base.command.commandId⟩

/-- The fresh assessment does not attest the authorized candidate. -/
def attestationMismatch (fresh assessment : CandidateAssessment) : Bool :=
  decide (fresh.safe = false ∨
    fresh.preState.stateDigest ≠ assessment.preState.stateDigest ∨
    fresh.postState.stateDigest ≠ assessment.postState.stateDigest ∨
    fresh.commandDigest ≠ assessment.commandDigest)

/-- The plant ended in another state than the one authorized. -/
def diverges (postState : PhysicalStateSnapshot) (base : ExecutionPermit) : Bool :=
  decide (postState.stateDigest ≠ base.expectedPostStateDigest ∨
    postState.stateVersion ≠ base.expectedPostStateVersion ∨
    postState.topologyDigest ≠ base.expectedPostTopologyDigest ∨ postState.unsafeState = true)

/-- The command as it is handed to the plant. -/
def authorizedCommand (base : ExecutionPermit) (carriesDeadline : Bool) : AuthorizedCommand :=
  { command := base.command
    expectedPreStateVersion := base.stateVersion
    expectedPreStateDigest := base.stateDigest
    expectedPreObservationDigest := base.observationDigest
    expectedPostStateDigest := base.expectedPostStateDigest
    expectedPostTopologyDigest := base.expectedPostTopologyDigest
    authorizationExpiresAt := if carriesDeadline then some base.expiresAt else none }

/-- The state a plant refusal is acknowledged with. -/
def rejectionState (env : PlcEnvironment) (reason : String) (current : PhysicalStateSnapshot) :
    Except PlcError PhysicalStateSnapshot :=
  if reason ∈ PlcCommandAcknowledgment.casReasons then env.reread.mapError .plant
  else .ok current

/-- The end of `_execute_locked`: the plant is told to apply the command. -/
def applyCommand (env : PlcEnvironment) (base : ExecutionPermit)
    (current : PhysicalStateSnapshot) : Except PlcError Disposition :=
  match env.applyAuthorizedCommand (authorizedCommand base env.carriesDeadline) with
  | .error (.simulation reason) => do
      let preState ← rejectionState env reason current
      pure ⟨.rejected, .knownNoEffect, reason, env.acknowledgedAt, preState, none⟩
  | .error (.other _) => pure ⟨.unknownEffect, .effectUnknown,
      "plant_dispatch_outcome_unavailable", env.acknowledgedAt, current, none⟩
  | .ok postState =>
      if diverges postState base then pure ⟨.unknownEffect, .effectUnknown,
        "post_dispatch_candidate_divergence", env.acknowledgedAt, current, none⟩
      else pure ⟨.applied, .committed, "command_applied_and_plc_read_back", env.acknowledgedAt,
        current, some postState⟩

/-- `_execute_locked` from the candidate check on. -/
def dispatchCandidate (env : PlcEnvironment) (dispatch : SegmentedCapabilityDispatch)
    (current : PhysicalStateSnapshot) : Except PlcError Disposition := do
  let base := dispatch.permit.basePermit
  let fresh ← (env.simulateCandidate base.command).mapError .plant
  if attestationMismatch fresh dispatch.assessment then
    pure (preDispatch "candidate_attestation_mismatch" env.acknowledgedAt current)
  else if base.expiresAt ≤ env.commitTime then
    pure (preDispatch "permit_expired_before_dispatch" env.commitTime current)
  else
    match ReplayReservations.reserve env.reservedLedger env.persist (replayKey dispatch) with
    | .error (.value reason) => pure (preDispatch reason env.acknowledgedAt current)
    | .error (.other description) => throw (.ledger (.other description))
    | .ok _ =>
        if base.expiresAt ≤ env.finalDispatchTime then
          pure (preDispatch "permit_expired_after_replay_reservation" env.finalDispatchTime
            current)
        else applyCommand env base current

/-- The disposition `_execute_locked` acknowledges. -/
def disposition (plc : CapabilityVirtualPlc) (env : PlcEnvironment)
    (dispatch : SegmentedCapabilityDispatch) : Except PlcError Disposition := do
  let current ← env.current.mapError .plant
  let ledger ← env.ledger.mapError .ledger
  match ledger.replayReason (replayKey dispatch) with
  | some reason => pure (preDispatch reason env.evaluatedAt current)
  | none =>
      match firstFailure (plc.checks dispatch env.evaluatedAt current) with
      | some reason => pure (preDispatch reason env.evaluatedAt current)
      | none => dispatchCandidate env dispatch current

/-- `execute`, with the device it leaves behind. -/
def execute (plc : CapabilityVirtualPlc) (env : PlcEnvironment)
    (dispatch : SegmentedCapabilityDispatch) :
    Except PlcError PlcCommandAcknowledgment × CapabilityVirtualPlc :=
  let scanned := { plc with
    executeRequests := plc.executeRequests + 1, scanCounter := plc.scanCounter + 1 }
  (scanned.disposition env dispatch >>= scanned.acknowledge env.acknowledgmentId dispatch, scanned)

end CapabilityVirtualPlc

end AegisOt
