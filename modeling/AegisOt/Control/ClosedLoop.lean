import AegisOt.Control.Models
import AegisOt.Misc.Interleaving

/-!
# The closed loop

`physical_control.py` on the plant of `pandapower_plant.py`: the translator, the permit issuer, the
control device and the controller that joins them, action by action. Every method of the plant and
of the evidence chain runs under its own lock and is one action; the device holds its lock for a
whole `execute`. Any number of threads use the same objects, and between any two actions of one the
others act.

The gateway may answer anything, and appends what it likes to the evidence chain. Whoever holds a
permit can hand it to the device, but nobody signs one in place of the issuer.
-/

namespace AegisOt

/-! ## Translation -/

namespace TrustedCommandTranslator

/-- The setpoint and the unit of a proposal on a bound resource. -/
def setpoint (binding : ResourceBinding) (proposal : ActionProposal) :
    Except ControlError (ℚ × String) :=
  match proposal.operation with
  | .isolateAsset => do
      refuseIf (binding.commandType ≠ .setLineService)
        (.translation "operation_resource_type_mismatch")
      pure (0, "boolean")
  | .restoreAsset => do
      refuseIf (binding.commandType ≠ .setLineService)
        (.translation "operation_resource_type_mismatch")
      pure (1, "boolean")
  | .dispatchBattery => do
      refuseIf (binding.commandType ≠ .setBatteryInjection)
        (.translation "operation_resource_type_mismatch")
      let mw ← orRaise (lookupEntry "mw" proposal.parameters)
        (.translation "battery_setpoint_missing")
      pure (mw, "MW")
  | .shedLoad => throw (.translation "operation_not_supported_by_physical_adapter")

/-- `translate`, with the identifier of the new command. -/
def translate (resourceBindings : List (String × ResourceBinding)) (proposal : ActionProposal)
    (commandId : String) : Except ControlError PhysicalControlCommand := do
  let binding ← orRaise (lookupEntry proposal.resource resourceBindings)
    (.translation "resource_not_mapped")
  let target ← setpoint binding proposal
  refuseIf (¬ binding.admits target.1) (.translation "setpoint_out_of_bounds")
  let command : PhysicalControlCommand :=
    { commandId := commandId
      proposalId := proposal.proposalId
      operation := proposal.operation
      resource := proposal.resource
      commandType := binding.commandType
      target := binding.target
      targetIndex := binding.targetIndex
      setpoint := target.1
      unit := target.2 }
  (command.validate).mapError .ofValidation
  pure command

end TrustedCommandTranslator

/-! ## The objects -/

/-- `ExecutionPermitIssuer`. -/
structure ExecutionPermitIssuer where
  privateKey : PrivateKey
  signingKeyId : String
  audience : String
  timeToLive : Time
  positive : 0 < timeToLive

/-- `PermitAwareVirtualControlDevice`, by what its methods read and never assign. -/
structure PermitAwareVirtualControlDevice where
  deviceId : String
  permitAudience : String
  permitPublicKeys : List (String × PublicKey)
  acknowledgmentPrivateKey : PrivateKey
  acknowledgmentKeyId : String

/-- `PhysicalLocalLab`, by the parts of its controller that stay fixed. -/
structure PhysicalLocalLab where
  resourceBindings : List (String × ResourceBinding)
  permitIssuer : ExecutionPermitIssuer
  controlDevice : PermitAwareVirtualControlDevice
  acknowledgmentPublicKey : PublicKey

/-- `_consumed_permits`, `_consumed_nonces` and `_consumed_commands`. -/
structure ConsumedAuthorizations where
  permits : List String
  nonces : List String
  commands : List String
  deriving DecidableEq

/-- The sets with what a permit reserves. -/
def ConsumedAuthorizations.add (consumed : ConsumedAuthorizations) (permit : ExecutionPermit) :
    ConsumedAuthorizations :=
  { permits := consumed.permits.insert permit.permitId
    nonces := consumed.nonces.insert permit.permitNonce
    commands := consumed.commands.insert permit.command.commandId }

/-- A permit that the plant carried out: the plant before and after, and what it returned. -/
structure PhysicalCommit where
  permit : ExecutionPermit
  before : PandapowerCigreMvPlant
  snapshot : PhysicalStateSnapshot
  after : PandapowerCigreMvPlant

/-- What the threads share. `issued` and `commits` are history: the permits that were signed, and
    the commands that were carried out with the thread that gave them, the last one first. -/
structure ControlState (ι : Type) where
  plant : PandapowerCigreMvPlant
  evidence : EvidenceChain JsonObject
  consumed : ConsumedAuthorizations
  scanCounter : Nat
  /-- The thread that holds the lock of the device. -/
  holder : Option ι
  issued : List ExecutionPermit
  commits : List (ι × PhysicalCommit)

/-! ## Actions -/

inductive ControlAct where
  | clock
  | uuid
  | captureState
  | readState
  | simulateCandidate (command : PhysicalControlCommand)
  /-- `apply_authorized_command` with the command and the pins of the permit. -/
  | applyAuthorizedCommand (permit : ExecutionPermit)
  /-- `gateway.decide`. -/
  | decide (proposal : ActionProposal) (state : SystemState) (now : Time)
  /-- `verify`, `records` and `append` of the evidence chain. -/
  | verifyEvidence
  | records
  | append (proposalId decisionId : String) (payload : JsonObject)
  /-- The issuer signs a permit. -/
  | sign (permit : ExecutionPermit)
  /-- Somebody has a permit. -/
  | present (permit : ExecutionPermit)
  /-- `with self._lock` of the device. -/
  | enter
  | leave
  /-- `_scan_counter += 1`. -/
  | scan
  /-- The three sets are read, and added to. -/
  | consumed
  | reserve (permit : ExecutionPermit)

abbrev ControlAct.Reply : ControlAct → Type
  | .clock => ClockReading
  | .uuid => String
  | .captureState => Except PlantError PhysicalStateSnapshot
  | .readState => Except PlantError PhysicalStateSnapshot
  | .simulateCandidate _ => Except PlantError CandidateAssessment
  | .applyAuthorizedCommand _ => Except PlantError PhysicalStateSnapshot
  | .decide _ _ _ => Except String Decision
  | .verifyEvidence => Bool
  | .records => List (EvidenceRecord JsonObject)
  | .append _ _ _ => EvidenceRecord JsonObject
  | .sign _ => ExecutionPermit
  | .present _ => Unit
  | .enter => Unit
  | .leave => Unit
  | .scan => Nat
  | .consumed => ConsumedAuthorizations
  | .reserve _ => Unit

/-- The arguments of `apply_authorized_command` for a permit. -/
def ExecutionPermit.request (permit : ExecutionPermit) : PandapowerCigreMvPlant.ApplyRequest :=
  { command := permit.command
    expectedPreStateVersion := some permit.stateVersion
    expectedPreStateDigest := some permit.stateDigest
    expectedPreObservationDigest := some permit.observationDigest
    expectedPostStateDigest := some permit.expectedPostStateDigest
    expectedPostTopologyDigest := some permit.expectedPostTopologyDigest
    effectDeadline := none }

section

variable [Primitives] [PlantPrimitives] [Pandapower] [Binary64] [EvidencePrimitives]

/-- `signed`. -/
def ExecutionPermit.signed (permit : ExecutionPermit) (privateKey : PrivateKey) :
    ExecutionPermit :=
  { permit with
    signature := Primitives.signBytes privateKey (.basePermit { permit with signature := "" }) }

namespace ControlState

variable {ι : Type}

/-- The state after `apply_authorized_command` of a thread. -/
def applied (s : ControlState ι) (i : ι) (permit : ExecutionPermit)
    (reply : Except PlantError PhysicalStateSnapshot) (plant : PandapowerCigreMvPlant) :
    ControlState ι :=
  match reply with
  | .ok snapshot =>
      { s with plant := plant, commits := (i, ⟨permit, s.plant, snapshot, plant⟩) :: s.commits }
  | .error _ => { s with plant := plant }

/-- What an action of a thread can do and reply. -/
def perform (lab : PhysicalLocalLab) (i : ι) (s : ControlState ι) :
    (action : ControlAct) → action.Reply → ControlState ι → Prop
  | .clock, _, s' => s' = s
  | .uuid, _, s' => s' = s
  | .captureState, reply, s' =>
      ∃ clock plant, Method.call (PandapowerCigreMvPlant.captureState clock) s.plant =
        (reply, plant) ∧ s' = { s with plant := plant }
  | .readState, reply, s' => reply = s.plant.readState ∧ s' = s
  | .simulateCandidate command, reply, s' =>
      (∃ assessmentId, reply = s.plant.simulateCandidate command assessmentId) ∧ s' = s
  | .applyAuthorizedCommand permit, reply, s' =>
      ∃ observed plant, Method.call (PandapowerCigreMvPlant.applyAuthorizedCommand permit.request
        observed observed none) s.plant = (reply, plant) ∧ s' = s.applied i permit reply plant
  | .decide _ _ _, _, s' =>
      ∃ entries, s' = { s with evidence := s.evidence.afterAppends entries }
  | .verifyEvidence, reply, s' => reply = s.evidence.verify ∧ s' = s
  | .records, reply, s' => reply = s.evidence.records ∧ s' = s
  | .append proposalId decisionId payload, reply, s' =>
      ∃ now, reply = (s.evidence.append now proposalId decisionId payload).1 ∧
        s' = { s with evidence := (s.evidence.append now proposalId decisionId payload).2 }
  | .sign permit, reply, s' =>
      reply = permit.signed lab.permitIssuer.privateKey ∧
        s' = { s with issued := permit.signed lab.permitIssuer.privateKey :: s.issued }
  -- A signature that verifies is one of the issuer.
  | .present permit, _, s' =>
      s' = s ∧ ∀ publicKey,
        lookupEntry permit.signingKeyId lab.controlDevice.permitPublicKeys = some publicKey →
        permit.verify publicKey = true → permit ∈ s.issued
  | .enter, _, s' => s.holder = none ∧ s' = { s with holder := some i }
  | .leave, _, s' => s' = { s with holder := none }
  | .scan, reply, s' =>
      reply = s.scanCounter + 1 ∧ s' = { s with scanCounter := s.scanCounter + 1 }
  | .consumed, reply, s' => reply = s.consumed ∧ s' = s
  | .reserve permit, _, s' => s' = { s with consumed := s.consumed.add permit }

end ControlState

end

abbrev ControlProgram (α : Type) := Program ControlAct ControlAct.Reply ControlError α

namespace ControlProgram

/-- Perform one action. -/
def perform (action : ControlAct) : ControlProgram action.Reply := Program.call action

/-- `self.clock()`. -/
def clock : ControlProgram Time := do
  let reading ← perform .clock
  Program.result (reading.mapError .other)

/-- An answer of the plant, or its exception. -/
def answered {α : Type} (reply : Except PlantError α) : ControlProgram α :=
  Program.result (reply.mapError .ofPlant)

end ControlProgram

open ControlProgram

/-! ## Issuing a permit -/

namespace ExecutionPermitIssuer

variable [Primitives] [ModelDump]

/-- The permit before it is signed. -/
def unsigned (issuer : ExecutionPermitIssuer) (proposal : ActionProposal) (decision : Decision)
    (command : PhysicalControlCommand) (assessment : CandidateAssessment)
    (evidenceRecordHash : Sha256) (issuedAt : Time) (permitId permitNonce : String) :
    ExecutionPermit :=
  { permitId := permitId
    permitNonce := permitNonce
    decisionId := decision.decisionId
    proposalId := proposal.proposalId
    proposalDigest := proposalDigest proposal
    command := command
    commandDigest := command.digest
    assessmentDigest := assessment.digest
    stateVersion := assessment.preState.stateVersion
    stateDigest := assessment.preState.stateDigest
    observationDigest := assessment.preState.observationDigest
    topologyDigest := assessment.preState.topologyDigest
    modelDigest := assessment.preState.modelDigest
    expectedPostStateVersion := assessment.postState.stateVersion
    expectedPostStateDigest := assessment.postState.stateDigest
    expectedPostTopologyDigest := assessment.postState.topologyDigest
    evidenceRecordHash := evidenceRecordHash
    policyVersion := decision.policyVersion
    safetyVersion := decision.safetyVersion
    audience := issuer.audience
    issuedAt := issuedAt
    expiresAt := issuedAt + issuer.timeToLive
    signingKeyId := issuer.signingKeyId
    signature := "" }

/-- `issue` up to the evidence: the hash that the decision refers to. -/
def checkArguments (proposal : ActionProposal) (decision : Decision)
    (command : PhysicalControlCommand) (assessment : CandidateAssessment) :
    Except ControlError Sha256 := do
  (proposal.validate).mapError
    (fun _ => .permitIssuance "authorization_artifact_not_structurally_valid")
  (command.validate).mapError
    (fun _ => .permitIssuance "authorization_artifact_not_structurally_valid")
  (assessment.revalidate).mapError
    (fun _ => .permitIssuance "authorization_artifact_not_structurally_valid")
  refuseIf (decision.outcome ≠ .permit) (.permitIssuance "decision_not_permit")
  refuseIf (decision.proposalId ≠ proposal.proposalId)
    (.permitIssuance "proposal_decision_mismatch")
  refuseIf (command.proposalId ≠ proposal.proposalId) (.permitIssuance "proposal_command_mismatch")
  refuseIf (assessment.safe = false) (.permitIssuance "candidate_not_safe")
  refuseIf (assessment.commandDigest ≠ command.digest)
    (.permitIssuance "candidate_command_mismatch")
  refuseIf (decision.stateVersion ≠ assessment.preState.stateVersion)
    (.permitIssuance "decision_state_version_mismatch")
  refuseIf (assessment.preState.verifyDigest = false)
    (.permitIssuance "candidate_pre_state_digest_invalid")
  orRaise decision.evidenceRecordHash (.permitIssuance "decision_evidence_missing")

/-- The checks on the evidence record of the decision. The state is projected only for a record of
    the proposal and the decision. -/
def checkEvidence (records : List (EvidenceRecord JsonObject)) (evidenceRecordHash : Sha256)
    (proposal : ActionProposal) (decision : Decision) (assessment : CandidateAssessment) :
    Except ControlError Unit := do
  let record ← orRaise (records.find? (fun record =>
      decide (record.recordHash = hexdigest evidenceRecordHash)))
    (.permitIssuance "decision_evidence_not_found")
  refuseIf (record.proposalId ≠ proposal.proposalId ∨ record.decisionId ≠ decision.decisionId ∨
      record.payload.holds "proposal" (ModelDump.proposal proposal) = false)
    (.permitIssuance "decision_evidence_binding_mismatch")
  let state ← physicalStateToGatewayState assessment.preState
  refuseIf (record.payload.holds "state" (ModelDump.systemState state) = false)
    (.permitIssuance "decision_evidence_binding_mismatch")
  refuseIf (record.payload.holds "decision"
      (ModelDump.decision { decision with evidenceRecordHash := none }) = false)
    (.permitIssuance "decision_evidence_binding_mismatch")

/-- `issue`. -/
def issue (issuer : ExecutionPermitIssuer) (proposal : ActionProposal) (decision : Decision)
    (command : PhysicalControlCommand) (assessment : CandidateAssessment) :
    ControlProgram ExecutionPermit := do
  let issuedAt ← clock
  let evidenceRecordHash ← Program.result (checkArguments proposal decision command assessment)
  let verified ← perform .verifyEvidence
  Program.require (verified = false) (.permitIssuance "decision_evidence_chain_invalid")
  let records ← perform .records
  Program.result (checkEvidence records evidenceRecordHash proposal decision assessment)
  let permitId ← perform .uuid
  let permitNonce ← perform .uuid
  let permit := issuer.unsigned proposal decision command assessment evidenceRecordHash issuedAt
    permitId permitNonce
  Program.result ((permit.validate).mapError .ofValidation)
  perform (.sign permit)

end ExecutionPermitIssuer

/-! ## The control device -/

namespace PermitAwareVirtualControlDevice

open CapabilityVirtualPlc (actuatorSetpoint firstFailure attestationMismatch diverges)

/-- What a branch of `_execute_locked` acknowledges. -/
structure Disposition where
  status : CommandStatus
  reason : String
  acknowledgedAt : Time
  postState : Option PhysicalStateSnapshot

/-- The acknowledgment of a disposition before it is signed. -/
def acknowledgment (device : PermitAwareVirtualControlDevice) (acknowledgmentId : String)
    (scan : Nat) (permit : ExecutionPermit) (preState : PhysicalStateSnapshot)
    (d : Disposition) : CommandAcknowledgment :=
  { acknowledgmentId := acknowledgmentId
    permitId := permit.permitId
    permitNonce := permit.permitNonce
    commandId := permit.command.commandId
    commandDigest := permit.commandDigest
    assessmentDigest := permit.assessmentDigest
    proposalId := permit.proposalId
    decisionId := permit.decisionId
    deviceId := device.deviceId
    deviceScan := scan
    status := d.status
    reason := d.reason
    acknowledgedAt := d.acknowledgedAt
    preStateDigest := preState.stateDigest
    postStateDigest := d.postState.map (fun s => s.stateDigest)
    postStateVersion := d.postState.map (fun s => s.stateVersion)
    preActuatorSetpoint := actuatorSetpoint preState permit.command
    postActuatorSetpoint :=
      match d.postState with
      | some s => some (actuatorSetpoint s permit.command)
      | none =>
          if d.status = .rejected then some (actuatorSetpoint preState permit.command) else none
    simulationTimeS := (d.postState.getD preState).simulationTimeS
    signingKeyId := device.acknowledgmentKeyId
    signature := "" }

variable [ControlPrimitives]

/-- `_acknowledge`. -/
def acknowledge (device : PermitAwareVirtualControlDevice) (scan : Nat)
    (permit : ExecutionPermit) (preState : PhysicalStateSnapshot) (d : Disposition) :
    ControlProgram CommandAcknowledgment := do
  let acknowledgmentId ← perform .uuid
  let acknowledgment := device.acknowledgment acknowledgmentId scan permit preState d
  Program.result ((acknowledgment.validate).mapError .ofValidation)
  pure (acknowledgment.signed device.acknowledgmentPrivateKey)

variable [Primitives]

/-- The `checks` of `_execute_locked`, each with the reason of its rejection. -/
def checks (device : PermitAwareVirtualControlDevice) (permit : ExecutionPermit)
    (proposal : ActionProposal) (decision : Decision) (assessment : CandidateAssessment)
    (evaluatedAt : Time) (preState : PhysicalStateSnapshot) (consumed : ConsumedAuthorizations) :
    List (Bool × String) :=
  let publicKey := lookupEntry permit.signingKeyId device.permitPublicKeys
  [(decide (permit.audience = device.permitAudience), "permit_wrong_audience"),
    (publicKey.isSome, "permit_unknown_signing_key"),
    (publicKey.any permit.verify, "permit_signature_invalid"),
    (decide (permit.issuedAt ≤ evaluatedAt), "permit_not_yet_valid"),
    (decide (evaluatedAt < permit.expiresAt), "permit_expired"),
    (decide (permit.proposalId = proposal.proposalId), "permit_proposal_id_mismatch"),
    (decide (permit.proposalDigest = proposalDigest proposal), "permit_proposal_digest_mismatch"),
    (decide (permit.decisionId = decision.decisionId), "permit_decision_id_mismatch"),
    (decide (decision.outcome = .permit), "decision_not_permit"),
    (decide (decision.proposalId = proposal.proposalId), "decision_proposal_mismatch"),
    (decide (decision.evidenceRecordHash = some permit.evidenceRecordHash),
      "decision_evidence_mismatch"),
    (decide (permit.policyVersion = decision.policyVersion), "decision_policy_version_mismatch"),
    (decide (permit.safetyVersion = decision.safetyVersion), "decision_safety_version_mismatch"),
    (decide (permit.stateVersion = decision.stateVersion), "decision_state_version_mismatch"),
    (decide (permit.commandDigest = permit.command.digest), "permit_command_digest_mismatch"),
    (decide (permit.assessmentDigest = assessment.digest), "permit_assessment_digest_mismatch"),
    (assessment.safe, "candidate_not_safe"),
    (decide (assessment.commandDigest = permit.commandDigest),
      "candidate_command_digest_mismatch"),
    (decide (assessment.preState.stateDigest = permit.stateDigest),
      "candidate_state_digest_mismatch"),
    (decide (permit.permitId ∉ consumed.permits), "permit_replayed"),
    (decide (permit.permitNonce ∉ consumed.nonces), "permit_nonce_replayed"),
    (decide (permit.command.commandId ∉ consumed.commands), "command_replayed"),
    (preState.verifyDigest, "current_state_digest_invalid"),
    (decide (permit.modelDigest = preState.modelDigest), "model_digest_changed"),
    (decide (permit.topologyDigest = preState.topologyDigest), "topology_digest_changed"),
    (decide (permit.stateVersion = preState.stateVersion), "state_version_changed"),
    (decide (permit.stateDigest = preState.stateDigest), "state_digest_changed"),
    (decide (permit.observationDigest = preState.observationDigest),
      "observation_envelope_changed")]

/-- The plant is told to apply the command. -/
def applyCommand (device : PermitAwareVirtualControlDevice) (scan : Nat)
    (permit : ExecutionPermit) (preState : PhysicalStateSnapshot) :
    ControlProgram CommandAcknowledgment := do
  match ← perform (.applyAuthorizedCommand permit) with
  | .error (.simulation reason) => do
      let acknowledgedAt ← clock
      device.acknowledge scan permit preState ⟨.rejected, reason, acknowledgedAt, none⟩
  | .error (.other _) => do
      let acknowledgedAt ← clock
      device.acknowledge scan permit preState
        ⟨.unknownEffect, "unclassified_dispatch_failure", acknowledgedAt, none⟩
  | .ok postState => do
      let acknowledgedAt ← clock
      if diverges postState permit then
        device.acknowledge scan permit preState
          ⟨.unknownEffect, "post_dispatch_candidate_divergence", acknowledgedAt, none⟩
      else
        device.acknowledge scan permit preState
          ⟨.applied, "command_applied_and_read_back", acknowledgedAt, some postState⟩

/-- `_execute_locked` from the fresh assessment on. -/
def dispatchCandidate (device : PermitAwareVirtualControlDevice) (scan : Nat)
    (permit : ExecutionPermit) (assessment : CandidateAssessment)
    (preState : PhysicalStateSnapshot) : ControlProgram CommandAcknowledgment := do
  let simulated ← perform (.simulateCandidate permit.command)
  let fresh ← answered simulated
  -- Both branches read the clock next, for the acknowledgment or as the commit time.
  let commitTime ← clock
  if attestationMismatch fresh assessment then
    device.acknowledge scan permit preState
      ⟨.rejected, "candidate_attestation_mismatch", commitTime, none⟩
  else if permit.expiresAt ≤ commitTime then
    device.acknowledge scan permit preState
      ⟨.rejected, "permit_expired_before_dispatch", commitTime, none⟩
  else do
    perform (.reserve permit)
    device.applyCommand scan permit preState

/-- `_execute_locked`. -/
def executeLocked (device : PermitAwareVirtualControlDevice) (permit : ExecutionPermit)
    (proposal : ActionProposal) (decision : Decision) (assessment : CandidateAssessment) :
    ControlProgram CommandAcknowledgment := do
  let evaluatedAt ← clock
  let scan ← perform .scan
  let state ← perform .readState
  let preState ← answered state
  let consumed ← perform .consumed
  match firstFailure (device.checks permit proposal decision assessment evaluatedAt preState
    consumed) with
  | some reason =>
      device.acknowledge scan permit preState ⟨.rejected, reason, evaluatedAt, none⟩
  | none => device.dispatchCandidate scan permit assessment preState

/-- `execute`. -/
def execute (device : PermitAwareVirtualControlDevice) (permit : ExecutionPermit)
    (proposal : ActionProposal) (decision : Decision) (assessment : CandidateAssessment) :
    ControlProgram CommandAcknowledgment := do
  perform .enter
  (device.executeLocked permit proposal decision assessment).ensuring (perform .leave)

end PermitAwareVirtualControlDevice

/-! ## The controller -/

namespace PhysicalClosedLoopController

variable [Primitives] [ModelDump]

/-- `_record`. -/
def record (d : ClosedLoopDisposition) : ControlProgram ClosedLoopResult := do
  let appended ← perform (.append d.proposal.proposalId d.decision.decisionId d.payload)
  let result : ClosedLoopResult := { d with executionEvidenceHash := appended.recordHash }
  Program.result ((result.validate).mapError .ofValidation)
  pure result

/-- A disposition before anything was dispatched. -/
def undispatched (status : ClosedLoopStatus) (reasons : List String) (proposal : ActionProposal)
    (preState : PhysicalStateSnapshot) (decision : Decision) : ClosedLoopDisposition :=
  { status := status
    reasons := reasons
    proposal := proposal
    preState := preState
    decision := decision
    command := none
    assessment := none
    permit := none
    acknowledgment := none
    postState := some preState
    lastObservedState := preState }

/-- A disposition of a permit that was handed to the device. -/
def dispatched (status : ClosedLoopStatus) (reasons : List String) (proposal : ActionProposal)
    (preState : PhysicalStateSnapshot) (decision : Decision) (command : PhysicalControlCommand)
    (assessment : CandidateAssessment) (permit : ExecutionPermit)
    (acknowledgment : Option CommandAcknowledgment) (postState : Option PhysicalStateSnapshot)
    (lastObservedState : PhysicalStateSnapshot) : ClosedLoopDisposition :=
  { status := status
    reasons := reasons
    proposal := proposal
    preState := preState
    decision := decision
    command := some command
    assessment := some assessment
    permit := some permit
    acknowledgment := acknowledgment
    postState := postState
    lastObservedState := lastObservedState }

/-- `readback_matches`. -/
def readbackMatches (acknowledgment : CommandAcknowledgment) (postState : PhysicalStateSnapshot) :
    Bool :=
  decide (acknowledgment.postStateDigest = some postState.stateDigest ∧
    acknowledgment.postStateVersion = some postState.stateVersion)

variable [ControlPrimitives]

/-- The disposition for an acknowledgment and the state that was read back. -/
def concluded (lab : PhysicalLocalLab) (proposal : ActionProposal)
    (preState : PhysicalStateSnapshot) (decision : Decision) (command : PhysicalControlCommand)
    (assessment : CandidateAssessment) (permit : ExecutionPermit)
    (acknowledgment : CommandAcknowledgment) (postState : PhysicalStateSnapshot) :
    ClosedLoopDisposition :=
  let acknowledgmentValid := acknowledgment.verifyForTransaction lab.acknowledgmentPublicKey
    permit preState postState lab.controlDevice.deviceId lab.controlDevice.acknowledgmentKeyId
  let matched := readbackMatches acknowledgment postState
  if acknowledgment.status = .applied ∧ acknowledgmentValid = true ∧ matched = true then
    dispatched .completed ["command_applied_acknowledged_and_read_back"] proposal preState
      decision command assessment permit (some acknowledgment) (some postState) postState
  else if acknowledgment.status = .rejected ∧ acknowledgmentValid = true then
    dispatched .deviceRejected [acknowledgment.reason] proposal preState decision command
      assessment permit (some acknowledgment) (some postState) postState
  else
    dispatched .unknownEffect
      (["execution_effect_not_established", acknowledgment.reason] ++
        (if acknowledgmentValid then [] else ["acknowledgment_signature_invalid"]) ++
        (if acknowledgment.status = .applied ∧ matched = false then
          ["acknowledgment_readback_mismatch"] else []))
      proposal preState decision command assessment permit (some acknowledgment) none postState

/-- `execute` from the permit on. -/
def dispatch (lab : PhysicalLocalLab) (proposal : ActionProposal)
    (preState : PhysicalStateSnapshot) (decision : Decision) (command : PhysicalControlCommand)
    (assessment : CandidateAssessment) (permit : ExecutionPermit) :
    ControlProgram ClosedLoopResult := do
  let executed ← (lab.controlDevice.execute permit proposal decision assessment).attempt
  match executed with
  | .error error =>
      record (dispatched .unknownEffect
        ["control_dispatch_outcome_unavailable", error.typeName] proposal preState decision
        command assessment permit none none preState)
  | .ok acknowledgment => do
      match ← perform .readState with
      | .error error =>
          record (dispatched .unknownEffect
            ["post_dispatch_readback_unavailable", (ControlError.ofPlant error).typeName] proposal
            preState decision command assessment permit (some acknowledgment) none preState)
      | .ok postState =>
          record (concluded lab proposal preState decision command assessment permit
            acknowledgment postState)

/-- `execute` from the assessment on. -/
def assess (lab : PhysicalLocalLab) (proposal : ActionProposal)
    (preState : PhysicalStateSnapshot) (decision : Decision) (command : PhysicalControlCommand) :
    ControlProgram ClosedLoopResult := do
  let simulated ← perform (.simulateCandidate command)
  let assessment ← answered simulated
  if assessment.safe = false then
    record { undispatched .candidateRejected assessment.reasons proposal preState decision with
      command := some command
      assessment := some assessment }
  else do
    let permit ← lab.permitIssuer.issue proposal decision command assessment
    dispatch lab proposal preState decision command assessment permit

/-- `execute` from the decision on. -/
def permitted (lab : PhysicalLocalLab) (proposal : ActionProposal)
    (preState : PhysicalStateSnapshot) (decision : Decision) : ControlProgram ClosedLoopResult := do
  let commandId ← perform .uuid
  match TrustedCommandTranslator.translate lab.resourceBindings proposal commandId with
  | .error (.translation reason) =>
      record (undispatched .notDispatched [reason] proposal preState decision)
  | .error error => Program.raise error
  | .ok command => assess lab proposal preState decision command

/-- A state that the gateway cannot judge is a failure of its own. -/
def gatewayState (preState : PhysicalStateSnapshot) : Except ControlError SystemState :=
  match physicalStateToGatewayState preState with
  | .error (.simulation _) => .error (.simulation "authorization_state_unavailable")
  | projected => projected

/-- `execute`. -/
def execute (lab : PhysicalLocalLab) (proposal : ActionProposal) :
    ControlProgram ClosedLoopResult := do
  let evaluatedAt ← clock
  let captured ← perform .captureState
  let preState ← answered captured
  let state ← Program.result (gatewayState preState)
  let decided ← perform (.decide proposal state evaluatedAt)
  let decision ← Program.result (decided.mapError .other)
  if decision.outcome ≠ .permit then
    record (undispatched .notDispatched decision.reasons proposal preState decision)
  else permitted lab proposal preState decision

end PhysicalClosedLoopController

/-! ## Threads -/

/-- What a thread does: a controller executes a proposal, somebody hands a permit to the device, or
    the plant is observed. -/
inductive ControlRequest where
  | control (proposal : ActionProposal)
  | present (permit : ExecutionPermit) (proposal : ActionProposal) (decision : Decision)
      (assessment : CandidateAssessment)
  | capture

inductive ControlAnswer where
  | result (result : ClosedLoopResult)
  | acknowledgment (acknowledgment : CommandAcknowledgment)
  | captured (snapshot : PhysicalStateSnapshot)
  deriving DecidableEq

section

variable [Primitives] [ModelDump] [ControlPrimitives]

def ControlRequest.program (lab : PhysicalLocalLab) :
    ControlRequest → ControlProgram ControlAnswer
  | .control proposal => do
      let result ← PhysicalClosedLoopController.execute lab proposal
      pure (.result result)
  | .present permit proposal decision assessment => do
      perform (.present permit)
      let acknowledgment ← lab.controlDevice.execute permit proposal decision assessment
      pure (.acknowledgment acknowledgment)
  | .capture => do
      let captured ← perform .captureState
      let snapshot ← answered captured
      pure (.captured snapshot)

variable [PlantPrimitives] [Pandapower] [Binary64] [EvidencePrimitives]

/-- The threads of the process. -/
def controlThreads (ι : Type) (lab : PhysicalLocalLab) :
    Interleaving.Processes ι (ControlState ι) ControlAct ControlAct.Reply ControlRequest
      ControlError ControlAnswer where
  program _ request := request.program lab
  perform := ControlState.perform lab
  crash _ _ _ := False

end

end AegisOt
