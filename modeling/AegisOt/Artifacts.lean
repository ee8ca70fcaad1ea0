import Mathlib.Algebra.Order.Ring.Nat
import Mathlib.Algebra.Order.Ring.Rat
import Mathlib.Order.Fin.Basic
import Mathlib.Tactic.Common

/-!
# Signed artifacts

The immutable values that cross the coordination protocol: the capability dispatch of
`segmented_capability_models.py`, the workload credentials of `workload_identity.py` and the
prepare, receipt, commit, acceptance, query and outcome artifacts of `coordination_models.py`.
Only data is here; the checks on it are in `AegisOt.Capability` and
`AegisOt.Coordination.Models`.

Conventions. A SHA-256 digest (`^[0-9a-f]{64}$`) is the number it spells, which orders
digests as their hexadecimal texts are ordered. A timezone-aware `datetime` is its instant in
microseconds. A finite Python float is the rational it denotes. `schema_version` and other
one-value `Literal` fields carry no information and are left out. Ed25519 keys and signatures
are their base64 texts.
-/

namespace AegisOt

/-- A digest matching `SHA256_PATTERN`. -/
abbrev Sha256 := Fin (2 ^ 256)

/-- There are digests, so a numeral is one. -/
instance instNeZeroDigests : NeZero (2 ^ 256) := Nat.instNeZeroHPow

instance instLawfulBEqSha256 : LawfulBEq Sha256 := inferInstance

/-- `effect_id`, a digest behind the constant text `sha256:`. -/
abbrev EffectId := Sha256

/-- An aware `datetime`, in microseconds. -/
abbrev Time := ℤ

/-- A Python `datetime` argument. A naive one has no instant. -/
inductive DateTime where
  | aware (instant : Time)
  | naive
  deriving DecidableEq, Repr

abbrev PublicKey := String
abbrev PrivateKey := String

/-- One second of `timedelta`. -/
def second : Time := 1000000

/-! ## Capability artifacts -/

/-- `models.Operation`. -/
inductive Operation where
  | isolateAsset
  | restoreAsset
  | shedLoad
  | dispatchBattery
  deriving DecidableEq, Repr

/-- `models.DecisionOutcome`. -/
inductive DecisionOutcome where
  | permit
  | deny
  | modify
  | defer
  | simulate
  | requireApproval
  | quarantine
  | revoke
  deriving DecidableEq, Repr

/-- `physical_models.PhysicalCommandType`. -/
inductive PhysicalCommandType where
  | setLineService
  | setBatteryInjection
  deriving DecidableEq, Repr

/-- `physical_models.CommandStatus`. -/
inductive CommandStatus where
  | applied
  | rejected
  | unknownEffect
  deriving DecidableEq, Repr

/-- `capability_models.DispatchPhase`. -/
inductive DispatchPhase where
  | preDispatch
  | knownNoEffect
  | committed
  | effectUnknown
  deriving DecidableEq, Repr

/-- `capability_models.ObservationPhase`. -/
inductive ObservationPhase where
  | preAuthorization
  | postDispatch
  deriving DecidableEq, Repr

/-- `physical_models.PhysicalStateSnapshot`. -/
structure PhysicalStateSnapshot where
  modelId : String
  simulatorVersion : String
  modelDigest : Sha256
  inputDigest : Sha256
  topologyDigest : Sha256
  stateDigest : Sha256
  observationDigest : Sha256
  observationSequence : Nat
  observationSourceId : String
  observationClockDomain : String
  stateVersion : Nat
  simulationTimeS : ℚ
  observedAt : Time
  converged : Bool
  totalLoadDemandMw : ℚ
  servedLoadMw : ℚ
  unservedLoadMw : ℚ
  totalLoadServedPct : ℚ
  priorityLoadDemandMw : ℚ
  priorityLoadServedMw : ℚ
  priorityLoadServedPct : ℚ
  minimumVoltagePu : Option ℚ
  maximumVoltagePu : Option ℚ
  maximumLineLoadingPct : Option ℚ
  voltageViolationCount : Nat
  thermalViolationCount : Nat
  unsafeState : Bool
  isolatedResources : List String
  batteryInjectionMw : List (String × ℚ)
  busVoltagePu : List (Option ℚ)
  lineLoadingPct : List (Option ℚ)
  deriving DecidableEq

/-- The dictionary of `PhysicalStateSnapshot.observation_material`. -/
structure ObservationMaterial where
  stateDigest : Sha256
  observedAt : Time
  observationSequence : Nat
  observationSourceId : String
  observationClockDomain : String
  deriving DecidableEq

/-- `physical_models.PhysicalControlCommand`. -/
structure PhysicalControlCommand where
  commandId : String
  proposalId : String
  operation : Operation
  resource : String
  commandType : PhysicalCommandType
  target : String
  targetIndex : Nat
  setpoint : ℚ
  unit : String
  deriving DecidableEq

/-- `physical_models.CandidateAssessment`. -/
structure CandidateAssessment where
  assessmentId : String
  commandDigest : Sha256
  preState : PhysicalStateSnapshot
  postState : PhysicalStateSnapshot
  safe : Bool
  reasons : List String
  deriving DecidableEq

/-- `physical_models.ExecutionPermit`. -/
structure ExecutionPermit where
  permitId : String
  permitNonce : String
  decisionId : String
  proposalId : String
  proposalDigest : Sha256
  command : PhysicalControlCommand
  commandDigest : Sha256
  assessmentDigest : Sha256
  stateVersion : Nat
  stateDigest : Sha256
  observationDigest : Sha256
  topologyDigest : Sha256
  modelDigest : Sha256
  expectedPostStateVersion : Nat
  expectedPostStateDigest : Sha256
  expectedPostTopologyDigest : Sha256
  evidenceRecordHash : Sha256
  policyVersion : String
  safetyVersion : String
  audience : String
  issuedAt : Time
  expiresAt : Time
  signingKeyId : String
  signature : String
  deriving DecidableEq

/-- `models.ActionProposal`. -/
structure ActionProposal where
  proposalId : String
  actorId : String
  missionId : String
  resource : String
  operation : Operation
  parameters : List (String × ℚ)
  observedStateVersion : Nat
  observedAt : Time
  submittedAt : Time
  nonce : String
  confidence : ℚ
  riskScore : ℚ
  delegationChain : List String
  humanApprovalId : Option String
  deriving DecidableEq

/-- `models.Decision`. -/
structure Decision where
  decisionId : String
  proposalId : String
  outcome : DecisionOutcome
  reasons : List String
  decidedAt : Time
  policyVersion : String
  safetyVersion : String
  stateVersion : Nat
  evidenceRecordHash : Option Sha256
  deriving DecidableEq

/-- `capability_models.SignedObservationEnvelope`. -/
structure SignedObservationEnvelope where
  observationId : String
  correlationId : String
  phase : ObservationPhase
  challengeNonce : String
  observerId : String
  observerKeyId : String
  observerBootEpoch : String
  observerSequence : Nat
  capturedAt : Time
  logicalTimeS : ℚ
  snapshot : PhysicalStateSnapshot
  permitId : Option String
  commandDigest : Option Sha256
  plcAcknowledgmentDigest : Option Sha256
  previousEnvelopeDigest : Option Sha256
  envelopeDigest : Sha256
  signature : String
  deriving DecidableEq

/-- `capability_models.CapabilityActionRequest`. -/
structure CapabilityActionRequest where
  requestId : String
  correlationId : String
  proposal : ActionProposal
  observationId : String
  observationEnvelopeDigest : Sha256
  observationChallengeNonce : String
  deriving DecidableEq

/-- `capability_models.CapabilityExecutionPermit`. -/
structure CapabilityExecutionPermit where
  basePermit : ExecutionPermit
  requestDigest : Sha256
  observationId : String
  observationEnvelopeDigest : Sha256
  observerId : String
  observerKeyId : String
  observerBootEpoch : String
  targetPlcId : String
  targetPlcKeyId : String
  targetPlcBootEpoch : String
  signingKeyId : String
  signature : String
  deriving DecidableEq

/-- `capability_models.PlcCommandAcknowledgment`. -/
structure PlcCommandAcknowledgment where
  acknowledgmentId : String
  requestDigest : Sha256
  permitDigest : Sha256
  observationEnvelopeDigest : Sha256
  permitId : String
  permitNonce : String
  commandId : String
  commandDigest : Sha256
  assessmentDigest : Sha256
  proposalId : String
  decisionId : String
  plcId : String
  plcKeyId : String
  plcBootEpoch : String
  plcScan : Nat
  status : CommandStatus
  dispatchPhase : DispatchPhase
  reason : String
  acknowledgedAt : Time
  preState : PhysicalStateSnapshot
  preStateDigest : Sha256
  preStateVersion : Nat
  postStateDigest : Option Sha256
  postStateVersion : Option Nat
  postTopologyDigest : Option Sha256
  preActuatorSetpoint : ℚ
  postActuatorSetpoint : Option ℚ
  simulationTimeS : ℚ
  signature : String
  deriving DecidableEq

/-- `segmented_capability_models.SegmentedCapabilityDispatch`: the complete artifact set the
    gateway sends to the virtual PLC. -/
structure SegmentedCapabilityDispatch where
  request : CapabilityActionRequest
  preObservation : SignedObservationEnvelope
  decision : Decision
  assessment : CandidateAssessment
  permit : CapabilityExecutionPermit
  deriving DecidableEq

/-! ## Workload credentials -/

/-- `workload_identity.WorkloadRole`. -/
inductive WorkloadRole where
  | agent
  | candidate
  | gateway
  | otAdapter
  | observer
  | policy
  | plant
  | permitIssuer
  | simulation
  deriving DecidableEq, Repr

/-- `workload_identity.WorkloadCredential`. -/
structure WorkloadCredential where
  credentialId : String
  trustDomain : String
  subject : String
  role : WorkloadRole
  actorId : Option String
  keyId : String
  publicKey : PublicKey
  authorityKeyId : String
  audiences : List String
  issuedAt : Time
  notBefore : Time
  expiresAt : Time
  deriving DecidableEq

/-- `workload_identity.SignedWorkloadCredential`. -/
structure SignedWorkloadCredential where
  credential : WorkloadCredential
  signature : String
  deriving DecidableEq

/-! ## Coordination artifacts -/

/-- `CoordinationState`: durable gateway or effect-coordinator knowledge about one effect. -/
inductive CoordinationState where
  | received
  | dispatchArmed
  | commitAccepted
  | notDispatched
  | unknownEffect
  | applied
  | rejected
  deriving DecidableEq, Repr

/-- `EffectDisposition`. -/
inductive EffectDisposition where
  | notDispatched
  | unknownEffect
  | applied
  | rejected
  deriving DecidableEq, Repr

/-- `EffectIdentity.stable_material`: the semantic material an effect ID is derived from. -/
structure EffectMaterial where
  requestSha256 : Sha256
  commandSemanticsSha256 : Sha256
  targetId : String
  authorizedStateSha256 : Sha256
  authorizedStateVersion : Nat
  authorizedObservationSha256 : Sha256
  authorizedTopologySha256 : Sha256
  authorizedModelSha256 : Sha256
  expectedPostStateSha256 : Sha256
  expectedPostStateVersion : Nat
  expectedPostTopologySha256 : Sha256
  deriving DecidableEq

/-- `EffectIdentity`. -/
structure EffectIdentity extends EffectMaterial where
  effectId : EffectId
  deriving DecidableEq

/-- The fields of `_SignedRequest`. -/
structure SignedRequest where
  effect : EffectIdentity
  effectSha256 : Sha256
  audience : String
  senderCredential : SignedWorkloadCredential
  requestNonce : String
  issuedAt : Time
  expiresAt : Time
  signature : String
  deriving DecidableEq

/-- `SignedEffectPrepareRequest`: gateway-signed prepare intent binding the exact dispatch. -/
structure SignedEffectPrepareRequest extends SignedRequest where
  dispatch : SegmentedCapabilityDispatch
  dispatchSha256 : Sha256
  deriving DecidableEq

/-- `CoordinationReceipt`: coordinator-signed proof of durable preparation. -/
structure CoordinationReceipt where
  effect : EffectIdentity
  effectSha256 : Sha256
  prepareRequest : SignedEffectPrepareRequest
  prepareRequestSha256 : Sha256
  audience : String
  coordinatorCredential : SignedWorkloadCredential
  preparedAt : Time
  signature : String
  deriving DecidableEq

/-- `SignedEffectCommitRequest`: gateway-signed commit bound to the exact receipt. -/
structure SignedEffectCommitRequest extends SignedRequest where
  receipt : CoordinationReceipt
  receiptSha256 : Sha256
  deriving DecidableEq

/-- `DurableCommitAcceptance`: coordinator-signed proof of the accepted commit intent. -/
structure DurableCommitAcceptance where
  effect : EffectIdentity
  effectSha256 : Sha256
  commitRequest : SignedEffectCommitRequest
  commitRequestSha256 : Sha256
  audience : String
  coordinatorCredential : SignedWorkloadCredential
  acceptedAt : Time
  signature : String
  deriving DecidableEq

/-- `SignedEffectQueryRequest`: gateway-signed query by stable effect identity. -/
structure SignedEffectQueryRequest extends SignedRequest where
  deriving DecidableEq

/-- `SignedEffectOutcome.request_kind`. -/
inductive RequestKind where
  | commit
  | query
  deriving DecidableEq, Repr

/-- `SignedEffectOutcome`: coordinator-signed answer to an exact commit or query. -/
structure SignedEffectOutcome where
  requestKind : RequestKind
  requestSha256 : Sha256
  effect : EffectIdentity
  effectSha256 : Sha256
  disposition : EffectDisposition
  acceptance : Option DurableCommitAcceptance
  acknowledgment : Option PlcCommandAcknowledgment
  reason : String
  audience : String
  coordinatorCredential : SignedWorkloadCredential
  signedAt : Time
  signature : String
  deriving DecidableEq

/-- `WorkloadAuthenticatedEffectReconciliation`: an agent's proof that asks for the recovery of
    one retained action. -/
structure WorkloadAuthenticatedEffectReconciliation where
  audience : String
  request : CapabilityActionRequest
  requestSha256 : Sha256
  senderCredential : SignedWorkloadCredential
  requestNonce : String
  issuedAt : Time
  expiresAt : Time
  signature : String
  deriving DecidableEq

/-! ## Canonical JSON material -/

/-- Everything that is hashed or signed. Each constructor stands for the canonical JSON text
    of its argument; signing payloads are the artifact with its signature cleared. -/
inductive Material where
  | snapshotState (snapshot : PhysicalStateSnapshot)
  | snapshotObservation (material : ObservationMaterial)
  | command (command : PhysicalControlCommand)
  | commandSemantics (command : PhysicalControlCommand)
  | proposal (proposal : ActionProposal)
  | assessment (assessment : CandidateAssessment)
  | basePermit (permit : ExecutionPermit)
  | permit (permit : CapabilityExecutionPermit)
  | action (request : CapabilityActionRequest)
  | observation (envelope : SignedObservationEnvelope)
  | acknowledgment (acknowledgment : PlcCommandAcknowledgment)
  | dispatch (dispatch : SegmentedCapabilityDispatch)
  | credential (credential : WorkloadCredential)
  | effectMaterial (material : EffectMaterial)
  | effect (effect : EffectIdentity)
  | prepare (request : SignedEffectPrepareRequest)
  | receipt (receipt : CoordinationReceipt)
  | commit (request : SignedEffectCommitRequest)
  | acceptance (acceptance : DurableCommitAcceptance)
  | query (request : SignedEffectQueryRequest)
  | outcome (outcome : SignedEffectOutcome)
  | reconciliation (request : WorkloadAuthenticatedEffectReconciliation)

/-- SHA-256 over canonical JSON (`canonical_digest`) or a plain text, and Ed25519
    (`crypto.py`). They are third-party code, so the development holds for every choice of
    these functions. -/
class Primitives where
  canonicalDigest : Material → Sha256
  textDigest : String → Sha256
  publicKeyOf : PrivateKey → PublicKey
  signBytes : PrivateKey → Material → String
  verifyBytes : PublicKey → Material → String → Bool

/-- Digests are ordered as numbers, which is the order of their texts. -/
instance (priority := 2000) : LinearOrder Sha256 := Fin.instLinearOrder

end AegisOt
