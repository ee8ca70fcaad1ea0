import AegisOt.Coordination.Operations

/-!
# A sample effect

One battery dispatch with its prepare, receipt, commit, acceptance, query and outcome
artifacts, as the helpers of `tests/test_coordination_journal.py` build them. Request nonces
and times are parameters. The digests of `samplePrimitives` separate the sample artifacts by
kind and nonce, and its signatures accept what `signBytes` writes.
-/

namespace AegisOt.Sample

/-- A digest from a small number. -/
def sha (n : Nat) : Sha256 := ⟨n % 2 ^ 256, Nat.mod_lt _ (by decide)⟩

/-- The text of every sample signature. -/
def signature : String := "sample-signature"

def kindDigest : Material → Nat
  | .snapshotState s => 1000 + s.stateVersion
  | .snapshotObservation m => 2000 + m.observationSequence
  | .command _ => 3000
  | .commandSemantics _ => 3001
  | .proposal _ => 3002
  | .assessment _ => 3003
  | .basePermit _ => 3004
  | .permit _ => 3005
  | .action r => 4000 + r.requestId.length
  | .observation _ => 3006
  | .acknowledgment _ => 3007
  | .dispatch d => 5000 + d.request.requestId.length
  | .credential _ => 3008
  | .effectMaterial m => 20000 + m.requestSha256.val
  | .effect e => 30000 + e.requestSha256.val
  | .prepare r => 6000 + r.requestNonce.length
  | .receipt r => 7000 + r.prepareRequest.requestNonce.length
  | .commit r => 8000 + r.requestNonce.length
  | .acceptance a => 9000 + a.commitRequest.requestNonce.length
  | .query r => 10000 + r.requestNonce.length
  | .outcome o => 11000 + o.reason.length
  | .reconciliation r => 12000 + r.requestNonce.length

/-- Digests that separate the sample artifacts, and signatures that accept their own text. -/
scoped instance samplePrimitives : Primitives where
  canonicalDigest m := sha (kindDigest m)
  textDigest text := sha text.length
  publicKeyOf key := key
  signBytes _ _ := signature
  verifyBytes _ _ s := decide (s = signature)

def snapshot (version : Nat) : PhysicalStateSnapshot :=
  { modelId := "feeder-33"
    simulatorVersion := "1.0"
    modelDigest := sha 1
    inputDigest := sha 2
    topologyDigest := sha 3
    stateDigest := sha (1000 + version)
    observationDigest := sha (2000 + version)
    observationSequence := version
    observationSourceId := "observer"
    observationClockDomain := "simulation"
    stateVersion := version
    simulationTimeS := 0
    observedAt := 0
    converged := true
    totalLoadDemandMw := 3
    servedLoadMw := 3
    unservedLoadMw := 0
    totalLoadServedPct := 100
    priorityLoadDemandMw := 1
    priorityLoadServedMw := 1
    priorityLoadServedPct := 100
    minimumVoltagePu := some 1
    maximumVoltagePu := some 1
    maximumLineLoadingPct := some 50
    voltageViolationCount := 0
    thermalViolationCount := 0
    unsafeState := false
    isolatedResources := []
    batteryInjectionMw := [("battery-1", 0)]
    busVoltagePu := [some 1]
    lineLoadingPct := [some 50] }

def proposal : ActionProposal :=
  { proposalId := "proposal-1"
    actorId := "agent-1"
    missionId := "mission-1"
    resource := "battery-1"
    operation := .dispatchBattery
    parameters := [("power_mw", 1)]
    observedStateVersion := 0
    observedAt := 0
    submittedAt := 0
    nonce := "proposal-nonce-1"
    confidence := 1
    riskScore := 0
    delegationChain := ["agent-1"]
    humanApprovalId := none }

def command : PhysicalControlCommand :=
  { commandId := "command-1"
    proposalId := "proposal-1"
    operation := .dispatchBattery
    resource := "battery-1"
    commandType := .setBatteryInjection
    target := "storage"
    targetIndex := 0
    setpoint := 1
    unit := "MW" }

def observation : SignedObservationEnvelope :=
  { observationId := "observation-1"
    correlationId := "correlation-1"
    phase := .preAuthorization
    challengeNonce := "challenge-nonce-1"
    observerId := "observer"
    observerKeyId := "observer-key"
    observerBootEpoch := "observer-boot-epoch"
    observerSequence := 1
    capturedAt := 0
    logicalTimeS := 0
    snapshot := snapshot 0
    permitId := none
    commandDigest := none
    plcAcknowledgmentDigest := none
    previousEnvelopeDigest := none
    envelopeDigest := sha 3006
    signature := signature }

/-- The action request; its identifier separates the effects of different actions. -/
def actionRequest (requestId : String) : CapabilityActionRequest :=
  { requestId := requestId
    correlationId := "correlation-1"
    proposal := proposal
    observationId := "observation-1"
    observationEnvelopeDigest := sha 3006
    observationChallengeNonce := "challenge-nonce-1" }

def assessment : CandidateAssessment :=
  { assessmentId := "assessment-1"
    commandDigest := sha 3000
    preState := snapshot 0
    postState := snapshot 1
    safe := true
    reasons := [] }

def basePermit : ExecutionPermit :=
  { permitId := "permit-1"
    permitNonce := "permit-nonce-0001"
    decisionId := "decision-1"
    proposalId := "proposal-1"
    proposalDigest := sha 3002
    command := command
    commandDigest := sha 3000
    assessmentDigest := sha 3003
    stateVersion := 0
    stateDigest := sha 1000
    observationDigest := sha 2000
    topologyDigest := sha 3
    modelDigest := sha 1
    expectedPostStateVersion := 1
    expectedPostStateDigest := sha 1001
    expectedPostTopologyDigest := sha 3
    evidenceRecordHash := sha 4
    policyVersion := "policy-1"
    safetyVersion := "safety-1"
    audience := "plc-1"
    issuedAt := 0
    expiresAt := 30 * second
    signingKeyId := "permit-key"
    signature := signature }

/-- The dispatch of one action. -/
def dispatch (requestId : String) : SegmentedCapabilityDispatch :=
  { request := actionRequest requestId
    preObservation := observation
    decision :=
      { decisionId := "decision-1"
        proposalId := "proposal-1"
        outcome := .permit
        reasons := []
        decidedAt := 0
        policyVersion := "policy-1"
        safetyVersion := "safety-1"
        stateVersion := 0
        evidenceRecordHash := some (sha 4) }
    assessment := assessment
    permit :=
      { basePermit := basePermit
        requestDigest := (actionRequest requestId).digest
        observationId := "observation-1"
        observationEnvelopeDigest := sha 3006
        observerId := "observer"
        observerKeyId := "observer-key"
        observerBootEpoch := "observer-boot-epoch"
        targetPlcId := "plc-1"
        targetPlcKeyId := "coordinator-key"
        targetPlcBootEpoch := "plc-boot-epoch-01"
        signingKeyId := "permit-key"
        signature := signature } }

/-- A workload credential, valid for the hour around time zero. -/
def credential (subject : String) (role : WorkloadRole) (keyId audience : String) :
    SignedWorkloadCredential :=
  { credential :=
      { credentialId := "credential-" ++ subject
        trustDomain := "aegis-ot"
        subject := subject
        role := role
        actorId := none
        keyId := keyId
        publicKey := keyId
        authorityKeyId := "authority-key"
        audiences := [audience]
        issuedAt := 0
        notBefore := 0
        expiresAt := 3600 * second }
    signature := signature }

def gatewayCredential : SignedWorkloadCredential :=
  credential "gateway" .gateway "gateway-key" effectCoordinatorAudience

def coordinatorCredential : SignedWorkloadCredential :=
  credential "coordinator" .otAdapter "coordinator-key" gatewayCoordinationAudience

/-- The effect of one action. -/
def effect (requestId : String) : EffectIdentity := EffectIdentity.fromDispatch (dispatch requestId)

/-- The fields of a gateway request. -/
def signedRequest (requestId nonce : String) (issuedAt : Time) : SignedRequest :=
  { effect := effect requestId
    effectSha256 := (effect requestId).digest
    audience := effectCoordinatorAudience
    senderCredential := gatewayCredential
    requestNonce := nonce
    issuedAt := issuedAt
    expiresAt := issuedAt + 10 * second
    signature := signature }

def prepareRequest (requestId nonce : String) (issuedAt : Time) : SignedEffectPrepareRequest :=
  { signedRequest requestId nonce issuedAt with
    dispatch := dispatch requestId
    dispatchSha256 := (dispatch requestId).digest }

def receipt (request : SignedEffectPrepareRequest) (preparedAt : Time) : CoordinationReceipt :=
  { effect := request.effect
    effectSha256 := request.effect.digest
    prepareRequest := request
    prepareRequestSha256 := request.digest
    audience := gatewayCoordinationAudience
    coordinatorCredential := coordinatorCredential
    preparedAt := preparedAt
    signature := signature }

def commitRequest (receipt : CoordinationReceipt) (nonce : String) (issuedAt : Time) :
    SignedEffectCommitRequest :=
  { effect := receipt.effect
    effectSha256 := receipt.effect.digest
    audience := effectCoordinatorAudience
    senderCredential := gatewayCredential
    requestNonce := nonce
    issuedAt := issuedAt
    expiresAt := issuedAt + 10 * second
    signature := signature
    receipt := receipt
    receiptSha256 := receipt.digest }

def queryRequest (requestId nonce : String) (issuedAt : Time) : SignedEffectQueryRequest :=
  { signedRequest requestId nonce issuedAt with }

/-- An answer to a query that denies any dispatch. -/
def notDispatchedOutcome (request : SignedEffectQueryRequest) (reason : String)
    (signedAt : Time) : SignedEffectOutcome :=
  { requestKind := .query
    requestSha256 := request.digest
    effect := request.effect
    effectSha256 := request.effect.digest
    disposition := .notDispatched
    acceptance := none
    acknowledgment := none
    reason := reason
    audience := gatewayCoordinationAudience
    coordinatorCredential := coordinatorCredential
    signedAt := signedAt
    signature := signature }

def acceptance (request : SignedEffectCommitRequest) (acceptedAt : Time) :
    DurableCommitAcceptance :=
  { effect := request.effect
    effectSha256 := request.effect.digest
    commitRequest := request
    commitRequestSha256 := request.digest
    audience := gatewayCoordinationAudience
    coordinatorCredential := coordinatorCredential
    acceptedAt := acceptedAt
    signature := signature }

/-- The PLC's acknowledgment that it applied the command of an action. -/
def appliedAcknowledgment (requestId acknowledgmentId : String) (acknowledgedAt : Time) :
    PlcCommandAcknowledgment :=
  { acknowledgmentId := acknowledgmentId
    requestDigest := (actionRequest requestId).digest
    permitDigest := (dispatch requestId).permit.digest
    observationEnvelopeDigest := sha 3006
    permitId := "permit-1"
    permitNonce := "permit-nonce-0001"
    commandId := "command-1"
    commandDigest := sha 3000
    assessmentDigest := sha 3003
    proposalId := "proposal-1"
    decisionId := "decision-1"
    plcId := "plc-1"
    plcKeyId := "coordinator-key"
    plcBootEpoch := "plc-boot-epoch-01"
    plcScan := 1
    status := .applied
    dispatchPhase := .committed
    reason := "applied"
    acknowledgedAt := acknowledgedAt
    preState := snapshot 0
    preStateDigest := sha 1000
    preStateVersion := 0
    postStateDigest := some (sha 1001)
    postStateVersion := some 1
    postTopologyDigest := some (sha 3)
    preActuatorSetpoint := 0
    postActuatorSetpoint := some 1
    simulationTimeS := 0
    signature := signature }

/-- An answer that reports an applied command. -/
def appliedOutcome (request : OutcomeRequest) (acceptance : DurableCommitAcceptance)
    (acknowledgment : PlcCommandAcknowledgment) (reason : String) (signedAt : Time) :
    SignedEffectOutcome :=
  { requestKind := request.kind
    requestSha256 := request.digest
    effect := request.signedRequest.effect
    effectSha256 := request.signedRequest.effect.digest
    disposition := .applied
    acceptance := some acceptance
    acknowledgment := some acknowledgment
    reason := reason
    audience := gatewayCoordinationAudience
    coordinatorCredential := coordinatorCredential
    signedAt := signedAt
    signature := signature }

/-- A verifier whose trust bundle revokes nothing. -/
def verifier : WorkloadIdentityVerifier :=
  { trustRootPublicKey := "authority-key"
    trustRootKeyId := "authority-key"
    trustDomain := "aegis-ot"
    maximumCredentialLifetime := 3600 * second
    trustedBundle := fun _ => some ⟨1, []⟩ }

/-! ## A sample journal -/

/-- A gateway journal that was just initialized. -/
def gatewayJournal : Journal .gateway :=
  ⟨"gateway", SortedMap.empty, SortedMap.empty, false, true⟩

/-- A clock and a disk that works. -/
def calm (now : Time) : OpEnv := ⟨now, (.written, .written)⟩

def samplePrepare : SignedEffectPrepareRequest := prepareRequest "action-1" "prepare-nonce-01" 0

theorem wellFormedItems_replicate_null (n : Nat) :
    Json.wellFormedItems (List.replicate n Json.null) = true := by
  induction n with
  | zero => rfl
  | succ n ih => simpa [List.replicate_succ, Json.wellFormedItems, Json.wellFormed] using ih

/-- A codec that writes how much history a record has, and reads back the sample record that
    was just received. -/
scoped instance sampleCodec : RecordCodec where
  dump r :=
    { members := [("attempts", .arr (List.replicate r.attempts.length .null)),
        ("transitions", .arr (List.replicate r.transitions.length .null))]
      wellFormed := by
        have hlt : "attempts".toList < "transitions".toList := by decide
        have hkeys (a b : Json) : KeysSorted [("attempts", a), ("transitions", b)] :=
          List.pairwise_pair.mpr (String.lt_iff_toList_lt.mpr hlt)
        simp only [Json.wellFormed, Json.wellFormedMembers, wellFormedItems_replicate_null,
          hkeys, decide_true, Bool.and_self] }
  parse
    | [(_, .arr [_]), (_, .arr [_])] => some (newRecord samplePrepare none 1)
    | _ => none

def sampleReceipt : CoordinationReceipt := receipt samplePrepare 1

def sampleCommit : SignedEffectCommitRequest := commitRequest sampleReceipt "commit-nonce-001" 2

/-- The prepare request was recorded. -/
def receiving : List (JournalOp .gateway × OpEnv) :=
  [(.gateway (.begin samplePrepare none), calm 1)]

/-- The effect was prepared. -/
def preparing : List (JournalOp .gateway × OpEnv) :=
  receiving ++ [(.gateway (.retainPreparation samplePrepare sampleReceipt none), calm 1)]

/-- The gateway closed the prepared effect. -/
def closing : List (JournalOp .gateway × OpEnv) :=
  preparing ++ [(.gateway (.closeNotDispatched samplePrepare.effect "local" none none), calm 2)]

/-- A coordinator journal that was just initialized. -/
def effectJournal : Journal .effectCoordinator :=
  ⟨"coordinator", SortedMap.empty, SortedMap.empty, false, true⟩

/-- The coordinator prepares the sample effect. -/
def prepareEffect : EffectOp :=
  .prepareEffect samplePrepare (fun request time => .ok (receipt request time)) none

def sampleAcceptance : DurableCommitAcceptance := acceptance sampleCommit 3

/-- The coordinator accepts the sample commit. -/
def acceptCommit : EffectOp :=
  .beginCommit sampleCommit (fun request time => .ok (acceptance request time)) none

def sampleQuery : SignedEffectQueryRequest := queryRequest "action-1" "query-nonce-0001" 2

end AegisOt.Sample
