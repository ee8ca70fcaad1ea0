import AegisOt.WorkloadIdentity

/-!
# Coordination contracts

The closed models of `coordination_models.py`: the state table, digests and signatures of the
six protocol artifacts, their validators, their issuing functions and their verification at a
trust boundary. A validator returns the text of the `ValueError` it would raise.
-/

namespace AegisOt

/-! ## States -/

namespace CoordinationState

/-- `CoordinationState.terminal`. -/
def terminal : CoordinationState → Bool
  | .notDispatched | .applied | .rejected => true
  | .received | .dispatchArmed | .commitAccepted | .unknownEffect => false

/-- `_LEGAL_TRANSITIONS`. -/
def legalTransitions : CoordinationState → List CoordinationState
  | .received => [.dispatchArmed, .notDispatched]
  | .dispatchArmed => [.commitAccepted, .notDispatched]
  | .commitAccepted => [.unknownEffect, .applied, .rejected]
  | .unknownEffect => [.applied, .rejected]
  | .notDispatched => []
  | .applied => []
  | .rejected => []

/-- `CoordinationState.can_transition_to`. -/
def canTransitionTo (s target : CoordinationState) : Bool := decide (target ∈ s.legalTransitions)

/-- The enumeration value, as error texts spell it. -/
def value : CoordinationState → String
  | .received => "received"
  | .dispatchArmed => "dispatch_armed"
  | .commitAccepted => "commit_accepted"
  | .notDispatched => "not_dispatched"
  | .unknownEffect => "unknown_effect"
  | .applied => "applied"
  | .rejected => "rejected"

/-- `post_commit_states`: a record reaches these only after durable commit acceptance. -/
def postCommit : CoordinationState → Bool
  | .commitAccepted | .unknownEffect | .applied | .rejected => true
  | .received | .dispatchArmed | .notDispatched => false

end CoordinationState

namespace EffectDisposition

/-- `EffectDisposition.for_state`. -/
def forState : CoordinationState → Option EffectDisposition
  | .received | .dispatchArmed | .commitAccepted => none
  | .notDispatched => some .notDispatched
  | .unknownEffect => some .unknownEffect
  | .applied => some .applied
  | .rejected => some .rejected

/-- `CoordinationState(disposition.value)`. -/
def state : EffectDisposition → CoordinationState
  | .notDispatched => .notDispatched
  | .unknownEffect => .unknownEffect
  | .applied => .applied
  | .rejected => .rejected

/-- `disposition in {APPLIED, REJECTED}`. -/
def dispatchedTerminal : EffectDisposition → Bool
  | .applied | .rejected => true
  | .notDispatched | .unknownEffect => false

/-- The PLC status a dispatched disposition asserts. -/
def expectedStatus : EffectDisposition → Option CommandStatus
  | .applied => some .applied
  | .rejected => some .rejected
  | .unknownEffect => some .unknownEffect
  | .notDispatched => none

/-- `EffectDisposition(acknowledgment.status.value)`. -/
def ofStatus : CommandStatus → EffectDisposition
  | .applied => .applied
  | .rejected => .rejected
  | .unknownEffect => .unknownEffect

end EffectDisposition

/-! ## Constants and text checks -/

/-- `MAX_COORDINATION_REQUEST_TTL`. -/
def maxCoordinationRequestTtl : Time := 60 * second

/-- `MAX_COORDINATION_FUTURE_SKEW`. -/
def maxCoordinationFutureSkew : Time := second

def effectCoordinatorAudience : String := "aegis-ot:m4i:effect-coordinator"

def gatewayCoordinationAudience : String := "aegis-ot:m4i:gateway"

/-- `str.isspace` on one character. -/
def isPySpace (c : Char) : Bool :=
  let n := c.toNat
  decide ((9 ≤ n ∧ n ≤ 13) ∨ (28 ≤ n ∧ n ≤ 32) ∨ n = 133 ∨ n = 160 ∨ n = 5760 ∨
    (8192 ≤ n ∧ n ≤ 8202) ∨ n = 8232 ∨ n = 8233 ∨ n = 8239 ∨ n = 8287 ∨ n = 12288)

/-- `value != value.strip()`. -/
def hasOuterWhitespace (s : String) : Bool :=
  s.toList.head?.any isPySpace || s.toList.getLast?.any isPySpace

/-- `Field(min_length=low, max_length=high)`. -/
def lengthWithin (low high : Nat) (s : String) : Bool :=
  decide (low ≤ s.length ∧ s.length ≤ high)

/-- `re.fullmatch(r"[0-9a-f]{64}", value)`. -/
def isHexDigest (value : String) : Bool :=
  decide (value.length = 64) &&
    value.toList.all fun c => decide (('0' ≤ c ∧ c ≤ '9') ∨ ('a' ≤ c ∧ c ≤ 'f'))

/-- `_validate_request_window`. -/
def validateRequestWindow (issuedAt expiresAt : Time) (label : String) : Except String Unit := do
  refuseIf (expiresAt ≤ issuedAt) (label ++ " expiry must follow issuance")
  refuseIf (maxCoordinationRequestTtl < expiresAt - issuedAt)
    (label ++ " lifetime exceeds the registered maximum")

/-- `_valid_at`. -/
def validAt (issuedAt expiresAt evaluatedAt : Time) : Bool :=
  decide (issuedAt ≤ evaluatedAt ∧ evaluatedAt < expiresAt)

/-- `_credential_claim_valid_at`. -/
def credentialClaimValidAt (c : SignedWorkloadCredential) (assertedAt : Time) : Bool :=
  let claims := c.credential
  decide (claims.issuedAt ≤ claims.notBefore ∧ claims.notBefore ≤ assertedAt ∧
    assertedAt < claims.expiresAt)

variable [Primitives]

/-- `_credential_public_key`: `none` on any `WorkloadIdentityError`. -/
def credentialPublicKey (verifier : WorkloadIdentityVerifier)
    (credential : SignedWorkloadCredential) (expectedRole : WorkloadRole)
    (expectedAudience expectedSubject : String) (evaluatedAt : Time) : Option PublicKey :=
  (verifier.verifyCredential credential expectedRole expectedAudience expectedSubject none
    evaluatedAt).toOption

/-- `_historical_credential_public_key`. -/
def historicalCredentialPublicKey (verifier : WorkloadIdentityVerifier)
    (credential : SignedWorkloadCredential) (expectedRole : WorkloadRole)
    (expectedAudience expectedSubject : String)
    (authenticatedAt evaluatedAt maximumFutureSkew : Time) : Option PublicKey :=
  (verifier.verifyHistoricalCredential credential expectedRole expectedAudience expectedSubject
    none authenticatedAt evaluatedAt maximumFutureSkew).toOption

/-- `_require_signer_match`. -/
def requireSignerMatch (signer : WorkloadSigner) (payload : Material) (signature : String) :
    Except String Unit :=
  refuseIf
    (Primitives.verifyBytes signer.credential.credential.publicKey payload signature = false)
    "workload signer does not match its authority-issued credential"

/-- The pinned identities a verification compares an inner dispatch with. -/
structure ExpectedIdentities where
  observerPublicKey : PublicKey
  observerId : String
  observerKeyId : String
  observerBootEpoch : String
  permitPublicKey : PublicKey
  permitKeyId : String
  plcId : String
  plcKeyId : String
  plcBootEpoch : String
  deriving DecidableEq

/-- `_verify_inner_dispatch`. -/
def verifyInnerDispatch (dispatch : SegmentedCapabilityDispatch) (expected : ExpectedIdentities)
    (evaluatedAt : Time) : Bool :=
  let observation := dispatch.preObservation
  let permit := dispatch.permit
  let base := permit.basePermit
  dispatch.bindingsMatch &&
    decide (
      observation.observerId = expected.observerId ∧
      observation.observerKeyId = expected.observerKeyId ∧
      observation.observerBootEpoch = expected.observerBootEpoch) &&
    observation.verify expected.observerPublicKey &&
    decide (
      permit.signingKeyId = expected.permitKeyId ∧
      base.signingKeyId = expected.permitKeyId ∧
      permit.targetPlcId = expected.plcId ∧
      permit.targetPlcKeyId = expected.plcKeyId ∧
      permit.targetPlcBootEpoch = expected.plcBootEpoch ∧
      base.audience = expected.plcId) &&
    validAt base.issuedAt base.expiresAt evaluatedAt &&
    permit.verify expected.permitPublicKey

/-! ## Effect identity -/

namespace EffectIdentity

def digest (e : EffectIdentity) : Sha256 := Primitives.canonicalDigest (.effect e)

/-- `EffectIdentity.derived_effect_id`. -/
def derivedEffectId (e : EffectIdentity) : EffectId :=
  Primitives.canonicalDigest (.effectMaterial e.toEffectMaterial)

/-- The field checks and `require_stable_identity`. -/
def validate (e : EffectIdentity) : Except String Unit := do
  refuseIf (lengthWithin 1 256 e.targetId = false) "effect identity target length is invalid"
  refuseIf (hasOuterWhitespace e.targetId = true)
    "effect identity identifiers cannot have outer whitespace"
  refuseIf (e.expectedPostStateVersion ≠ e.authorizedStateVersion + 1)
    "effect identity must advance exactly one state version"
  refuseIf (e.effectId ≠ e.derivedEffectId)
    "effect ID is not derived from its stable semantic material"

/-- `EffectIdentity.from_dispatch`, before validation. -/
def fromDispatch (dispatch : SegmentedCapabilityDispatch) : EffectIdentity :=
  let base := dispatch.permit.basePermit
  let material : EffectMaterial :=
    { requestSha256 := dispatch.request.digest
      commandSemanticsSha256 := Primitives.canonicalDigest (.commandSemantics
        { base.command with commandId := "", proposalId := "" })
      targetId := dispatch.permit.targetPlcId
      authorizedStateSha256 := base.stateDigest
      authorizedStateVersion := base.stateVersion
      authorizedObservationSha256 := base.observationDigest
      authorizedTopologySha256 := base.topologyDigest
      authorizedModelSha256 := base.modelDigest
      expectedPostStateSha256 := base.expectedPostStateDigest
      expectedPostStateVersion := base.expectedPostStateVersion
      expectedPostTopologySha256 := base.expectedPostTopologyDigest }
  { material with effectId := Primitives.canonicalDigest (.effectMaterial material) }

end EffectIdentity

/-! ## Requests -/

namespace SignedRequest

def senderSubject (r : SignedRequest) : String := r.senderCredential.credential.subject

/-- `_SignedRequest._validate_common`, with the field lengths of the model. -/
def validateCommon (r : SignedRequest) (label : String) : Except String Unit := do
  r.effect.validate
  refuseIf (r.audience = "") (label ++ " audience is empty")
  refuseIf (lengthWithin 16 256 r.requestNonce = false) (label ++ " nonce length is invalid")
  validateRequestWindow r.issuedAt r.expiresAt label
  refuseIf (r.effectSha256 ≠ r.effect.digest) (label ++ " effect hash is inconsistent")
  refuseIf (r.senderCredential.credential.role ≠ .gateway)
    (label ++ " requires a gateway workload credential")
  refuseIf (r.audience ∉ r.senderCredential.credential.audiences)
    (label ++ " audience is not authorized by its credential")
  refuseIf (credentialClaimValidAt r.senderCredential r.issuedAt = false)
    (label ++ " credential is not valid at issuance")

/-- `_SignedRequest.verify_workload_envelope_for_admission`, with the concrete request's own
    signature check. -/
def verifyWorkloadEnvelope (r : SignedRequest) (verifySignature : PublicKey → Bool)
    (verifier : WorkloadIdentityVerifier) (expectedAudience expectedSenderSubject : String)
    (evaluatedAt : Time) : Bool :=
  match credentialPublicKey verifier r.senderCredential .gateway expectedAudience
      expectedSenderSubject evaluatedAt with
  | none => false
  | some publicKey =>
      decide (
        r.effectSha256 = r.effect.digest ∧
        r.audience = expectedAudience ∧
        r.senderSubject = expectedSenderSubject) &&
      validAt r.issuedAt r.expiresAt evaluatedAt && verifySignature publicKey

end SignedRequest

namespace SignedEffectPrepareRequest

def digest (r : SignedEffectPrepareRequest) : Sha256 := Primitives.canonicalDigest (.prepare r)

def signingPayload (r : SignedEffectPrepareRequest) : Material :=
  .prepare { r with signature := "" }

/-- `_SignedRequest.verify` under a given key. -/
def verifyWith (r : SignedEffectPrepareRequest) (publicKey : PublicKey) : Bool :=
  verifySigned publicKey r.signingPayload r.signature

/-- `_SignedRequest.verify` under the sender's own key. -/
def verify (r : SignedEffectPrepareRequest) : Bool :=
  r.verifyWith r.senderCredential.credential.publicKey

/-- `require_closed_prepare` with the nested models' validators. -/
def validate (r : SignedEffectPrepareRequest) : Except String Unit := do
  refuseIf (r.dispatch.bindingsMatch = false)
    "segmented capability dispatch bindings are inconsistent"
  r.toSignedRequest.validateCommon "effect prepare request"
  refuseIf (r.dispatchSha256 ≠ r.dispatch.digest) "effect prepare dispatch hash is inconsistent"
  refuseIf (r.effect ≠ EffectIdentity.fromDispatch r.dispatch)
    "effect prepare identity does not match its exact dispatch"

/-- `SignedEffectPrepareRequest.issue`. -/
def issue (dispatch : SegmentedCapabilityDispatch) (signer : WorkloadSigner)
    (requestNonce : String) (issuedAt expiresAt : Time) :
    Except String SignedEffectPrepareRequest := do
  let effect := EffectIdentity.fromDispatch dispatch
  effect.validate
  let request : SignedEffectPrepareRequest :=
    { effect := effect
      effectSha256 := effect.digest
      audience := effectCoordinatorAudience
      senderCredential := signer.credential
      requestNonce := requestNonce
      issuedAt := issuedAt
      expiresAt := expiresAt
      signature := ""
      dispatch := dispatch
      dispatchSha256 := dispatch.digest }
  request.validate
  let signed := { request with
    signature := Primitives.signBytes signer.privateKey request.signingPayload }
  requireSignerMatch signer signed.signingPayload signed.signature
  pure signed

/-- `SignedEffectPrepareRequest.verify_complete_for_admission`. -/
def verifyCompleteForAdmission (r : SignedEffectPrepareRequest)
    (verifier : WorkloadIdentityVerifier) (expectedGatewaySubject : String)
    (expected : ExpectedIdentities) (evaluatedAt : Time) : Bool :=
  r.toSignedRequest.verifyWorkloadEnvelope r.verifyWith verifier effectCoordinatorAudience
      expectedGatewaySubject evaluatedAt &&
    verifyInnerDispatch r.dispatch expected evaluatedAt

end SignedEffectPrepareRequest

/-! ## Receipt -/

namespace CoordinationReceipt

def digest (r : CoordinationReceipt) : Sha256 := Primitives.canonicalDigest (.receipt r)

def signingPayload (r : CoordinationReceipt) : Material := .receipt { r with signature := "" }

def coordinatorSubject (r : CoordinationReceipt) : String :=
  r.coordinatorCredential.credential.subject

def coordinatorKeyId (r : CoordinationReceipt) : String :=
  r.coordinatorCredential.credential.keyId

def verifyWith (r : CoordinationReceipt) (publicKey : PublicKey) : Bool :=
  verifySigned publicKey r.signingPayload r.signature

/-- `CoordinationReceipt.verify` under the coordinator's own key. -/
def verify (r : CoordinationReceipt) : Bool :=
  r.verifyWith r.coordinatorCredential.credential.publicKey

/-- `CoordinationReceipt.require_closed_receipt`. -/
def requireClosedReceipt (r : CoordinationReceipt) : Except String Unit := do
  refuseIf (r.effectSha256 ≠ r.effect.digest) "coordination receipt effect hash is inconsistent"
  refuseIf (r.prepareRequest.effect ≠ r.effect ∨
      r.prepareRequestSha256 ≠ r.prepareRequest.digest)
    "coordination receipt prepare binding is inconsistent"
  refuseIf (¬ (r.prepareRequest.issuedAt ≤ r.preparedAt ∧
      r.preparedAt < r.prepareRequest.expiresAt))
    "coordination receipt time is outside the prepare window"
  refuseIf (r.coordinatorCredential.credential.role ≠ .otAdapter)
    "coordination receipt requires an OT coordinator credential"
  refuseIf (r.audience ∉ r.coordinatorCredential.credential.audiences)
    "coordination receipt audience is not authorized"
  refuseIf (credentialClaimValidAt r.coordinatorCredential r.preparedAt = false)
    "coordination receipt credential is not valid at preparation"
  refuseIf (r.coordinatorCredential.credential.keyId ≠
      r.prepareRequest.dispatch.permit.targetPlcKeyId)
    "coordination receipt signer is not the prepared OT target"

/-- The receipt's validator after those of its nested models. -/
def validate (r : CoordinationReceipt) : Except String Unit := do
  r.effect.validate
  r.prepareRequest.validate
  r.requireClosedReceipt

/-- `CoordinationReceipt.issue`. -/
def issue (request : SignedEffectPrepareRequest) (signer : WorkloadSigner) (preparedAt : Time) :
    Except String CoordinationReceipt := do
  let receipt : CoordinationReceipt :=
    { effect := request.effect
      effectSha256 := request.effect.digest
      prepareRequest := request
      prepareRequestSha256 := request.digest
      audience := gatewayCoordinationAudience
      coordinatorCredential := signer.credential
      preparedAt := preparedAt
      signature := "" }
  receipt.requireClosedReceipt
  let signed := { receipt with
    signature := Primitives.signBytes signer.privateKey receipt.signingPayload }
  requireSignerMatch signer signed.signingPayload signed.signature
  pure signed

/-- `CoordinationReceipt.verify_for_request`. `verify_historical_for_request` has the same
    body: both judge the two credentials at the receipt's own preparation time. -/
def verifyForRequest (r : CoordinationReceipt) (verifier : WorkloadIdentityVerifier)
    (request : SignedEffectPrepareRequest)
    (expectedGatewaySubject expectedCoordinatorSubject : String) (evaluatedAt : Time) : Bool :=
  match historicalCredentialPublicKey verifier request.senderCredential .gateway
      effectCoordinatorAudience expectedGatewaySubject r.preparedAt evaluatedAt
      maxCoordinationFutureSkew,
    historicalCredentialPublicKey verifier r.coordinatorCredential .otAdapter
      gatewayCoordinationAudience expectedCoordinatorSubject r.preparedAt evaluatedAt
      maxCoordinationFutureSkew with
  | some gatewayPublicKey, some coordinatorPublicKey =>
      decide (
        r.prepareRequest = request ∧
        r.effect = request.effect ∧
        r.effectSha256 = request.effect.digest ∧
        r.prepareRequestSha256 = request.digest ∧
        request.audience = effectCoordinatorAudience ∧
        r.audience = gatewayCoordinationAudience ∧
        r.coordinatorSubject = expectedCoordinatorSubject ∧
        r.coordinatorKeyId = request.dispatch.permit.targetPlcKeyId ∧
        request.issuedAt ≤ r.preparedAt ∧ r.preparedAt < request.expiresAt ∧
        r.preparedAt ≤ evaluatedAt + maxCoordinationFutureSkew) &&
      request.verifyWith gatewayPublicKey && r.verifyWith coordinatorPublicKey
  | _, _ => false

end CoordinationReceipt

/-! ## Commit request and acceptance -/

namespace SignedEffectCommitRequest

def digest (r : SignedEffectCommitRequest) : Sha256 := Primitives.canonicalDigest (.commit r)

def signingPayload (r : SignedEffectCommitRequest) : Material :=
  .commit { r with signature := "" }

def verifyWith (r : SignedEffectCommitRequest) (publicKey : PublicKey) : Bool :=
  verifySigned publicKey r.signingPayload r.signature

def verify (r : SignedEffectCommitRequest) : Bool :=
  r.verifyWith r.senderCredential.credential.publicKey

/-- `SignedEffectCommitRequest.require_closed_commit`. -/
def requireClosedCommit (r : SignedEffectCommitRequest) : Except String Unit := do
  r.toSignedRequest.validateCommon "effect commit request"
  refuseIf (r.receipt.effect ≠ r.effect) "effect commit receipt refers to a different effect"
  refuseIf (r.receiptSha256 ≠ r.receipt.digest) "effect commit receipt hash is inconsistent"
  refuseIf (r.issuedAt < r.receipt.preparedAt) "effect commit cannot precede preparation"

def validate (r : SignedEffectCommitRequest) : Except String Unit := do
  r.receipt.validate
  r.requireClosedCommit

/-- `SignedEffectCommitRequest.issue`. -/
def issue (receipt : CoordinationReceipt) (signer : WorkloadSigner) (requestNonce : String)
    (issuedAt expiresAt : Time) : Except String SignedEffectCommitRequest := do
  let request : SignedEffectCommitRequest :=
    { effect := receipt.effect
      effectSha256 := receipt.effect.digest
      audience := effectCoordinatorAudience
      senderCredential := signer.credential
      requestNonce := requestNonce
      issuedAt := issuedAt
      expiresAt := expiresAt
      signature := ""
      receipt := receipt
      receiptSha256 := receipt.digest }
  request.requireClosedCommit
  let signed := { request with
    signature := Primitives.signBytes signer.privateKey request.signingPayload }
  requireSignerMatch signer signed.signingPayload signed.signature
  pure signed

/-- `SignedEffectCommitRequest.verify_complete_for_admission`. -/
def verifyCompleteForAdmission (r : SignedEffectCommitRequest)
    (verifier : WorkloadIdentityVerifier)
    (expectedGatewaySubject expectedCoordinatorSubject : String)
    (expected : ExpectedIdentities) (evaluatedAt : Time) : Bool :=
  r.toSignedRequest.verifyWorkloadEnvelope r.verifyWith verifier effectCoordinatorAudience
      expectedGatewaySubject evaluatedAt &&
    r.receipt.verifyForRequest verifier r.receipt.prepareRequest expectedGatewaySubject
      expectedCoordinatorSubject evaluatedAt &&
    verifyInnerDispatch r.receipt.prepareRequest.dispatch expected evaluatedAt

end SignedEffectCommitRequest

namespace DurableCommitAcceptance

def digest (a : DurableCommitAcceptance) : Sha256 := Primitives.canonicalDigest (.acceptance a)

/-- `transition_sequence: Literal[3]`. -/
def transitionSequence (_ : DurableCommitAcceptance) : Nat := 3

def signingPayload (a : DurableCommitAcceptance) : Material :=
  .acceptance { a with signature := "" }

def verifyWith (a : DurableCommitAcceptance) (publicKey : PublicKey) : Bool :=
  verifySigned publicKey a.signingPayload a.signature

def verify (a : DurableCommitAcceptance) : Bool :=
  a.verifyWith a.coordinatorCredential.credential.publicKey

/-- `DurableCommitAcceptance.require_closed_acceptance`. -/
def requireClosedAcceptance (a : DurableCommitAcceptance) : Except String Unit := do
  let request := a.commitRequest
  let receipt := request.receipt
  let credential := a.coordinatorCredential.credential
  refuseIf (a.effect ≠ request.effect ∨ a.effectSha256 ≠ request.effect.digest)
    "commit acceptance effect binding is inconsistent"
  refuseIf (a.commitRequestSha256 ≠ request.digest)
    "commit acceptance request hash is inconsistent"
  refuseIf (¬ (request.issuedAt ≤ a.acceptedAt ∧ a.acceptedAt < request.expiresAt))
    "commit acceptance time is outside the commit window"
  refuseIf (a.acceptedAt < receipt.preparedAt)
    "commit acceptance cannot precede durable preparation"
  refuseIf (credential.role ≠ .otAdapter)
    "commit acceptance requires an OT coordinator credential"
  refuseIf (a.audience ∉ credential.audiences) "commit acceptance audience is not authorized"
  refuseIf (a.coordinatorCredential ≠ receipt.coordinatorCredential)
    "commit acceptance signer differs from the prepared OT target"
  refuseIf (credentialClaimValidAt a.coordinatorCredential a.acceptedAt = false)
    "commit acceptance credential is not valid at acceptance"

def validate (a : DurableCommitAcceptance) : Except String Unit := do
  a.effect.validate
  a.commitRequest.validate
  a.requireClosedAcceptance

/-- `DurableCommitAcceptance.issue`. -/
def issue (request : SignedEffectCommitRequest) (signer : WorkloadSigner) (acceptedAt : Time) :
    Except String DurableCommitAcceptance := do
  refuseIf (request.verify = false ∨ request.receipt.verify = false ∨
      request.receipt.prepareRequest.verify = false)
    "commit acceptance requires an intact signed request chain"
  let acceptance : DurableCommitAcceptance :=
    { effect := request.effect
      effectSha256 := request.effect.digest
      commitRequest := request
      commitRequestSha256 := request.digest
      audience := gatewayCoordinationAudience
      coordinatorCredential := signer.credential
      acceptedAt := acceptedAt
      signature := "" }
  acceptance.requireClosedAcceptance
  let signed := { acceptance with
    signature := Primitives.signBytes signer.privateKey acceptance.signingPayload }
  requireSignerMatch signer signed.signingPayload signed.signature
  pure signed

/-- `DurableCommitAcceptance.verify_for_commit`. -/
def verifyForCommit (a : DurableCommitAcceptance) (verifier : WorkloadIdentityVerifier)
    (request : SignedEffectCommitRequest)
    (expectedGatewaySubject expectedCoordinatorSubject : String)
    (expected : ExpectedIdentities) (evaluatedAt : Time) : Bool :=
  match historicalCredentialPublicKey verifier request.senderCredential .gateway
      effectCoordinatorAudience expectedGatewaySubject a.acceptedAt evaluatedAt
      maxCoordinationFutureSkew,
    historicalCredentialPublicKey verifier a.coordinatorCredential .otAdapter
      gatewayCoordinationAudience expectedCoordinatorSubject a.acceptedAt evaluatedAt
      maxCoordinationFutureSkew with
  | some gatewayPublicKey, some coordinatorPublicKey =>
      decide (
        a.commitRequest = request ∧
        a.commitRequestSha256 = request.digest ∧
        a.effect = request.effect ∧
        a.effectSha256 = request.effect.digest ∧
        a.audience = gatewayCoordinationAudience ∧
        a.coordinatorCredential = request.receipt.coordinatorCredential ∧
        request.issuedAt ≤ a.acceptedAt ∧ a.acceptedAt < request.expiresAt ∧
        request.receipt.preparedAt ≤ a.acceptedAt ∧
        a.acceptedAt ≤ evaluatedAt + maxCoordinationFutureSkew) &&
      request.verifyWith gatewayPublicKey &&
      request.receipt.verifyForRequest verifier request.receipt.prepareRequest
        expectedGatewaySubject expectedCoordinatorSubject evaluatedAt &&
      verifyInnerDispatch request.receipt.prepareRequest.dispatch expected a.acceptedAt &&
      a.verifyWith coordinatorPublicKey
  | _, _ => false

end DurableCommitAcceptance

/-! ## Query request and outcome -/

namespace SignedEffectQueryRequest

def digest (r : SignedEffectQueryRequest) : Sha256 := Primitives.canonicalDigest (.query r)

def signingPayload (r : SignedEffectQueryRequest) : Material := .query { r with signature := "" }

def verifyWith (r : SignedEffectQueryRequest) (publicKey : PublicKey) : Bool :=
  verifySigned publicKey r.signingPayload r.signature

def verify (r : SignedEffectQueryRequest) : Bool :=
  r.verifyWith r.senderCredential.credential.publicKey

/-- `SignedEffectQueryRequest.require_closed_query`. -/
def validate (r : SignedEffectQueryRequest) : Except String Unit :=
  r.toSignedRequest.validateCommon "effect query request"

/-- `SignedEffectQueryRequest.issue`. -/
def issue (effect : EffectIdentity) (signer : WorkloadSigner) (requestNonce : String)
    (issuedAt expiresAt : Time) : Except String SignedEffectQueryRequest := do
  let request : SignedEffectQueryRequest :=
    { effect := effect
      effectSha256 := effect.digest
      audience := effectCoordinatorAudience
      senderCredential := signer.credential
      requestNonce := requestNonce
      issuedAt := issuedAt
      expiresAt := expiresAt
      signature := "" }
  request.validate
  let signed := { request with
    signature := Primitives.signBytes signer.privateKey request.signingPayload }
  requireSignerMatch signer signed.signingPayload signed.signature
  pure signed

end SignedEffectQueryRequest

/-- `SignedEffectCommitRequest | SignedEffectQueryRequest`, the requests an outcome answers. -/
inductive OutcomeRequest where
  | commit (request : SignedEffectCommitRequest)
  | query (request : SignedEffectQueryRequest)
  deriving DecidableEq

namespace OutcomeRequest

def signedRequest : OutcomeRequest → SignedRequest
  | .commit r => r.toSignedRequest
  | .query r => r.toSignedRequest

def kind : OutcomeRequest → RequestKind
  | .commit _ => .commit
  | .query _ => .query

def digest : OutcomeRequest → Sha256
  | .commit r => r.digest
  | .query r => r.digest

def verifyWith : OutcomeRequest → PublicKey → Bool
  | .commit r => r.verifyWith
  | .query r => r.verifyWith

def verify : OutcomeRequest → Bool
  | .commit r => r.verify
  | .query r => r.verify

/-- The validator of the request's own model. -/
def validate : OutcomeRequest → Except String Unit
  | .commit r => r.validate
  | .query r => r.validate

/-- `not isinstance(request, SignedEffectCommitRequest) or p(request)`. -/
def commitSatisfies (p : SignedEffectCommitRequest → Bool) : OutcomeRequest → Bool
  | .commit r => p r
  | .query _ => true

end OutcomeRequest

namespace SignedEffectOutcome

def digest (o : SignedEffectOutcome) : Sha256 := Primitives.canonicalDigest (.outcome o)

/-- `SignedEffectOutcome.receipt`. -/
def receipt (o : SignedEffectOutcome) : Option CoordinationReceipt :=
  o.acceptance.map (fun a => a.commitRequest.receipt)

def coordinatorSubject (o : SignedEffectOutcome) : String :=
  o.coordinatorCredential.credential.subject

def signingPayload (o : SignedEffectOutcome) : Material := .outcome { o with signature := "" }

def verifyWith (o : SignedEffectOutcome) (publicKey : PublicKey) : Bool :=
  verifySigned publicKey o.signingPayload o.signature

def verify (o : SignedEffectOutcome) : Bool :=
  o.verifyWith o.coordinatorCredential.credential.publicKey

/-- The acknowledgment belongs to the accepted transaction: `verify_for_transaction` under the
    coordinator key and the dispatch's own PLC bindings. -/
def acknowledgmentTransactionValid (acceptance : DurableCommitAcceptance)
    (acknowledgment : PlcCommandAcknowledgment) : Bool :=
  let dispatch := acceptance.commitRequest.receipt.prepareRequest.dispatch
  acknowledgment.verifyForTransaction acceptance.coordinatorCredential.credential.publicKey
    dispatch.request dispatch.permit dispatch.preObservation dispatch.permit.targetPlcId
    dispatch.permit.targetPlcKeyId dispatch.permit.targetPlcBootEpoch

/-- The second half of `require_closed_outcome`, for a dispatched disposition. -/
def requireDispatchedEvidence (o : SignedEffectOutcome) (acceptance : DurableCommitAcceptance) :
    Except String Unit := do
  refuseIf (acceptance.effect ≠ o.effect)
    "dispatched outcome requires its exact durable commit acceptance"
  refuseIf (o.signedAt < acceptance.acceptedAt)
    "effect outcome cannot precede durable commit acceptance"
  refuseIf (o.coordinatorCredential.credential.subject ≠
      acceptance.coordinatorCredential.credential.subject)
    "effect outcome coordinator differs from the accepted commit"
  refuseIf (o.disposition.dispatchedTerminal = true ∧
      o.acknowledgment.map (fun a => a.status) ≠ o.disposition.expectedStatus)
    "terminal effect outcome requires a matching PLC acknowledgment"
  refuseIf (o.disposition = .unknownEffect ∧
      (o.acknowledgment.any (fun a => decide (a.status ≠ .unknownEffect))) = true)
    "unknown outcome cannot retain known-effect evidence"
  match o.acknowledgment with
  | none => pure ()
  | some acknowledgment => do
      refuseIf (¬ (acceptance.acceptedAt ≤ acknowledgment.acknowledgedAt ∧
          acknowledgment.acknowledgedAt ≤ o.signedAt))
        "effect outcome acknowledgment chronology is inconsistent"
      refuseIf (acknowledgmentTransactionValid acceptance acknowledgment = false)
        "effect outcome acknowledgment transaction is invalid"

/-- `SignedEffectOutcome.require_closed_outcome`. -/
def requireClosedOutcome (o : SignedEffectOutcome) : Except String Unit := do
  refuseIf (lengthWithin 1 512 o.reason = false) "effect outcome reason length is invalid"
  refuseIf (o.effectSha256 ≠ o.effect.digest) "effect outcome hash is inconsistent"
  refuseIf (o.coordinatorCredential.credential.role ≠ .otAdapter)
    "effect outcome requires an OT coordinator credential"
  refuseIf (o.audience ∉ o.coordinatorCredential.credential.audiences)
    "effect outcome audience is not authorized"
  refuseIf (credentialClaimValidAt o.coordinatorCredential o.signedAt = false)
    "effect outcome credential is not valid at signing"
  if o.disposition = .notDispatched then do
    refuseIf (o.requestKind ≠ .query) "not-dispatched outcome is only valid for a query"
    refuseIf (o.acceptance ≠ none ∨ o.acknowledgment ≠ none)
      "not-dispatched outcome cannot assert dispatch evidence"
  else do
    let acceptance ← orRaise o.acceptance
      "dispatched outcome requires its exact durable commit acceptance"
    o.requireDispatchedEvidence acceptance

def validate (o : SignedEffectOutcome) : Except String Unit := do
  o.effect.validate
  match o.acceptance with
  | none => pure ()
  | some acceptance => acceptance.validate
  o.requireClosedOutcome

/-- `SignedEffectOutcome.issue`. -/
def issue (request : OutcomeRequest) (disposition : EffectDisposition) (reason : String)
    (signer : WorkloadSigner) (signedAt : Time) (acceptance : Option DurableCommitAcceptance)
    (acknowledgment : Option PlcCommandAcknowledgment) : Except String SignedEffectOutcome := do
  let base := request.signedRequest
  refuseIf (¬ (base.issuedAt ≤ signedAt ∧ signedAt < base.expiresAt))
    "effect outcome time is outside the request window"
  refuseIf (request.commitSatisfies
      (fun r => decide (acceptance.map (fun a => a.commitRequest) = some r)) = false)
    "commit outcome requires its exact durable acceptance"
  refuseIf (disposition = .notDispatched ∧ (acceptance ≠ none ∨ acknowledgment ≠ none))
    "not-dispatched outcome cannot retain dispatch evidence"
  refuseIf (disposition ≠ .notDispatched ∧
      acceptance.map (fun a => a.effect) ≠ some base.effect)
    "dispatched outcome requires durable commit acceptance"
  refuseIf (acceptance.any (fun a => !a.verify) = true)
    "effect outcome durable commit acceptance signature is invalid"
  let outcome : SignedEffectOutcome :=
    { requestKind := request.kind
      requestSha256 := request.digest
      effect := base.effect
      effectSha256 := base.effect.digest
      disposition := disposition
      acceptance := acceptance
      acknowledgment := acknowledgment
      reason := reason
      audience := gatewayCoordinationAudience
      coordinatorCredential := signer.credential
      signedAt := signedAt
      signature := "" }
  outcome.requireClosedOutcome
  let signed := { outcome with
    signature := Primitives.signBytes signer.privateKey outcome.signingPayload }
  requireSignerMatch signer signed.signingPayload signed.signature
  pure signed

/-- `SignedEffectOutcome.verify_for_request`. -/
def verifyForRequest (o : SignedEffectOutcome) (verifier : WorkloadIdentityVerifier)
    (request : OutcomeRequest) (expectedGatewaySubject expectedCoordinatorSubject : String)
    (expected : ExpectedIdentities) (evaluatedAt : Time) : Bool :=
  let base := request.signedRequest
  let requestValid := base.verifyWorkloadEnvelope request.verifyWith verifier
    effectCoordinatorAudience expectedGatewaySubject evaluatedAt
  let acceptanceValid := match o.acceptance with
    | none => true
    | some acceptance => acceptance.verifyForCommit verifier acceptance.commitRequest
        expectedGatewaySubject expectedCoordinatorSubject expected evaluatedAt
  let acknowledgmentValid := match o.acknowledgment, o.acceptance with
    | none, _ => true
    | some _, none => false
    | some acknowledgment, some acceptance =>
        acknowledgmentTransactionValid acceptance acknowledgment
  match credentialPublicKey verifier o.coordinatorCredential .otAdapter
      gatewayCoordinationAudience expectedCoordinatorSubject evaluatedAt with
  | none => false
  | some coordinatorPublicKey =>
      requestValid &&
        decide (
          o.requestKind = request.kind ∧
          o.requestSha256 = request.digest ∧
          o.effect = base.effect ∧
          o.effectSha256 = base.effect.digest) &&
        request.commitSatisfies
          (fun r => decide (o.acceptance.map (fun a => a.commitRequest) = some r)) &&
        acceptanceValid && acknowledgmentValid &&
        decide (
          o.audience = gatewayCoordinationAudience ∧
          o.coordinatorSubject = expectedCoordinatorSubject ∧
          base.issuedAt ≤ o.signedAt ∧ o.signedAt < base.expiresAt ∧
          o.signedAt ≤ evaluatedAt + maxCoordinationFutureSkew) &&
        o.verifyWith coordinatorPublicKey

/-- `SignedEffectOutcome.verify_historical_for_request`. -/
def verifyHistoricalForRequest (o : SignedEffectOutcome) (verifier : WorkloadIdentityVerifier)
    (request : OutcomeRequest) (expectedGatewaySubject expectedCoordinatorSubject : String)
    (expected : ExpectedIdentities) (evaluatedAt : Time) : Bool :=
  let base := request.signedRequest
  let requestAuthenticatedAt := match request, o.acceptance with
    | .commit _, some acceptance => acceptance.acceptedAt
    | _, _ => o.signedAt
  let acceptanceValid := match o.acceptance with
    | none => decide (o.disposition = .notDispatched)
    | some acceptance => acceptance.verifyForCommit verifier acceptance.commitRequest
        expectedGatewaySubject expectedCoordinatorSubject expected evaluatedAt
  let acknowledgmentValid := match o.acknowledgment, o.acceptance with
    | none, _ => !o.disposition.dispatchedTerminal
    | some _, none => false
    | some acknowledgment, some acceptance =>
        decide (some acknowledgment.status = o.disposition.expectedStatus ∧
          acceptance.acceptedAt ≤ acknowledgment.acknowledgedAt ∧
          acknowledgment.acknowledgedAt ≤ o.signedAt) &&
        acknowledgmentTransactionValid acceptance acknowledgment
  match historicalCredentialPublicKey verifier base.senderCredential .gateway
      effectCoordinatorAudience expectedGatewaySubject requestAuthenticatedAt evaluatedAt
      maxCoordinationFutureSkew,
    historicalCredentialPublicKey verifier o.coordinatorCredential .otAdapter
      gatewayCoordinationAudience expectedCoordinatorSubject o.signedAt evaluatedAt
      maxCoordinationFutureSkew with
  | some gatewayPublicKey, some coordinatorPublicKey =>
      decide (
        o.requestKind = request.kind ∧
        o.requestSha256 = request.digest ∧
        o.effect = base.effect ∧
        o.effectSha256 = base.effect.digest ∧
        base.audience = effectCoordinatorAudience ∧
        base.senderSubject = expectedGatewaySubject ∧
        base.issuedAt ≤ o.signedAt ∧ o.signedAt < base.expiresAt) &&
      request.verifyWith gatewayPublicKey &&
      request.commitSatisfies
        (fun r => decide (o.acceptance.map (fun a => a.commitRequest) = some r)) &&
      acceptanceValid && acknowledgmentValid &&
      decide (
        o.audience = gatewayCoordinationAudience ∧
        o.coordinatorSubject = expectedCoordinatorSubject ∧
        o.signedAt ≤ evaluatedAt + maxCoordinationFutureSkew) &&
      o.verifyWith coordinatorPublicKey
  | _, _ => false

end SignedEffectOutcome

end AegisOt
