import AegisOt.Runtime.OtRuntime

/-!
# The coordinated gateway port

`CoordinatedWorkloadRemoteVirtualPlcPort` of `segmented_capability_transport.py`: the calls
`execute`, `reconcile_effect` and `reconcile_pending_once` as programs over the gateway's
coordination journal, its clock, the trust files and the HTTP exchange. The gateway runtime
serves one call at a time under its transaction lock.

`_parse_model` is pydantic on the response body; a response is given with what that makes of
its body for each model, and the validators of the parsed artifact run here.
-/

namespace AegisOt

/-! ## Exceptions -/

/-- The journal raises this as a `CoordinationJournalError` or one of its two subclasses. -/
def PyError.isJournalError : PyError → Bool
  | .journal _ | .collision _ | .illegal _ | .invalidRecord _ | .uncertainUpdate => true
  | .value _ | .callback _ => false

/-- The exceptions a call of the port can end in. -/
inductive PortError where
  /-- `CapabilityTransportProtocolError`. -/
  | protocol (message : String)
  /-- `CapabilityTransportUnavailable`. -/
  | unavailable (message : String)
  /-- `CapabilityTransportRejected`. -/
  | rejected (reason : String) (statusCode : Nat) (dispatchAttempts : Nat)
  /-- `CapabilityPreDispatchUnavailable`. -/
  | preDispatchUnavailable (message : String)
  /-- `ConsequentialTransportOutcomeUnknown`. -/
  | outcomeUnknown (message : String)
  /-- A journal exception or a `ValueError` that nothing translated. -/
  | python (cause : PyError)
  deriving DecidableEq

namespace PortError

/-- `except CapabilityTransportError`. -/
def isTransport : PortError → Bool
  | .protocol _ | .unavailable _ | .rejected _ _ _ | .preDispatchUnavailable _
  | .outcomeUnknown _ => true
  | .python _ => false

/-- `except CoordinationJournalError`. -/
def isJournal : PortError → Bool
  | .python cause => cause.isJournalError
  | _ => false

/-- `raise ValueError(message)`. -/
def value (message : String) : PortError := .python (.value (.other message))

/-- `except CoordinationCollisionError` and then `except CoordinationJournalError`. -/
def translate (error onCollision onJournal : PortError) : PortError :=
  match error with
  | .python (.collision _) => onCollision
  | .python cause => if cause.isJournalError then onJournal else .python cause
  | error => error

end PortError

/-! ## The exchange -/

/-- `TransportFailureBody`. -/
structure TransportFailureBody where
  /-- `status == "rejected"`. -/
  isRejected : Bool
  reason : String
  deriving DecidableEq

/-- `HttpExchangeResponse`. -/
structure HttpExchangeResponse where
  statusCode : Nat
  bodyLength : Nat
  /-- `sha256(response.body)`. -/
  bodySha256 : Sha256
  failure : Option TransportFailureBody
  receipt : Option CoordinationReceipt
  outcome : Option SignedEffectOutcome
  deriving DecidableEq

/-- `MAX_JSON_BYTES` of the transport. -/
def maxTransportJsonBytes : Nat := 1024 * 1024

namespace HttpExchangeResponse

/-- What `_raw` accepts. -/
def Admissible (response : HttpExchangeResponse) : Prop :=
  100 ≤ response.statusCode ∧ response.statusCode ≤ 599 ∧
    response.bodyLength ≤ maxTransportJsonBytes

instance (response : HttpExchangeResponse) : Decidable response.Admissible := by
  unfold Admissible; infer_instance

/-- `200 <= response.status_code < 300`. -/
def Succeeded (response : HttpExchangeResponse) : Prop :=
  200 ≤ response.statusCode ∧ response.statusCode < 300

instance (response : HttpExchangeResponse) : Decidable response.Succeeded := by
  unfold Succeeded; infer_instance

end HttpExchangeResponse

/-- How one HTTP exchange ends. -/
inductive ExchangeResult where
  | response (response : HttpExchangeResponse)
  /-- `ConsequentialTransportOutcomeUnknown`. -/
  | outcomeUnknown (message : String)
  /-- `CapabilityTransportProtocolError`. -/
  | protocol (message : String)
  /-- `CapabilityTransportUnavailable`, `OSError` or `TimeoutError`. -/
  | unavailable
  deriving DecidableEq

/-- The three requests the port posts. -/
inductive PortRequest where
  | prepare (request : SignedEffectPrepareRequest)
  | commit (request : SignedEffectCommitRequest)
  | query (request : SignedEffectQueryRequest)
  deriving DecidableEq

/-! ## Configuration -/

/-- The part of `OtHealthMetadata` the port pins. -/
structure OtHealthInfo where
  plcId : String
  bootEpoch : String
  keyId : String
  publicKey : PublicKey
  permitKeyId : String
  permitPublicKey : PublicKey
  deriving DecidableEq

/-- `MAX_SIGNED_CALL_TTL`. -/
def maxSignedCallTtl : Time := 60 * second

variable [Primitives]

/-- `CoordinatedWorkloadRemoteVirtualPlcPort`, with what its constructors demand. -/
structure CoordinatedPort where
  ot : OtHealthInfo
  observer : ObserverInfo
  gatewayIdentity : LocalWorkloadIdentity
  otIdentity : WorkloadCredentialBinding
  callTtl : Time
  callTtl_bounds : 0 < callTtl ∧ callTtl ≤ maxSignedCallTtl
  gatewayAudience : gatewayIdentity.binding.expectedAudience = effectCoordinatorAudience
  gatewayRole : gatewayIdentity.binding.expectedRole = .gateway
  otAudience : otIdentity.expectedAudience = gatewayCoordinationAudience
  otRole : otIdentity.expectedRole = .otAdapter

namespace CoordinatedPort

/-- `self.gateway_identity.signer`. -/
def signer (port : CoordinatedPort) : WorkloadSigner := port.gatewayIdentity.signer

/-- `self.gateway_key_id`, which the constructor takes from the resolved gateway identity. -/
def gatewayKeyId (port : CoordinatedPort) : String := port.signer.credential.credential.keyId

def gatewaySubject (port : CoordinatedPort) : String :=
  port.gatewayIdentity.binding.expectedSubject

def coordinatorSubject (port : CoordinatedPort) : String := port.otIdentity.expectedSubject

/-- `self.workload_verifier` under a view of the trust bundle. -/
def workloadVerifier (port : CoordinatedPort) (view : TrustView) : WorkloadIdentityVerifier :=
  port.otIdentity.verifier.under view

/-- The identities a new dispatch is verified against. -/
def pinnedIdentities (port : CoordinatedPort) : ExpectedIdentities :=
  { observerPublicKey := port.observer.publicKey
    observerId := port.observer.observerId
    observerKeyId := port.observer.keyId
    observerBootEpoch := port.observer.bootEpoch
    permitPublicKey := port.ot.permitPublicKey
    permitKeyId := port.ot.permitKeyId
    plcId := port.ot.plcId
    plcKeyId := port.ot.keyId
    plcBootEpoch := port.ot.bootEpoch }

/-- `_outcome_identity_bindings`. -/
def outcomeIdentityBindings (port : CoordinatedPort) (outcome : SignedEffectOutcome) :
    ExpectedIdentities :=
  match outcome.acceptance with
  | none => port.pinnedIdentities
  | some acceptance =>
      let dispatch := acceptance.commitRequest.receipt.prepareRequest.dispatch
      { port.pinnedIdentities with
        observerBootEpoch := dispatch.preObservation.observerBootEpoch
        plcKeyId := acceptance.coordinatorCredential.credential.keyId
        plcBootEpoch := dispatch.permit.targetPlcBootEpoch }

/-- The two `resolve` calls of `_current_identities`. -/
def resolveIdentities (port : CoordinatedPort) (view : TrustView) (evaluatedAt : Time) :
    Except WorkloadIdentityError (ResolvedWorkloadIdentity × ResolvedWorkloadIdentity) := do
  let gateway ← (port.gatewayIdentity.under view).resolve view.gatewayCredential evaluatedAt
  let target ← (port.otIdentity.under view).resolve view.coordinatorCredential evaluatedAt
  pure (gateway, target)

/-- `_current_identities`. -/
def currentIdentities (port : CoordinatedPort) (view : TrustView) (evaluatedAt : Time)
    (requirePinnedTarget : Bool) :
    Except PortError (ResolvedWorkloadIdentity × ResolvedWorkloadIdentity) :=
  match port.resolveIdentities view evaluatedAt with
  | .error (.rejected _) =>
      .error (.rejected "workload_identity_rejected_before_coordination" 403 0)
  | .error (.unavailable _) =>
      .error (.preDispatchUnavailable "workload_identity_unavailable_before_coordination")
  | .ok (gateway, target) => do
      refuseIf (gateway.subject ≠ port.gatewaySubject ∨ gateway.keyId ≠ port.gatewayKeyId ∨
          gateway.publicKey ≠ Primitives.publicKeyOf port.signer.privateKey ∨
          target.subject ≠ port.coordinatorSubject)
        (.rejected "workload_identity_changed_before_coordination" 409 0)
      refuseIf (requirePinnedTarget = true ∧
          (target.keyId ≠ port.ot.keyId ∨ target.publicKey ≠ port.ot.publicKey))
        (.rejected "ot_identity_changed_before_new_commit" 409 0)
      pure (gateway, target)

end CoordinatedPort

/-! ## Actions -/

/-- What a call does besides computing. -/
inductive PortAct where
  | clock
  | trust
  /-- `self.nonce_factory()`. -/
  | nonce
  | findAction (requestSha256 : Sha256) (actorId proposalNonce : String)
  | get (effect : EffectIdentity)
  | pending
  | journal (op : GatewayOp)
  /-- `self.exchange(…)` on the canonical JSON of a request. -/
  | exchange (request : PortRequest)

variable [RecordCodec]

/-- What each action gives back. -/
def PortAct.Reply : PortAct → Type
  | .clock => Time
  | .trust => TrustView
  | .nonce => String
  | .findAction _ _ _ => Except PyError (Option CoordinationJournalRecord)
  | .get _ => Except PyError (Option (JournalEntry .gateway))
  | .pending => Except PyError (List CoordinationJournalRecord)
  | .journal _ => Except PyError (JournalEntry .gateway)
  | .exchange _ => ExchangeResult

abbrev PortProgram (α : Type) := Program PortAct PortAct.Reply PortError α

namespace PortProgram

open Program

def perform (action : PortAct) : PortProgram action.Reply := call action

def clock : PortProgram Time := perform .clock

def trust : PortProgram TrustView := perform .trust

/-- A call of the journal. -/
def journal (op : GatewayOp) : PortProgram (JournalEntry .gateway) := do
  let reply : Except PyError (JournalEntry .gateway) ← perform (.journal op)
  result (reply.mapError .python)

/-- A `ValueError` of a constructor. -/
def issuing {α : Type} (x : Except String α) : PortProgram α := result (x.mapError PortError.value)

/-- `_nonce`. -/
def drawNonce : PortProgram String := do
  let value : String ← perform .nonce
  require (lengthWithin 16 256 value = false)
    (.value "transport nonce is outside the registered bound")
  pure value

/-- `_raw`. -/
def raw (request : PortRequest) (consequential : Bool) : PortProgram HttpExchangeResponse := do
  let exchanged : ExchangeResult ← perform (.exchange request)
  match exchanged with
  | .outcomeUnknown message => raise (.outcomeUnknown message)
  | .protocol message =>
      raise (if consequential then
          .outcomeUnknown "consequential HTTP exchange violated the transport protocol"
        else .protocol message)
  | .unavailable =>
      raise (if consequential then
          .outcomeUnknown "consequential HTTP response was unavailable"
        else .unavailable "HTTP response was unavailable")
  | .response response => do
      let invalid := "exchange returned an invalid response"
      require (¬ response.Admissible)
        (if consequential then .outcomeUnknown invalid else .protocol invalid)
      pure response

/-- `_parse_model(response, CoordinationReceipt)`. -/
def parseReceipt (response : HttpExchangeResponse) : Except PortError CoordinationReceipt := do
  let invalid : PortError := .protocol "response does not match CoordinationReceipt"
  let receipt ← orRaise response.receipt invalid
  refuseIf (receipt.validate ≠ .ok ()) invalid
  pure receipt

/-- `_parse_model(response, SignedEffectOutcome)`. -/
def parseOutcome (response : HttpExchangeResponse) : Except PortError SignedEffectOutcome := do
  let invalid : PortError := .protocol "response does not match SignedEffectOutcome"
  let outcome ← orRaise response.outcome invalid
  refuseIf (outcome.validate ≠ .ok ()) invalid
  pure outcome

/-- `_expose_outcome`. -/
def exposeOutcome (outcome : SignedEffectOutcome) : Except PortError PlcCommandAcknowledgment :=
  match outcome.disposition with
  | .applied => orRaise outcome.acknowledgment
      (.outcomeUnknown "applied effect outcome omitted its exact acknowledgment")
  | .rejected => orRaise outcome.acknowledgment
      (.outcomeUnknown "rejected effect outcome omitted its exact acknowledgment")
  | .notDispatched => .error (.rejected outcome.reason 409 0)
  | .unknownEffect => .error (.outcomeUnknown outcome.reason)

end PortProgram

namespace CoordinatedPort

open Program PortProgram

/-- `_current_identities` at a reading of the clock. -/
def identities (port : CoordinatedPort) (evaluatedAt : Time) (requirePinnedTarget : Bool) :
    PortProgram (ResolvedWorkloadIdentity × ResolvedWorkloadIdentity) := do
  let view ← trust
  result (port.currentIdentities view evaluatedAt requirePinnedTarget)

/-- `_verify_prepare_request`. -/
def verifyPrepareRequest (port : CoordinatedPort) (request : SignedEffectPrepareRequest)
    (evaluatedAt : Time) : PortProgram Bool := do
  let view ← trust
  pure (request.verifyCompleteForAdmission (port.workloadVerifier view) port.gatewaySubject
    port.pinnedIdentities evaluatedAt)

/-- `_verify_receipt`. -/
def verifyReceipt (port : CoordinatedPort) (receipt : CoordinationReceipt)
    (request : SignedEffectPrepareRequest) (currentTarget : ResolvedWorkloadIdentity)
    (evaluatedAt : Time) : PortProgram Bool := do
  let view ← trust
  pure (decide (receipt.coordinatorCredential = currentTarget.credential) &&
    receipt.verifyForRequest (port.workloadVerifier view) request port.gatewaySubject
      port.coordinatorSubject evaluatedAt)

/-- `_verify_outcome`. -/
def verifyOutcome (port : CoordinatedPort) (outcome : SignedEffectOutcome)
    (request : OutcomeRequest) (currentTarget : ResolvedWorkloadIdentity) (evaluatedAt : Time) :
    PortProgram Bool := do
  let view ← trust
  pure (decide (outcome.coordinatorCredential = currentTarget.credential) &&
    outcome.verifyForRequest (port.workloadVerifier view) request port.gatewaySubject
      port.coordinatorSubject (port.outcomeIdentityBindings outcome) evaluatedAt)

/-- `_failure_evidence`. -/
def failureEvidence (reason : String) : Sha256 := Primitives.textDigest reason

/-- `_close_before_commit`. -/
def closeBeforeCommit (effect : EffectIdentity) (reason : String) (evidenceSha256 : Sha256)
    (recordedAt : Time) : PortProgram Unit := do
  let lost : PortError :=
    .preDispatchUnavailable "gateway could not durably close the uncommitted effect"
  let _ ← (journal (.closeNotDispatched effect reason (some evidenceSha256)
      (some (.aware recordedAt)))).catching
    (fun error => raise (error.translate lost lost))
  pure ()

/-! ## Prepare -/

/-- `_prepare` on a response that is no success. -/
def refusePrepare (request : SignedEffectPrepareRequest) (response : HttpExchangeResponse)
    (retainedAt : Time) : PortProgram CoordinationReceipt := do
  let reason := (response.failure.map (fun f => f.reason)).getD "prepare_rejected_before_commit"
  closeBeforeCommit request.effect reason response.bodySha256 retainedAt
  require (400 ≤ response.statusCode ∧ response.statusCode < 500)
    (.rejected reason response.statusCode 0)
  raise (.preDispatchUnavailable "prepare failed before commit; no effect was dispatched")

/-- The last handler of `_prepare`; `recordedAt` depends on whether the receipt was parsed. -/
def abandonPrepare (request : SignedEffectPrepareRequest) (response : HttpExchangeResponse)
    (recordedAt : Time) (error : PortError) : PortProgram CoordinationReceipt :=
  if error.isTransport = true ∨ error.isJournal = true then do
    closeBeforeCommit request.effect "prepare_response_invalid_or_not_durable"
      response.bodySha256 recordedAt
    raise (.preDispatchUnavailable
      "prepare response was not durably trusted; no commit was sent")
  else raise error

/-- The last `try` statement of `_prepare`. -/
def retainReceipt (port : CoordinatedPort) (request : SignedEffectPrepareRequest)
    (response : HttpExchangeResponse) (retainedAt : Time) : PortProgram CoordinationReceipt :=
  match parseReceipt response with
  | .error error => abandonPrepare request response retainedAt error
  | .ok receipt =>
      (do
        let resolved ← port.identities retainedAt true
        let valid ← port.verifyReceipt receipt request resolved.2 retainedAt
        require (valid = false) (.protocol "prepare receipt signature or binding is invalid")
        let _ ← journal (.retainPreparation request receipt
          (some (.aware (max retainedAt receipt.preparedAt))))
        pure receipt : PortProgram CoordinationReceipt).catching
      (abandonPrepare request response (max retainedAt receipt.preparedAt))

/-- The handler of a prepare exchange that failed. -/
def losePrepare (request : SignedEffectPrepareRequest) (error : PortError) :
    PortProgram HttpExchangeResponse :=
  if error.isTransport = true then do
    let retainedAt ← clock
    let reason := "prepare_response_unavailable"
    closeBeforeCommit request.effect reason (failureEvidence reason) retainedAt
    raise (.preDispatchUnavailable "prepare response was unavailable; no commit was sent")
  else raise error

/-- `_prepare` once its request is issued. -/
def prepareIssued (port : CoordinatedPort) (request : SignedEffectPrepareRequest)
    (issuedAt : Time) : PortProgram CoordinationReceipt := do
  let trusted ← port.verifyPrepareRequest request issuedAt
  require (trusted = false) (.rejected "coordination_inner_dispatch_not_trusted" 403 0)
  let _ ← (journal (.begin request (some (.aware issuedAt)))).catching
    (fun error => raise (error.translate
      (.outcomeUnknown
        "coordination action became retained with conflicting effect material")
      (.preDispatchUnavailable "gateway could not durably retain the prepare intent")))
  let response ← (raw (.prepare request) false).catching (losePrepare request)
  let retainedAt ← clock
  if response.Succeeded then port.retainReceipt request response retainedAt
  else refusePrepare request response retainedAt

/-- `_prepare`. -/
def prepare (port : CoordinatedPort) (dispatch : SegmentedCapabilityDispatch) :
    PortProgram CoordinationReceipt := do
  let issuedAt ← clock
  let _ ← port.identities issuedAt true
  let nonce ← drawNonce
  let request ← issuing (SignedEffectPrepareRequest.issue dispatch port.signer nonce issuedAt
    (issuedAt + port.callTtl))
  port.prepareIssued request issuedAt

/-! ## Commit -/

/-- `_mark_commit_ambiguous`. -/
def markCommitAmbiguous (request : SignedEffectCommitRequest) (reason : String)
    (evidenceSha256 : Sha256) (recordedAt : Time) : PortProgram Unit := do
  let lost : PortError :=
    .outcomeUnknown "commit outcome is unknown and its ambiguity could not be retained"
  let _ ← (journal (.markCommitUnknown request reason (some evidenceSha256)
      (some (.aware recordedAt)))).catching
    (fun error => raise (error.translate lost lost))
  pure ()

/-- The handler of a commit exchange that failed. -/
def loseCommit (request : SignedEffectCommitRequest) (error : PortError) :
    PortProgram HttpExchangeResponse :=
  if error.isTransport = true then do
    let reason := "commit_response_unavailable"
    let recordedAt ← clock
    markCommitAmbiguous request reason (failureEvidence reason) recordedAt
    raise (.outcomeUnknown "commit response was unavailable; reconcile by query")
  else raise error

/-- The handler of a commit response that could not be retained. -/
def abandonCommit (request : SignedEffectCommitRequest) (response : HttpExchangeResponse)
    (evaluatedAt : Time) (error : PortError) : PortProgram SignedEffectOutcome :=
  if error.isTransport = true ∨ error.isJournal = true then do
    markCommitAmbiguous request "commit_response_invalid_or_not_durable" response.bodySha256
      evaluatedAt
    raise (.outcomeUnknown "commit response was not durably trusted; reconcile by query")
  else raise error

/-- The last `try` statement of `_commit`. -/
def retainOutcome (port : CoordinatedPort) (request : SignedEffectCommitRequest)
    (response : HttpExchangeResponse) (evaluatedAt : Time) : PortProgram SignedEffectOutcome :=
  (do
    let outcome ← result (parseOutcome response)
    let resolved ← port.identities evaluatedAt false
    let valid ← port.verifyOutcome outcome (.commit request) resolved.2 evaluatedAt
    require (valid = false) (.protocol "commit outcome signature or binding is invalid")
    let _ ← journal (.retainCommitOutcome request outcome
      (some (.aware (max evaluatedAt outcome.signedAt))))
    pure outcome : PortProgram SignedEffectOutcome).catching
  (abandonCommit request response evaluatedAt)

/-- `_commit` once its intent is retained. -/
def commitRetained (port : CoordinatedPort) (request : SignedEffectCommitRequest) :
    PortProgram PlcCommandAcknowledgment := do
  let response ← (raw (.commit request) true).catching (loseCommit request)
  let evaluatedAt ← clock
  let outcome ← port.retainOutcome request response evaluatedAt
  result (exposeOutcome outcome)

/-- `_commit` once its request is issued. -/
def commitIssued (port : CoordinatedPort) (request : SignedEffectCommitRequest)
    (issuedAt : Time) : PortProgram PlcCommandAcknowledgment := do
  let _ ← (journal (.beginCommit request (some (.aware issuedAt)))).catching
    (fun error => raise (error.translate
      (.outcomeUnknown "a conflicting commit intent is already retained for this action")
      (.preDispatchUnavailable
        "gateway could not durably retain commit intent; commit was not sent")))
  port.commitRetained request

/-- `_commit`. -/
def commit (port : CoordinatedPort) (receipt : CoordinationReceipt) :
    PortProgram PlcCommandAcknowledgment := do
  let issuedAt ← clock
  let _ ← port.identities issuedAt true
  let nonce ← drawNonce
  let request ← issuing (SignedEffectCommitRequest.issue receipt port.signer nonce issuedAt
    (issuedAt + port.callTtl))
  port.commitIssued request issuedAt

/-! ## Query -/

/-- `_latest_commit`. -/
def latestCommit (record : CoordinationJournalRecord) : Option EffectCommitAttempt :=
  record.attempts.reverse.findSome? CoordinationAttempt.commit?

/-- A handler of `_query`: the failure of the query is retained, then the effect is reported
    as unknown. -/
def failQuery (request : SignedEffectQueryRequest) (reason : String) (evidenceSha256 : Sha256)
    (recordedAt : Time) (lost reported : PortError) : PortProgram Unit := do
  let _ ← (journal (.failQuery request reason (some evidenceSha256)
      (some (.aware recordedAt)))).catching
    (fun error => raise (error.translate lost lost))
  raise reported

/-- The handler of a query exchange that failed. -/
def loseQuery (request : SignedEffectQueryRequest) (error : PortError) :
    PortProgram HttpExchangeResponse :=
  if error.isTransport = true then do
    let reason := "query_response_unavailable"
    let recordedAt ← clock
    failQuery request reason (failureEvidence reason) recordedAt
      (.outcomeUnknown "effect remains unknown and query failure was not durable")
      (.outcomeUnknown "effect remains unknown after one reconciliation query")
    raise error
  else raise error

/-- The handler of a query response that could not be retained. -/
def abandonQuery (request : SignedEffectQueryRequest) (response : HttpExchangeResponse)
    (evaluatedAt : Time) (error : PortError) : PortProgram SignedEffectOutcome :=
  if error.isTransport = true ∨ error.isJournal = true then do
    failQuery request "query_response_invalid_or_not_durable" response.bodySha256 evaluatedAt
      (.outcomeUnknown "effect remains unknown and query failure was not durable")
      (.outcomeUnknown "query response was not durably trusted")
    raise error
  else raise error

/-- The last `try` statement of `_query`. -/
def completeQuery (port : CoordinatedPort) (request : SignedEffectQueryRequest)
    (response : HttpExchangeResponse) (evaluatedAt : Time) : PortProgram SignedEffectOutcome :=
  (do
    let outcome ← result (parseOutcome response)
    let resolved ← port.identities evaluatedAt false
    let valid ← port.verifyOutcome outcome (.query request) resolved.2 evaluatedAt
    require (valid = false) (.protocol "query outcome signature or binding is invalid")
    let _ ← journal (.completeQuery request outcome
      (some (.aware (max evaluatedAt outcome.signedAt))))
    pure outcome : PortProgram SignedEffectOutcome).catching
  (abandonQuery request response evaluatedAt)

/-- `_query` up to the point where an unanswered commit is marked ambiguous. -/
def markRetainedCommit (attempt : EffectCommitAttempt) : PortProgram Unit :=
  if attempt.status = .requestRetained then do
    let recordedAt ← clock
    markCommitAmbiguous attempt.request "recovered_retained_commit_intent"
      attempt.request.digest recordedAt
  else pure ()

/-- `_query`. -/
def query (port : CoordinatedPort) (record : CoordinationJournalRecord) :
    PortProgram PlcCommandAcknowledgment := do
  let attempt ← result (orRaise (latestCommit record)
    (.preDispatchUnavailable "coordination record has no retained commit intent to reconcile"))
  markRetainedCommit attempt
  let issuedAt ← clock
  let _ ← (port.identities issuedAt false).catching (fun error =>
    raise (if error.isTransport then .outcomeUnknown
      "effect remains unknown because query identity preflight failed" else error))
  let nonce ← drawNonce
  let request ← issuing (SignedEffectQueryRequest.issue record.effect port.signer nonce issuedAt
    (issuedAt + port.callTtl))
  let unretained : PortError :=
    .outcomeUnknown "gateway could not durably retain reconciliation intent"
  let _ ← (journal (.beginQuery request (some (.aware issuedAt)))).catching
    (fun error => raise (error.translate unretained unretained))
  let response ← (raw (.query request) false).catching (loseQuery request)
  let evaluatedAt ← clock
  let outcome ← port.completeQuery request response evaluatedAt
  result (exposeOutcome outcome)

/-! ## Retained effects -/

/-- `_retained_outcome_request`. -/
def retainedOutcomeRequest (record : CoordinationJournalRecord) (outcome : SignedEffectOutcome) :
    Option OutcomeRequest :=
  record.attempts.reverse.findSome? (fun attempt =>
    match attempt with
    | .prepare _ => none
    | .commit a => if a.outcome = some outcome then some (.commit a.request) else none
    | .query a => if a.outcome = some outcome then some (.query a.request) else none)

/-- `_verify_retained_terminal_outcome`. -/
def verifyRetainedTerminalOutcome (port : CoordinatedPort) (record : CoordinationJournalRecord)
    (outcome : SignedEffectOutcome) : PortProgram Unit := do
  let request ← result (orRaise (retainedOutcomeRequest record outcome)
    (.outcomeUnknown "terminal coordination outcome lost its retained request"))
  let evaluatedAt ← clock
  let _ ← (port.identities evaluatedAt false).catching (fun error =>
    raise (if error.isTransport then .outcomeUnknown
      "terminal outcome cannot be exposed under current workload trust" else error))
  let view ← trust
  require (outcome.verifyHistoricalForRequest (port.workloadVerifier view) request
      port.gatewaySubject port.coordinatorSubject (port.outcomeIdentityBindings outcome)
      evaluatedAt = false)
    (.outcomeUnknown "retained terminal outcome failed current trust verification")

/-- `_resume` on a terminal record. -/
def exposeTerminal (port : CoordinatedPort) (record : CoordinationJournalRecord) :
    PortProgram PlcCommandAcknowledgment := do
  let outcome ← result (orRaise record.terminalOutcome
    (.rejected "effect_is_durably_not_dispatched" 409 0))
  port.verifyRetainedTerminalOutcome record outcome
  result (exposeOutcome outcome)

/-- `_resume`. -/
def resume (port : CoordinatedPort) (record : CoordinationJournalRecord) :
    PortProgram PlcCommandAcknowledgment :=
  if record.state.terminal = true then port.exposeTerminal record
  else match latestCommit record, record.latestReceipt with
    | some _, _ => port.query record
    | none, some receipt => port.commit receipt
    | none, none => raise (.preDispatchUnavailable
        "prepare did not produce a durable receipt; no commit was sent")

/-- `_reconcile`. -/
def reconcile (port : CoordinatedPort) (record : CoordinationJournalRecord) :
    PortProgram PlcCommandAcknowledgment :=
  if record.state.terminal = true then port.resume record
  else match latestCommit record with
    | some _ => port.query record
    | none => do
        let evidenceSha256 := (record.latestReceipt.map (fun r => r.digest)).getD
          record.effect.digest
        let recordedAt ← clock
        closeBeforeCommit record.effect "recovered_before_commit_intent" evidenceSha256 recordedAt
        raise (.rejected "recovered_before_commit_intent" 409 0)

/-- `_retains_exact_dispatch`. -/
def retainsExactDispatch (record : CoordinationJournalRecord)
    (dispatch : SegmentedCapabilityDispatch) (effect : EffectIdentity) : Bool :=
  let retained := record.attempts.filterMap (fun attempt =>
    attempt.prepare?.map (fun a => a.request.dispatch))
  decide (record.effect = effect ∧ retained ≠ [] ∧ ∀ r ∈ retained, r = dispatch)

/-! ## Calls -/

/-- `execute` up to the point where it knows whether the action is retained. -/
def retained (dispatch : SegmentedCapabilityDispatch) :
    PortProgram (Option CoordinationJournalRecord) := do
  let effect := EffectIdentity.fromDispatch dispatch
  require (dispatch.bindingsMatch = false)
    (.value "segmented capability dispatch bindings are inconsistent")
  issuing effect.validate
  let unavailable : PortError :=
    .preDispatchUnavailable "gateway coordination journal is unavailable"
  let action : Except PyError (Option CoordinationJournalRecord) ←
    perform (.findAction dispatch.request.digest dispatch.request.proposal.actorId
      dispatch.request.proposal.nonce)
  let retainedAction ← result (action.mapError (fun error => (PortError.python error).translate
    (.outcomeUnknown "agent action replay conflicts with a retained coordination effect")
    unavailable))
  match retainedAction with
  | some record => do
      require (retainsExactDispatch record dispatch effect = false)
        (.outcomeUnknown "agent action replay differs from its retained full dispatch")
      pure (some record)
  | none => do
      let found : Except PyError (Option (JournalEntry .gateway)) ← perform (.get effect)
      let existing ← result (found.mapError (fun error =>
        (PortError.python error).translate unavailable unavailable))
      match existing with
      | none => pure none
      | some entry => do
          require (retainsExactDispatch entry.record dispatch effect = false)
            (.outcomeUnknown "coordination effect differs from its retained full dispatch")
          pure (some entry.record)

/-- `execute`. -/
def execute (port : CoordinatedPort) (dispatch : SegmentedCapabilityDispatch) :
    PortProgram PlcCommandAcknowledgment := do
  match ← retained dispatch with
  | some record => port.resume record
  | none => do
      let receipt ← port.prepare dispatch
      port.commit receipt

/-- `reconcile_effect` on an effect. -/
def reconcileEffect (port : CoordinatedPort) (effect : EffectIdentity) :
    PortProgram PlcCommandAcknowledgment := do
  let found : Except PyError (Option (JournalEntry .gateway)) ← perform (.get effect)
  let unavailable : PortError := .outcomeUnknown "gateway coordination journal is unavailable"
  let existing ← result (found.mapError (fun error =>
    (PortError.python error).translate unavailable unavailable))
  let entry ← result (orRaise existing
    (.preDispatchUnavailable "coordination effect is not recorded"))
  port.reconcile entry.record

/-- `reconcile_pending_once`. -/
def reconcilePendingOnce (port : CoordinatedPort) :
    PortProgram (Option PlcCommandAcknowledgment) := do
  let listed : Except PyError (List CoordinationJournalRecord) ← perform .pending
  let unavailable : PortError := .outcomeUnknown "gateway coordination journal is unavailable"
  let records ← result (listed.mapError (fun error =>
    (PortError.python error).translate unavailable unavailable))
  match records with
  | [] => pure none
  | record :: _ => do
      let acknowledgment ← port.reconcile record
      pure (some acknowledgment)

end CoordinatedPort

/-! ## State -/

/-- What a gateway process acts on: its journal, and the last reading of its clock, which does
    not go back. -/
structure PortState where
  journal : Journal .gateway
  now : Time

/-- What an action does and replies. -/
def PortState.perform (s : PortState) : (action : PortAct) → action.Reply → PortState → Prop
  | .clock, (reading : Time), s' => s.now ≤ reading ∧ s' = { s with now := reading }
  | .trust, _, s' => s' = s
  | .nonce, _, s' => s' = s
  | .findAction requestSha256 actorId proposalNonce, reply, s' =>
      reply = s.journal.findAction requestSha256 actorId proposalNonce ∧ s' = s
  | .get effect, reply, s' => reply = s.journal.get (.identity effect) ∧ s' = s
  | .pending, reply, s' => reply = s.journal.pending ∧ s' = s
  | .journal op, reply, s' =>
      ∃ env, op.run s.journal env = (reply, s'.journal) ∧ s'.now = s.now
  | .exchange _, _, s' => s' = s

end AegisOt
