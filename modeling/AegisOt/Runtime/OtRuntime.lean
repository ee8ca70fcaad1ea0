import AegisOt.Coordination.Recovery
import AegisOt.Misc.Program

/-!
# The OT runtime

`CapabilityOtRuntime` of `segmented_capability_runtime.py` with effect coordination: the
handlers `prepare_effect`, `commit_effect` and `query_effect` as programs over the runtime's
own state (its journal and the live-commit marker), the device and the environment. A program
stops at every call that reads or changes something, so a crash can fall between any two.
-/

namespace AegisOt

/-! ## Configuration -/

/-- The part of `ObserverHealthMetadata` that is pinned. -/
structure ObserverInfo where
  publicKey : PublicKey
  observerId : String
  keyId : String
  bootEpoch : String
  deriving DecidableEq

/-- The configuration of one OT process. -/
structure OtConfig where
  observerInfo : ObserverInfo
  permitPublicKey : PublicKey
  permitKeyId : String
  keyId : String
  publicKey : PublicKey
  plcId : String
  bootEpoch : String
  plantInfo : PlantHealthMetadata
  gatewayWorkloadIdentity : WorkloadCredentialBinding
  localWorkloadIdentity : LocalWorkloadIdentity
  coordinationRequired : Bool
  coordinationAnchorRequired : Bool

/-- `CapabilityRuntimeError` and what else a handler lets through. -/
inductive RuntimeError where
  /-- `CapabilityAdmissionRejected`. -/
  | rejected (reason : String)
  /-- `CapabilityRuntimeUnavailable`. -/
  | unavailable (reason : String)
  /-- `EffectCommitIndeterminate`. -/
  | indeterminate (reason : String)
  /-- An exception the handler does not translate. -/
  | other (description : String)
  deriving DecidableEq

/-- `CoordinationAnchorAdmissionPhase`. -/
inductive CoordinationAnchorAdmissionPhase where
  | prepare
  | commit
  deriving DecidableEq, Repr

def CoordinationAnchorAdmissionPhase.value : CoordinationAnchorAdmissionPhase → String
  | .prepare => "prepare"
  | .commit => "commit"

/-- `_LiveCommitMarker`. -/
structure LiveCommitMarker where
  effectId : EffectId
  prepareRequestSha256 : Sha256
  receiptSha256 : Sha256
  runtimeBootEpoch : String
  deriving DecidableEq

variable [Primitives]

namespace LiveCommitMarker

/-- `_LiveCommitMarker.matches_prepare`. -/
def matchesPrepare (m : LiveCommitMarker) (request : SignedEffectPrepareRequest)
    (bootEpoch : String) : Bool :=
  decide (m.effectId = request.effect.effectId ∧ m.prepareRequestSha256 = request.digest ∧
    m.runtimeBootEpoch = bootEpoch)

/-- `_LiveCommitMarker.matches`. -/
def matchesCommit (m : LiveCommitMarker) (request : SignedEffectCommitRequest)
    (bootEpoch : String) : Bool :=
  decide (m.effectId = request.effect.effectId ∧
    m.prepareRequestSha256 = request.receipt.prepareRequest.digest ∧
    m.receiptSha256 = request.receipt.digest ∧ m.runtimeBootEpoch = bootEpoch)

end LiveCommitMarker

/-! ## Actions -/

/-- What a handler does besides computing. -/
inductive OtAct where
  | clock
  | trust
  /-- `port.require_admission`. -/
  | admission (phase : CoordinationAnchorAdmissionPhase) (effectId : EffectId)
      (requestSha256 : Sha256) (evaluatedAt : Time)
  /-- `self._plant_health_loader()`. -/
  | plant
  | marker
  | setMarker (marker : Option LiveCommitMarker)
  | records
  | pending
  | get (effect : EffectIdentity)
  | journal (op : EffectOp)
  /-- `self.device.execute` on the dispatch of an accepted commit. -/
  | execute (request : SignedEffectCommitRequest)
  /-- `self._run_coordination_terminal_hook()`. -/
  | terminalHook

/-- What each action gives back; `none` and `false` stand for an exception. -/
def OtAct.Reply : OtAct → Type
  | .clock => Time
  | .trust => TrustView
  | .admission _ _ _ _ => Bool
  | .plant => Option PlantHealthMetadata
  | .marker => Option LiveCommitMarker
  | .setMarker _ => Unit
  | .records => Except PyError (List CoordinationJournalRecord)
  | .pending => Except PyError (List CoordinationJournalRecord)
  | .get _ => Except PyError (Option (JournalEntry .effectCoordinator))
  | .journal op => Except PyError op.Result
  | .execute _ => Option PlcCommandAcknowledgment
  | .terminalHook => Bool

abbrev OtProgram (α : Type) := Program OtAct OtAct.Reply RuntimeError α

namespace OtProgram

open Program

def perform (action : OtAct) : OtProgram action.Reply := call action

def clock : OtProgram Time := perform .clock

def trust : OtProgram TrustView := perform .trust

def requireAdmission (phase : CoordinationAnchorAdmissionPhase) (effectId : EffectId)
    (requestSha256 : Sha256) (evaluatedAt : Time) : OtProgram Bool :=
  perform (.admission phase effectId requestSha256 evaluatedAt)

def loadPlant : OtProgram (Option PlantHealthMetadata) := perform .plant

def liveCommitMarker : OtProgram (Option LiveCommitMarker) := perform .marker

def setLiveCommitMarker (marker : Option LiveCommitMarker) : OtProgram Unit :=
  perform (.setMarker marker)

def journalRecords : OtProgram (Except PyError (List CoordinationJournalRecord)) := perform .records

def journalPending : OtProgram (Except PyError (List CoordinationJournalRecord)) := perform .pending

def journalGet (effect : EffectIdentity) :
    OtProgram (Except PyError (Option (JournalEntry .effectCoordinator))) := perform (.get effect)

def journalPrepareEffect (request : SignedEffectPrepareRequest) (issueReceipt : ReceiptIssuer)
    (recordedAt : Time) : OtProgram (Except PyError CoordinationReceipt) :=
  perform (.journal (.prepareEffect request issueReceipt (some (.aware recordedAt))))

def journalBeginCommit (request : SignedEffectCommitRequest)
    (issueAcceptance : CommitAcceptanceIssuer) (recordedAt : Time) :
    OtProgram (Except PyError CommitAdmission) :=
  perform (.journal (.beginCommit request issueAcceptance (some (.aware recordedAt))))

def journalFinishCommit (request : SignedEffectCommitRequest) (outcome : SignedEffectOutcome)
    (recordedAt : Time) : OtProgram (Except PyError (JournalEntry .effectCoordinator)) :=
  perform (.journal (.finishCommit request outcome (some (.aware recordedAt))))

def journalMarkCommitUnknown (request : SignedEffectCommitRequest) (reason : String)
    (recordedAt : Time) : OtProgram (Except PyError (JournalEntry .effectCoordinator)) :=
  perform (.journal (.markCommitUnknown request reason none (some (.aware recordedAt))))

def journalAnswerQuery (request : SignedEffectQueryRequest) (issueOutcome : OutcomeIssuer)
    (recordedAt : Time) : OtProgram (Except PyError SignedEffectOutcome) :=
  perform (.journal (.answerQuery request issueOutcome (some (.aware recordedAt))))

def deviceExecute (request : SignedEffectCommitRequest) :
    OtProgram (Option PlcCommandAcknowledgment) := perform (.execute request)

def runCoordinationTerminalHook : OtProgram Bool := perform .terminalHook

def recoveryUnavailable : RuntimeError := .unavailable "effect_coordination_recovery_unavailable"

def commitIndeterminate : RuntimeError :=
  .indeterminate "effect_commit_indeterminate_query_required"

/-- `_raise_coordination_journal_failure`, and the reason a handler gives for a `ValueError`. -/
def journalFailure (otherwise : String) : PyError → RuntimeError
  | .collision _ | .illegal _ => .rejected "effect_coordination_state_rejected"
  | .journal _ | .invalidRecord _ | .uncertainUpdate =>
      .unavailable "effect_coordination_journal_unavailable"
  | .value _ | .callback (.value _) => .unavailable otherwise
  | .callback (.unavailable reason) => .unavailable reason

/-- The result of a journal call inside a handler's `try` statement. -/
def orFail {α : Type} (otherwise : String) (x : Except PyError α) : OtProgram α :=
  result (x.mapError (journalFailure otherwise))

/-! ## Trust -/

/-- `_EffectCoordinationContext`. -/
structure Context where
  verifier : WorkloadIdentityVerifier
  gateway : ResolvedWorkloadIdentity
  localIdentity : ResolvedWorkloadIdentity
  signer : WorkloadSigner

/-- The two `resolve` calls of `_coordination_context` and the check on the local one. -/
def resolveContext (cfg : OtConfig) (view : TrustView) (evaluatedAt : Time) :
    Except RuntimeError Context :=
  let identityRejected : RuntimeError :=
    .rejected "effect_coordination_workload_identity_rejected"
  let resolved := do
    let gateway ← (cfg.gatewayWorkloadIdentity.under view).resolve view.gatewayCredential
      evaluatedAt
    let localIdentity ← (cfg.localWorkloadIdentity.under view).resolve
      view.coordinatorCredential evaluatedAt
    pure (gateway, localIdentity)
  match resolved with
  | .error (.rejected _) => .error identityRejected
  | .error (.unavailable _) =>
      .error (.unavailable "effect_coordination_workload_trust_unavailable")
  | .ok (gateway, localIdentity) => do
      refuseIf (localIdentity.keyId ≠ cfg.keyId ∨ localIdentity.publicKey ≠ cfg.publicKey)
        identityRejected
      pure
        { verifier := cfg.gatewayWorkloadIdentity.verifier.under view
          gateway := gateway
          localIdentity := localIdentity
          signer :=
            { credential := localIdentity.credential
              privateKey := cfg.localWorkloadIdentity.signer.privateKey } }

/-- `_coordination_context`. -/
def coordinationContext (cfg : OtConfig) (evaluatedAt : Time) : OtProgram Context := do
  require (cfg.coordinationRequired = false) (.rejected "effect_coordination_is_disabled")
  let view ← trust
  result (resolveContext cfg view evaluatedAt)

/-- The identities pinned at a new admission. -/
def currentIdentities (cfg : OtConfig) : ExpectedIdentities :=
  { observerPublicKey := cfg.observerInfo.publicKey
    observerId := cfg.observerInfo.observerId
    observerKeyId := cfg.observerInfo.keyId
    observerBootEpoch := cfg.observerInfo.bootEpoch
    permitPublicKey := cfg.permitPublicKey
    permitKeyId := cfg.permitKeyId
    plcId := cfg.plcId
    plcKeyId := cfg.keyId
    plcBootEpoch := cfg.bootEpoch }

/-- The identities of retained material: its own boot epochs and PLC key. -/
def historicalIdentities (cfg : OtConfig) (dispatch : SegmentedCapabilityDispatch)
    (plcKeyId : String) : ExpectedIdentities :=
  { currentIdentities cfg with
    observerBootEpoch := dispatch.preObservation.observerBootEpoch
    plcKeyId := plcKeyId
    plcBootEpoch := dispatch.permit.targetPlcBootEpoch }

/-- `_dispatch_complete_for_ot`. -/
def dispatchCompleteForOt (cfg : OtConfig) (dispatch : SegmentedCapabilityDispatch)
    (evaluatedAt : Time) : Bool :=
  verifyInnerDispatch dispatch (currentIdentities cfg) evaluatedAt

/-- `_dispatch_complete_for_historical_reconciliation`: the two boot epochs are not compared. -/
def dispatchCompleteForHistoricalReconciliation (cfg : OtConfig)
    (dispatch : SegmentedCapabilityDispatch) (expectedPlcKeyId : String) (evaluatedAt : Time) :
    Bool :=
  verifyInnerDispatch dispatch (historicalIdentities cfg dispatch expectedPlcKeyId) evaluatedAt

/-- `_stored_receipt_complete_for_query`. -/
def storedReceiptCompleteForQuery (cfg : OtConfig) (context : Context)
    (receipt : CoordinationReceipt) (evaluatedAt : Time) : Bool :=
  receipt.verifyForRequest context.verifier receipt.prepareRequest context.gateway.subject
      context.localIdentity.subject evaluatedAt &&
    dispatchCompleteForHistoricalReconciliation cfg receipt.prepareRequest.dispatch
      receipt.coordinatorKeyId receipt.preparedAt

/-- `_receipt_complete_for_prepare_response`. -/
def receiptCompleteForPrepareResponse (cfg : OtConfig) (context : Context)
    (receipt : CoordinationReceipt) (request : SignedEffectPrepareRequest) (evaluatedAt : Time) :
    Bool :=
  decide (receipt.prepareRequest = request) &&
    receipt.verifyForRequest context.verifier request context.gateway.subject
      context.localIdentity.subject evaluatedAt &&
    dispatchCompleteForOt cfg request.dispatch evaluatedAt

/-- `_stored_acceptance_complete`. -/
def storedAcceptanceComplete (cfg : OtConfig) (context : Context)
    (acceptance : DurableCommitAcceptance) (evaluatedAt : Time) : Bool :=
  acceptance.verifyForCommit context.verifier acceptance.commitRequest context.gateway.subject
    context.localIdentity.subject
    (historicalIdentities cfg acceptance.commitRequest.receipt.prepareRequest.dispatch
      acceptance.coordinatorCredential.credential.keyId) evaluatedAt

/-- `_stored_acknowledgment_complete`. -/
def storedAcknowledgmentComplete (cfg : OtConfig) (acknowledgment : PlcCommandAcknowledgment)
    (acceptance : DurableCommitAcceptance) : Bool :=
  let dispatch := acceptance.commitRequest.receipt.prepareRequest.dispatch
  acknowledgment.verifyForTransaction acceptance.coordinatorCredential.credential.publicKey
    dispatch.request dispatch.permit dispatch.preObservation cfg.plcId
    acceptance.coordinatorCredential.credential.keyId dispatch.permit.targetPlcBootEpoch

/-! ## Admission -/

/-- `_require_anchor_admission_locked`. -/
def requireAnchorAdmission (cfg : OtConfig) (phase : CoordinationAnchorAdmissionPhase)
    (effectId : EffectId) (requestSha256 : Sha256) (evaluatedAt : Time) : OtProgram Unit :=
  if cfg.coordinationAnchorRequired then do
    let admitted ← requireAdmission phase effectId requestSha256 evaluatedAt
    require (admitted = false)
      (.unavailable ("effect_coordination_anchor_" ++ phase.value ++ "_unavailable"))
  else pure ()

/-- `_same_pinned_plant_identity`. -/
def samePinnedPlantIdentity (current expected : PlantHealthMetadata) : Bool :=
  decide (
    current.bootEpoch = expected.bootEpoch ∧
    current.keyId = expected.keyId ∧
    current.publicKey = expected.publicKey ∧
    current.backend = expected.backend ∧
    current.modelDigest = expected.modelDigest ∧
    current.simulatorVersion = expected.simulatorVersion ∧
    current.observationSourceId = expected.observationSourceId)

/-- The result leaves this effect pending at its pre-state, which keeps its marker alive. -/
def pendingAtPreState (result : CoordinationRecoveryResult) (marker : LiveCommitMarker) : Bool :=
  decide (result.status = .recoveryRequired ∧ result.reason = .pendingEffectAtPreState ∧
    result.pendingEffectId = some marker.effectId)

/-- `_refresh_coordination_recovery_locked`. -/
def refreshCoordinationRecovery (cfg : OtConfig) : OtProgram CoordinationRecoveryResult := do
  let loaded ← loadPlant
  let plant ← result (orRaise loaded recoveryUnavailable)
  require (samePinnedPlantIdentity plant cfg.plantInfo = false) recoveryUnavailable
  let listed ← journalRecords
  let records ← result (listed.mapError (fun _ => recoveryUnavailable))
  let result := validateCoordinationRecovery records plant
  let marker ← liveCommitMarker
  runIf (marker.any (fun m => !pendingAtPreState result m) = true) (setLiveCommitMarker none)
  require (result.status = .inconsistent ∨ result.status = .unavailable) recoveryUnavailable
  pure result

/-- What `_require_coordination_alignment_locked` is asked for. -/
inductive AlignmentFor where
  | queryOnly
  | prepare (request : SignedEffectPrepareRequest)
  | commit (request : SignedEffectCommitRequest)

/-- The marker admits this request while its own effect is pending. -/
def AlignmentFor.matchesMarker (marker : LiveCommitMarker) (bootEpoch : String) :
    AlignmentFor → Bool
  | .queryOnly => false
  | .prepare request => marker.matchesPrepare request bootEpoch
  | .commit request => marker.matchesCommit request bootEpoch

/-- `_require_coordination_alignment_locked`. -/
def requireCoordinationAlignment (cfg : OtConfig) (purpose : AlignmentFor) : OtProgram Unit := do
  let result ← refreshCoordinationRecovery cfg
  if result.status = .aligned then pure ()
  else match purpose with
    | .queryOnly => pure ()
    | purpose => do
        let marker ← liveCommitMarker
        require (marker.any (fun m => pendingAtPreState result m &&
            purpose.matchesMarker m cfg.bootEpoch) = false)
          (.rejected "effect_reconciliation_required")

/-! ## Handlers -/

/-- `prepare_effect`. -/
def prepareEffect (cfg : OtConfig) (request : SignedEffectPrepareRequest) :
    OtProgram CoordinationReceipt := do
  let evaluatedAt ← clock
  let context ← coordinationContext cfg evaluatedAt
  require (request.senderCredential ≠ context.gateway.credential ∨
      request.verifyCompleteForAdmission context.verifier context.gateway.subject
        (currentIdentities cfg) evaluatedAt = false ∨
      dispatchCompleteForOt cfg request.dispatch evaluatedAt = false)
    (.rejected "effect_prepare_authentication_rejected")
  let otherwise := "effect_prepare_outcome_unavailable"
  requireAnchorAdmission cfg .prepare request.effect.effectId request.digest evaluatedAt
  requireCoordinationAlignment cfg (.prepare request)
  let pending ← orFail otherwise (← journalPending)
  require (∃ record ∈ pending, record.effect ≠ request.effect)
    (.rejected "effect_reconciliation_required")
  let existing ← orFail otherwise (← journalGet request.effect)
  let issueReceipt : ReceiptIssuer := fun exactRequest retainedAt =>
    (CoordinationReceipt.issue exactRequest context.signer retainedAt).mapError .value
  let receipt ← orFail otherwise
    (← journalPrepareEffect request issueReceipt evaluatedAt)
  require (receiptCompleteForPrepareResponse cfg context receipt request evaluatedAt = false)
    (.unavailable "effect_prepare_stored_receipt_rejected")
  runIf (existing = none) (setLiveCommitMarker (some
    { effectId := request.effect.effectId
      prepareRequestSha256 := request.digest
      receiptSha256 := receipt.digest
      runtimeBootEpoch := cfg.bootEpoch }))
  pure receipt

/-- `_retain_unknown_commit_outcome`. -/
def retainUnknownCommitOutcome (request : SignedEffectCommitRequest)
    (acceptance : DurableCommitAcceptance) (context : Context) :
    OtProgram SignedEffectOutcome := do
  let signedAt ← clock
  match SignedEffectOutcome.issue (.commit request) .unknownEffect
      "device_outcome_unavailable_after_commit_acceptance" context.signer signedAt
      (some acceptance) none with
  | .error _ => do
      match ← journalMarkCommitUnknown request
          "signed_unknown_outcome_unavailable_after_commit_acceptance" signedAt with
      | .error (.value _) => raise (.other "mark_commit_unknown raised a ValueError")
      | _ => raise commitIndeterminate
  | .ok outcome => do
      let finished ← journalFinishCommit request outcome signedAt
      let _ ← result (finished.mapError (fun _ => commitIndeterminate))
      pure outcome

/-- `_retained_commit_outcome`. -/
def retainedCommitOutcome (record : CoordinationJournalRecord)
    (request : SignedEffectCommitRequest) : Option SignedEffectOutcome :=
  (record.attempts.reverse.findSome? (fun attempt =>
    attempt.commit?.filter (fun a => decide (a.requestSha256 = request.digest)))).bind
      (fun a => a.outcome)

/-- The `TERMINAL` branch of `commit_effect`. -/
def exposeRetainedOutcome (cfg : OtConfig) (request : SignedEffectCommitRequest)
    (context : Context) (admission : CommitAdmission) (evaluatedAt : Time) :
    OtProgram SignedEffectOutcome := do
  let retained ← result
    (orRaise (retainedCommitOutcome admission.record request) commitIndeterminate)
  require (retained.requestKind ≠ .commit ∨ retained.requestSha256 ≠ request.digest ∨
      retained.acceptance ≠ some admission.acceptance ∨
      retained.verifyForRequest context.verifier (.commit request) context.gateway.subject
        context.localIdentity.subject (currentIdentities cfg) evaluatedAt = false)
    commitIndeterminate
  let _ ← refreshCoordinationRecovery cfg
  pure retained

/-- The outcome of a device execution, issued from its acknowledgment; `none` when the device
    raised or the outcome could not be issued. -/
def issueCommitOutcome (request : SignedEffectCommitRequest)
    (acceptance : DurableCommitAcceptance) (context : Context) :
    Option PlcCommandAcknowledgment → OtProgram (Option SignedEffectOutcome)
  | none => pure none
  | some acknowledgment => do
      let signedAt ← clock
      pure (SignedEffectOutcome.issue (.commit request)
        (EffectDisposition.ofStatus acknowledgment.status) acknowledgment.reason context.signer
        signedAt (some acceptance) (some acknowledgment)).toOption

/-- The `NEW` branch of `commit_effect`: the only call of the device. -/
def executeCommit (cfg : OtConfig) (request : SignedEffectCommitRequest)
    (acceptance : DurableCommitAcceptance) (context : Context) :
    OtProgram SignedEffectOutcome := do
  let acknowledgment ← deviceExecute request
  match ← issueCommitOutcome request acceptance context acknowledgment with
  | none => retainUnknownCommitOutcome request acceptance context
  | some outcome => do
      let finished ← journalFinishCommit request outcome outcome.signedAt
      let _ ← result (finished.mapError (fun _ => commitIndeterminate))
      runIf (outcome.disposition.dispatchedTerminal = true) do
        let _ ← refreshCoordinationRecovery cfg
        let returned ← runCoordinationTerminalHook
        require (returned = false) (.other "terminal hook raised")
      pure outcome

/-- `commit_effect`. -/
def commitEffect (cfg : OtConfig) (request : SignedEffectCommitRequest) :
    OtProgram SignedEffectOutcome := do
  let evaluatedAt ← clock
  let context ← coordinationContext cfg evaluatedAt
  require (request.senderCredential ≠ context.gateway.credential ∨
      request.verifyCompleteForAdmission context.verifier context.gateway.subject
        context.localIdentity.subject (currentIdentities cfg) evaluatedAt = false ∨
      dispatchCompleteForOt cfg request.receipt.prepareRequest.dispatch evaluatedAt = false)
    (.rejected "effect_commit_authentication_rejected")
  let issueAcceptance : CommitAcceptanceIssuer := fun exactRequest acceptedAt =>
    (DurableCommitAcceptance.issue exactRequest context.signer acceptedAt).mapError .value
  requireAnchorAdmission cfg .commit request.effect.effectId request.digest evaluatedAt
  requireCoordinationAlignment cfg (.commit request)
  let begun ← journalBeginCommit request issueAcceptance evaluatedAt
  setLiveCommitMarker none
  let admission ← orFail "effect_commit_acceptance_unavailable" begun
  require (admission.acceptance.commitRequest ≠ request ∨
      storedAcceptanceComplete cfg context admission.acceptance evaluatedAt = false)
    commitIndeterminate
  match admission.status with
  | .terminal => exposeRetainedOutcome cfg request context admission evaluatedAt
  | .indeterminate => raise commitIndeterminate
  | .new => executeCommit cfg request admission.acceptance context

/-- `_latest_retained_effect_outcome`. -/
def latestRetainedEffectOutcome (record : CoordinationJournalRecord) :
    Option SignedEffectOutcome :=
  record.attempts.reverse.findSome? CoordinationAttempt.outcome

/-- The acknowledgment an applied or rejected record retains. -/
def terminalAcknowledgment (record : CoordinationJournalRecord) (status : CommandStatus) :
    Except CallbackError PlcCommandAcknowledgment :=
  orRaise (((latestRetainedEffectOutcome record).bind (fun o => o.acknowledgment)).filter
      (fun a => decide (a.status = status)))
    (.unavailable "effect_query_record_lacks_terminal_acknowledgment")

/-- The disposition, reason and acknowledgment with which a record answers a query. -/
def queryAnswer (cfg : OtConfig) (context : Context) (record : CoordinationJournalRecord)
    (retainedAt : Time) :
    Except CallbackError (EffectDisposition × String × Option PlcCommandAcknowledgment) :=
  match record.latestAcceptance with
  | none => do
      refuseIf ((record.state ≠ .dispatchArmed ∧ record.state ≠ .notDispatched) ∨
          record.latestReceipt.any (fun receipt =>
            storedReceiptCompleteForQuery cfg context receipt retainedAt) = false)
        (.unavailable "effect_query_stored_receipt_rejected")
      pure (.notDispatched, "no_commit_was_durably_accepted", none)
  | some acceptance => do
      refuseIf (storedAcceptanceComplete cfg context acceptance retainedAt = false)
        (.unavailable "effect_query_stored_acceptance_rejected")
      match record.state with
      | .applied => do
          let acknowledgment ← terminalAcknowledgment record .applied
          pure (.applied, "stored_plc_acknowledgment_reports_applied", some acknowledgment)
      | .rejected => do
          let acknowledgment ← terminalAcknowledgment record .rejected
          pure (.rejected, "stored_plc_acknowledgment_reports_rejected", some acknowledgment)
      | .commitAccepted | .unknownEffect =>
          match ((latestRetainedEffectOutcome record).bind (fun o => o.acknowledgment)).filter
              (fun a => decide (a.status = .unknownEffect)) with
          | some acknowledgment => pure (.unknownEffect,
              "stored_plc_acknowledgment_reports_unknown", some acknowledgment)
          | none => pure (.unknownEffect, "commit_accepted_effect_outcome_unknown", none)
      | .received | .dispatchArmed | .notDispatched =>
          throw (.unavailable "effect_query_record_state_is_inconsistent")

/-- `issue_outcome` of `query_effect`. -/
def issueQueryOutcome (cfg : OtConfig) (context : Context) : OutcomeIssuer :=
  fun exactRequest record retainedAt => do
    let (disposition, reason, acknowledgment) ← queryAnswer cfg context record retainedAt
    refuseIf (acknowledgment.any (fun a => record.latestAcceptance.any (fun acceptance =>
        storedAcknowledgmentComplete cfg a acceptance) = false) = true)
      (.unavailable "effect_query_stored_acknowledgment_rejected")
    (SignedEffectOutcome.issue (.query exactRequest) disposition reason context.signer
      retainedAt record.latestAcceptance acknowledgment).mapError .value

/-- The disposition a record's state answers with. -/
def expectedDisposition : CoordinationState → Option EffectDisposition
  | .notDispatched => some .notDispatched
  | .commitAccepted | .unknownEffect => some .unknownEffect
  | .applied => some .applied
  | .rejected => some .rejected
  | .received | .dispatchArmed => none

/-- `_query_outcome_complete` on the record the journal holds. -/
def queryOutcomeComplete (cfg : OtConfig) (context : Context)
    (request : SignedEffectQueryRequest) (outcome : SignedEffectOutcome)
    (record : CoordinationJournalRecord) (evaluatedAt : Time) : Bool :=
  let verified (dispatch : SegmentedCapabilityDispatch) (plcKeyId : String) : Bool :=
    decide (expectedDisposition record.state = some outcome.disposition) &&
      outcome.verifyForRequest context.verifier (.query request) context.gateway.subject
        context.localIdentity.subject (historicalIdentities cfg dispatch plcKeyId) evaluatedAt
  match outcome.acceptance with
  | none =>
      decide (record.latestAcceptance = none) &&
        record.latestReceipt.any (fun receipt =>
          storedReceiptCompleteForQuery cfg context receipt evaluatedAt &&
            verified receipt.prepareRequest.dispatch receipt.coordinatorKeyId)
  | some acceptance =>
      decide (record.latestAcceptance = some acceptance) &&
        storedAcceptanceComplete cfg context acceptance evaluatedAt &&
        outcome.acknowledgment.all (fun a => storedAcknowledgmentComplete cfg a acceptance) &&
        verified acceptance.commitRequest.receipt.prepareRequest.dispatch
          acceptance.coordinatorCredential.credential.keyId

/-- The end of `query_effect` for a record that became or was terminal. -/
def clearAnsweredMarker (cfg : OtConfig) (request : SignedEffectQueryRequest) :
    OtProgram Unit := do
  let marker ← liveCommitMarker
  runIf (∃ m ∈ marker, m.effectId = request.effect.effectId) (setLiveCommitMarker none)
  let _ ← refreshCoordinationRecovery cfg
  pure ()

/-- `query_effect`. -/
def queryEffect (cfg : OtConfig) (request : SignedEffectQueryRequest) :
    OtProgram SignedEffectOutcome := do
  let evaluatedAt ← clock
  let context ← coordinationContext cfg evaluatedAt
  require (request.senderCredential ≠ context.gateway.credential ∨
      request.toSignedRequest.verifyWorkloadEnvelope request.verifyWith context.verifier
        effectCoordinatorAudience context.gateway.subject evaluatedAt = false)
    (.rejected "effect_query_authentication_rejected")
  let otherwise := "effect_query_outcome_unavailable"
  requireCoordinationAlignment cfg .queryOnly
  let outcome ← orFail otherwise
    (← journalAnswerQuery request (issueQueryOutcome cfg context) evaluatedAt)
  let retained ← orFail otherwise (← journalGet request.effect)
  require (retained.any (fun e =>
      queryOutcomeComplete cfg context request outcome e.record evaluatedAt) = false)
    (.unavailable "effect_query_stored_outcome_rejected")
  let final ← orFail otherwise (← journalGet request.effect)
  let entry ← result (orRaise final recoveryUnavailable)
  runIf (entry.record.state.terminal = true) (clearAnsweredMarker cfg request)
  pure outcome

end OtProgram

/-! ## Runs -/

/-- A request that arrives at the OT runtime. -/
inductive OtRequest where
  | prepare (request : SignedEffectPrepareRequest)
  | commit (request : SignedEffectCommitRequest)
  | query (request : SignedEffectQueryRequest)

/-- What a handler returns. -/
inductive OtReply where
  | receipt (receipt : CoordinationReceipt)
  | outcome (outcome : SignedEffectOutcome)

/-- The handler of a request. -/
def OtRequest.handle (cfg : OtConfig) : OtRequest → OtProgram OtReply
  | .prepare request => do
      let receipt ← OtProgram.prepareEffect cfg request
      pure (.receipt receipt)
  | .commit request => do
      let outcome ← OtProgram.commitEffect cfg request
      pure (.outcome outcome)
  | .query request => do
      let outcome ← OtProgram.queryEffect cfg request
      pure (.outcome outcome)

/-- The state of the OT side. The two lists are logs that no code reads. -/
structure OtState where
  journal : Journal .effectCoordinator
  /-- `self._live_commit_marker`. -/
  marker : Option LiveCommitMarker
  /-- The commits on which `device.execute` was called, latest first. -/
  executed : List SignedEffectCommitRequest
  /-- The outcomes that handlers returned, latest first. -/
  answered : List SignedEffectOutcome

variable [RecordCodec]

namespace OtState

/-- What one action can do and reply. The environment answers as it likes. -/
def perform (s : OtState) : (action : OtAct) → action.Reply → OtState → Prop
  | .clock, _, s' | .trust, _, s' | .admission _ _ _ _, _, s' | .plant, _, s' => s' = s
  | .marker, reply, s' => reply = s.marker ∧ s' = s
  | .setMarker marker, _, s' => s' = { s with marker := marker }
  | .records, reply, s' => reply = s.journal.listRecords ∧ s' = s
  | .pending, reply, s' => reply = s.journal.pending ∧ s' = s
  | .get effect, reply, s' => reply = s.journal.get (.identity effect) ∧ s' = s
  | .journal op, reply, s' => ∃ env : OpEnv,
      (op.run s.journal env).1 = reply.map op.reply ∧
        s' = { s with journal := (op.run s.journal env).2 }
  | .execute request, _, s' => s' = { s with executed := request :: s.executed }
  | .terminalHook, _, s' => s' = s

/-- A handler ended; only an outcome is logged. -/
def answer (s : OtState) : Except RuntimeError OtReply → OtState
  | .ok (.outcome outcome) => { s with answered := outcome :: s.answered }
  | .ok (.receipt _) | .error _ => s

/-- A new process: the journal is loaded from its file and the marker is gone. -/
def restart (s : OtState) : OtState := { s with journal := s.journal.restart, marker := none }

end OtState

/-- An OT process. The coordination lock lets one handler run at a time. -/
structure OtSystem where
  config : OtConfig
  state : OtState
  running : Option (OtProgram OtReply)

/-- One event: a request arrives, the running handler performs its next action or ends, or the
    process crashes and is started again, possibly with another configuration. -/
inductive OtStep : OtSystem → OtSystem → Prop where
  | start (config : OtConfig) (s : OtState) (request : OtRequest) :
      OtStep ⟨config, s, none⟩ ⟨config, s, some (request.handle config)⟩
  | act (config : OtConfig) (s s' : OtState) (action : OtAct)
      (next : action.Reply → OtProgram OtReply) (reply : action.Reply)
      (hperform : s.perform action reply s') :
      OtStep ⟨config, s, some (.act action next)⟩ ⟨config, s', some (next reply)⟩
  | finish (config : OtConfig) (s : OtState) (result : Except RuntimeError OtReply) :
      OtStep ⟨config, s, some (.done result)⟩ ⟨config, s.answer result, none⟩
  | restart (sys : OtSystem) (config : OtConfig) :
      OtStep sys ⟨config, sys.state.restart, none⟩

/-- Any sequence of events. -/
abbrev OtRun : OtSystem → OtSystem → Prop := Relation.ReflTransGen OtStep

/-- A process whose journal was just initialized. -/
def OtSystem.Initial (sys : OtSystem) : Prop :=
  (∃ ownerSubject write, Journal.initialized ownerSubject write = .ok sys.state.journal) ∧
    sys.state.marker = none ∧ sys.state.executed = [] ∧ sys.state.answered = [] ∧
    sys.running = none

end AegisOt
