import AegisOt.Transport.CoordinatedPort

/-!
# Reconciliation evidence

`reconcile_effect_evidence` of the coordinated gateway port: one query for a retained effect, and
the evidence read from the record the query left behind. `CapabilityOutcomeResolution` and
`CapabilityOutcomePending` have one set of fields; they differ in the dispositions they admit.
-/

namespace AegisOt

open Program

/-- The fields of `CapabilityOutcomeResolution` and of `CapabilityOutcomePending`; `retainedAt`
    is `resolved_at` of the former. -/
structure ReconciliationEvidence where
  effect : EffectIdentity
  priorState : CoordinationState
  disposition : EffectDisposition
  query : SignedEffectQueryRequest
  acceptance : DurableCommitAcceptance
  outcome : SignedEffectOutcome
  retainedAt : Time
  deriving DecidableEq

/-- What `reconcile_effect_evidence` returns. -/
inductive CapabilityOutcome where
  | resolution (evidence : ReconciliationEvidence)
  | pending (evidence : ReconciliationEvidence)
  deriving DecidableEq

def CapabilityOutcome.evidence : CapabilityOutcome → ReconciliationEvidence
  | .resolution evidence => evidence
  | .pending evidence => evidence

/-- `except CapabilityTransportRejected`. -/
def PortError.isRejected : PortError → Bool
  | .rejected _ _ _ => true
  | _ => false

variable [Primitives]

namespace ReconciliationEvidence

/-- `require_exact_resolution`, and `require_exact_pending` for a disposition that is unknown. -/
def requireExact (e : ReconciliationEvidence) (message : String) : Except String Unit :=
  refuseIf (
      e.outcome.requestKind ≠ .query ∨
      e.query.effect ≠ e.effect ∨
      e.outcome.requestSha256 ≠ e.query.digest ∨
      e.outcome.effect ≠ e.effect ∨
      e.outcome.disposition ≠ e.disposition ∨
      e.acceptance.effect ≠ e.effect ∨
      e.outcome.acceptance ≠ some e.acceptance ∨
      e.retainedAt < e.outcome.signedAt)
    message

/-- `verify_historical_complete` of either class. -/
def verifyHistoricalComplete (e : ReconciliationEvidence) (verifier : WorkloadIdentityVerifier)
    (expectedGatewaySubject expectedCoordinatorSubject : String)
    (expected : ExpectedIdentities) (evaluatedAt : Time) : Bool :=
  decide (e.retainedAt ≤ evaluatedAt + maxCoordinationFutureSkew) &&
    e.outcome.verifyHistoricalForRequest verifier (.query e.query) expectedGatewaySubject
      expectedCoordinatorSubject expected evaluatedAt

end ReconciliationEvidence

namespace CoordinatedPort

open PortProgram

variable [RecordCodec]

/-! ## Reading a record -/

/-- `_query_attempt_for_outcome`. -/
def queryAttemptForOutcome (record : CoordinationJournalRecord) (outcome : SignedEffectOutcome) :
    Option EffectQueryAttempt :=
  record.attempts.reverse.findSome? (fun attempt =>
    attempt.query?.filter (fun a => decide (a.outcome = some outcome)))

/-- The digests an attempt's own outcome brought into the transitions. -/
def currentEvidence (attempt : EffectQueryAttempt) : List Sha256 :=
  attempt.outcome.toList.flatMap (fun outcome =>
    outcome.digest :: (outcome.acceptance.map (fun a => a.digest)).toList)

/-- The states a query can start from. -/
def priorStates : List CoordinationState := [.dispatchArmed, .commitAccepted, .unknownEffect]

/-- `_prior_state_for_query`. -/
def priorStateForQuery (record : CoordinationJournalRecord) (attempt : EffectQueryAttempt) :
    Option CoordinationState :=
  let before := record.transitions.takeWhile (fun t => decide (t.recordedAt ≤ attempt.retainedAt))
  let prior := before.filter (fun t =>
    t.evidenceSha256.all (fun digest => decide (digest ∉ currentEvidence attempt)) &&
      decide (t.state ∈ priorStates))
  prior.getLast?.map (fun t => t.state)

def unverified : PortError := .outcomeUnknown "retained_effect_verification_failed"

/-- `except CapabilityTransportError` around a check of what is retained. -/
def orUnverified (p : PortProgram Unit) : PortProgram Unit :=
  p.catching (fun error => raise (if error.isTransport then unverified else error))

/-- `_verify_reconciliation_evidence`. -/
def verifyReconciliationEvidence (port : CoordinatedPort) (evidence : ReconciliationEvidence) :
    PortProgram Unit := do
  let evaluatedAt ← clock
  orUnverified (do
    let _ ← port.identities evaluatedAt false
    pure ())
  let view ← trust
  require (evidence.verifyHistoricalComplete (port.workloadVerifier view) port.gatewaySubject
      port.coordinatorSubject (port.outcomeIdentityBindings evidence.outcome) evaluatedAt = false)
    unverified

/-- The evidence `_resolution_from_record` builds. -/
def resolutionOf (record : CoordinationJournalRecord) :
    Except PortError (SignedEffectOutcome × ReconciliationEvidence) := do
  let outcome ← orRaise record.terminalOutcome (.rejected "effect_was_not_committed" 409 0)
  let attempt ← orRaise (queryAttemptForOutcome record outcome)
    (.rejected "effect_not_query_resolved" 409 1)
  let acceptance ← orRaise outcome.acceptance unverified
  refuseIf (outcome.disposition.dispatchedTerminal = false) unverified
  let priorState ← orRaise (priorStateForQuery record attempt) unverified
  let evidence : ReconciliationEvidence :=
    { effect := record.effect
      priorState := priorState
      disposition := outcome.disposition
      query := attempt.request
      acceptance := acceptance
      outcome := outcome
      retainedAt := attempt.updatedAt }
  (evidence.requireExact "outcome resolution bindings are inconsistent").mapError
    (fun _ => unverified)
  pure (outcome, evidence)

/-- `_resolution_from_record`. -/
def resolutionFromRecord (port : CoordinatedPort) (record : CoordinationJournalRecord) :
    PortProgram CapabilityOutcome := do
  let resolved ← result (resolutionOf record)
  orUnverified (port.verifyRetainedTerminalOutcome record resolved.1)
  port.verifyReconciliationEvidence resolved.2
  pure (.resolution resolved.2)

/-- The newest query attempt that was answered UNKNOWN_EFFECT, with its answer. -/
def latestUnknownQuery (record : CoordinationJournalRecord) :
    Option (EffectQueryAttempt × SignedEffectOutcome) :=
  record.attempts.reverse.findSome? (fun attempt =>
    attempt.query?.bind (fun a =>
      (a.outcome.filter (fun o => decide (o.disposition = .unknownEffect))).map
        (fun o => (a, o))))

/-- The evidence `_pending_from_record` builds. -/
def pendingOf (record : CoordinationJournalRecord) :
    Except PortError (Option ReconciliationEvidence) :=
  match latestUnknownQuery record with
  | none => pure none
  | some (attempt, outcome) => do
      let acceptance ← orRaise outcome.acceptance unverified
      let priorState ← orRaise (priorStateForQuery record attempt) unverified
      let evidence : ReconciliationEvidence :=
        { effect := record.effect
          priorState := priorState
          disposition := .unknownEffect
          query := attempt.request
          acceptance := acceptance
          outcome := outcome
          retainedAt := attempt.updatedAt }
      (evidence.requireExact "pending outcome bindings are inconsistent").mapError
        (fun _ => unverified)
      pure (some evidence)

/-- `_pending_from_record`. -/
def pendingFromRecord (port : CoordinatedPort) (record : CoordinationJournalRecord) :
    PortProgram (Option CapabilityOutcome) := do
  match ← result (pendingOf record) with
  | none => pure none
  | some evidence => do
      port.verifyReconciliationEvidence evidence
      pure (some (.pending evidence))

/-! ## The call -/

def reconciliationUnavailable : PortError := .outcomeUnknown "effect_reconciliation_unavailable"

def notCommitted : PortError := .rejected "effect_was_not_committed" 409 0

/-- `self.coordination_journal.get(effect)` inside its `try` statement. -/
def readRecord (effect : EffectIdentity) : PortProgram (Option CoordinationJournalRecord) := do
  let found : Except PyError (Option (JournalEntry .gateway)) ← perform (.get effect)
  let unavailable : PortError := .outcomeUnknown "gateway_coordination_journal_unavailable"
  let entry ← result (found.mapError (fun error =>
    (PortError.python error).translate unavailable unavailable))
  pure (entry.map (fun e => e.record))

/-- The pending evidence of a record, if there is any. -/
def requirePending (port : CoordinatedPort) (record : CoordinationJournalRecord) :
    PortProgram CapabilityOutcome := do
  match ← port.pendingFromRecord record with
  | some pending => pure pending
  | none => raise reconciliationUnavailable

/-- What follows a query that raised. -/
def recoverQuery (port : CoordinatedPort) (effect : EffectIdentity) (error : PortError) :
    PortProgram CapabilityOutcome :=
  if error.isRejected = true then do
    let updated ← readRecord effect
    require (updated.any (fun r => decide (r.state = .notDispatched)) = true) notCommitted
    raise error
  else if error.isTransport = true then do
    match ← readRecord effect with
    | none => raise reconciliationUnavailable
    | some record => port.requirePending record
  else raise error

/-- What follows a query that returned. -/
def concludeQuery (port : CoordinatedPort) (effect : EffectIdentity) :
    PortProgram CapabilityOutcome := do
  let updated ← readRecord effect
  let record ← result (orRaise updated unverified)
  if record.state.dispatchedTerminal = true then port.resolutionFromRecord record
  else port.requirePending record

/-- `reconcile_effect_evidence` on a record that is neither closed nor resolved. -/
def reconcileOpenRecord (port : CoordinatedPort) (record : CoordinationJournalRecord) :
    PortProgram CapabilityOutcome :=
  match latestCommit record with
  | none => do
      let evidenceSha256 := (record.latestReceipt.map (fun r => r.digest)).getD
        record.effect.digest
      let recordedAt ← clock
      closeBeforeCommit record.effect "effect_was_not_committed" evidenceSha256 recordedAt
      raise notCommitted
  | some _ => do
      match ← (port.query record).attempt with
      | .error error => port.recoverQuery record.effect error
      | .ok _ => port.concludeQuery record.effect

/-- `reconcile_effect_evidence`. -/
def reconcileEffectEvidence (port : CoordinatedPort) (effect : EffectIdentity) :
    PortProgram CapabilityOutcome := do
  let found ← readRecord effect
  let record ← result (orRaise found (.rejected "coordination_effect_not_recorded" 404 0))
  require (record.state = .notDispatched) notCommitted
  if record.state.dispatchedTerminal = true then port.resolutionFromRecord record
  else port.reconcileOpenRecord record

end CoordinatedPort

end AegisOt
