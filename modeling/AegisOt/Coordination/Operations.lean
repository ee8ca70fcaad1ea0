import AegisOt.Coordination.Journal
import Mathlib.Logic.Relation

/-!
# Journal operations

The public operations of `DurableGatewayCoordinationJournal` and
`DurableEffectCoordinationJournal`. Every operation but the two that answer a query computes,
without touching the journal, either a result it already retains or one record to store; such
a computation is a `Plan` and `Journal.carryOut` is the rest of the operation. Answering a
query on the effect side stores twice (`Journal.completeQueryRecord`).
-/

namespace AegisOt

/-- An optional `recorded_at` argument. -/
inductive RecordedAt where
  | aware (time : Time)
  | naive
  deriving DecidableEq

/-- `_when`; `now` is `datetime.now(UTC)`. -/
def checkWhen (recordedAt : Option RecordedAt) (now : Time) : Except PyError Time :=
  match recordedAt with
  | none => .ok now
  | some (.aware time) => .ok time
  | some .naive => .error (.journal "coordination transition time must be timezone-aware")

def terminalImmutable : PyError := .illegal "terminal coordination state is immutable"

variable [Primitives]

namespace CoordinationJournalRecord

/-- `_prepare_attempt`. -/
def prepareAttempt (r : CoordinationJournalRecord) (request : SignedEffectPrepareRequest) :
    Option EffectPrepareAttempt :=
  r.attempts.findSome? (fun attempt =>
    attempt.prepare?.filter (fun a => decide (a.requestSha256 = request.digest)))

/-- `_commit_attempt`. -/
def commitAttempt (r : CoordinationJournalRecord) (request : SignedEffectCommitRequest) :
    Option EffectCommitAttempt :=
  r.attempts.findSome? (fun attempt =>
    attempt.commit?.filter (fun a => decide (a.requestSha256 = request.digest)))

/-- `_query_attempt`. -/
def queryAttempt (r : CoordinationJournalRecord) (request : SignedEffectQueryRequest) :
    Option EffectQueryAttempt :=
  r.attempts.findSome? (fun attempt =>
    attempt.query?.filter (fun a => decide (a.requestSha256 = request.digest)))

/-- `any(isinstance(item, EffectCommitAttempt) for item in record.attempts)`. -/
def hasCommit (r : CoordinationJournalRecord) : Bool := r.attempts.any CoordinationAttempt.isCommit

/-- Some prepare attempt retains this exact receipt. -/
def retainsReceipt (r : CoordinationJournalRecord) (receipt : CoordinationReceipt) : Bool :=
  r.attempts.any (fun attempt => decide (attempt.receipt? = some receipt))

/-- `record.model_copy(update={"attempts": (*record.attempts, attempt)})`. -/
def appendAttempt (r : CoordinationJournalRecord) (attempt : CoordinationAttempt) :
    CoordinationJournalRecord :=
  { r with attempts := r.attempts ++ [attempt] }

/-- `_replace_attempt`. -/
def replaceAttempt (r : CoordinationJournalRecord) (replacement : CoordinationAttempt) :
    CoordinationJournalRecord :=
  { r with attempts := r.attempts.map (fun item =>
      if item.base.sequence = replacement.base.sequence then replacement else item) }

/-- `_require_attempt_capacity`. -/
def requireAttemptCapacity (r : CoordinationJournalRecord) : Except PyError Unit :=
  refuseIf (maxAttemptsPerEffect ≤ r.attempts.length)
    (.journal "coordination journal effect attempt history is at capacity")

/-- The transition `_transition` appends. -/
def nextTransition (r : CoordinationJournalRecord) (state : CoordinationState)
    (evidenceSha256 : Option Sha256) (reason : String) (recordedAt : Time) :
    CoordinationTransition :=
  { sequence := r.transitions.length + 1
    state := state
    disposition := EffectDisposition.forState state
    evidenceSha256 := evidenceSha256
    reason := reason
    recordedAt := recordedAt }

/-- `_transition`. -/
def transition (r : CoordinationJournalRecord) (state : CoordinationState)
    (evidenceSha256 : Option Sha256) (reason : String) (recordedAt : Time) :
    Except PyError CoordinationJournalRecord := do
  refuseIf (r.state.terminal = true) terminalImmutable
  refuseIf (r.state.canTransitionTo state = false)
    (.illegal ("illegal coordination transition " ++ r.state.value ++ "->" ++ state.value))
  let transition := r.nextTransition state evidenceSha256 reason recordedAt
  validating transition.validate
  pure { r with transitions := r.transitions ++ [transition] }

end CoordinationJournalRecord

/-! ## Argument checks -/

/-- `_validate_receipt`. -/
def validateReceipt (request : SignedEffectPrepareRequest) (receipt : CoordinationReceipt) :
    Except PyError Unit :=
  refuseIf (request.verify = false ∨ ¬ receipt.binds request)
    (.collision "coordination receipt does not bind the exact prepare request")

/-- `_validate_acceptance`. -/
def validateAcceptance (request : SignedEffectCommitRequest)
    (acceptance : DurableCommitAcceptance) (acceptedAt : Option Time) : Except PyError Unit :=
  refuseIf (request.verify = false ∨ request.receipt.verify = false ∨
      ¬ acceptance.binds request ∨ ∃ time ∈ acceptedAt, acceptance.acceptedAt ≠ time)
    (.collision "durable commit acceptance does not bind the exact retained request")

/-- `_validate_outcome`. -/
def validateOutcome (request : OutcomeRequest) (outcome : SignedEffectOutcome) :
    Except PyError Unit := do
  refuseIf (request.verify = false ∨ ¬ outcome.binds request)
    (.collision "coordination outcome does not bind the exact request")
  refuseIf (request.kind = .commit ∧ outcome.disposition = .notDispatched)
    (.illegal "a commit response cannot assert that the effect was not dispatched")

/-! ## Plans -/

/-- What an operation does to the journal once its checks have passed. -/
inductive Plan (role : JournalRole) (α : Type) where
  /-- Return without writing. -/
  | retained (result : α)
  /-- Store one record, then compute the result from the stored entry. -/
  | store (record : CoordinationJournalRecord) (result : JournalEntry role → α)

variable [RecordCodec] {role : JournalRole}

/-- Carry out a plan. -/
def Journal.carryOut {α : Type} (j : Journal role) (plan : Except PyError (Plan role α))
    (write : WriteResult) : Except PyError α × Journal role :=
  match plan with
  | .error error => (.error error, j)
  | .ok (.retained result) => (.ok result, j)
  | .ok (.store record result) =>
      match j.store record write with
      | (.error error, j) => (.error error, j)
      | (.ok entry, j) => (.ok (result entry), j)

/-- Issue the acceptance that transition three will retain (`CommitAcceptanceIssuer`). -/
abbrev CommitAcceptanceIssuer :=
  SignedEffectCommitRequest → Time → Except CallbackError DurableCommitAcceptance

/-- `ReceiptIssuer`. -/
abbrev ReceiptIssuer :=
  SignedEffectPrepareRequest → Time → Except CallbackError CoordinationReceipt

/-- `OutcomeIssuer`. -/
abbrev OutcomeIssuer := SignedEffectQueryRequest → CoordinationJournalRecord → Time →
  Except CallbackError SignedEffectOutcome

/-! ## Commit -/

/-- The record `_begin_commit_record` stores, given the acceptance issued for it. -/
def committedRecord (r : CoordinationJournalRecord) (request : SignedEffectCommitRequest)
    (acceptance : Option DurableCommitAcceptance) (when_ : Time) :
    Except PyError CoordinationJournalRecord := do
  let attempt : EffectCommitAttempt :=
    { sequence := r.attempts.length + 1
      requestSha256 := request.digest
      status := .requestRetained
      retainedAt := when_
      updatedAt := when_
      request := request
      acceptance := acceptance
      outcome := none
      failureReason := none
      failureEvidenceSha256 := none }
  validating (raising attempt.requireExact)
  let updated := r.appendAttempt (.commit attempt)
  match acceptance with
  | none => pure updated
  | some acceptance =>
      updated.transition .commitAccepted (some acceptance.digest)
        "signed_commit_acceptance_durably_retained" when_

/-- The acceptance `_begin_commit_record` issues and validates, if it is given an issuer. -/
def issueAcceptanceFor (issueAcceptance : Option CommitAcceptanceIssuer)
    (request : SignedEffectCommitRequest) (when_ : Time) :
    Except PyError (Option DurableCommitAcceptance) :=
  match issueAcceptance with
  | none => .ok none
  | some issue => do
      let acceptance ← calling (issue request when_)
      validateAcceptance request acceptance (some when_)
      pure (some acceptance)

/-- `_begin_commit_record`; the flag says whether the attempt was created by this call. -/
def Journal.beginCommitRecord (j : Journal role) (request : SignedEffectCommitRequest)
    (issueAcceptance : Option CommitAcceptanceIssuer) (recordedAt : Option RecordedAt)
    (now : Time) : Except PyError (Plan role (JournalEntry role × Bool)) := do
  let entry ← orRaise (← j.lookup request.effect) (.illegal "cannot commit an unprepared effect")
  let r := entry.record
  if (r.commitAttempt request).isSome then pure (.retained (entry, false))
  else do
    refuseIf (r.hasCommit = true)
      (.collision "coordination effect already retains a different commit request")
    refuseIf (r.state.terminal = true) terminalImmutable
    refuseIf (r.state ≠ .dispatchArmed)
      (.illegal "commit intent requires a durably prepared effect")
    refuseIf (r.retainsReceipt request.receipt = false)
      (.collision "commit request receipt was not retained by this journal")
    r.requireAttemptCapacity
    let when_ ← checkWhen recordedAt now
    let acceptance ← issueAcceptanceFor issueAcceptance request when_
    let updated ← committedRecord r request acceptance when_
    pure (.store updated (fun stored => (stored, true)))

/-- Retain an acceptance in a commit attempt that has none. -/
def retainAcceptance (r : CoordinationJournalRecord) (attempt : EffectCommitAttempt)
    (acceptance : DurableCommitAcceptance) (when_ : Time) : CoordinationJournalRecord :=
  if attempt.acceptance = none then
    r.replaceAttempt (.commit { attempt with
      acceptance := some acceptance, updatedAt := when_ })
  else r

/-- An armed record becomes COMMIT_ACCEPTED; a later one stays where it is. -/
def acceptCommit (r : CoordinationJournalRecord) (acceptance : DurableCommitAcceptance)
    (when_ : Time) : Except PyError CoordinationJournalRecord :=
  if r.state = .dispatchArmed then
    r.transition .commitAccepted (some acceptance.digest)
      "signed_commit_acceptance_durably_retained" when_
  else do
    refuseIf (r.state.postCommit = false)
      (.illegal "durable commit acceptance cannot bind from this state")
    pure r

/-- `_bind_outcome_acceptance`. -/
def bindOutcomeAcceptance (r : CoordinationJournalRecord) (outcome : SignedEffectOutcome)
    (when_ : Time) : Except PyError CoordinationJournalRecord :=
  if outcome.disposition = .notDispatched then do
    refuseIf (outcome.acceptance ≠ none ∨ r.latestAcceptance ≠ none)
      (.collision "not-dispatched outcome conflicts with durable commit acceptance")
    pure r
  else do
    let acceptance ← orRaise outcome.acceptance
      (.collision "dispatched outcome lacks durable commit acceptance")
    let attempt ← orRaise (r.commitAttempt acceptance.commitRequest)
      (.collision "outcome acceptance was not retained with an exact commit intent")
    validateAcceptance attempt.request acceptance none
    refuseIf (when_ < acceptance.acceptedAt)
      (.collision "outcome retention predates durable commit acceptance")
    refuseIf (∃ retained ∈ attempt.acceptance, retained ≠ acceptance)
      (.collision "commit attempt already retains a different durable acceptance")
    acceptCommit (retainAcceptance r attempt acceptance when_) acceptance when_

/-- A failed delivery moves COMMIT_ACCEPTED to UNKNOWN_EFFECT and leaves DISPATCH_ARMED and
    UNKNOWN_EFFECT where they are. -/
def becomeUnknown (r : CoordinationJournalRecord) (evidenceSha256 : Sha256) (reason : String)
    (when_ : Time) (otherwise : PyError) : Except PyError CoordinationJournalRecord :=
  if r.state = .commitAccepted then
    r.transition .unknownEffect (some evidenceSha256) reason when_
  else do
    refuseIf (r.state ≠ .dispatchArmed ∧ r.state ≠ .unknownEffect) otherwise
    pure r

/-- `_mark_commit_unknown_record`. -/
def Journal.markCommitUnknownRecord (j : Journal role) (request : SignedEffectCommitRequest)
    (reason : String) (failureEvidenceSha256 : Option Sha256) (recordedAt : Option RecordedAt)
    (now : Time) : Except PyError (Plan role (JournalEntry role)) := do
  let entry ← orRaise (← j.lookup request.effect) (.illegal "cannot update an unknown effect")
  let r := entry.record
  let attempt ← orRaise (r.commitAttempt request) (.illegal "commit intent was not retained")
  refuseIf (r.state.terminal = true) terminalImmutable
  match attempt.status with
  | .responseRetained => throw (.collision "commit already retains a signed outcome")
  | .outcomeUnknown => do
      refuseIf (¬ (attempt.failureReason = some reason ∧
          attempt.failureEvidenceSha256 = failureEvidenceSha256))
        (.collision "commit attempt already retains different failure evidence")
      pure (.retained entry)
  | .requestRetained => do
      let when_ ← checkWhen recordedAt now
      let replacement := { attempt with
        status := .outcomeUnknown
        outcome := none
        failureReason := some reason
        failureEvidenceSha256 := failureEvidenceSha256
        updatedAt := when_ }
      validating (raising replacement.requireExact)
      let updated ← becomeUnknown (r.replaceAttempt (.commit replacement))
        (failureEvidenceSha256.getD request.digest) reason when_
        (.illegal "commit cannot become unknown from this state")
      pure (.store updated id)

/-- Move to the outcome's state unless the record is there already. -/
def settle (r : CoordinationJournalRecord) (outcome : SignedEffectOutcome) (reason : String)
    (when_ : Time) : Except PyError CoordinationJournalRecord :=
  if r.state = outcome.disposition.state then pure r
  else r.transition outcome.disposition.state (some outcome.digest) reason when_

/-- `_finish_commit_record`. -/
def Journal.finishCommitRecord (j : Journal role) (request : SignedEffectCommitRequest)
    (outcome : SignedEffectOutcome) (recordedAt : Option RecordedAt) (now : Time) :
    Except PyError (Plan role (JournalEntry role)) := do
  validateOutcome (.commit request) outcome
  let entry ← orRaise (← j.lookup request.effect) (.illegal "cannot update an unknown effect")
  let attempt ← orRaise (entry.record.commitAttempt request)
    (.illegal "commit intent was not retained")
  if attempt.status = .responseRetained then do
    refuseIf (¬ (attempt.outcome = some outcome ∧
        entry.record.state = outcome.disposition.state))
      (.collision "commit already retains a different outcome")
    pure (.retained entry)
  else do
    refuseIf (entry.record.state.terminal = true) terminalImmutable
    let when_ ← checkWhen recordedAt now
    let bound ← bindOutcomeAcceptance entry.record outcome when_
    let lost : PyError := .journal "commit outcome lost its durable acceptance binding"
    let boundAttempt ← orRaise (bound.commitAttempt request) lost
    refuseIf (boundAttempt.acceptance = none) lost
    let replacement := { boundAttempt with
      status := .responseRetained
      outcome := some outcome
      failureReason := none
      failureEvidenceSha256 := none
      updatedAt := when_ }
    validating (raising replacement.requireExact)
    let updated ← settle (bound.replaceAttempt (.commit replacement)) outcome
      "signed_commit_outcome_retained" when_
    pure (.store updated id)

/-! ## Query -/

/-- A query may be recorded in this state. -/
def requireQueryable (role : JournalRole) (r : CoordinationJournalRecord)
    (allowTerminal : Bool) : Except PyError Unit := do
  refuseIf (r.state.terminal = true ∧ allowTerminal = false) terminalImmutable
  let gatewayAmbiguous := decide (role = .gateway) && r.attempts.any (fun attempt =>
    attempt.isCommit && decide (attempt.base.status = .outcomeUnknown))
  refuseIf (r.state = .dispatchArmed ∧
      (decide (role = .effectCoordinator) || gatewayAmbiguous) = false)
    (.illegal "gateway reconciliation requires an ambiguous commit attempt")
  refuseIf (r.state.terminal = false ∧ r.state ≠ .dispatchArmed ∧ r.state ≠ .commitAccepted ∧
      r.state ≠ .unknownEffect)
    (.illegal "reconciliation query requires a prepared or accepted effect")

/-- The request-only attempt `_begin_query_record` appends. -/
def newQueryAttempt (r : CoordinationJournalRecord) (request : SignedEffectQueryRequest)
    (when_ : Time) : EffectQueryAttempt :=
  { sequence := r.attempts.length + 1
    requestSha256 := request.digest
    status := .requestRetained
    retainedAt := when_
    updatedAt := when_
    request := request
    outcome := none
    failureReason := none
    failureEvidenceSha256 := none }

/-- `_begin_query_record`. -/
def Journal.beginQueryRecord (j : Journal role) (request : SignedEffectQueryRequest)
    (recordedAt : Option RecordedAt) (now : Time) (allowTerminal : Bool) :
    Except PyError (Plan role (JournalEntry role × EffectQueryAttempt)) := do
  let entry ← orRaise (← j.lookup request.effect) (.illegal "cannot query an unrecorded effect")
  match entry.record.queryAttempt request with
  | some attempt => pure (.retained (entry, attempt))
  | none => do
      requireQueryable role entry.record allowTerminal
      entry.record.requireAttemptCapacity
      let when_ ← checkWhen recordedAt now
      let attempt := newQueryAttempt entry.record request when_
      validating (raising attempt.requireExact)
      pure (.store (entry.record.appendAttempt (.query attempt))
        (fun stored => (stored, attempt)))

/-- A query outcome moves only a nonterminal record. -/
def settleQuery (r : CoordinationJournalRecord) (outcome : SignedEffectOutcome) (when_ : Time) :
    Except PyError CoordinationJournalRecord :=
  if r.state.terminal then pure r
  else settle r outcome "signed_query_outcome_retained" when_

/-- `_complete_query_record` from the point where the query attempt is retained. -/
def completeRetainedQuery (entry : JournalEntry role) (attempt : EffectQueryAttempt)
    (outcome : SignedEffectOutcome) (when_ : Time) :
    Except PyError (Plan role (JournalEntry role)) :=
  match attempt.status with
  | .responseRetained => do
      refuseIf (attempt.outcome ≠ some outcome)
        (.collision "query already retains a different outcome")
      pure (.retained entry)
  | .outcomeUnknown =>
      throw (.collision "query failure is immutable; issue a new reconciliation query")
  | .requestRetained => do
      let target := outcome.disposition.state
      refuseIf (entry.record.state.terminal = true ∧ target ≠ entry.record.state)
        terminalImmutable
      let bound ← bindOutcomeAcceptance entry.record outcome when_
      refuseIf (target = .notDispatched ∧ bound.state ≠ .dispatchArmed ∧
          bound.state ≠ .notDispatched)
        (.illegal "not-dispatched query outcome requires an uncommitted prepared effect")
      let replacement := { attempt with
        status := .responseRetained
        outcome := some outcome
        failureReason := none
        failureEvidenceSha256 := none
        updatedAt := when_ }
      validating (raising replacement.requireExact)
      let updated ← settleQuery (bound.replaceAttempt (.query replacement)) outcome when_
      pure (.store updated id)

/-- `_complete_query_record` up to the search for the query attempt. -/
def Journal.findQuery (j : Journal role) (request : SignedEffectQueryRequest)
    (outcome : SignedEffectOutcome) (recordedAt : Option RecordedAt) (now : Time) :
    Except PyError (JournalEntry role × Time × Option EffectQueryAttempt) := do
  validateOutcome (.query request) outcome
  let entry ← orRaise (← j.lookup request.effect) (.illegal "cannot update an unrecorded effect")
  refuseIf (∃ receipt ∈ outcome.receipt, entry.record.retainsReceipt receipt = false)
    (.collision "query outcome receipt was not retained by this journal")
  let when_ ← checkWhen recordedAt now
  pure (entry, when_, entry.record.queryAttempt request)

/-- `_complete_query_record`. With `create` it may store twice, and `writes` are the results
    of the two stores. -/
def Journal.completeQueryRecord (j : Journal role) (request : SignedEffectQueryRequest)
    (outcome : SignedEffectOutcome) (recordedAt : Option RecordedAt) (now : Time)
    (create : Bool) (writes : WriteResult × WriteResult) :
    Except PyError (JournalEntry role) × Journal role :=
  match j.findQuery request outcome recordedAt now with
  | .error error => (.error error, j)
  | .ok (entry, when_, some attempt) =>
      j.carryOut (completeRetainedQuery entry attempt outcome when_) writes.1
  | .ok (_, when_, none) =>
      if create then
        match j.carryOut (j.beginQueryRecord request (some (.aware when_)) now true) writes.1 with
        | (.error error, j) => (.error error, j)
        | (.ok (entry, attempt), j) =>
            j.carryOut (completeRetainedQuery entry attempt outcome when_) writes.2
      else (.error (.illegal "query intent was not retained"), j)

/-- `_fail_query_record`. -/
def Journal.failQueryRecord (j : Journal role) (request : SignedEffectQueryRequest)
    (reason : String) (failureEvidenceSha256 : Option Sha256) (recordedAt : Option RecordedAt)
    (now : Time) : Except PyError (Plan role (JournalEntry role)) := do
  let entry ← orRaise (← j.lookup request.effect) (.illegal "cannot update an unrecorded effect")
  let r := entry.record
  let attempt ← orRaise (r.queryAttempt request) (.illegal "query intent was not retained")
  refuseIf (r.state.terminal = true) terminalImmutable
  match attempt.status with
  | .responseRetained => throw (.collision "query already retains a signed outcome")
  | .outcomeUnknown => do
      refuseIf (¬ (attempt.failureReason = some reason ∧
          attempt.failureEvidenceSha256 = failureEvidenceSha256))
        (.collision "query attempt already retains different failure evidence")
      pure (.retained entry)
  | .requestRetained => do
      let when_ ← checkWhen recordedAt now
      let replacement := { attempt with
        status := .outcomeUnknown
        outcome := none
        failureReason := some reason
        failureEvidenceSha256 := failureEvidenceSha256
        updatedAt := when_ }
      validating (raising replacement.requireExact)
      let updated ← becomeUnknown (r.replaceAttempt (.query replacement))
        (failureEvidenceSha256.getD request.digest) reason when_
        (.illegal "query cannot become unknown from this state")
      pure (.store updated id)

/-! ## Preparation -/

/-- A prepare attempt at the end of a record's history. -/
def newPrepareAttempt (sequence : Nat) (request : SignedEffectPrepareRequest)
    (receipt : Option CoordinationReceipt) (when_ : Time) : EffectPrepareAttempt :=
  { sequence := sequence
    requestSha256 := request.digest
    status := if receipt = none then .requestRetained else .responseRetained
    retainedAt := when_
    updatedAt := when_
    request := request
    receipt := receipt }

/-- The first transition of a record. -/
def receivedTransition (request : SignedEffectPrepareRequest) (when_ : Time) :
    CoordinationTransition :=
  { sequence := 1
    state := .received
    disposition := none
    evidenceSha256 := some request.digest
    reason := "prepare_request_durably_retained"
    recordedAt := when_ }

/-- The second transition of a record that is created prepared. -/
def armedTransition (receipt : CoordinationReceipt) (when_ : Time) : CoordinationTransition :=
  { sequence := 2
    state := .dispatchArmed
    disposition := none
    evidenceSha256 := some receipt.digest
    reason := "signed_prepare_receipt_durably_retained"
    recordedAt := when_ }

/-- A record for a new effect, received by the gateway or prepared by the coordinator. -/
def newRecord (request : SignedEffectPrepareRequest) (receipt : Option CoordinationReceipt)
    (when_ : Time) : CoordinationJournalRecord :=
  { effect := request.effect
    effectSha256 := request.effect.digest
    transitions := receivedTransition request when_ ::
      (receipt.map (fun receipt => armedTransition receipt when_)).toList
    attempts := [.prepare (newPrepareAttempt 1 request receipt when_)] }

/-- Construct the first record of an effect. -/
def createRecord (request : SignedEffectPrepareRequest) (receipt : Option CoordinationReceipt)
    (when_ : Time) : Except PyError CoordinationJournalRecord := do
  validating (raising (newPrepareAttempt 1 request receipt when_).requireExact)
  validating (raising (newRecord request receipt when_).requireLegalHistory)
  pure (newRecord request receipt when_)

/-- Append one prepare attempt to an existing record. -/
def appendPreparation (r : CoordinationJournalRecord) (request : SignedEffectPrepareRequest)
    (receipt : Option CoordinationReceipt) (when_ : Time) :
    Except PyError CoordinationJournalRecord := do
  let attempt := newPrepareAttempt (r.attempts.length + 1) request receipt when_
  validating (raising attempt.requireExact)
  pure (r.appendAttempt (.prepare attempt))

/-- Retain the receipt of an attempt that has none and arm a received record. -/
def retainReceipt (r : CoordinationJournalRecord) (attempt : EffectPrepareAttempt)
    (receipt : CoordinationReceipt) (when_ : Time) :
    Except PyError CoordinationJournalRecord := do
  let replacement := { attempt with
    status := .responseRetained
    receipt := some receipt
    updatedAt := when_ }
  validating (raising replacement.requireExact)
  let updated := r.replaceAttempt (.prepare replacement)
  if updated.state = .received then
    updated.transition .dispatchArmed (some receipt.digest)
      "signed_prepare_receipt_durably_retained" when_
  else pure updated

def entriesAtCapacity : PyError := .journal "coordination journal is at capacity"

/-! ## Gateway operations -/

/-- The public mutating operations of `DurableGatewayCoordinationJournal`. -/
inductive GatewayOp where
  | begin (request : SignedEffectPrepareRequest) (recordedAt : Option RecordedAt)
  | retainPreparation (request : SignedEffectPrepareRequest) (receipt : CoordinationReceipt)
      (recordedAt : Option RecordedAt)
  | beginCommit (request : SignedEffectCommitRequest) (recordedAt : Option RecordedAt)
  | markCommitUnknown (request : SignedEffectCommitRequest) (reason : String)
      (failureEvidenceSha256 : Option Sha256) (recordedAt : Option RecordedAt)
  | retainCommitOutcome (request : SignedEffectCommitRequest) (outcome : SignedEffectOutcome)
      (recordedAt : Option RecordedAt)
  | beginQuery (request : SignedEffectQueryRequest) (recordedAt : Option RecordedAt)
  | completeQuery (request : SignedEffectQueryRequest) (outcome : SignedEffectOutcome)
      (recordedAt : Option RecordedAt)
  | failQuery (request : SignedEffectQueryRequest) (reason : String)
      (failureEvidenceSha256 : Option Sha256) (recordedAt : Option RecordedAt)
  | closeNotDispatched (effect : EffectIdentity) (reason : String)
      (evidenceSha256 : Option Sha256) (recordedAt : Option RecordedAt)

namespace Journal

/-- `DurableGatewayCoordinationJournal.begin`. -/
def begin (j : Journal .gateway) (request : SignedEffectPrepareRequest)
    (recordedAt : Option RecordedAt) (now : Time) :
    Except PyError (Plan .gateway (JournalEntry .gateway)) := do
  match ← j.lookup request.effect with
  | some entry =>
      if (entry.record.prepareAttempt request).isSome then pure (.retained entry)
      else do
        refuseIf (entry.record.state.terminal = true) terminalImmutable
        entry.record.requireAttemptCapacity
        let when_ ← checkWhen recordedAt now
        let updated ← appendPreparation entry.record request none when_
        pure (.store updated id)
  | none => do
      refuseIf (maxEntries ≤ j.records.size) entriesAtCapacity
      let when_ ← checkWhen recordedAt now
      let record ← createRecord request none when_
      pure (.store record id)

/-- `DurableGatewayCoordinationJournal.retain_preparation`. -/
def retainPreparation (j : Journal .gateway) (request : SignedEffectPrepareRequest)
    (receipt : CoordinationReceipt) (recordedAt : Option RecordedAt) (now : Time) :
    Except PyError (Plan .gateway (JournalEntry .gateway)) := do
  validateReceipt request receipt
  let missing : PyError := .illegal "prepare intent was not retained"
  let entry ← orRaise (← j.lookup request.effect) missing
  let attempt ← orRaise (entry.record.prepareAttempt request) missing
  match attempt.receipt with
  | some retained => do
      refuseIf (retained ≠ receipt)
        (.collision "prepare attempt already retains a different receipt")
      pure (.retained entry)
  | none => do
      refuseIf (entry.record.state.terminal = true) terminalImmutable
      let when_ ← checkWhen (some (recordedAt.getD (.aware receipt.preparedAt))) now
      let updated ← retainReceipt entry.record attempt receipt when_
      pure (.store updated id)

/-- `DurableGatewayCoordinationJournal.close_not_dispatched`. -/
def closeNotDispatched (j : Journal .gateway) (effect : EffectIdentity) (reason : String)
    (evidenceSha256 : Option Sha256) (recordedAt : Option RecordedAt) (now : Time) :
    Except PyError (Plan .gateway (JournalEntry .gateway)) := do
  let entry ← orRaise (← j.lookup effect)
    (.illegal "cannot close an unrecorded effect as not dispatched")
  if entry.record.state.terminal then do
    refuseIf (¬ ∃ latest ∈ entry.record.transitions.getLast?,
        latest.state = .notDispatched ∧ latest.reason = reason ∧
          latest.evidenceSha256 = evidenceSha256)
      terminalImmutable
    pure (.retained entry)
  else do
    let when_ ← checkWhen recordedAt now
    let updated ← entry.record.transition .notDispatched evidenceSha256 reason when_
    pure (.store updated id)

/-- `with self._mutex: self._assert_writer()`, then the operation's plan. -/
def guarded {α : Type} (j : Journal role) (plan : Except PyError (Plan role α)) :
    Except PyError (Plan role α) := do
  j.assertWriter
  plan

/-- `DurableGatewayCoordinationJournal.begin_commit` without its write: the intent is retained
    with no claim of remote acceptance. -/
def beginCommitIntent (j : Journal .gateway) (request : SignedEffectCommitRequest)
    (recordedAt : Option RecordedAt) (now : Time) (write : WriteResult) :
    Except PyError (JournalEntry .gateway) × Journal .gateway :=
  let result := j.carryOut (j.guarded (j.beginCommitRecord request none recordedAt now)) write
  (result.1.map Prod.fst, result.2)

/-- `DurableGatewayCoordinationJournal.begin_query`. -/
def beginQuery (j : Journal .gateway) (request : SignedEffectQueryRequest)
    (recordedAt : Option RecordedAt) (now : Time) (write : WriteResult) :
    Except PyError (JournalEntry .gateway) × Journal .gateway :=
  let result := j.carryOut (j.guarded (j.beginQueryRecord request recordedAt now false)) write
  (result.1.map Prod.fst, result.2)

/-- `_complete_query_record` behind `_assert_writer`. -/
def completeQuery (j : Journal role) (request : SignedEffectQueryRequest)
    (outcome : SignedEffectOutcome) (recordedAt : Option RecordedAt) (now : Time)
    (create : Bool) (writes : WriteResult × WriteResult) :
    Except PyError (JournalEntry role) × Journal role :=
  match j.assertWriter with
  | .error error => (.error error, j)
  | .ok () => j.completeQueryRecord request outcome recordedAt now create writes

end Journal

/-- What the environment decides during one operation: the clock and its stores. -/
structure OpEnv where
  now : Time
  writes : WriteResult × WriteResult

/-- Run one gateway operation. -/
def GatewayOp.run (op : GatewayOp) (j : Journal .gateway) (env : OpEnv) :
    Except PyError (JournalEntry .gateway) × Journal .gateway :=
  match op with
  | .begin request recordedAt =>
      j.carryOut (j.guarded (j.begin request recordedAt env.now)) env.writes.1
  | .retainPreparation request receipt recordedAt =>
      j.carryOut (j.guarded (j.retainPreparation request receipt recordedAt env.now))
        env.writes.1
  | .beginCommit request recordedAt =>
      j.beginCommitIntent request recordedAt env.now env.writes.1
  | .markCommitUnknown request reason evidence recordedAt =>
      j.carryOut (j.guarded (j.markCommitUnknownRecord request reason evidence recordedAt
        env.now)) env.writes.1
  | .retainCommitOutcome request outcome recordedAt =>
      j.carryOut (j.guarded (j.finishCommitRecord request outcome recordedAt env.now))
        env.writes.1
  | .beginQuery request recordedAt => j.beginQuery request recordedAt env.now env.writes.1
  | .completeQuery request outcome recordedAt =>
      j.completeQuery request outcome recordedAt env.now false env.writes
  | .failQuery request reason evidence recordedAt =>
      j.carryOut (j.guarded (j.failQueryRecord request reason evidence recordedAt env.now))
        env.writes.1
  | .closeNotDispatched effect reason evidence recordedAt =>
      j.carryOut (j.guarded (j.closeNotDispatched effect reason evidence recordedAt env.now))
        env.writes.1

/-! ## Effect-coordinator operations -/

/-- `CommitAdmissionStatus`. -/
inductive CommitAdmissionStatus where
  | new
  | terminal
  | indeterminate
  deriving DecidableEq, Repr

/-- `CommitAdmission`. -/
structure CommitAdmission where
  status : CommitAdmissionStatus
  request : SignedEffectCommitRequest
  record : CoordinationJournalRecord
  acceptance : DurableCommitAcceptance
  retainedOutcome : Option SignedEffectOutcome
  deriving DecidableEq

/-- `CommitAdmission.require_consistent_admission`. -/
def CommitAdmission.requireConsistent (a : CommitAdmission) : Except String Unit := do
  let attempt ← orRaise (a.record.commitAttempt a.request)
    "commit admission lacks its retained intent"
  refuseIf (attempt.acceptance ≠ some a.acceptance)
    "commit admission does not expose its retained acceptance"
  match a.status with
  | .new =>
      refuseIf (attempt.status ≠ .requestRetained ∨ a.record.state ≠ .commitAccepted ∨
          a.retainedOutcome ≠ none)
        "new commit admission is inconsistent"
  | .terminal =>
      refuseIf (a.retainedOutcome = none ∨ a.record.terminalOutcome ≠ a.retainedOutcome ∨
          a.record.state.terminal = false)
        "terminal commit admission is inconsistent"
  | .indeterminate =>
      refuseIf (a.retainedOutcome ≠ none ∨
          (a.record.state ≠ .commitAccepted ∧ a.record.state ≠ .unknownEffect))
        "indeterminate commit admission is inconsistent"

/-- The admission `begin_commit` returns for a retained record. -/
def commitAdmission (request : SignedEffectCommitRequest)
    (result : JournalEntry .effectCoordinator × Bool) : Except PyError CommitAdmission := do
  let record := result.1.record
  let acceptance ← orRaise record.latestAcceptance
    (.journal "effect-coordinator commit admission lacks durable acceptance")
  let admission : CommitAdmission :=
    { status := if result.2 then .new else if record.terminalOutcome ≠ none then .terminal
        else .indeterminate
      request := request
      record := record
      acceptance := acceptance
      retainedOutcome := record.terminalOutcome }
  validating (raising admission.requireConsistent)
  pure admission

namespace Journal

/-- The state and capacity checks of `prepare_effect`. -/
def requirePreparable (j : Journal role) (entry : Option (JournalEntry role)) :
    Except PyError Unit :=
  match entry with
  | some e => do
      refuseIf (e.record.state.terminal = true) terminalImmutable
      e.record.requireAttemptCapacity
  | none => refuseIf (maxEntries ≤ j.records.size) entriesAtCapacity

/-- The record `prepare_effect` stores. -/
def preparedRecord (entry : Option (JournalEntry role)) (existing : Option EffectPrepareAttempt)
    (request : SignedEffectPrepareRequest) (receipt : CoordinationReceipt) (when_ : Time) :
    Except PyError CoordinationJournalRecord :=
  match entry, existing with
  | none, _ => createRecord request (some receipt) when_
  | some e, some attempt => retainReceipt e.record attempt receipt when_
  | some e, none => appendPreparation e.record request (some receipt) when_

/-- `DurableEffectCoordinationJournal.prepare_effect`: request and receipt are stored in one
    write before the receipt is returned. -/
def prepareEffect (j : Journal .effectCoordinator) (request : SignedEffectPrepareRequest)
    (issueReceipt : ReceiptIssuer) (recordedAt : Option RecordedAt) (now : Time) :
    Except PyError (Plan .effectCoordinator CoordinationReceipt) := do
  let entry ← j.lookup request.effect
  let existing := entry.bind (fun e => e.record.prepareAttempt request)
  match existing.bind (fun a => a.receipt) with
  | some receipt => pure (.retained receipt)
  | none => do
      j.requirePreparable entry
      let when_ ← checkWhen recordedAt now
      let receipt ← calling (issueReceipt request when_)
      validateReceipt request receipt
      let record ← preparedRecord entry existing request receipt when_
      pure (.store record (fun _ => receipt))

/-- `DurableEffectCoordinationJournal.begin_commit`. -/
def beginCommit (j : Journal .effectCoordinator) (request : SignedEffectCommitRequest)
    (issueAcceptance : CommitAcceptanceIssuer) (recordedAt : Option RecordedAt) (now : Time)
    (write : WriteResult) : Except PyError CommitAdmission × Journal .effectCoordinator :=
  let result := j.carryOut
    (j.guarded (j.beginCommitRecord request (some issueAcceptance) recordedAt now)) write
  (result.1 >>= commitAdmission request, result.2)

/-- `DurableEffectCoordinationJournal.answer_query` up to its store: the retained answer, or
    the time and the outcome issued for a new one. -/
def issueAnswer (j : Journal .effectCoordinator) (request : SignedEffectQueryRequest)
    (issueOutcome : OutcomeIssuer) (recordedAt : Option RecordedAt) (now : Time) :
    Except PyError (SignedEffectOutcome ⊕ Time × SignedEffectOutcome) := do
  j.assertWriter
  let entry ← orRaise (← j.lookup request.effect) (.illegal "cannot answer an unrecorded effect")
  match (entry.record.queryAttempt request).bind (fun a => a.outcome) with
  | some outcome => pure (.inl outcome)
  | none => do
      let when_ ← checkWhen recordedAt now
      let outcome ← calling (issueOutcome request entry.record when_)
      pure (.inr (when_, outcome))

/-- `DurableEffectCoordinationJournal.answer_query`. -/
def answerQuery (j : Journal .effectCoordinator) (request : SignedEffectQueryRequest)
    (issueOutcome : OutcomeIssuer) (recordedAt : Option RecordedAt) (now : Time)
    (writes : WriteResult × WriteResult) :
    Except PyError SignedEffectOutcome × Journal .effectCoordinator :=
  match j.issueAnswer request issueOutcome recordedAt now with
  | .error error => (.error error, j)
  | .ok (.inl outcome) => (.ok outcome, j)
  | .ok (.inr (when_, outcome)) =>
      let result := j.completeQueryRecord request outcome (some (.aware when_)) now true writes
      (result.1.map (fun _ => outcome), result.2)

end Journal

/-- The public mutating operations of `DurableEffectCoordinationJournal`. -/
inductive EffectOp where
  | prepareEffect (request : SignedEffectPrepareRequest) (issueReceipt : ReceiptIssuer)
      (recordedAt : Option RecordedAt)
  | beginCommit (request : SignedEffectCommitRequest) (issueAcceptance : CommitAcceptanceIssuer)
      (recordedAt : Option RecordedAt)
  | finishCommit (request : SignedEffectCommitRequest) (outcome : SignedEffectOutcome)
      (recordedAt : Option RecordedAt)
  | markCommitUnknown (request : SignedEffectCommitRequest) (reason : String)
      (failureEvidenceSha256 : Option Sha256) (recordedAt : Option RecordedAt)
  | retainQueryOutcome (request : SignedEffectQueryRequest) (outcome : SignedEffectOutcome)
      (recordedAt : Option RecordedAt)
  | answerQuery (request : SignedEffectQueryRequest) (issueOutcome : OutcomeIssuer)
      (recordedAt : Option RecordedAt)

/-- What an effect-coordinator operation returns. -/
inductive EffectReply where
  | receipt (receipt : CoordinationReceipt)
  | admission (admission : CommitAdmission)
  | record (entry : JournalEntry .effectCoordinator)
  | outcome (outcome : SignedEffectOutcome)

/-- Map the result of an operation. -/
def mapReply {α β : Type} (f : α → β) (result : Except PyError α × Journal role) :
    Except PyError β × Journal role :=
  (result.1.map f, result.2)

/-- Run one effect-coordinator operation. -/
def EffectOp.run (op : EffectOp) (j : Journal .effectCoordinator) (env : OpEnv) :
    Except PyError EffectReply × Journal .effectCoordinator :=
  match op with
  | .prepareEffect request issue recordedAt =>
      mapReply .receipt (j.carryOut
        (j.guarded (j.prepareEffect request issue recordedAt env.now)) env.writes.1)
  | .beginCommit request issue recordedAt =>
      mapReply .admission (j.beginCommit request issue recordedAt env.now env.writes.1)
  | .finishCommit request outcome recordedAt =>
      mapReply .record (j.carryOut
        (j.guarded (j.finishCommitRecord request outcome recordedAt env.now)) env.writes.1)
  | .markCommitUnknown request reason evidence recordedAt =>
      mapReply .record (j.carryOut (j.guarded (j.markCommitUnknownRecord request reason evidence
        recordedAt env.now)) env.writes.1)
  | .retainQueryOutcome request outcome recordedAt =>
      mapReply .record (j.completeQuery request outcome recordedAt env.now true env.writes)
  | .answerQuery request issue recordedAt =>
      mapReply .outcome (j.answerQuery request issue recordedAt env.now env.writes)

/-- What each operation returns to its caller. -/
def EffectOp.Result : EffectOp → Type
  | .prepareEffect _ _ _ => CoordinationReceipt
  | .beginCommit _ _ _ => CommitAdmission
  | .finishCommit _ _ _ => JournalEntry .effectCoordinator
  | .markCommitUnknown _ _ _ _ => JournalEntry .effectCoordinator
  | .retainQueryOutcome _ _ _ => JournalEntry .effectCoordinator
  | .answerQuery _ _ _ => SignedEffectOutcome

/-- The reply as `EffectOp.run` gives it. -/
def EffectOp.reply : (op : EffectOp) → op.Result → EffectReply
  | .prepareEffect _ _ _, receipt => .receipt receipt
  | .beginCommit _ _ _, admission => .admission admission
  | .finishCommit _ _ _, entry => .record entry
  | .markCommitUnknown _ _ _ _, entry => .record entry
  | .retainQueryOutcome _ _ _, entry => .record entry
  | .answerQuery _ _ _, outcome => .outcome outcome

/-! ## Runs -/

/-- A public mutating operation of the journal of a role. -/
inductive JournalOp : JournalRole → Type where
  | gateway (op : GatewayOp) : JournalOp .gateway
  | effect (op : EffectOp) : JournalOp .effectCoordinator

/-- Run an operation; only whether it raised, and what, is kept of its result. -/
def JournalOp.run {role : JournalRole} (op : JournalOp role) (j : Journal role) (env : OpEnv) :
    Except PyError Unit × Journal role :=
  match op with
  | .gateway op => mapReply (fun _ => ()) (op.run j env)
  | .effect op => mapReply (fun _ => ()) (op.run j env)

/-- One event in the life of a journal: a public operation, `close`, or a new process that
    loads the file. -/
inductive JournalStep {role : JournalRole} : Journal role → Journal role → Prop where
  | op (j : Journal role) (op : JournalOp role) (env : OpEnv) : JournalStep j (op.run j env).2
  | close (j : Journal role) : JournalStep j j.close
  | restart (j : Journal role) : JournalStep j j.restart

/-- Any sequence of events. -/
abbrev JournalRun {role : JournalRole} : Journal role → Journal role → Prop :=
  Relation.ReflTransGen JournalStep

/-- A sequence of public operations, each with its environment. -/
def Journal.runOps {role : JournalRole} (j : Journal role) :
    List (JournalOp role × OpEnv) → Journal role
  | [] => j
  | (op, env) :: rest => (op.run j env).2.runOps rest

/-- The journals reachable from an initialized one. -/
def Journal.Reachable {role : JournalRole} (j : Journal role) : Prop :=
  ∃ ownerSubject write j₀, Journal.initialized ownerSubject write = .ok j₀ ∧ JournalRun j₀ j

end AegisOt
