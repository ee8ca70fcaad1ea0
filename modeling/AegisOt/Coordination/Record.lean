import AegisOt.Coordination.Models
import AegisOt.Misc.SortedMap

/-!
# Journal records

One record of a coordination journal retains the transitions and the protocol attempts of one
effect (`coordination_journal.py:120-500`). The validators are those of the pydantic models,
nested models first; `CoordinationJournalRecord.validate` is what
`CoordinationJournalRecord.model_validate_json` checks of a record's dump.
-/

namespace AegisOt

/-- `MAX_TRANSITIONS_PER_EFFECT`. -/
def maxTransitionsPerEffect : Nat := 16

/-- `MAX_ATTEMPTS_PER_EFFECT`. -/
def maxAttemptsPerEffect : Nat := 128

/-! ## Transitions -/

/-- `CoordinationTransition`: one ordered state assertion. -/
structure CoordinationTransition where
  sequence : Nat
  state : CoordinationState
  disposition : Option EffectDisposition
  evidenceSha256 : Option Sha256
  reason : String
  recordedAt : Time
  deriving DecidableEq

/-- `state in {APPLIED, REJECTED}`. -/
def CoordinationState.dispatchedTerminal : CoordinationState → Bool
  | .applied | .rejected => true
  | .received | .dispatchArmed | .commitAccepted | .notDispatched | .unknownEffect => false

/-- A `ValidationError` of a record or of one of its parts. The two checks that name
    `MAX_TRANSITIONS_PER_EFFECT` are kept apart from all others. -/
inductive ValidationError where
  | transitionLimit
  | other (message : String)
  deriving DecidableEq

/-- A check that does not concern the transition limit. -/
def raising {α : Type} : Except String α → Except ValidationError α
  | .ok a => .ok a
  | .error message => .error (.other message)

@[simp] theorem raising_eq_ok {α : Type} {x : Except String α} {a : α} :
    raising x = .ok a ↔ x = .ok a := by
  cases x <;> simp [raising]

/-- The field checks and `require_closed_transition`. -/
def CoordinationTransition.validate (t : CoordinationTransition) :
    Except ValidationError Unit := do
  refuseIf (¬ (1 ≤ t.sequence ∧ t.sequence ≤ maxTransitionsPerEffect)) .transitionLimit
  refuseIf (lengthWithin 1 512 t.reason = false)
    (.other "coordination transition reason is invalid")
  refuseIf (t.disposition ≠ EffectDisposition.forState t.state)
    (.other "coordination transition disposition is inconsistent")
  refuseIf (t.state.dispatchedTerminal = true ∧ t.evidenceSha256 = none)
    (.other "terminal dispatch transition requires exact outcome evidence")

/-! ## Attempts -/

/-- `CoordinationAttemptStatus`. -/
inductive CoordinationAttemptStatus where
  | requestRetained
  | responseRetained
  | outcomeUnknown
  deriving DecidableEq, Repr

/-- The fields of `_AttemptBase`. -/
structure AttemptBase where
  sequence : Nat
  requestSha256 : Sha256
  status : CoordinationAttemptStatus
  retainedAt : Time
  updatedAt : Time
  deriving DecidableEq

/-- The bounds of `_AttemptBase` and `_validate_times`. -/
def AttemptBase.validateTimes (a : AttemptBase) : Except String Unit := do
  refuseIf (¬ (1 ≤ a.sequence ∧ a.sequence ≤ maxAttemptsPerEffect))
    "coordination attempt sequence is out of range"
  refuseIf (a.updatedAt < a.retainedAt) "coordination attempt update cannot precede retention"

/-- `EffectPrepareAttempt`. -/
structure EffectPrepareAttempt extends AttemptBase where
  request : SignedEffectPrepareRequest
  receipt : Option CoordinationReceipt
  deriving DecidableEq

/-- `EffectCommitAttempt`. -/
structure EffectCommitAttempt extends AttemptBase where
  request : SignedEffectCommitRequest
  acceptance : Option DurableCommitAcceptance
  outcome : Option SignedEffectOutcome
  failureReason : Option String
  failureEvidenceSha256 : Option Sha256
  deriving DecidableEq

/-- `EffectQueryAttempt`. -/
structure EffectQueryAttempt extends AttemptBase where
  request : SignedEffectQueryRequest
  outcome : Option SignedEffectOutcome
  failureReason : Option String
  failureEvidenceSha256 : Option Sha256
  deriving DecidableEq

/-- `CoordinationAttempt`, the union discriminated by `kind`. -/
inductive CoordinationAttempt where
  | prepare (attempt : EffectPrepareAttempt)
  | commit (attempt : EffectCommitAttempt)
  | query (attempt : EffectQueryAttempt)
  deriving DecidableEq

namespace CoordinationAttempt

/-- The fields every attempt has. -/
def base : CoordinationAttempt → AttemptBase
  | .prepare a => a.toAttemptBase
  | .commit a => a.toAttemptBase
  | .query a => a.toAttemptBase

/-- The request fields every attempt has. -/
def signedRequest : CoordinationAttempt → SignedRequest
  | .prepare a => a.request.toSignedRequest
  | .commit a => a.request.toSignedRequest
  | .query a => a.request.toSignedRequest

/-- `attempt.outcome`, for the two kinds that have one. -/
def outcome : CoordinationAttempt → Option SignedEffectOutcome
  | .prepare _ => none
  | .commit a => a.outcome
  | .query a => a.outcome

/-- The attempt itself when `isinstance(attempt, EffectPrepareAttempt)`. -/
def prepare? : CoordinationAttempt → Option EffectPrepareAttempt
  | .prepare a => some a
  | .commit _ | .query _ => none

/-- The attempt itself when `isinstance(attempt, EffectCommitAttempt)`. -/
def commit? : CoordinationAttempt → Option EffectCommitAttempt
  | .commit a => some a
  | .prepare _ | .query _ => none

/-- The attempt itself when `isinstance(attempt, EffectQueryAttempt)`. -/
def query? : CoordinationAttempt → Option EffectQueryAttempt
  | .query a => some a
  | .prepare _ | .commit _ => none

@[simp] theorem prepare?_eq_some {x : CoordinationAttempt} {a : EffectPrepareAttempt} :
    x.prepare? = some a ↔ x = .prepare a := by
  cases x <;> simp [prepare?]

@[simp] theorem commit?_eq_some {x : CoordinationAttempt} {a : EffectCommitAttempt} :
    x.commit? = some a ↔ x = .commit a := by
  cases x <;> simp [commit?]

@[simp] theorem query?_eq_some {x : CoordinationAttempt} {a : EffectQueryAttempt} :
    x.query? = some a ↔ x = .query a := by
  cases x <;> simp [query?]

def isPrepare : CoordinationAttempt → Bool
  | .prepare _ => true
  | .commit _ | .query _ => false

def isCommit : CoordinationAttempt → Bool
  | .commit _ => true
  | .prepare _ | .query _ => false

def receipt? : CoordinationAttempt → Option CoordinationReceipt
  | .prepare a => a.receipt
  | .commit _ | .query _ => none

def acceptance? : CoordinationAttempt → Option DurableCommitAcceptance
  | .commit a => a.acceptance
  | .prepare _ | .query _ => none

end CoordinationAttempt

section

variable [Primitives]

/-- The receipt is signed and answers the exact prepare request. -/
def CoordinationReceipt.binds (receipt : CoordinationReceipt)
    (request : SignedEffectPrepareRequest) : Prop :=
  receipt.signature ≠ "" ∧ receipt.verify = true ∧ receipt.prepareRequest = request ∧
    receipt.prepareRequestSha256 = request.digest ∧ receipt.effect = request.effect

instance (receipt : CoordinationReceipt) (request : SignedEffectPrepareRequest) :
    Decidable (receipt.binds request) := by
  unfold CoordinationReceipt.binds; infer_instance

/-- The acceptance is signed and answers the exact commit request. -/
def DurableCommitAcceptance.binds (acceptance : DurableCommitAcceptance)
    (request : SignedEffectCommitRequest) : Prop :=
  acceptance.signature ≠ "" ∧ acceptance.verify = true ∧ acceptance.commitRequest = request ∧
    acceptance.commitRequestSha256 = request.digest ∧ acceptance.effect = request.effect

instance (acceptance : DurableCommitAcceptance) (request : SignedEffectCommitRequest) :
    Decidable (acceptance.binds request) := by
  unfold DurableCommitAcceptance.binds; infer_instance

/-- The outcome is signed and answers the exact commit or query request. A commit outcome
    also has the request's receipt. -/
def SignedEffectOutcome.binds (outcome : SignedEffectOutcome) (request : OutcomeRequest) :
    Prop :=
  outcome.signature ≠ "" ∧ outcome.verify = true ∧ outcome.requestKind = request.kind ∧
    outcome.requestSha256 = request.digest ∧ outcome.effect = request.signedRequest.effect ∧
    request.commitSatisfies (fun r => decide (outcome.receipt = some r.receipt)) = true

instance (outcome : SignedEffectOutcome) (request : OutcomeRequest) :
    Decidable (outcome.binds request) := by
  unfold SignedEffectOutcome.binds; infer_instance

/-- `EffectPrepareAttempt.require_exact_prepare_attempt`. -/
def EffectPrepareAttempt.requireExact (a : EffectPrepareAttempt) : Except String Unit := do
  a.toAttemptBase.validateTimes
  refuseIf (a.requestSha256 ≠ a.request.digest ∨ a.request.signature = "" ∨
      a.request.verify = false)
    "prepare attempt request binding is inconsistent"
  refuseIf (a.retainedAt < a.request.issuedAt)
    "prepare attempt cannot predate its signed request"
  refuseIf (a.status = .outcomeUnknown) "prepare attempts cannot assert an unknown outcome"
  if a.status = .requestRetained then
    refuseIf (a.receipt ≠ none) "request-only prepare attempt cannot retain a receipt"
  else
    refuseIf (¬ ∃ receipt ∈ a.receipt, receipt.binds a.request)
      "prepared response does not bind its exact request"
  refuseIf (∃ receipt ∈ a.receipt, a.updatedAt < receipt.preparedAt)
    "prepare response retention cannot predate its receipt"

/-- `EffectCommitAttempt.require_exact_commit_attempt`. -/
def EffectCommitAttempt.requireExact (a : EffectCommitAttempt) : Except String Unit := do
  refuseIf (∃ reason ∈ a.failureReason, lengthWithin 1 512 reason = false)
    "commit failure reason length is invalid"
  a.toAttemptBase.validateTimes
  refuseIf (a.requestSha256 ≠ a.request.digest ∨ a.request.signature = "" ∨
      a.request.verify = false ∨ a.request.receipt.verify = false)
    "commit attempt request binding is inconsistent"
  refuseIf (a.retainedAt < a.request.issuedAt)
    "commit attempt cannot predate its signed request"
  refuseIf (∃ acceptance ∈ a.acceptance, ¬ acceptance.binds a.request)
    "commit acceptance does not bind its exact request"
  refuseIf (∃ acceptance ∈ a.acceptance, a.updatedAt < acceptance.acceptedAt)
    "commit acceptance retention cannot predate acceptance"
  match a.status with
  | .responseRetained => do
      refuseIf (¬ ∃ outcome ∈ a.outcome, outcome.binds (.commit a.request) ∧
          a.acceptance ≠ none ∧ outcome.acceptance = a.acceptance)
        "commit outcome does not bind its exact request"
      refuseIf (a.failureReason ≠ none ∨ a.failureEvidenceSha256 ≠ none)
        "retained commit response cannot assert delivery failure"
      refuseIf (∃ outcome ∈ a.outcome, a.updatedAt < outcome.signedAt)
        "commit response retention cannot predate its outcome"
  | .outcomeUnknown =>
      refuseIf (a.outcome ≠ none ∨ a.failureReason = none)
        "unknown commit attempt requires bounded failure evidence"
  | .requestRetained =>
      refuseIf (a.outcome ≠ none ∨ a.failureReason ≠ none ∨ a.failureEvidenceSha256 ≠ none)
        "request-only commit attempt cannot assert an outcome"

/-- `EffectQueryAttempt.require_exact_query_attempt`. -/
def EffectQueryAttempt.requireExact (a : EffectQueryAttempt) : Except String Unit := do
  refuseIf (∃ reason ∈ a.failureReason, lengthWithin 1 512 reason = false)
    "query failure reason length is invalid"
  a.toAttemptBase.validateTimes
  refuseIf (a.requestSha256 ≠ a.request.digest ∨ a.request.signature = "" ∨
      a.request.verify = false)
    "query attempt request binding is inconsistent"
  refuseIf (a.retainedAt < a.request.issuedAt)
    "query attempt cannot predate its signed request"
  match a.status with
  | .responseRetained => do
      refuseIf (¬ ∃ outcome ∈ a.outcome, outcome.binds (.query a.request))
        "query outcome does not bind its exact request"
      refuseIf (a.failureReason ≠ none ∨ a.failureEvidenceSha256 ≠ none)
        "retained query response cannot assert delivery failure"
      refuseIf (∃ outcome ∈ a.outcome, a.updatedAt < outcome.signedAt)
        "query response retention cannot predate its outcome"
  | .outcomeUnknown =>
      refuseIf (a.outcome ≠ none ∨ a.failureReason = none)
        "unknown query attempt requires bounded failure evidence"
  | .requestRetained =>
      refuseIf (a.outcome ≠ none ∨ a.failureReason ≠ none ∨ a.failureEvidenceSha256 ≠ none)
        "request-only query attempt cannot assert an outcome"

/-- Validate a nested optional model. -/
def validateSome {α : Type} (validate : α → Except String Unit) : Option α → Except String Unit
  | none => .ok ()
  | some a => validate a

/-- The validators of an attempt's nested models, then its own. -/
def CoordinationAttempt.validate : CoordinationAttempt → Except String Unit
  | .prepare a => do
      a.request.validate
      validateSome CoordinationReceipt.validate a.receipt
      a.requireExact
  | .commit a => do
      a.request.validate
      validateSome DurableCommitAcceptance.validate a.acceptance
      validateSome SignedEffectOutcome.validate a.outcome
      a.requireExact
  | .query a => do
      a.request.validate
      validateSome SignedEffectOutcome.validate a.outcome
      a.requireExact

end

/-! ## Records -/

/-- `CoordinationJournalRecord`: exact protocol history and state path of one effect. -/
structure CoordinationJournalRecord where
  effect : EffectIdentity
  effectSha256 : Sha256
  transitions : List CoordinationTransition
  attempts : List CoordinationAttempt
  deriving DecidableEq

namespace CoordinationJournalRecord

/-- `record.state`, the state of `transitions[-1]`. Every record the journal builds has a
    first transition. -/
def state (r : CoordinationJournalRecord) : CoordinationState :=
  (r.transitions.getLast?.map (fun t => t.state)).getD .received

/-- `record.latest_evidence_sha256`. -/
def latestEvidenceSha256 (r : CoordinationJournalRecord) : Option Sha256 :=
  r.transitions.getLast?.bind (fun t => t.evidenceSha256)

/-- `record.latest_receipt`. -/
def latestReceipt (r : CoordinationJournalRecord) : Option CoordinationReceipt :=
  r.attempts.reverse.findSome? CoordinationAttempt.receipt?

/-- `record.latest_acceptance`. -/
def latestAcceptance (r : CoordinationJournalRecord) : Option DurableCommitAcceptance :=
  r.attempts.reverse.findSome? CoordinationAttempt.acceptance?

/-- `record.terminal_outcome`. -/
def terminalOutcome (r : CoordinationJournalRecord) : Option SignedEffectOutcome :=
  r.attempts.reverse.findSome?
    (fun a => a.outcome.filter (fun o => o.disposition.dispatchedTerminal))

/-- The accumulators of the attempt loop of `require_legal_history`. A set is the list of its
    insertions and a dictionary the list of its assignments, newest first. -/
structure AttemptScan where
  priorRetainedAt : Option Time
  retainedReceipts : List Sha256
  commitRequests : List Sha256
  commitAttemptCount : Nat
  retainedAcceptances : List (Sha256 × DurableCommitAcceptance)
  notDispatchedOutcomeDigests : List Sha256
  terminalOutcomes : List (EffectDisposition × Sha256)

/-- The accumulators before the first attempt. -/
def AttemptScan.start : AttemptScan :=
  { priorRetainedAt := none
    retainedReceipts := []
    commitRequests := []
    commitAttemptCount := 0
    retainedAcceptances := []
    notDispatchedOutcomeDigests := []
    terminalOutcomes := [] }

variable [Primitives]

/-- An APPLIED or REJECTED outcome enters `terminal_dispositions` and
    `terminal_outcome_digests`. -/
def AttemptScan.addTerminal (scan : AttemptScan) (outcome : SignedEffectOutcome) : AttemptScan :=
  if outcome.disposition.dispatchedTerminal then
    { scan with terminalOutcomes := (outcome.disposition, outcome.digest) ::
        scan.terminalOutcomes }
  else scan

/-- The part of the attempt loop that depends on the attempt's kind. -/
def AttemptScan.addKind (scan : AttemptScan) : CoordinationAttempt → Except String AttemptScan
  | .prepare a =>
      match a.receipt with
      | none => pure scan
      | some receipt =>
          pure { scan with retainedReceipts := receipt.digest :: scan.retainedReceipts }
  | .commit a => do
      refuseIf (a.request.receipt.digest ∉ scan.retainedReceipts)
        "commit attempt lacks its retained prepare receipt"
      let scan := { scan with
        commitAttemptCount := scan.commitAttemptCount + 1
        commitRequests := a.request.digest :: scan.commitRequests
        retainedAcceptances := match a.acceptance with
          | none => scan.retainedAcceptances
          | some acceptance => (a.request.digest, acceptance) :: scan.retainedAcceptances }
      match a.outcome with
      | none => pure scan
      | some outcome => pure (scan.addTerminal outcome)
  | .query a =>
      match a.outcome with
      | none => pure scan
      | some outcome =>
          if outcome.disposition = .notDispatched then
            pure { scan with notDispatchedOutcomeDigests :=
              outcome.digest :: scan.notDispatchedOutcomeDigests }
          else do
            refuseIf (¬ ∃ receipt ∈ outcome.receipt, receipt.digest ∈ scan.retainedReceipts)
              "query outcome lacks its retained prepare receipt"
            refuseIf (¬ ∃ acceptance ∈ outcome.acceptance,
                lookupEntry acceptance.commitRequest.digest scan.retainedAcceptances =
                  some acceptance)
              "query outcome lacks its exact retained commit acceptance"
            pure (scan.addTerminal outcome)

/-- One turn of the attempt loop of `require_legal_history`. -/
def AttemptScan.add (effect : EffectIdentity) (expectedSequence : Nat) (scan : AttemptScan)
    (attempt : CoordinationAttempt) : Except String AttemptScan := do
  refuseIf (attempt.base.sequence ≠ expectedSequence)
    "journal attempt sequence is not contiguous"
  refuseIf (attempt.signedRequest.effect ≠ effect) "journal attempt refers to a different effect"
  refuseIf (∃ prior ∈ scan.priorRetainedAt, attempt.base.retainedAt < prior)
    "journal attempt chronology is inconsistent"
  { scan with priorRetainedAt := some attempt.base.retainedAt }.addKind attempt

/-- The attempt loop of `require_legal_history`. -/
def scanAttempts (effect : EffectIdentity) (expectedSequence : Nat) (scan : AttemptScan) :
    List CoordinationAttempt → Except String AttemptScan
  | [] => pure scan
  | attempt :: rest => do
      let scan ← scan.add effect expectedSequence attempt
      scanAttempts effect (expectedSequence + 1) scan rest

/-- The transition loop of `require_legal_history`. -/
def scanTransitions (expectedSequence : Nat) (prior : Option CoordinationTransition) :
    List CoordinationTransition → Except String Unit
  | [] => pure ()
  | transition :: rest => do
      refuseIf (transition.sequence ≠ expectedSequence)
        "journal transition sequence is not contiguous"
      refuseIf (∃ t ∈ prior, transition.recordedAt < t.recordedAt)
        "journal transition chronology is inconsistent"
      refuseIf (∃ t ∈ prior, t.state.canTransitionTo transition.state = false)
        "journal contains an illegal state transition"
      scanTransitions (expectedSequence + 1) (some transition) rest

/-- `any(item.state in post_commit_states for item in self.transitions)`. -/
def hasPostCommitTransition (r : CoordinationJournalRecord) : Bool :=
  r.transitions.any (fun t => t.state.postCommit)

/-- The transition an acceptance names is COMMIT_ACCEPTED with the acceptance as evidence. -/
def acceptanceTransitionBinds (r : CoordinationJournalRecord)
    (acceptance : DurableCommitAcceptance) : Prop :=
  ∃ t ∈ r.transitions[acceptance.transitionSequence - 1]?,
    t.state = .commitAccepted ∧ t.evidenceSha256 = some acceptance.digest ∧
      acceptance.acceptedAt ≤ t.recordedAt

instance (r : CoordinationJournalRecord) (acceptance : DurableCommitAcceptance) :
    Decidable (r.acceptanceTransitionBinds acceptance) := by
  unfold acceptanceTransitionBinds; infer_instance

/-- An APPLIED or REJECTED state has exactly such outcomes, and no other state has any. -/
def requireTerminalEvidence (r : CoordinationJournalRecord) (scan : AttemptScan) :
    Except String Unit :=
  if r.state.dispatchedTerminal then do
    refuseIf (scan.terminalOutcomes = [] ∨
        ∃ entry ∈ scan.terminalOutcomes, some entry.1 ≠ EffectDisposition.forState r.state)
      "terminal state lacks one consistent exact outcome"
    refuseIf (¬ ∃ entry ∈ scan.terminalOutcomes,
        some entry.1 = EffectDisposition.forState r.state ∧
          r.latestEvidenceSha256 = some entry.2)
      "terminal transition does not bind a retained outcome"
  else
    refuseIf (scan.terminalOutcomes ≠ [])
      "nonterminal state cannot retain terminal outcome evidence"

/-- The checks of `require_legal_history` after its two loops. -/
def requireOutcomeHistory (r : CoordinationJournalRecord) (scan : AttemptScan) :
    Except String Unit := do
  refuseIf (r.attempts.head?.any CoordinationAttempt.isPrepare = false)
    "journal record must begin with a prepare attempt"
  refuseIf (1 < scan.commitAttemptCount ∨ 1 < scan.commitRequests.eraseDups.length)
    "journal record retains conflicting commit requests"
  refuseIf (r.state ≠ .received ∧ r.state ≠ .notDispatched ∧ scan.retainedReceipts = [])
    "dispatched state lacks an exact prepare receipt"
  refuseIf (r.hasPostCommitTransition = true ∧ scan.commitRequests = [])
    "post-prepare history lacks a retained commit intent"
  refuseIf (r.hasPostCommitTransition = true ∧ r.latestAcceptance = none)
    "post-prepare history lacks durable commit acceptance"
  refuseIf (∃ acceptance ∈ r.latestAcceptance,
      r.transitions.length ≤ acceptance.transitionSequence - 1)
    "commit acceptance transition is missing"
  refuseIf (∃ acceptance ∈ r.latestAcceptance, ¬ r.acceptanceTransitionBinds acceptance)
    "commit acceptance transition binding is inconsistent"
  r.requireTerminalEvidence scan
  refuseIf (scan.notDispatchedOutcomeDigests ≠ [] ∧ r.state ≠ .notDispatched)
    "not-dispatched outcome lacks its terminal transition"
  refuseIf (scan.notDispatchedOutcomeDigests ≠ [] ∧
      ¬ ∃ digest ∈ scan.notDispatchedOutcomeDigests, r.latestEvidenceSha256 = some digest)
    "not-dispatched transition does not bind a retained outcome"

/-- `require_legal_history`. -/
def requireLegalHistory (r : CoordinationJournalRecord) : Except String Unit := do
  refuseIf (r.effectSha256 ≠ r.effect.digest) "journal record effect hash is inconsistent"
  refuseIf (¬ ∃ t ∈ r.transitions.head?, t.state = .received)
    "journal record must begin in received state"
  scanTransitions 1 none r.transitions
  let scan ← scanAttempts r.effect 1 .start r.attempts
  r.requireOutcomeHistory scan

/-- Run a validator over every item of a tuple. -/
def validateAll {ε α : Type} (validate : α → Except ε Unit) : List α → Except ε Unit
  | [] => .ok ()
  | item :: rest => do
      validate item
      validateAll validate rest

/-- The field checks, the nested validators and `require_legal_history`. -/
def validate (r : CoordinationJournalRecord) : Except ValidationError Unit := do
  raising r.effect.validate
  refuseIf (¬ (1 ≤ r.transitions.length ∧ r.transitions.length ≤ maxTransitionsPerEffect))
    .transitionLimit
  validateAll CoordinationTransition.validate r.transitions
  refuseIf (¬ (1 ≤ r.attempts.length ∧ r.attempts.length ≤ maxAttemptsPerEffect))
    (.other "journal record attempt count is invalid")
  raising (validateAll CoordinationAttempt.validate r.attempts)
  raising r.requireLegalHistory

end CoordinationJournalRecord

end AegisOt
