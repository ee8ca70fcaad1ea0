import AegisOt.Coordination.Operations

/-!
# Alignment of the coordination journal with the plant

`validate_coordination_recovery` of `coordination_recovery.py`: whether the applied effects of
a journal form a chain that ends in the plant's state, and whether one effect is pending on
top of it.
-/

namespace AegisOt

/-- The part of `PlantHealthMetadata` that the OT runtime compares and validates. Its types
    make `_valid_plant_info` true. -/
structure PlantHealthMetadata where
  bootEpoch : String
  keyId : String
  publicKey : PublicKey
  backend : String
  modelDigest : Sha256
  simulatorVersion : String
  observationSourceId : String
  stateVersion : Nat
  stateDigest : Sha256
  deriving DecidableEq

/-- `CoordinationRecoveryStatus`. -/
inductive CoordinationRecoveryStatus where
  | aligned
  | recoveryRequired
  | inconsistent
  | unavailable
  deriving DecidableEq, Repr

/-- `CoordinationRecoveryReason`. -/
inductive CoordinationRecoveryReason where
  | alignedEmptyBaseline
  | alignedAppliedChain
  | pendingEffectAtPreState
  | pendingEffectAtPostState
  | plantInfoInvalid
  | recordLimitExceeded
  | duplicateEffectRecord
  | multiplePendingEffects
  | journalRecordInvalid
  | appliedAcknowledgmentMissing
  | appliedAcknowledgmentInconsistent
  | appliedEvidenceInvalid
  | appliedChainBroken
  | pendingChainBroken
  | plantModelMismatch
  | baselineStateNotZero
  | plantStateRollback
  | plantStateAdvanced
  | plantStateDigestMismatch
  | pendingPlantStateMismatch
  deriving DecidableEq, Repr

/-- `CoordinationRecoveryResult`. -/
structure CoordinationRecoveryResult where
  status : CoordinationRecoveryStatus
  reason : CoordinationRecoveryReason
  recordCount : Nat
  appliedEffectCount : Nat
  pendingEffectCount : Nat
  plantStateVersion : Nat
  plantStateDigest : Sha256
  latestAppliedStateVersion : Option Nat
  latestAppliedStateDigest : Option Sha256
  pendingEffectId : Option EffectId
  pendingExpectedPostStateVersion : Option Nat
  pendingExpectedPostStateDigest : Option Sha256
  deriving DecidableEq

/-- `MAX_RECOVERY_RECORDS`. -/
def maxRecoveryRecords : Nat := 8192

/-! ## Applied links -/

/-- `_AppliedLink`. -/
structure AppliedLink where
  record : CoordinationJournalRecord
  outcome : SignedEffectOutcome
  acknowledgment : PlcCommandAcknowledgment

namespace AppliedLink

def preVersion (link : AppliedLink) : Nat := link.record.effect.authorizedStateVersion

def preDigest (link : AppliedLink) : Sha256 := link.record.effect.authorizedStateSha256

def postVersion (link : AppliedLink) : Nat := link.record.effect.expectedPostStateVersion

def postDigest (link : AppliedLink) : Sha256 := link.record.effect.expectedPostStateSha256

/-- The sort key of the chain, compared as a tuple. -/
def precedes (a b : AppliedLink) : Bool :=
  decide (a.preVersion < b.preVersion ∨ (a.preVersion = b.preVersion ∧
    (a.postVersion < b.postVersion ∨ (a.postVersion = b.postVersion ∧
      a.record.effect.effectId ≤ b.record.effect.effectId))))

end AppliedLink

/-- The acknowledgment applies exactly this effect. -/
def acknowledgesEffect (outcome : SignedEffectOutcome) (acknowledgment : PlcCommandAcknowledgment)
    (effect : EffectIdentity) : Bool :=
  decide (
    outcome.disposition = .applied ∧
    acknowledgment.status = .applied ∧
    acknowledgment.preStateVersion = effect.authorizedStateVersion ∧
    acknowledgment.preStateDigest = effect.authorizedStateSha256 ∧
    acknowledgment.preState.stateVersion = effect.authorizedStateVersion ∧
    acknowledgment.preState.stateDigest = effect.authorizedStateSha256 ∧
    acknowledgment.preState.observationDigest = effect.authorizedObservationSha256 ∧
    acknowledgment.preState.topologyDigest = effect.authorizedTopologySha256 ∧
    acknowledgment.preState.modelDigest = effect.authorizedModelSha256 ∧
    acknowledgment.postStateVersion = some effect.expectedPostStateVersion ∧
    acknowledgment.postStateDigest = some effect.expectedPostStateSha256 ∧
    acknowledgment.postTopologyDigest = some effect.expectedPostTopologySha256)

variable [Primitives]

/-- `_applied_link`. -/
def appliedLink (record : CoordinationJournalRecord) :
    Except CoordinationRecoveryReason AppliedLink := do
  let transitionOutcome := record.attempts.reverse.findSome? (fun attempt =>
    attempt.outcome.filter (fun o => decide (some o.digest = record.latestEvidenceSha256)))
  let outcome ← orRaise (transitionOutcome <|> record.terminalOutcome)
    .appliedAcknowledgmentMissing
  let acknowledgment ← orRaise outcome.acknowledgment .appliedAcknowledgmentMissing
  refuseIf (acknowledgesEffect outcome acknowledgment record.effect = false)
    .appliedAcknowledgmentInconsistent
  pure ⟨record, outcome, acknowledgment⟩

/-- `attempt_binds_outcome`. -/
def attemptBindsOutcome (effect : EffectIdentity) (outcome : SignedEffectOutcome) :
    CoordinationAttempt → Bool
  | .prepare _ => false
  | .commit attempt =>
      attempt.request.verify && outcome.verify && decide (
        outcome.requestKind = .commit ∧ outcome.requestSha256 = attempt.request.digest ∧
        outcome.effect = attempt.request.effect ∧ attempt.request.effect = effect ∧
        attempt.acceptance = outcome.acceptance ∧ outcome.receipt = some attempt.request.receipt)
  | .query attempt =>
      attempt.request.verify && outcome.verify && decide (
        outcome.requestKind = .query ∧ outcome.requestSha256 = attempt.request.digest ∧
        outcome.effect = attempt.request.effect ∧ attempt.request.effect = effect)

/-- The clause of `_applied_evidence_valid` on one attempt with an applied outcome. -/
def terminalAttemptValid (link : AppliedLink) (acceptance : DurableCommitAcceptance)
    (attempt : CoordinationAttempt) : Bool :=
  match attempt.outcome with
  | none => true
  | some outcome =>
      decide (outcome.disposition ≠ .applied) ||
        (attemptBindsOutcome link.record.effect outcome attempt && decide (
          outcome.acceptance = some acceptance ∧
          outcome.acknowledgment = some link.acknowledgment))

/-- `_applied_evidence_valid`. -/
def appliedEvidenceValid (link : AppliedLink) : Bool :=
  match link.outcome.acceptance with
  | none => false
  | some acceptance =>
      let outcome := link.outcome
      let commit := acceptance.commitRequest
      let receipt := commit.receipt
      let prepare := receipt.prepareRequest
      let dispatch := prepare.dispatch
      link.record.attempts.any (fun attempt =>
          decide (attempt.outcome = some outcome ∧ outcome.disposition = .applied)) &&
        decide (
          link.record.effect = outcome.effect ∧ outcome.effect = acceptance.effect ∧
          acceptance.effect = commit.effect ∧ commit.effect = receipt.effect ∧
          receipt.effect = prepare.effect ∧
          some outcome.digest = link.record.latestEvidenceSha256 ∧
          link.record.latestAcceptance = some acceptance) &&
        link.record.attempts.all (terminalAttemptValid link acceptance) &&
        prepare.verify && receipt.verify && commit.verify && acceptance.verify &&
        outcome.verify &&
        link.acknowledgment.verifyForTransaction
          acceptance.coordinatorCredential.credential.publicKey dispatch.request dispatch.permit
          dispatch.preObservation dispatch.permit.targetPlcId dispatch.permit.targetPlcKeyId
          dispatch.permit.targetPlcBootEpoch

/-! ## The chain -/

/-- The links in order start at version zero and follow each other. -/
def chainMatches (prior : Option AppliedLink) : List AppliedLink → Bool
  | [] => true
  | link :: rest =>
      (match prior with
        | none => decide (link.preVersion = 0)
        | some p => decide (link.preVersion = p.postVersion ∧ link.preDigest = p.postDigest)) &&
      chainMatches (some link) rest

/-- The loop that collects the applied links; a failure keeps the links found so far. -/
def collectApplied (applied : List AppliedLink) :
    List CoordinationJournalRecord →
      Except (CoordinationRecoveryReason × List AppliedLink) (List AppliedLink)
  | [] => .ok applied
  | record :: rest =>
      if record.state = .applied then
        match appliedLink record with
        | .error reason => .error (reason, applied)
        | .ok link => collectApplied (applied ++ [link]) rest
      else collectApplied applied rest

/-- `_result`. -/
def recoveryResult (records : List CoordinationJournalRecord) (plant : PlantHealthMetadata)
    (status : CoordinationRecoveryStatus) (reason : CoordinationRecoveryReason)
    (applied : List AppliedLink) (pending : Option CoordinationJournalRecord) :
    CoordinationRecoveryResult :=
  { status := status
    reason := reason
    recordCount := records.length
    appliedEffectCount := applied.length
    pendingEffectCount := if pending = none then 0 else 1
    plantStateVersion := plant.stateVersion
    plantStateDigest := plant.stateDigest
    latestAppliedStateVersion := applied.getLast?.map (fun link => link.postVersion)
    latestAppliedStateDigest := applied.getLast?.map (fun link => link.postDigest)
    pendingEffectId := pending.map (fun r => r.effect.effectId)
    pendingExpectedPostStateVersion := pending.map (fun r => r.effect.expectedPostStateVersion)
    pendingExpectedPostStateDigest := pending.map (fun r => r.effect.expectedPostStateSha256) }

/-- The pending effect continues the applied chain. -/
def pendingChainMatches (applied : List AppliedLink) (pending : CoordinationJournalRecord) :
    Bool :=
  match applied.getLast? with
  | none => decide (pending.effect.authorizedStateVersion = 0)
  | some last => decide (pending.effect.authorizedStateVersion = last.postVersion ∧
      pending.effect.authorizedStateSha256 = last.postDigest)

/-- The plant runs the model that every relevant effect was authorized for. -/
def modelMatches (applied : List AppliedLink) (pending : Option CoordinationJournalRecord)
    (plant : PlantHealthMetadata) : Bool :=
  (applied.map (fun link => link.record.effect.authorizedModelSha256) ++
    (pending.map (fun r => r.effect.authorizedModelSha256)).toList).all
      (fun digest => decide (digest = plant.modelDigest))

/-- The plant is where this effect was authorized. -/
def PlantHealthMetadata.AtPreState (plant : PlantHealthMetadata) (effect : EffectIdentity) : Prop :=
  plant.stateVersion = effect.authorizedStateVersion ∧
    plant.stateDigest = effect.authorizedStateSha256

/-- The plant is where this effect leads. -/
def PlantHealthMetadata.AtPostState (plant : PlantHealthMetadata) (effect : EffectIdentity) :
    Prop :=
  plant.stateVersion = effect.expectedPostStateVersion ∧
    plant.stateDigest = effect.expectedPostStateSha256

/-- Where the plant stands relative to a pending effect. -/
def pendingPosition (effect : EffectIdentity) (plant : PlantHealthMetadata) :
    CoordinationRecoveryStatus × CoordinationRecoveryReason :=
  if plant.stateVersion = effect.authorizedStateVersion ∧
      plant.stateDigest = effect.authorizedStateSha256 then
    (.recoveryRequired, .pendingEffectAtPreState)
  else if plant.stateVersion = effect.expectedPostStateVersion ∧
      plant.stateDigest = effect.expectedPostStateSha256 then
    (.recoveryRequired, .pendingEffectAtPostState)
  else if plant.stateVersion < effect.authorizedStateVersion then
    (.inconsistent, .plantStateRollback)
  else if effect.expectedPostStateVersion < plant.stateVersion then
    (.inconsistent, .plantStateAdvanced)
  else (.inconsistent, .pendingPlantStateMismatch)

/-- Where the plant stands relative to the applied chain. -/
def appliedPosition (applied : List AppliedLink) (plant : PlantHealthMetadata) :
    CoordinationRecoveryStatus × CoordinationRecoveryReason :=
  match applied.getLast? with
  | none =>
      if plant.stateVersion ≠ 0 then (.inconsistent, .baselineStateNotZero)
      else (.aligned, .alignedEmptyBaseline)
  | some latest =>
      if plant.stateVersion < latest.postVersion then (.inconsistent, .plantStateRollback)
      else if latest.postVersion < plant.stateVersion then (.inconsistent, .plantStateAdvanced)
      else if plant.stateDigest ≠ latest.postDigest then (.inconsistent, .plantStateDigestMismatch)
      else (.aligned, .alignedAppliedChain)

/-- The checks of `validate_coordination_recovery` on an ordered chain. -/
def validateChain (records : List CoordinationJournalRecord) (plant : PlantHealthMetadata)
    (applied : List AppliedLink) (pending : Option CoordinationJournalRecord) :
    CoordinationRecoveryStatus × CoordinationRecoveryReason :=
  if chainMatches none applied = false then (.unavailable, .appliedChainBroken)
  else if records.any (fun r => decide (r.validate ≠ .ok ())) = true then
    (.unavailable, .journalRecordInvalid)
  else if applied.all appliedEvidenceValid = false then (.unavailable, .appliedEvidenceInvalid)
  else if pending.any (fun r => !pendingChainMatches applied r) = true then
    (.unavailable, .pendingChainBroken)
  else if modelMatches applied pending plant = false then (.inconsistent, .plantModelMismatch)
  else match pending with
    | some record => pendingPosition record.effect plant
    | none => appliedPosition applied plant

omit [Primitives] in
theorem appliedPosition_ne_recoveryRequired {applied : List AppliedLink}
    {plant : PlantHealthMetadata} : (appliedPosition applied plant).1 ≠ .recoveryRequired := by
  unfold appliedPosition
  split <;> split_ifs <;> simp

omit [Primitives] in
theorem pendingPosition_not_aligned {effect : EffectIdentity} {plant : PlantHealthMetadata} :
    (pendingPosition effect plant).1 ≠ .aligned := by
  unfold pendingPosition
  split_ifs <;> simp

/-- A check of the chain failed, or the verdict is about the plant's position. -/
theorem validateChain_cases (records : List CoordinationJournalRecord)
    (plant : PlantHealthMetadata) (applied : List AppliedLink)
    (pending : Option CoordinationJournalRecord) :
    ((validateChain records plant applied pending).1 ∈
        [CoordinationRecoveryStatus.unavailable, .inconsistent] ∧
      (validateChain records plant applied pending).2 ≠ .pendingEffectAtPreState) ∨
    validateChain records plant applied pending =
      match pending with
      | some record => pendingPosition record.effect plant
      | none => appliedPosition applied plant := by
  unfold validateChain
  split
  · exact .inl ⟨by simp, by simp⟩
  split
  · exact .inl ⟨by simp, by simp⟩
  split
  · exact .inl ⟨by simp, by simp⟩
  split
  · exact .inl ⟨by simp, by simp⟩
  split
  · exact .inl ⟨by simp, by simp⟩
  exact .inr rfl

/-- `validate_coordination_recovery`. -/
def validateCoordinationRecovery (records : List CoordinationJournalRecord)
    (plant : PlantHealthMetadata) : CoordinationRecoveryResult :=
  if maxRecoveryRecords < records.length then
    { status := .unavailable
      reason := .recordLimitExceeded
      recordCount := maxRecoveryRecords + 1
      appliedEffectCount := 0
      pendingEffectCount := 0
      plantStateVersion := plant.stateVersion
      plantStateDigest := plant.stateDigest
      latestAppliedStateVersion := none
      latestAppliedStateDigest := none
      pendingEffectId := none
      pendingExpectedPostStateVersion := none
      pendingExpectedPostStateDigest := none }
  else
    let result := recoveryResult records plant
    let pendingRecords := records.filter (fun r => !r.state.terminal)
    let pending := pendingRecords.head?
    if 1 < pendingRecords.length then result .unavailable .multiplePendingEffects [] none
    else if ¬ (records.map (fun r => r.effect.effectId)).Nodup then
      result .unavailable .duplicateEffectRecord [] none
    else
      match collectApplied [] records with
      | .error (reason, applied) => result .unavailable reason applied pending
      | .ok links =>
          let applied := links.mergeSort AppliedLink.precedes
          let outcome := validateChain records plant applied pending
          result outcome.1 outcome.2 applied pending

/-! ## Invalid readings -/

/-- A plant reading that `_valid_plant_info` refuses, with the fields that the result repeats. -/
structure InvalidPlantInfo where
  stateVersion : Int
  stateDigest : String

/-- `CoordinationRecoveryResult` on such a reading; its other fields keep their defaults. -/
structure InvalidPlantResult where
  status : CoordinationRecoveryStatus
  reason : CoordinationRecoveryReason
  recordCount : Nat
  plantStateVersion : Int
  plantStateDigest : String
  deriving DecidableEq

/-- `validate_coordination_recovery` as far as `_valid_plant_info`. -/
def refuseInvalidPlant (records : List CoordinationJournalRecord) (plant : InvalidPlantInfo) :
    InvalidPlantResult :=
  if maxRecoveryRecords < records.length then
    { status := .unavailable
      reason := .recordLimitExceeded
      recordCount := maxRecoveryRecords + 1
      plantStateVersion := plant.stateVersion
      plantStateDigest := plant.stateDigest }
  else
    { status := .unavailable
      reason := .plantInfoInvalid
      recordCount := records.length
      plantStateVersion := plant.stateVersion
      plantStateDigest := plant.stateDigest }

end AegisOt
