import AegisOt.Degraded.Models
import AegisOt.Misc.Program

/-!
# The degraded-operation gate

`DegradedOperationGate` of `m5_degraded.py` over a shared state store. A call of the gate reads the
store and updates it as separate actions; what the closures handed to `update` do is the type
`StateTransition`. The sources of the snapshot and of the lease may answer anything, so their
answers are arguments of the call.
-/

namespace AegisOt

variable [DegradedPrimitives]

/-- `DegradedOperationGate`, by its configuration. -/
structure DegradedOperationGate where
  authorityId : String
  authorityPublicKey : PublicKey
  maximumSnapshotAge : Time
  maximumAuthorizationLifetime : Time
  deriving DecidableEq

/-! ## State transitions -/

namespace DegradedOperationState

/-- The state that `accept_authorization` builds. -/
def activate (s : DegradedOperationState) (authorization : DegradedModeAuthorization)
    (h : s.highestAuthorizationSequence < authorization.sequence) : DegradedOperationState :=
  { s with
    highestAuthorizationSequence := authorization.sequence
    activeAuthorizationSha256 := some authorization.digest
    lineage := by
      constructor
      · intro hzero
        omega
      · nofun }

/-- The state that `apply_to_state` builds. -/
def revoke (s : DegradedOperationState) (reversal : DegradedModeReversal)
    (authorization : DegradedModeAuthorization)
    (h : s.acceptedReversalNonceSha256.size < maxDegradedStateEntries ∧
      s.revokedAuthorizationSha256.size < maxDegradedStateEntries) : DegradedOperationState :=
  { s with
    highestReversalSequence := reversal.sequence
    acceptedReversalNonceSha256 :=
      s.acceptedReversalNonceSha256.insert (DegradedPrimitives.textSha256 reversal.nonce) ()
    revokedAuthorizationSha256 := s.revokedAuthorizationSha256.insert authorization.digest ()
    noncesFit := (SortedMap.size_insert_le _ _ _).trans h.1
    revokedFit := (SortedMap.size_insert_le _ _ _).trans h.2 }

end DegradedOperationState

/-- What a transition returns or raises, and what it leaves in the variables of its caller. -/
structure TransitionOutcome where
  result : Except String DegradedOperationState
  reasons : List String
  applied : Bool

/-- The closures that the gate hands to `update`. -/
inductive StateTransition where
  /-- `accept_authorization`. -/
  | acceptAuthorization (gate : DegradedOperationGate) (authorization : DegradedModeAuthorization)
  /-- `apply_to_state`, with the reasons found before. -/
  | applyReversal (gate : DegradedOperationGate) (reversal : DegradedModeReversal)
      (authorization : DegradedModeAuthorization) (reasons : List String)
  deriving DecidableEq

namespace StateTransition

def differentAuthority : String := "degraded state belongs to a different authority"

/-- `accept_authorization(state)`. -/
def acceptOn (gate : DegradedOperationGate) (authorization : DegradedModeAuthorization)
    (state : DegradedOperationState) : TransitionOutcome :=
  if state.authorityId ≠ gate.authorityId then ⟨.error differentAuthority, [], false⟩
  else if state.revokedAuthorizationSha256.has authorization.digest then
    ⟨.ok state, ["degraded_authorization_revoked"], false⟩
  else if some authorization.digest = state.activeAuthorizationSha256 then ⟨.ok state, [], false⟩
  else if h : state.highestAuthorizationSequence < authorization.sequence then
    ⟨.ok (state.activate authorization h), [], false⟩
  else ⟨.ok state, ["degraded_authorization_sequence_not_monotonic"], false⟩

/-- What `apply_to_state` appends to the reasons. -/
def reversalStateReasons (reversal : DegradedModeReversal)
    (authorization : DegradedModeAuthorization) (state : DegradedOperationState) : List String :=
  (if reversal.sequence ≤ state.highestReversalSequence then
    ["degraded_reversal_sequence_not_monotonic"] else []) ++
  (if state.acceptedReversalNonceSha256.has (DegradedPrimitives.textSha256 reversal.nonce) then
    ["degraded_reversal_replayed"] else []) ++
  (if state.revokedAuthorizationSha256.has authorization.digest then
    ["degraded_authorization_already_revoked"] else [])

/-- `apply_to_state(state)`. -/
def reverseOn (gate : DegradedOperationGate) (reversal : DegradedModeReversal)
    (authorization : DegradedModeAuthorization) (reasons : List String)
    (state : DegradedOperationState) : TransitionOutcome :=
  if state.authorityId ≠ gate.authorityId then ⟨.error differentAuthority, [], false⟩
  else if reasons ++ reversalStateReasons reversal authorization state ≠ [] then
    ⟨.ok state, reversalStateReasons reversal authorization state, false⟩
  else if h : state.acceptedReversalNonceSha256.size < maxDegradedStateEntries ∧
      state.revokedAuthorizationSha256.size < maxDegradedStateEntries then
    ⟨.ok (state.revoke reversal authorization h), [], true⟩
  else ⟨.ok state, ["degraded_reversal_state_capacity_exceeded"], false⟩

/-- The closure on a state. -/
def run : StateTransition → DegradedOperationState → TransitionOutcome
  | acceptAuthorization gate authorization => acceptOn gate authorization
  | applyReversal gate reversal authorization reasons =>
      reverseOn gate reversal authorization reasons

end StateTransition

/-! ## The store -/

/-- What a caller of `update` finds: whether it raised, and its variables. -/
structure UpdateReply where
  raised : Bool
  reasons : List String
  applied : Bool
  deriving DecidableEq

/-- A call of the store. -/
inductive StoreAct where
  | read
  | update (transition : StateTransition)

/-- What the store answers; `read` answers `none` when it raises. -/
def StoreAct.Reply : StoreAct → Type
  | .read => Option DegradedOperationState
  | .update _ => UpdateReply

/-- `InMemoryDegradedOperationStateStore.update`. -/
def updateInMemory (transition : StateTransition) (state : DegradedOperationState) :
    UpdateReply × DegradedOperationState :=
  let outcome := transition.run state
  match outcome.result with
  | .error _ => (⟨true, outcome.reasons, outcome.applied⟩, state)
  | .ok updated =>
      if updated.authorityId ≠ state.authorityId then
        (⟨true, outcome.reasons, outcome.applied⟩, state)
      else (⟨false, outcome.reasons, outcome.applied⟩, updated)

/-! ## Calls of the gate -/

/-- A call of the gate, as the actions it performs on the store. -/
abbrev DegradedProgram := Program StoreAct StoreAct.Reply String

/-- `self.state_store.read()`. -/
def readStore : DegradedProgram (Option DegradedOperationState) := Program.call StoreAct.read

/-- `self.state_store.update(transition)`. -/
def updateStore (transition : StateTransition) : DegradedProgram UpdateReply :=
  Program.call (StoreAct.update transition)

/-- What a source answers when it is called: it raises, it returns something of another type, or
    it returns a value. -/
inductive SourceAnswer (α : Type) where
  | raised
  | invalid
  | value (answer : α)

/-- `_timezone_aware`. -/
def timezoneAware (value : DateTime) (label : String) : Except String Time :=
  match value with
  | .aware instant => .ok instant
  | .naive => .error (label ++ " must be timezone-aware")

/-- `_result`. -/
def admissionResult (outcome : DegradedAdmissionOutcome) (reasons : List String)
    (evaluatedAt : Time) (snapshotSha256 : Sha256)
    (authorization : Option DegradedModeAuthorization) (affectedRoles : List DegradedRole)
    (mayEnterPrimaryAssurance : Bool) : DegradedAdmissionResult :=
  let material : DegradedAdmissionMaterial :=
    { outcome := outcome
      reasons := reasons
      evaluatedAt := evaluatedAt
      snapshotSha256 := snapshotSha256
      authorizationSha256 := authorization.map DegradedModeAuthorization.digest
      modeName := authorization.map (fun a => a.modeName)
      affectedRoles := DegradedRole.sorted.filter (fun role => role ∈ affectedRoles)
      recoveryCheckpointId := authorization.map (fun a => a.recoveryCheckpointId)
      mayEnterPrimaryAssurance := mayEnterPrimaryAssurance
      executionAuthorized := false }
  { material with observableEventSha256 := DegradedPrimitives.sha256 (.admission material) }

namespace DegradedRuntimeSnapshot

/-- The `freshness_reasons` of `evaluate`. -/
def freshnessReasons (s : DegradedRuntimeSnapshot) (gate : DegradedOperationGate)
    (evaluatedAt : Time) : List String :=
  if evaluatedAt - s.capturedAt < 0 then ["degraded_snapshot_from_future"]
  else if gate.maximumSnapshotAge < evaluatedAt - s.capturedAt then ["degraded_snapshot_stale"]
  else []

/-- `not affected and not freshness_reasons and not snapshot.unresolved_effect`. -/
def healthy (s : DegradedRuntimeSnapshot) (gate : DegradedOperationGate) (evaluatedAt : Time) :
    Prop :=
  s.affectedRoles = [] ∧ s.freshnessReasons gate evaluatedAt = [] ∧ s.unresolvedEffect = false

instance (s : DegradedRuntimeSnapshot) (gate : DegradedOperationGate) (evaluatedAt : Time) :
    Decidable (s.healthy gate evaluatedAt) := by
  unfold healthy; infer_instance

/-- `_condition_reasons`. -/
def conditionReasons (s : DegradedRuntimeSnapshot) : List String :=
  DegradedRole.all.flatMap (fun role =>
    (if s.roleConditions role ≠ .healthy then
      [role.value ++ "_service_" ++ (s.roleConditions role).value] else []) ++
    (if s.communicationConditions role ≠ .healthy then
      [role.value ++ "_communication_" ++ (s.communicationConditions role).value] else []))

end DegradedRuntimeSnapshot

/-- `_effective_behavior`. -/
def effectiveBehavior (affectedRoles : List DegradedRole) : DegradedBehavior :=
  let behaviors := affectedRoles.map DegradedRole.lossBehavior
  if .safeState ∈ behaviors then .safeState
  else if .holdState ∈ behaviors then .holdState
  else .missionPreserving

/-- Equality of two `frozenset`s. -/
def sameMembers (a b : List DegradedRole) : Prop := (∀ role ∈ a, role ∈ b) ∧ ∀ role ∈ b, role ∈ a

instance (a b : List DegradedRole) : Decidable (sameMembers a b) := by
  unfold sameMembers; infer_instance

namespace DegradedOperationGate

/-- The `validation_reasons` of `evaluate`. -/
def validationReasons (gate : DegradedOperationGate) (snapshot : DegradedRuntimeSnapshot)
    (authorization : DegradedModeAuthorization) (evaluatedAt : Time) : List String :=
  let affected := snapshot.affectedRoles
  (if authorization.authorityId ≠ gate.authorityId then ["degraded_authority_mismatch"]
    else []) ++
  (if authorization.signedBy gate.authorityPublicKey then []
    else ["degraded_authority_signature_invalid"]) ++
  (if authorization.issuedAt ≤ evaluatedAt ∧ evaluatedAt < authorization.expiresAt then []
    else ["degraded_authorization_inactive"]) ++
  (if gate.maximumAuthorizationLifetime < authorization.expiresAt - authorization.issuedAt then
    ["degraded_authorization_lifetime_exceeded"] else []) ++
  (if authorization.snapshotSha256 ≠ snapshot.digest then
    ["degraded_snapshot_evidence_mismatch"] else []) ++
  (if sameMembers authorization.affectedRoles affected then []
    else ["degraded_role_scope_mismatch"]) ++
  (if affected = [] ∨ authorization.behavior ≠ effectiveBehavior affected then
    ["degraded_behavior_mismatch"] else []) ++
  (if snapshot.unresolvedEffect then ["degraded_unresolved_effect_blocks_new_work"] else []) ++
  snapshot.freshnessReasons gate evaluatedAt

/-- The `scope_reasons` of `evaluate`. -/
def scopeReasons (authorization : DegradedModeAuthorization) (proposal : ActionProposal) :
    List String :=
  (if proposal.actorId ∉ authorization.allowedActorIds then ["degraded_actor_out_of_scope"]
    else []) ++
  (if proposal.missionId ∉ authorization.allowedMissionIds then ["degraded_mission_out_of_scope"]
    else []) ++
  (if proposal.resource ∉ authorization.allowedResources then ["degraded_resource_out_of_scope"]
    else []) ++
  (if proposal.operation ∉ authorization.allowedOperations then
    ["degraded_operation_out_of_scope"] else []) ++
  (if authorization.maximumRiskScore < proposal.riskScore then ["degraded_risk_out_of_scope"]
    else [])

/-- What `evaluate` returns for a healthy snapshot, from the state it read. -/
def healthyResult (state : DegradedOperationState) (snapshot : DegradedRuntimeSnapshot)
    (authorization : Option DegradedModeAuthorization) (evaluatedAt : Time) :
    DegradedAdmissionResult :=
  let revoked := state.revokedAuthorizationSha256
  let activeRevoked := state.activeAuthorizationSha256.any revoked.has
  if state.activeAuthorizationSha256.isSome ∧ activeRevoked = false then
    admissionResult .holdState ["degraded_condition_cleared_reversal_required"] evaluatedAt
      snapshot.digest authorization [] false
  else
    let normalReason :=
      if activeRevoked ∨ authorization.any (fun a => revoked.has a.digest) then
        "normal_runtime_dependencies_healthy_after_signed_reversal"
      else "normal_runtime_dependencies_healthy"
    admissionResult .continuePrimaryAssurance [normalReason] evaluatedAt snapshot.digest none []
      true

/-- The reasons after `accept_authorization` that end in `SAFE_STATE`. -/
def acceptanceFailures : List String :=
  ["degraded_authorization_sequence_not_monotonic", "degraded_authorization_revoked",
    "degraded_operation_state_unavailable"]

/-- What `evaluate` returns after the lease was accepted. -/
def acceptedResult (proposal : ActionProposal) (snapshot : DegradedRuntimeSnapshot)
    (authorization : DegradedModeAuthorization) (reasons : List String) (evaluatedAt : Time) :
    DegradedAdmissionResult :=
  let affected := snapshot.affectedRoles
  let close (outcome : DegradedAdmissionOutcome) (added : List String) (mayEnter : Bool) :=
    admissionResult outcome (reasons ++ added).eraseDups evaluatedAt snapshot.digest authorization
      affected mayEnter
  match effectiveBehavior affected with
  | .safeState => close .safeState ["authorized_safe_state"] false
  | .holdState => close .holdState ["authorized_hold_state"] false
  | .missionPreserving =>
      if scopeReasons authorization proposal ≠ [] then
        close .holdState (scopeReasons authorization proposal) false
      else
        close .continuePrimaryAssurance
          ["authorized_mission_preserving_entry_to_primary_assurance"] true

/-- `evaluate` from the lease on: its validation and its acceptance. -/
def admitLease (gate : DegradedOperationGate) (proposal : ActionProposal)
    (snapshot : DegradedRuntimeSnapshot) (authorization : DegradedModeAuthorization)
    (reasons : List String) (evaluatedAt : Time) : DegradedProgram DegradedAdmissionResult :=
  let refuse (added : List String) : DegradedAdmissionResult :=
    admissionResult .safeState (reasons ++ added).eraseDups evaluatedAt snapshot.digest
      authorization snapshot.affectedRoles false
  let validationReasons := gate.validationReasons snapshot authorization evaluatedAt
  if validationReasons ≠ [] then pure (refuse validationReasons)
  else do
    let reply ← updateStore (.acceptAuthorization gate authorization)
    let added :=
      reply.reasons ++ if reply.raised then ["degraded_operation_state_unavailable"] else []
    if ∃ reason ∈ reasons ++ added, reason ∈ acceptanceFailures then pure (refuse added)
    else pure (acceptedResult proposal snapshot authorization (reasons ++ added) evaluatedAt)

/-- `evaluate` after the state was read. -/
def evaluateOn (gate : DegradedOperationGate) (proposal : ActionProposal)
    (snapshot : DegradedRuntimeSnapshot)
    (authorization : Option DegradedModeAuthorization) (sourceUnavailable : Bool)
    (state : DegradedOperationState) (evaluatedAt : Time) :
    DegradedProgram DegradedAdmissionResult :=
  let affected := snapshot.affectedRoles
  if snapshot.healthy gate evaluatedAt then
    pure (healthyResult state snapshot authorization evaluatedAt)
  else
    let reasons := snapshot.conditionReasons ++ snapshot.freshnessReasons gate evaluatedAt ++
      (if snapshot.unresolvedEffect then ["outcome_reconciliation_required"] else []) ++
      (if sourceUnavailable then ["degraded_authorization_source_unavailable"] else [])
    match authorization with
    | none =>
        pure (admissionResult .safeState
          (reasons ++ ["degraded_mode_authorization_missing"]).eraseDups evaluatedAt
          snapshot.digest none affected false)
    | some authorization =>
        if state.revokedAuthorizationSha256.has authorization.digest then
          pure (admissionResult .safeState
            (reasons ++ ["degraded_authorization_revoked"]).eraseDups evaluatedAt
            snapshot.digest authorization affected false)
        else gate.admitLease proposal snapshot authorization reasons evaluatedAt

/-- `evaluate` after both sources answered: it reads the state. -/
def evaluateSnapshot (gate : DegradedOperationGate) (proposal : ActionProposal)
    (snapshot : DegradedRuntimeSnapshot) (authorization : Option DegradedModeAuthorization)
    (sourceUnavailable : Bool) (evaluatedAt : Time) : DegradedProgram DegradedAdmissionResult := do
  let operationState ← readStore
  match operationState with
  | none =>
      pure (admissionResult .safeState ["degraded_operation_state_unavailable"] evaluatedAt
        snapshot.digest authorization snapshot.affectedRoles false)
  | some state =>
      if state.authorityId ≠ gate.authorityId then
        pure (admissionResult .safeState ["degraded_operation_state_invalid"] evaluatedAt
          snapshot.digest authorization snapshot.affectedRoles false)
      else gate.evaluateOn proposal snapshot authorization sourceUnavailable state evaluatedAt

/-- `evaluate`, with what the two sources answer. -/
def evaluate (gate : DegradedOperationGate) (proposal : ActionProposal) (now : DateTime)
    (snapshotAnswer : SourceAnswer DegradedRuntimeSnapshot)
    (authorizationAnswer : SourceAnswer (Option DegradedModeAuthorization)) :
    DegradedProgram DegradedAdmissionResult := do
  let evaluatedAt ← Program.result (timezoneAware now "degraded admission evaluation time")
  match snapshotAnswer with
  | .raised =>
      pure (admissionResult .safeState ["degraded_snapshot_unavailable"] evaluatedAt 0 none []
        false)
  | .invalid =>
      pure (admissionResult .safeState ["degraded_snapshot_invalid"] evaluatedAt 0 none [] false)
  | .value snapshot =>
      match authorizationAnswer with
      | .value authorization =>
          gate.evaluateSnapshot proposal snapshot authorization false evaluatedAt
      | _ => gate.evaluateSnapshot proposal snapshot none true evaluatedAt

/-- The reasons that `apply_reversal` finds before it updates the state. -/
def reversalReasons (gate : DegradedOperationGate) (reversal : DegradedModeReversal)
    (authorization : DegradedModeAuthorization) (evaluatedAt : Time) : List String :=
  (if reversal.authorityId ≠ gate.authorityId then ["degraded_reversal_authority_mismatch"]
    else []) ++
  (if reversal.signedBy gate.authorityPublicKey then []
    else ["degraded_reversal_signature_invalid"]) ++
  (if authorization.authorityId = gate.authorityId ∧
      authorization.signedBy gate.authorityPublicKey then []
    else ["degraded_reversal_authorization_invalid"]) ++
  (if reversal.authorizationId ≠ authorization.authorizationId then
    ["degraded_reversal_authorization_id_mismatch"] else []) ++
  (if reversal.authorizationSha256 ≠ authorization.digest then
    ["degraded_reversal_authorization_digest_mismatch"] else []) ++
  (if reversal.recoveryCheckpointId ≠ authorization.recoveryCheckpointId then
    ["degraded_reversal_checkpoint_mismatch"] else []) ++
  (if evaluatedAt - reversal.issuedAt < 0 then ["degraded_reversal_from_future"]
    else if gate.maximumAuthorizationLifetime < evaluatedAt - reversal.issuedAt then
      ["degraded_reversal_stale"]
    else [])

/-- `apply_reversal`. -/
def applyReversal (gate : DegradedOperationGate) (reversal : DegradedModeReversal)
    (authorization : DegradedModeAuthorization) (now : DateTime) :
    DegradedProgram DegradedReversalResult := do
  let evaluatedAt ← Program.result (timezoneAware now "degraded reversal evaluation time")
  let reasons := gate.reversalReasons reversal authorization evaluatedAt
  let reply ← updateStore (.applyReversal gate reversal authorization reasons)
  let applied := reply.applied && !reply.raised
  let reasons := reasons ++ reply.reasons ++
    if reply.raised then ["degraded_reversal_state_unavailable"] else []
  let material : DegradedReversalMaterial :=
    { applied := applied
      reasons := if applied then ["degraded_authorization_revoked"] else reasons.eraseDups
      evaluatedAt := evaluatedAt
      authorizationSha256 := authorization.digest
      reversalSha256 := reversal.digest }
  pure
    { material with
      observableEventSha256 := DegradedPrimitives.sha256 (.reversalResult material) }

end DegradedOperationGate

end AegisOt
