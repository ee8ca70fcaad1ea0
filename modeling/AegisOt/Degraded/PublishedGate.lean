import AegisOt.Degraded.Publication
import AegisOt.Misc.Checks

/-!
# The consumer of degraded-operation publications

`PublishedDegradedOperationGate`: `readiness` and `evaluate` check one publication, then run a
transition on the durable consumer state. The two sources may answer anything, so their answers are
arguments of a call, as is the way the state store behaves.
-/

namespace AegisOt

variable [PublicationPrimitives]

/-- `PublishedDegradedOperationGate`, with what its constructor checks. -/
structure PublishedDegradedOperationGate where
  authorityId : String
  authorityPublicKey : PublicKey
  publisherCredential : DegradedPublisherCredential
  stableAuthorization : StableDegradedAuthorization
  maximumReversalAge : Time
  credentialAuthority : authorityId = publisherCredential.authorityId
  credentialVerified : publisherCredential.verify authorityPublicKey = true
  authorizationVerified : stableAuthorization.verify authorityPublicKey = true

/-! ## Checks of a publication -/

namespace DegradedRuntimePublication

/-- `publication.snapshot.affected_roles or publication.snapshot.unresolved_effect`. -/
def degraded (p : DegradedRuntimePublication) : Prop :=
  p.snapshot.affectedRoles ≠ [] ∨ p.snapshot.unresolvedEffect = true

instance (p : DegradedRuntimePublication) : Decidable p.degraded := by
  unfold degraded; infer_instance

end DegradedRuntimePublication

/-- Equality of two condition mappings. -/
def sameConditions (a b : DegradedRole → RoleCondition) : Bool :=
  DegradedRole.all.all (fun role => decide (a role = b role))

/-- `sequence > 0 and digest != expected`, for the sequence that follows the floor. -/
def predecessorBroken (state : DegradedConsumerState) (publication : DegradedRuntimePublication) :
    Prop :=
  publication.sequence = state.highestPublicationSequence + 1 ∧
    0 < state.highestPublicationSequence ∧
    publication.previousPublicationSha256 ≠ state.highestPublicationSha256

instance (state : DegradedConsumerState) (publication : DegradedRuntimePublication) :
    Decidable (predecessorBroken state publication) := by
  unfold predecessorBroken; infer_instance

namespace PublishedDegradedOperationGate

variable (gate : PublishedDegradedOperationGate)

/-- `_publication_reasons`. -/
def publicationReasons (publication : DegradedRuntimePublication) (evaluatedAt : Time) :
    List String :=
  let credential := gate.publisherCredential
  let publicationAge := evaluatedAt - publication.publishedAt
  let snapshotAge := evaluatedAt - publication.snapshot.capturedAt
  (if credential.issuedAt ≤ evaluatedAt ∧ evaluatedAt < credential.expiresAt then []
    else ["degraded_publisher_credential_inactive"]) ++
  (if publication.publisherCredentialSha256 ≠ credential.digest ∨
      publication.publisherKeyId ≠ credential.publisherKeyId ∨
      publication.healthSourceId ≠ credential.healthSourceId then
    ["degraded_publication_publisher_mismatch"] else []) ++
  (if publication.authorization.map StableDegradedAuthorization.digest ≠
      some gate.stableAuthorization.digest then
    ["degraded_publication_authorization_mismatch"] else []) ++
  (if publication.verify credential.publisherPublicKey then []
    else ["degraded_publication_signature_invalid"]) ++
  (if publicationAge < 0 then ["degraded_publication_from_future"]
    else if credential.maximumPublicationAge < publicationAge then ["degraded_publication_stale"]
    else []) ++
  (if credential.maximumPublicationAge < publication.expiresAt - publication.publishedAt then
    ["degraded_publication_lifetime_exceeded"] else []) ++
  (if publication.expiresAt ≤ evaluatedAt then ["degraded_publication_expired"] else []) ++
  (if snapshotAge < 0 then ["degraded_snapshot_from_future"]
    else if credential.maximumStatusInputAge < snapshotAge then ["degraded_snapshot_stale"]
    else [])

/-- `_authorization_reasons`. -/
def authorizationReasons (authorization : StableDegradedAuthorization)
    (publication : DegradedRuntimePublication) (evaluatedAt : Time) : List String :=
  (if authorization.authorityId ≠ gate.authorityId ∨
      authorization.authorityKeyId ≠ keyId gate.authorityPublicKey then
    ["degraded_authority_mismatch"] else []) ++
  (if authorization.verify gate.authorityPublicKey then []
    else ["degraded_authority_signature_invalid"]) ++
  (if authorization.publisherCredentialSha256 ≠ gate.publisherCredential.digest ∨
      authorization.publisherKeyId ≠ gate.publisherCredential.publisherKeyId then
    ["degraded_authorization_publisher_mismatch"] else []) ++
  (if authorization.issuedAt ≤ evaluatedAt ∧ evaluatedAt < authorization.expiresAt then []
    else ["degraded_authorization_inactive"]) ++
  (if sameConditions publication.snapshot.roleConditions authorization.roleConditions &&
      sameConditions publication.snapshot.communicationConditions
        authorization.communicationConditions then []
    else ["degraded_condition_authorization_mismatch"]) ++
  (if publication.snapshot.unresolvedEffect then ["degraded_unresolved_effect_blocks_new_work"]
    else [])

/-- The state belongs to the authority and the publisher of the gate. -/
def Trusts (state : DegradedConsumerState) : Prop :=
  state.authorityId = gate.authorityId ∧
    state.authorityKeyId = keyId gate.authorityPublicKey ∧
    state.publisherCredentialSha256 = gate.publisherCredential.digest ∧
    state.publisherKeyId = gate.publisherCredential.publisherKeyId

instance (state : DegradedConsumerState) : Decidable (gate.Trusts state) := by
  unfold Trusts; infer_instance

/-- `_consumer_state_reasons`. -/
def consumerStateReasons (state : DegradedConsumerState)
    (publication : DegradedRuntimePublication) : List String :=
  if ¬ gate.Trusts state then ["degraded_consumer_state_trust_mismatch"]
  else if publication.sequence < state.highestPublicationSequence then
    ["degraded_publication_sequence_rollback"]
  else if publication.sequence = state.highestPublicationSequence then
    if some publication.digest ≠ state.highestPublicationSha256 then
      ["degraded_publication_sequence_equivocation"] else []
  else if predecessorBroken state publication then ["degraded_publication_predecessor_mismatch"]
  else []

end PublishedDegradedOperationGate

/-! ## Steps on the consumer state -/

namespace DegradedConsumerState

/-- `evolve` with a new publication floor. -/
def withFloor (s : DegradedConsumerState) (publication : DegradedRuntimePublication)
    (h : s.highestPublicationSequence < publication.sequence) : DegradedConsumerState :=
  { s with
    highestPublicationSequence := publication.sequence
    highestPublicationSha256 := some publication.digest
    publicationDigest := by
      constructor
      · intro hzero
        omega
      · nofun }

/-- The publication floor after a publication that is not behind it. -/
def raiseFloor (s : DegradedConsumerState) (publication : DegradedRuntimePublication) :
    DegradedConsumerState :=
  if h : s.highestPublicationSequence < publication.sequence then s.withFloor publication h else s

/-- `evolve` with a newly active authorization. -/
def activate (s : DegradedConsumerState) (authorization : StableDegradedAuthorization) :
    DegradedConsumerState :=
  { s with
    highestAuthorizationSequence := authorization.sequence
    activeAuthorization := some
      { authorizationId := authorization.authorizationId
        authorizationSha256 := authorization.digest
        recoveryCheckpointId := authorization.recoveryCheckpointId } }

/-- `evolve` with an applied reversal. -/
def reverse (s : DegradedConsumerState) (reversal : DegradedModeReversal)
    (h : s.highestReversalSequence < reversal.sequence) : DegradedConsumerState :=
  { s with
    activeAuthorization := none
    highestReversalSequence := reversal.sequence
    latestReversal := some
      { reversalSha256 := reversal.digest
        authorizationSha256 := reversal.authorizationSha256 }
    reversalDigests := by
      constructor
      · intro hzero
        omega
      · nofun }

/-- The reversal is the one that was applied last. -/
def AlreadyReversed (s : DegradedConsumerState) (reversal : DegradedModeReversal) : Prop :=
  s.latestReversal = some
    { reversalSha256 := reversal.digest
      authorizationSha256 := reversal.authorizationSha256 }

instance (s : DegradedConsumerState) (reversal : DegradedModeReversal) :
    Decidable (s.AlreadyReversed reversal) := by
  unfold AlreadyReversed; infer_instance

end DegradedConsumerState

namespace PublishedDegradedOperationGate

variable (gate : PublishedDegradedOperationGate)

/-- The reasons that `_apply_reversal` collects. -/
def reversalReasons (state : DegradedConsumerState) (reversal : DegradedModeReversal)
    (evaluatedAt : Time) : List String :=
  let reversalAge := evaluatedAt - reversal.issuedAt
  (if reversal.authorityId ≠ gate.authorityId then ["degraded_reversal_authority_mismatch"]
    else []) ++
  (if reversal.signedBy gate.authorityPublicKey then []
    else ["degraded_reversal_signature_invalid"]) ++
  (if reversalAge < 0 then ["degraded_reversal_from_future"]
    else if gate.maximumReversalAge < reversalAge then ["degraded_reversal_stale"] else []) ++
  (if reversal.sequence ≤ state.highestReversalSequence then
    ["degraded_reversal_sequence_not_monotonic"] else []) ++
  match state.activeAuthorization with
  | none => ["degraded_reversal_no_active_authorization"]
  | some active =>
      (if reversal.authorizationId ≠ active.authorizationId then
        ["degraded_reversal_authorization_id_mismatch"] else []) ++
      (if reversal.authorizationSha256 ≠ active.authorizationSha256 then
        ["degraded_reversal_authorization_digest_mismatch"] else []) ++
      (if reversal.recoveryCheckpointId ≠ active.recoveryCheckpointId then
        ["degraded_reversal_checkpoint_mismatch"] else [])

/-- `_apply_reversal`. -/
def applyReversal (state : DegradedConsumerState) (reversal : Option DegradedModeReversal)
    (evaluatedAt : Time) : DegradedConsumerState × List String × Bool :=
  match reversal with
  | none => (state, [], false)
  | some reversal =>
      if state.AlreadyReversed reversal then (state, [], true)
      else if gate.reversalReasons state reversal evaluatedAt ≠ [] then
        (state, gate.reversalReasons state reversal evaluatedAt, false)
      else if h : state.highestReversalSequence < reversal.sequence then
        (state.reverse reversal h, [], true)
      else (state, [], false)

/-- The reasons that keep an authorization of a degraded publication from being the active one:
    `_authorization_reasons`, its revocation, and another active or a newer authorization. -/
def leaseReasons (state : DegradedConsumerState) (authorization : StableDegradedAuthorization)
    (publication : DegradedRuntimePublication) (evaluatedAt : Time) : List String :=
  gate.authorizationReasons authorization publication evaluatedAt ++
  (if state.latestReversedAuthorizationSha256 = some authorization.digest then
    ["degraded_authorization_revoked"] else []) ++
  (if some authorization.digest ≠ state.activeAuthorizationSha256 then
    if state.activeAuthorization ≠ none then ["degraded_active_authorization_reversal_required"]
    else if authorization.sequence ≤ state.highestAuthorizationSequence then
      ["degraded_authorization_sequence_not_monotonic"]
    else []
  else [])

/-- The state after the authorization was looked at, when nothing spoke against it before. -/
def activateLease (state : DegradedConsumerState) (authorization : StableDegradedAuthorization)
    (publication : DegradedRuntimePublication) (evaluatedAt : Time) : DegradedConsumerState :=
  if some authorization.digest ≠ state.activeAuthorizationSha256 ∧
      gate.leaseReasons state authorization publication evaluatedAt = [] then
    state.activate authorization
  else state

/-! ## `readiness` -/

/-- The closure `transition` of `readiness`: the new state, the reasons and whether a reversal
    applies. -/
def readinessTransition (publication : DegradedRuntimePublication)
    (reversal : Option DegradedModeReversal) (evaluatedAt : Time) (state : DegradedConsumerState) :
    DegradedConsumerState × List String × Bool :=
  let stateReasons := gate.consumerStateReasons state publication
  if stateReasons ≠ [] then (state, stateReasons, false)
  else
    let updated := state.raiseFloor publication
    let (updated, reasons) :=
      match publication.authorization with
      | none => (updated, [])
      | some authorization =>
          if publication.degraded then
            (gate.activateLease updated authorization publication evaluatedAt,
              gate.leaseReasons updated authorization publication evaluatedAt)
          else (updated, [])
    let (updated, reversalReasons, applied) := gate.applyReversal updated reversal evaluatedAt
    (updated, (reasons ++ reversalReasons).eraseDups, applied)

end PublishedDegradedOperationGate

/-- What `readiness` returns. -/
structure DegradedGateReadiness where
  evaluatedAt : Time
  publicationSequence : Nat
  publicationSha256 : Sha256
  publicationExpiresAt : Time
  snapshotSha256 : Sha256
  statusInputSha256 : Sha256
  affectedRoles : List DegradedRole
  authorizationSha256 : Sha256
  authorizationActive : Bool
  durablePublicationFloor : Nat
  activeAuthorizationSha256 : Option Sha256
  reversalPresent : Bool
  reversalApplicable : Bool
  deriving DecidableEq

/-- The sources of a call, and the time it is made. -/
structure GateInputs where
  now : DateTime
  publication : SourceAnswer DegradedRuntimePublication
  reversal : SourceAnswer (Option DegradedModeReversal)

namespace PublishedDegradedOperationGate

variable (gate : PublishedDegradedOperationGate)

/-- What `readiness` checks before it touches the state. -/
def readinessInputs (inputs : GateInputs) :
    Except String (Time × DegradedRuntimePublication × Option DegradedModeReversal) := do
  let evaluatedAt ← timezoneAware inputs.now "published degraded readiness time"
  let publication ←
    match inputs.publication with
    | .raised => .error "degraded publication readiness source is unavailable"
    | .invalid => .error "degraded publication readiness source returned an invalid model"
    | .value publication => .ok publication
  let reversal ←
    match inputs.reversal with
    | .raised => .error "degraded publication reversal source is unavailable"
    | .invalid => .error "degraded publication reversal source returned an invalid model"
    | .value reversal => .ok reversal
  let reasons := gate.publicationReasons publication evaluatedAt ++
    (if gate.publisherCredential.verify gate.authorityPublicKey then []
      else ["degraded_publisher_credential_signature_invalid"]) ++
    (if gate.stableAuthorization.verify gate.authorityPublicKey then []
      else ["degraded_authority_signature_invalid"])
  refuseIf (reasons ≠ [])
    ("degraded publication gate is not ready: " ++ ",".intercalate reasons.eraseDups)
  pure (evaluatedAt, publication, reversal)

/-- The report of `readiness` after its transition. -/
def readinessReport (evaluatedAt : Time) (publication : DegradedRuntimePublication)
    (reversal : Option DegradedModeReversal) (state : DegradedConsumerState) (applied : Bool) :
    DegradedGateReadiness :=
  { evaluatedAt := evaluatedAt
    publicationSequence := publication.sequence
    publicationSha256 := publication.digest
    publicationExpiresAt := publication.expiresAt
    snapshotSha256 := publication.snapshot.digest
    statusInputSha256 := publication.statusInputSha256
    affectedRoles := DegradedRole.sorted.filter (fun role =>
      role ∈ publication.snapshot.affectedRoles)
    authorizationSha256 := gate.stableAuthorization.digest
    authorizationActive := publication.authorization.any (fun authorization =>
      decide (authorization.issuedAt ≤ evaluatedAt ∧ evaluatedAt < authorization.expiresAt ∧
        state.activeAuthorizationSha256 = some authorization.digest))
    durablePublicationFloor := state.highestPublicationSequence
    activeAuthorizationSha256 := state.activeAuthorizationSha256
    reversalPresent := reversal.isSome
    reversalApplicable := applied }

/-- `readiness`: what it returns or raises, and the consumer state afterwards. -/
def readiness (inputs : GateInputs) (store : MutateOutcome) (state : DegradedConsumerState) :
    Except String DegradedGateReadiness × DegradedConsumerState :=
  match gate.readinessInputs inputs with
  | .error message => (.error message, state)
  | .ok (evaluatedAt, publication, reversal) =>
      let (reply, state) := mutateState store (fun state =>
        let (updated, reasons, applied) :=
          gate.readinessTransition publication reversal evaluatedAt state
        .ok (updated, updated, reasons, applied)) state
      match reply with
      | none => (.error "degraded publication consumer state is unavailable", state)
      | some (current, reasons, applied) =>
          if reasons ≠ [] then
            (.error ("degraded publication gate is not ready: " ++ ",".intercalate reasons), state)
          else (.ok (gate.readinessReport evaluatedAt publication reversal current applied), state)

/-! ## `evaluate` -/

/-- `_result`. -/
def result (outcome : DegradedAdmissionOutcome) (reasons : List String) (evaluatedAt : Time)
    (snapshot : Option DegradedRuntimeSnapshot)
    (authorization : Option StableDegradedAuthorization) (affectedRoles : List DegradedRole)
    (mayEnterPrimaryAssurance : Bool) : DegradedAdmissionResult :=
  let material : DegradedAdmissionMaterial :=
    { outcome := outcome
      reasons := reasons.eraseDups
      evaluatedAt := evaluatedAt
      snapshotSha256 := (snapshot.map DegradedRuntimeSnapshot.digest).getD 0
      authorizationSha256 := authorization.map StableDegradedAuthorization.digest
      modeName := authorization.map (fun a => a.modeName)
      affectedRoles := DegradedRole.sorted.filter (fun role => role ∈ affectedRoles)
      recoveryCheckpointId := authorization.map (fun a => a.recoveryCheckpointId)
      mayEnterPrimaryAssurance := mayEnterPrimaryAssurance
      executionAuthorized := false }
  { material with observableEventSha256 := DegradedPrimitives.sha256 (.admission material) }

/-- A refusal that names the publication. -/
def refusal (publication : DegradedRuntimePublication) (reasons : List String)
    (evaluatedAt : Time) : DegradedAdmissionResult :=
  result .safeState reasons evaluatedAt (some publication.snapshot) publication.authorization
    publication.snapshot.affectedRoles false

/-- The `scope_reasons` of `evaluate`. -/
def scopeReasons (authorization : StableDegradedAuthorization) (proposal : ActionProposal) :
    List String :=
  (if proposal.actorId ∉ authorization.allowedActorIds then ["degraded_actor_out_of_scope"]
    else []) ++
  (if proposal.missionId ∉ authorization.allowedMissionIds then ["degraded_mission_out_of_scope"]
    else []) ++
  (if proposal.resource ∉ authorization.allowedResources then ["degraded_resource_out_of_scope"]
    else []) ++
  (if proposal.operation ∉ authorization.allowedOperations then
    ["degraded_operation_out_of_scope"] else []) ++
  (if authorization.maximumRiskScore < proposal.riskScore then ["degraded_risk_out_of_scope"]
    else [])

/-- The answer of `evaluate` to a publication without a degraded condition. -/
def healthyResult (publication : DegradedRuntimePublication) (evaluatedAt : Time)
    (state : DegradedConsumerState) (applied : Bool) : DegradedAdmissionResult :=
  if state.activeAuthorization ≠ none then
    result .holdState ["degraded_condition_cleared_reversal_required"] evaluatedAt
      (some publication.snapshot) publication.authorization [] false
  else
    let reason :=
      if applied = true ∨ 0 < state.highestReversalSequence then
        "normal_runtime_dependencies_healthy_after_signed_reversal"
      else "normal_runtime_dependencies_healthy"
    result .continuePrimaryAssurance [reason] evaluatedAt (some publication.snapshot) none [] true

/-- The answer of `evaluate` under an authorization that is active. -/
def leaseResult (authorization : StableDegradedAuthorization) (proposal : ActionProposal)
    (publication : DegradedRuntimePublication) (reasons : List String) (evaluatedAt : Time) :
    DegradedAdmissionResult :=
  let close (outcome : DegradedAdmissionOutcome) (added : List String) (mayEnter : Bool) :=
    result outcome (reasons ++ added) evaluatedAt (some publication.snapshot) (some authorization)
      publication.snapshot.affectedRoles mayEnter
  match authorization.behavior with
  | .safeState => close .safeState ["authorized_safe_state"] false
  | .holdState => close .holdState ["authorized_hold_state"] false
  | .missionPreserving =>
      if scopeReasons authorization proposal ≠ [] then
        close .holdState (scopeReasons authorization proposal) false
      else
        close .continuePrimaryAssurance
          ["authorized_mission_preserving_entry_to_primary_assurance"] true

/-- The closure `transition` of `evaluate` after the reversal. -/
def evaluateLease (proposal : ActionProposal) (publication : DegradedRuntimePublication)
    (evaluatedAt : Time) (state : DegradedConsumerState) (applied : Bool) :
    DegradedConsumerState × DegradedAdmissionResult :=
  if ¬ publication.degraded then (state, healthyResult publication evaluatedAt state applied)
  else
    let reasons := publication.snapshot.conditionReasons ++
      if publication.snapshot.unresolvedEffect then ["outcome_reconciliation_required"] else []
    match publication.authorization with
    | none =>
        (state, result .safeState (reasons ++ ["degraded_mode_authorization_missing"]) evaluatedAt
          (some publication.snapshot) none publication.snapshot.affectedRoles false)
    | some authorization =>
        let leaseReasons := gate.leaseReasons state authorization publication evaluatedAt
        (gate.activateLease state authorization publication evaluatedAt,
          if leaseReasons ≠ [] then refusal publication (reasons ++ leaseReasons) evaluatedAt
          else leaseResult authorization proposal publication reasons evaluatedAt)

/-- The closure `transition` of `evaluate`. -/
def evaluateTransition (proposal : ActionProposal) (publication : DegradedRuntimePublication)
    (reversal : Option DegradedModeReversal) (evaluatedAt : Time) (state : DegradedConsumerState) :
    DegradedConsumerState × DegradedAdmissionResult :=
  if ¬ gate.Trusts state then
    (state, refusal publication ["degraded_consumer_state_trust_mismatch"] evaluatedAt)
  else if publication.sequence < state.highestPublicationSequence then
    (state, refusal publication ["degraded_publication_sequence_rollback"] evaluatedAt)
  else if publication.sequence = state.highestPublicationSequence ∧
      some publication.digest ≠ state.highestPublicationSha256 then
    (state, refusal publication ["degraded_publication_sequence_equivocation"] evaluatedAt)
  else if predecessorBroken state publication then
    (state, refusal publication ["degraded_publication_predecessor_mismatch"] evaluatedAt)
  else
    let (updated, reversalReasons, applied) :=
      gate.applyReversal (state.raiseFloor publication) reversal evaluatedAt
    if reversalReasons ≠ [] then (updated, refusal publication reversalReasons evaluatedAt)
    else gate.evaluateLease proposal publication evaluatedAt updated applied

/-- What `evaluate` checks before it touches the state; a refusal is its result. -/
def evaluateInputs (inputs : GateInputs) (evaluatedAt : Time) :
    Except DegradedAdmissionResult (DegradedRuntimePublication × Option DegradedModeReversal) :=
  match inputs.publication with
  | .raised =>
      .error (result .safeState ["degraded_publication_unavailable"] evaluatedAt none none [] false)
  | .invalid =>
      .error (result .safeState ["degraded_publication_invalid"] evaluatedAt none none [] false)
  | .value publication =>
      if gate.publicationReasons publication evaluatedAt ≠ [] then
        .error (refusal publication (gate.publicationReasons publication evaluatedAt) evaluatedAt)
      else
        match inputs.reversal with
        | .raised =>
            .error (refusal publication ["degraded_reversal_source_unavailable"] evaluatedAt)
        | .invalid => .error (refusal publication ["degraded_reversal_invalid"] evaluatedAt)
        | .value reversal => .ok (publication, reversal)

/-- `evaluate`: what it returns or raises, and the consumer state afterwards. -/
def evaluate (proposal : ActionProposal) (inputs : GateInputs) (store : MutateOutcome)
    (state : DegradedConsumerState) :
    Except String DegradedAdmissionResult × DegradedConsumerState :=
  match timezoneAware inputs.now "published degraded admission time" with
  | .error message => (.error message, state)
  | .ok evaluatedAt =>
      match gate.evaluateInputs inputs evaluatedAt with
      | .error refused => (.ok refused, state)
      | .ok (publication, reversal) =>
          let (reply, state) := mutateState store (fun state =>
            .ok (gate.evaluateTransition proposal publication reversal evaluatedAt state)) state
          match reply with
          | none =>
              (.ok (refusal publication ["degraded_consumer_state_unavailable"] evaluatedAt), state)
          | some result => (.ok result, state)

end PublishedDegradedOperationGate

end AegisOt
