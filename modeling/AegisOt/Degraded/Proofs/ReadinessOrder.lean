import AegisOt.Degraded.Proofs.ConsumerSteps

/-!
# Readiness against evaluation

`readiness` activates the offered authorization before it applies the reversal and `evaluate` does
so after it. The two leave the same consumer state unless a reversal that was not applied yet meets
an authorization that could become active.
-/

namespace AegisOt

section

variable [PublicationPrimitives]

namespace PublishedDegradedOperationGate

variable (gate : PublishedDegradedOperationGate) {state : DegradedConsumerState}
  {publication : DegradedRuntimePublication} {reversal : Option DegradedModeReversal}
  {evaluatedAt : Time}

/-- An authorization could become active, and a reversal that was not applied yet finds no active
    authorization or ends another one. -/
def Contested (state : DegradedConsumerState) (publication : DegradedRuntimePublication)
    (reversal : Option DegradedModeReversal) (evaluatedAt : Time) : Prop :=
  ∃ authorization r, gate.LeaseReady state publication evaluatedAt authorization ∧
    reversal = some r ∧ ¬ state.AlreadyReversed r ∧
      match state.activeAuthorization with
      | none => state.latestReversedAuthorizationSha256 ≠ some authorization.digest
      | some _ => gate.reversalReasons state r evaluatedAt = [] ∧
          r.authorizationSha256 ≠ authorization.digest

/-- Both calls get to their steps, and the reversal is contested. -/
structure OrderMatters (state : DegradedConsumerState) (publication : DegradedRuntimePublication)
    (reversal : Option DegradedModeReversal) (evaluatedAt : Time) : Prop where
  published : gate.publicationReasons publication evaluatedAt = []
  current : gate.consumerStateReasons state publication = []
  contested : gate.Contested state publication reversal evaluatedAt

/-- The floor has no part in it. -/
theorem raiseFloor_contested :
    gate.Contested (state.raiseFloor publication) publication reversal evaluatedAt ↔
      gate.Contested state publication reversal evaluatedAt := by
  have hready (authorization : StableDegradedAuthorization) :
      gate.LeaseReady (state.raiseFloor publication) publication evaluatedAt authorization ↔
        gate.LeaseReady state publication evaluatedAt authorization := by
    constructor
    · rintro ⟨hoffered, hdegraded, haccepted, hnewer⟩
      exact ⟨hoffered, hdegraded, haccepted, by simpa using hnewer⟩
    · rintro ⟨hoffered, hdegraded, haccepted, hnewer⟩
      exact ⟨hoffered, hdegraded, haccepted, by simpa using hnewer⟩
  have hreasons (r : DegradedModeReversal) :
      gate.reversalReasons (state.raiseFloor publication) r evaluatedAt =
        gate.reversalReasons state r evaluatedAt := by
    simp [reversalReasons]
  unfold Contested DegradedConsumerState.AlreadyReversed
    DegradedConsumerState.latestReversedAuthorizationSha256
  simp only [hready, hreasons, DegradedConsumerState.raiseFloor_latestReversal,
    DegradedConsumerState.raiseFloor_activeAuthorization]

/-- Activation after a reversal that takes effect. -/
theorem activates_reverse_iff {r : DegradedModeReversal}
    (h : state.highestReversalSequence < r.sequence) {authorization : StableDegradedAuthorization} :
    gate.Activates (state.reverse r h) publication evaluatedAt authorization ↔
      gate.LeaseReady state publication evaluatedAt authorization ∧
        r.authorizationSha256 ≠ authorization.digest := by
  constructor
  · rintro ⟨⟨hoffered, hdegraded, haccepted, hnewer⟩, hrevoked, -⟩
    exact ⟨⟨hoffered, hdegraded, haccepted, hnewer⟩, fun heq => hrevoked (congrArg some heq)⟩
  · rintro ⟨⟨hoffered, hdegraded, haccepted, hnewer⟩, hrevoked⟩
    exact ⟨⟨hoffered, hdegraded, haccepted, hnewer⟩, fun heq => hrevoked (Option.some.inj heq), rfl⟩

/-- An active authorization is not replaced. -/
theorem leaseStep_of_active (h : state.activeAuthorization ≠ none) :
    gate.leaseStep state publication evaluatedAt = state := by
  rcases gate.leaseStep_cases state publication evaluatedAt with ⟨_, hactivates, -⟩ | ⟨-, heq⟩
  · exact absurd hactivates.vacant h
  · exact heq

/-- A reversal that takes effect: the orders differ when another authorization follows it. -/
theorem stepOrder_reverses {r : DegradedModeReversal}
    (hreverses : gate.Reverses state reversal evaluatedAt r)
    (h : state.highestReversalSequence < r.sequence) :
    state.reverse r h = gate.leaseStep (state.reverse r h) publication evaluatedAt ↔
      ¬ gate.Contested state publication reversal evaluatedAt := by
  obtain ⟨-, -, -, -, -, hactive⟩ := gate.reversalReasons_eq_nil.mp hreverses.accepted
  have hcontested : gate.Contested state publication reversal evaluatedAt ↔
      ∃ authorization,
        gate.Activates (state.reverse r h) publication evaluatedAt authorization := by
    simp only [gate.activates_reverse_iff h]
    unfold Contested
    rw [hactive]
    constructor
    · rintro ⟨authorization, r', hready, hpresent, -, -, hdiffers⟩
      obtain rfl := Option.some.inj (hreverses.present.symm.trans hpresent)
      exact ⟨authorization, hready, hdiffers⟩
    · rintro ⟨authorization, hready, hdiffers⟩
      exact ⟨authorization, r, hready, hreverses.present, hreverses.fresh, hreverses.accepted,
        hdiffers⟩
  rw [hcontested]
  rcases gate.leaseStep_cases (state.reverse r h) publication evaluatedAt with
    ⟨authorization, hactivates, heq⟩ | ⟨hnone, heq⟩
  · rw [heq]
    refine ⟨fun hsame => ?_, fun hnone => absurd ⟨authorization, hactivates⟩ hnone⟩
    exact absurd hsame.symm (DegradedConsumerState.activate_ne hactivates.newer)
  · rw [heq]
    simpa using hnone

/-- The state that the two orders end in. -/
theorem stepOrder_iff :
    (gate.applyReversal (gate.leaseStep state publication evaluatedAt) reversal evaluatedAt).1 =
        (if (gate.applyReversal state reversal evaluatedAt).2.1 ≠ [] then
          (gate.applyReversal state reversal evaluatedAt).1
        else gate.leaseStep (gate.applyReversal state reversal evaluatedAt).1 publication
          evaluatedAt) ↔
      ¬ gate.Contested state publication reversal evaluatedAt := by
  rcases gate.applyReversal_cases state reversal evaluatedAt with
    ⟨r, hreverses, hnewer, heq⟩ | ⟨hstays, heq, hreasons⟩
  · have hactive : state.activeAuthorization ≠ none := by
      obtain ⟨-, -, -, -, -, hactive⟩ := gate.reversalReasons_eq_nil.mp hreverses.accepted
      rw [hactive]
      nofun
    rw [gate.leaseStep_of_active hactive, heq, if_neg (not_not.mpr rfl)]
    exact gate.stepOrder_reverses hreverses hnewer
  · rw [heq]
    by_cases hnone : (gate.applyReversal state reversal evaluatedAt).2.1 = []
    · -- No reversal, or a repeated one: it leaves every state alone.
      have hrepeated := hreasons.mp hnone
      have huncontested : ¬ gate.Contested state publication reversal evaluatedAt := by
        rintro ⟨_, r, -, hpresent, hfresh, -⟩
        exact hfresh (hrepeated r hpresent)
      rw [if_neg (not_not.mpr hnone)]
      refine ⟨fun _ => huncontested, fun _ => ?_⟩
      rcases gate.leaseStep_cases state publication evaluatedAt with
        ⟨authorization, -, hlease⟩ | ⟨-, hlease⟩
      · rw [hlease]
        rcases gate.applyReversal_cases (state.activate authorization) reversal evaluatedAt with
          ⟨r, hreverses, -⟩ | ⟨-, hsame, -⟩
        · exact absurd (hrepeated r hreverses.present) hreverses.fresh
        · exact hsame
      · rw [hlease, heq]
    · rw [if_pos hnone]
      obtain ⟨r, hpresent, hfresh⟩ : ∃ r, reversal = some r ∧ ¬ state.AlreadyReversed r := by
        by_contra hall
        push Not at hall
        exact hnone (hreasons.mpr hall)
      rcases gate.leaseStep_cases state publication evaluatedAt with
        ⟨authorization, hactivates, hlease⟩ | ⟨hidle, hlease⟩
      · -- `readiness` activates what the objection keeps `evaluate` from activating.
        have hcontested : gate.Contested state publication reversal evaluatedAt := by
          refine ⟨authorization, r, hactivates.toLeaseReady, hpresent, hfresh, ?_⟩
          rw [hactivates.vacant]
          exact hactivates.notRevoked
        refine ⟨fun hsame => absurd ?_ (DegradedConsumerState.activate_ne hactivates.newer),
          fun huncontested => absurd hcontested huncontested⟩
        rw [hlease] at hsame
        rcases gate.applyReversal_cases (state.activate authorization) reversal evaluatedAt with
          ⟨r', -, hnewer, hresult⟩ | ⟨-, hresult, -⟩
        · rw [hresult] at hsame
          have hsequence : authorization.sequence = state.highestAuthorizationSequence :=
            congrArg DegradedConsumerState.highestAuthorizationSequence hsame
          have hlater := hactivates.newer
          omega
        · rw [← hresult]
          exact hsame
      · rw [hlease, heq]
        refine ⟨fun _ => ?_, fun _ => rfl⟩
        rintro ⟨authorization, r', hready, hpresent', hfresh', hcontest⟩
        cases hactive : state.activeAuthorization with
        | none =>
          rw [hactive] at hcontest
          exact hidle authorization ⟨hready, hcontest, hactive⟩
        | some active =>
          rw [hactive] at hcontest
          exact hstays r' ⟨hpresent', hfresh', hcontest.1⟩

/-- A call whose sources answer. -/
def answering (publication : DegradedRuntimePublication) (reversal : Option DegradedModeReversal)
    (evaluatedAt : Time) : GateInputs :=
  { now := .aware evaluatedAt
    publication := .value publication
    reversal := .value reversal }

theorem readiness_state :
    (gate.readiness (answering publication reversal evaluatedAt) .returned state).2 =
      if gate.publicationReasons publication evaluatedAt = [] then
        (gate.readinessTransition publication reversal evaluatedAt state).1
      else state := by
  have hinputs : gate.readinessInputs (answering publication reversal evaluatedAt) =
      if gate.publicationReasons publication evaluatedAt = [] then
        .ok (evaluatedAt, publication, reversal)
      else .error ("degraded publication gate is not ready: " ++
        ",".intercalate (gate.publicationReasons publication evaluatedAt).eraseDups) := by
    simp only [readinessInputs, answering, timezoneAware, ok_bind, gate.credentialVerified,
      gate.authorizationVerified, if_true, List.append_nil, refuseIf, ne_eq, ite_not]
    split <;> rfl
  unfold readiness
  rw [hinputs]
  by_cases hpublished : gate.publicationReasons publication evaluatedAt = []
  · rw [if_pos hpublished, if_pos hpublished]
    dsimp only [mutateState]
    split <;> rfl
  · rw [if_neg hpublished, if_neg hpublished]

theorem evaluate_state (proposal : ActionProposal) :
    (gate.evaluate proposal (answering publication reversal evaluatedAt) .returned state).2 =
      if gate.publicationReasons publication evaluatedAt = [] then
        (gate.evaluateTransition proposal publication reversal evaluatedAt state).1
      else state := by
  unfold evaluate evaluateInputs
  by_cases hpublished : gate.publicationReasons publication evaluatedAt = []
  · simp [answering, timezoneAware, hpublished, mutateState]
  · simp [answering, timezoneAware, hpublished]

/-- `readiness` and `evaluate` leave the same consumer state exactly when their order of steps does
    not matter. -/
theorem readiness_evaluate_agree_iff (state : DegradedConsumerState)
    (publication : DegradedRuntimePublication) (reversal : Option DegradedModeReversal)
    (evaluatedAt : Time) (proposal : ActionProposal) :
    (gate.readiness (answering publication reversal evaluatedAt) .returned state).2 =
        (gate.evaluate proposal (answering publication reversal evaluatedAt) .returned state).2 ↔
      ¬ gate.OrderMatters state publication reversal evaluatedAt := by
  rw [gate.readiness_state, gate.evaluate_state]
  by_cases hpublished : gate.publicationReasons publication evaluatedAt = []
  · rw [if_pos hpublished, if_pos hpublished, gate.readinessTransition_state,
      gate.evaluateTransition_state]
    by_cases hcurrent : gate.consumerStateReasons state publication = []
    · rw [if_neg (not_not.mpr hcurrent), if_neg (not_not.mpr hcurrent)]
      dsimp only
      rw [gate.stepOrder_iff, gate.raiseFloor_contested]
      exact not_congr ⟨fun h => ⟨hpublished, hcurrent, h⟩, fun h => h.contested⟩
    · rw [if_pos hcurrent, if_pos hcurrent]
      exact ⟨fun _ h => hcurrent h.current, fun _ => rfl⟩
  · rw [if_neg hpublished, if_neg hpublished]
    exact ⟨fun _ h => hpublished h.published, fun _ => rfl⟩

end PublishedDegradedOperationGate

end

/-! ## A sample consumer -/

namespace PublicationSample

/-- Digests that tell the sample models apart; a signature is the public key of its signer. -/
scoped instance samplePublicationPrimitives : PublicationPrimitives where
  sha256
    | .snapshot _ => 1
    | .authorization _ => 2
    | .reversal reversal => Fin.ofNat (2 ^ 256) (2000 + reversal.sequence)
    | .admission _ => 3
    | .reversalResult _ => 4
  textSha256 text := Fin.ofNat (2 ^ 256) text.length
  verifyBytes publicKey _ signature := decide (signature = publicKey)
  modelDigest
    | .credential _ => 5
    | .authorization authorization => Fin.ofNat (2 ^ 256) (1000 + authorization.sequence)
    | .statusInput statusInput => Fin.ofNat (2 ^ 256) (3000 + statusInput.sequence)
    | .publication publication => Fin.ofNat (2 ^ 256) (4000 + publication.sequence)
  keyId publicKey := Fin.ofNat (2 ^ 256) publicKey.length
  verifyPublication publicKey _ signature := decide (signature = publicKey)

def credential : DegradedPublisherCredential where
  credentialId := "publisher-credential-01"
  authorityId := "authority-1"
  authorityKeyId := keyId "root-key"
  publisherId := "publisher-1"
  publisherKeyId := keyId "publisher-key"
  publisherPublicKey := "publisher-key"
  healthSourceId := "health-source-1"
  sourceGitCommit := "0000000000000000000000000000000000000000"
  sourceFingerprintSha256 := 0
  issuedAt := 0
  expiresAt := 3600 * second
  maximumPublicationAge := 30 * second
  maximumStatusInputAge := 60 * second
  signature := "root-key"

/-- The management path is lost. -/
def managementLost : DegradedRole → RoleCondition
  | .management => .unavailable
  | _ => .healthy

/-- The leases that the authority issued for it, by sequence. -/
def authorization (sequence : Nat) : StableDegradedAuthorization where
  authorizationId := "stable-authorization-01"
  sequence := sequence
  authorityId := "authority-1"
  authorityKeyId := keyId "root-key"
  publisherCredentialSha256 := credential.digest
  publisherKeyId := keyId "publisher-key"
  modeName := "island"
  behavior := .missionPreserving
  affectedRoles := [.management]
  roleConditions _ := .healthy
  communicationConditions := managementLost
  allowedActorIds := ["agent-1"]
  allowedMissionIds := ["mission-1"]
  allowedResources := ["battery-1"]
  allowedOperations := [.dispatchBattery]
  maximumRiskScore := 50
  rolePolicySha256 := 0
  recoveryCheckpointId := "checkpoint-000001"
  nonce := "authorization-nonce-1"
  issuedAt := 0
  expiresAt := 300 * second
  signature := "root-key"

/-- The publications that offer them, a second apart. -/
def publication (sequence : Nat) : DegradedRuntimePublication where
  publicationId := "publication-00000001"
  sequence := sequence
  previousPublicationSha256 :=
    if sequence = 1 then none else some (Fin.ofNat (2 ^ 256) (4000 + (sequence - 1)))
  publisherCredentialSha256 := credential.digest
  publisherKeyId := keyId "publisher-key"
  healthSourceId := "health-source-1"
  statusInputSha256 := 3001
  publishedAt := sequence * second
  expiresAt := sequence * second + 30 * second
  snapshot :=
    { snapshotId := "snapshot-00000001"
      capturedAt := 0
      roleConditions := fun _ => .healthy
      communicationConditions := managementLost
      unresolvedEffect := false }
  authorization := some (authorization sequence)
  signature := "publisher-key"

/-- The reversal of a lease. -/
def reversalOf (sequence : Nat) : DegradedModeReversal where
  reversalId := "reversal-00000001"
  sequence := sequence
  authorityId := "authority-1"
  authorizationId := "stable-authorization-01"
  authorizationSha256 := (authorization sequence).digest
  recoveryCheckpointId := "checkpoint-000001"
  reasonCode := "lease_rotated"
  nonce := "reversal-nonce-01"
  issuedAt := second
  signature := "root-key"

/-- A gate configured with one of the leases. -/
def gate (sequence : Nat) : PublishedDegradedOperationGate where
  authorityId := "authority-1"
  authorityPublicKey := "root-key"
  publisherCredential := credential
  stableAuthorization := authorization sequence
  maximumReversalAge := 300 * second
  credentialAuthority := rfl
  credentialVerified := by decide
  authorizationVerified := by simp [authorization, StableDegradedAuthorization.verify,
    verifyKeyed, PublicationPrimitives.verifyPublication]

def proposal : ActionProposal where
  proposalId := "proposal-1"
  actorId := "agent-1"
  missionId := "mission-1"
  resource := "battery-1"
  operation := .dispatchBattery
  parameters := []
  observedStateVersion := 0
  observedAt := 0
  submittedAt := 0
  nonce := "proposal-nonce-1"
  confidence := 1
  riskScore := 10
  delegationChain := ["agent-1"]
  humanApprovalId := none

/-- The consumer state after the first lease became active. -/
def leased : DegradedConsumerState :=
  ((gate 1).readiness (PublishedDegradedOperationGate.answering (publication 1) none second)
    .returned (.initial credential)).2

/-- The second publication offers the second lease, and the first one is reversed. -/
def rotating : GateInputs :=
  PublishedDegradedOperationGate.answering (publication 2) (some (reversalOf 1)) (2 * second)

end PublicationSample

open PublicationSample in
/-- A health probe reverses the first lease and leaves none active; a request activates the
    second one. -/
theorem readiness_evaluate_disagree :
    ((gate 2).readiness rotating .returned leased).2.activeAuthorizationSha256 = none ∧
      ((gate 2).evaluate proposal rotating .returned leased).2.activeAuthorizationSha256 =
        some (authorization 2).digest ∧
      ((gate 2).readiness rotating .returned leased).2 ≠
        ((gate 2).evaluate proposal rotating .returned leased).2 := by
  decide +kernel

end AegisOt
