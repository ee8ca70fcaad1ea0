import AegisOt.Degraded.Proofs.Revocation

/-!
# When degraded operation continues

`evaluate` has a dozen returns, and the lists of reasons that it accumulates decide which one it
takes. Here every list is read as the condition under which it stays empty, one function of the
gate after the other, until `evaluate` continues exactly under the conditions on the snapshot, the
lease, the durable state and the proposal that `MayContinue` spells out.
-/

namespace AegisOt

/-! ## Distinct reasons -/

theorem nodup_eraseDups {α : Type} [DecidableEq α] (items : List α) : items.eraseDups.Nodup := by
  induction hlength : items.length using Nat.strong_induction_on generalizing items with
  | h n ih =>
    cases items with
    | nil => exact List.nodup_nil
    | cons item rest =>
      rw [List.eraseDups_cons]
      apply List.Nodup.cons
      · rw [List.mem_eraseDups]
        simp
      · have hshorter := List.length_filter_le (fun other => !other == item) rest
        rw [List.length_cons] at hlength
        exact ih _ (by omega) _ rfl

theorem eraseDups_append_ne_nil {reasons added : List String} (h : added ≠ []) :
    (reasons ++ added).eraseDups ≠ [] := by
  obtain ⟨reason, hreason⟩ := List.exists_mem_of_ne_nil added h
  exact List.ne_nil_of_mem (List.mem_eraseDups.mpr (List.mem_append_right _ hreason))

/-! ## Roles -/

theorem DegradedRole.lossBehavior_eq_missionPreserving {role : DegradedRole} :
    role.lossBehavior = .missionPreserving ↔ role = .management := by
  cases role <;> decide

theorem DegradedRole.sorted_pairwise :
    DegradedRole.sorted.Pairwise fun a b => a.value ≤ b.value := by
  decide +kernel

/-- Only the loss of the management role leaves the mission to be preserved. -/
theorem effectiveBehavior_eq_missionPreserving {roles : List DegradedRole} :
    effectiveBehavior roles = .missionPreserving ↔ ∀ role ∈ roles, role = .management := by
  unfold effectiveBehavior
  dsimp only
  constructor
  · intro h role hrole
    have hbehavior := List.mem_map_of_mem (f := DegradedRole.lossBehavior) hrole
    by_cases hsafe : DegradedBehavior.safeState ∈ roles.map DegradedRole.lossBehavior
    · rw [if_pos hsafe] at h
      cases h
    · by_cases hhold : DegradedBehavior.holdState ∈ roles.map DegradedRole.lossBehavior
      · rw [if_neg hsafe, if_pos hhold] at h
        cases h
      · rw [← DegradedRole.lossBehavior_eq_missionPreserving]
        cases hloss : role.lossBehavior with
        | safeState => exact absurd (hloss ▸ hbehavior) hsafe
        | holdState => exact absurd (hloss ▸ hbehavior) hhold
        | missionPreserving => rfl
  · intro h
    have hbehaviors : ∀ behavior ∈ roles.map DegradedRole.lossBehavior,
        behavior = .missionPreserving := by
      intro behavior hbehavior
      obtain ⟨role, hrole, rfl⟩ := List.mem_map.mp hbehavior
      exact DegradedRole.lossBehavior_eq_missionPreserving.mpr (h role hrole)
    have hsafe : DegradedBehavior.safeState ∉ roles.map DegradedRole.lossBehavior := by
      intro hsafe
      cases hbehaviors _ hsafe
    have hhold : DegradedBehavior.holdState ∉ roles.map DegradedRole.lossBehavior := by
      intro hhold
      cases hbehaviors _ hhold
    rw [if_neg hsafe, if_neg hhold]

namespace DegradedRuntimeSnapshot

variable {s : DegradedRuntimeSnapshot}

/-- The role or the path to it is not healthy. -/
def Affected (s : DegradedRuntimeSnapshot) (role : DegradedRole) : Prop :=
  s.roleConditions role ≠ .healthy ∨ s.communicationConditions role ≠ .healthy

/-- The snapshot is neither from the future nor older than the gate allows. -/
def Fresh (s : DegradedRuntimeSnapshot) (gate : DegradedOperationGate) (evaluatedAt : Time) :
    Prop :=
  s.capturedAt ≤ evaluatedAt ∧ evaluatedAt - s.capturedAt ≤ gate.maximumSnapshotAge

theorem mem_affectedRoles {role : DegradedRole} : role ∈ s.affectedRoles ↔ s.Affected role := by
  simp [affectedRoles, Affected, DegradedRole.mem_all]

theorem affectedRoles_eq_nil : s.affectedRoles = [] ↔ ∀ role, ¬ s.Affected role := by
  rw [List.eq_nil_iff_forall_not_mem]
  exact forall_congr' fun role => not_congr mem_affectedRoles

theorem freshnessReasons_eq_nil {gate : DegradedOperationGate} {evaluatedAt : Time} :
    s.freshnessReasons gate evaluatedAt = [] ↔ s.Fresh gate evaluatedAt := by
  unfold freshnessReasons Fresh
  by_cases hfuture : evaluatedAt - s.capturedAt < 0
  · rw [if_pos hfuture]
    constructor
    · nofun
    · intro hfresh
      exact absurd (sub_neg.mp hfuture) (not_lt.mpr hfresh.1)
  · rw [if_neg hfuture]
    by_cases hstale : gate.maximumSnapshotAge < evaluatedAt - s.capturedAt
    · rw [if_pos hstale]
      constructor
      · nofun
      · intro hfresh
        exact absurd hstale (not_lt.mpr hfresh.2)
    · rw [if_neg hstale]
      exact ⟨fun _ => ⟨sub_nonneg.mp (not_lt.mp hfuture), not_lt.mp hstale⟩, fun _ => rfl⟩

theorem healthy_iff {gate : DegradedOperationGate} {evaluatedAt : Time} :
    s.healthy gate evaluatedAt ↔ (∀ role, ¬ s.Affected role) ∧ s.Fresh gate evaluatedAt ∧
      s.unresolvedEffect = false := by
  rw [healthy, affectedRoles_eq_nil, freshnessReasons_eq_nil]

/-- No condition of a role is taken for a failed acceptance. -/
theorem conditionReasons_not_failure {reason : String} (h : reason ∈ s.conditionReasons) :
    reason ∉ DegradedOperationGate.acceptanceFailures := by
  have hservice : ∀ role : DegradedRole, ∀ condition : RoleCondition,
      role.value ++ "_service_" ++ condition.value ∉ DegradedOperationGate.acceptanceFailures := by
    intro role condition
    cases role <;> cases condition <;> decide +kernel
  have hcommunication : ∀ role : DegradedRole, ∀ condition : RoleCondition,
      role.value ++ "_communication_" ++ condition.value ∉
        DegradedOperationGate.acceptanceFailures := by
    intro role condition
    cases role <;> cases condition <;> decide +kernel
  obtain ⟨role, -, hrole⟩ := List.mem_flatMap.mp h
  rcases List.mem_append.mp hrole with hfound | hfound
  · by_cases hhealthy : s.roleConditions role ≠ .healthy
    · rw [if_pos hhealthy] at hfound
      exact List.mem_singleton.mp hfound ▸ hservice role _
    · rw [if_neg hhealthy] at hfound
      cases hfound
  · by_cases hhealthy : s.communicationConditions role ≠ .healthy
    · rw [if_pos hhealthy] at hfound
      exact List.mem_singleton.mp hfound ▸ hcommunication role _
    · rw [if_neg hhealthy] at hfound
      cases hfound

end DegradedRuntimeSnapshot

/-! ## Results -/

section

variable [DegradedPrimitives]

/-- Every result of the gate passes the checks of its own type. -/
theorem admissionResult_valid {outcome : DegradedAdmissionOutcome} {reasons : List String}
    {evaluatedAt : Time} {snapshotSha256 : Sha256}
    {authorization : Option DegradedModeAuthorization} {affectedRoles : List DegradedRole}
    {mayEnterPrimaryAssurance : Bool} (hreasons : reasons ≠ []) (hunique : reasons.Nodup)
    (hagrees : mayEnterPrimaryAssurance = true ↔ outcome = .continuePrimaryAssurance) :
    (admissionResult outcome reasons evaluatedAt snapshotSha256 authorization affectedRoles
      mayEnterPrimaryAssurance).Valid where
  reasons := hreasons
  agrees := hagrees
  noExecution := rfl
  unique := hunique
  sorted := DegradedRole.sorted_pairwise.sublist List.filter_sublist

theorem admissionResult_refuses {outcome : DegradedAdmissionOutcome} {reasons added : List String}
    {evaluatedAt : Time} {snapshotSha256 : Sha256}
    {authorization : Option DegradedModeAuthorization} {affectedRoles : List DegradedRole}
    (hadded : added ≠ []) (houtcome : outcome ≠ .continuePrimaryAssurance) :
    (admissionResult outcome (reasons ++ added).eraseDups evaluatedAt snapshotSha256 authorization
      affectedRoles false).Valid := by
  refine admissionResult_valid (eraseDups_append_ne_nil hadded) (nodup_eraseDups _) ?_
  constructor
  · nofun
  · intro hcontinues
    exact absurd hcontinues houtcome

namespace DegradedOperationGate

/-! ## The lease -/

/-- What the gate demands of a lease in the view of a snapshot. -/
structure Validates (gate : DegradedOperationGate) (snapshot : DegradedRuntimeSnapshot)
    (lease : DegradedModeAuthorization) (evaluatedAt : Time) : Prop where
  authority : lease.authorityId = gate.authorityId
  signed : lease.signedBy gate.authorityPublicKey = true
  current : lease.issuedAt ≤ evaluatedAt ∧ evaluatedAt < lease.expiresAt
  lifetime : lease.expiresAt - lease.issuedAt ≤ gate.maximumAuthorizationLifetime
  evidence : lease.snapshotSha256 = snapshot.digest
  roles : ∀ role, role ∈ lease.affectedRoles ↔ snapshot.Affected role
  degraded : snapshot.affectedRoles ≠ []
  behavior : lease.behavior = effectiveBehavior snapshot.affectedRoles
  settled : snapshot.unresolvedEffect = false
  fresh : snapshot.Fresh gate evaluatedAt

omit [DegradedPrimitives] in
theorem sameMembers_affectedRoles {roles : List DegradedRole}
    {snapshot : DegradedRuntimeSnapshot} :
    sameMembers roles snapshot.affectedRoles ↔
      ∀ role, role ∈ roles ↔ snapshot.Affected role := by
  constructor
  · intro h role
    rw [← DegradedRuntimeSnapshot.mem_affectedRoles]
    exact ⟨h.1 role, h.2 role⟩
  · intro h
    exact ⟨fun role hrole => DegradedRuntimeSnapshot.mem_affectedRoles.mpr ((h role).mp hrole),
      fun role hrole => (h role).mpr (DegradedRuntimeSnapshot.mem_affectedRoles.mp hrole)⟩

theorem validationReasons_eq_nil {gate : DegradedOperationGate}
    {snapshot : DegradedRuntimeSnapshot} {lease : DegradedModeAuthorization}
    {evaluatedAt : Time} :
    gate.validationReasons snapshot lease evaluatedAt = [] ↔
      gate.Validates snapshot lease evaluatedAt := by
  simp only [validationReasons, List.append_eq_nil_iff,
    DegradedRuntimeSnapshot.freshnessReasons_eq_nil, sameMembers_affectedRoles, ite_eq_left_iff,
    ite_eq_right_iff, reduceCtorEq, imp_false, not_not, not_or, not_lt, ne_eq,
    Bool.not_eq_true, Bool.not_eq_false]
  constructor
  · rintro ⟨⟨⟨⟨⟨⟨⟨⟨hauthority, hsigned⟩, hcurrent⟩, hlifetime⟩, hevidence⟩, hroles⟩, hdegraded,
      hbehavior⟩, hsettled⟩, hfresh⟩
    exact ⟨hauthority, hsigned, hcurrent, hlifetime, hevidence, hroles, hdegraded, hbehavior,
      hsettled, hfresh⟩
  · intro h
    exact ⟨⟨⟨⟨⟨⟨⟨⟨h.authority, h.signed⟩, h.current⟩, h.lifetime⟩, h.evidence⟩, h.roles⟩,
      h.degraded, h.behavior⟩, h.settled⟩, h.fresh⟩

/-- The proposal is within the lease. -/
structure Covers (lease : DegradedModeAuthorization) (proposal : ActionProposal) : Prop where
  actor : proposal.actorId ∈ lease.allowedActorIds
  mission : proposal.missionId ∈ lease.allowedMissionIds
  resource : proposal.resource ∈ lease.allowedResources
  operation : proposal.operation ∈ lease.allowedOperations
  risk : proposal.riskScore ≤ lease.maximumRiskScore

omit [DegradedPrimitives] in
theorem scopeReasons_eq_nil {lease : DegradedModeAuthorization} {proposal : ActionProposal} :
    scopeReasons lease proposal = [] ↔ Covers lease proposal := by
  simp only [scopeReasons, List.append_eq_nil_iff, ite_eq_right_iff, reduceCtorEq, imp_false,
    not_not, not_lt]
  constructor
  · rintro ⟨⟨⟨⟨hactor, hmission⟩, hresource⟩, hoperation⟩, hrisk⟩
    exact ⟨hactor, hmission, hresource, hoperation, hrisk⟩
  · intro h
    exact ⟨⟨⟨⟨h.actor, h.mission⟩, h.resource⟩, h.operation⟩, h.risk⟩

/-- What `accept_authorization` demands of the state. -/
structure Accepts (gate : DegradedOperationGate) (lease : DegradedModeAuthorization)
    (state : DegradedOperationState) : Prop where
  authority : state.authorityId = gate.authorityId
  notRevoked : state.revokedAuthorizationSha256.has lease.digest = false
  newer : state.activeAuthorizationSha256 = some lease.digest ∨
    state.highestAuthorizationSequence < lease.sequence

/-- `accept_authorization` refuses for a reason that `evaluate` looks for. -/
theorem acceptOn_reasons_failures {gate : DegradedOperationGate}
    {lease : DegradedModeAuthorization} {state : DegradedOperationState} :
    ∀ reason ∈ (StateTransition.acceptOn gate lease state).reasons,
      reason ∈ acceptanceFailures := by
  unfold StateTransition.acceptOn
  split_ifs <;> simp [acceptanceFailures]

theorem accepts_iff {gate : DegradedOperationGate} {lease : DegradedModeAuthorization}
    {state updated : DegradedOperationState}
    (h : (StateTransition.acceptOn gate lease state).result = .ok updated) :
    (StateTransition.acceptOn gate lease state).reasons = [] ↔ Accepts gate lease state := by
  unfold StateTransition.acceptOn at h ⊢
  by_cases hauthority : state.authorityId ≠ gate.authorityId
  · rw [if_pos hauthority] at h
    cases h
  rw [if_neg hauthority]
  by_cases hrevoked : state.revokedAuthorizationSha256.has lease.digest = true
  · rw [if_pos hrevoked]
    constructor
    · nofun
    · intro haccepts
      exact absurd haccepts.notRevoked (by simp [hrevoked])
  rw [if_neg hrevoked]
  have hkept := Bool.not_eq_true _ ▸ hrevoked
  by_cases hactive : some lease.digest = state.activeAuthorizationSha256
  · rw [if_pos hactive]
    exact ⟨fun _ => ⟨not_not.mp hauthority, hkept, .inl hactive.symm⟩, fun _ => rfl⟩
  rw [if_neg hactive]
  by_cases hlater : state.highestAuthorizationSequence < lease.sequence
  · rw [dif_pos hlater]
    exact ⟨fun _ => ⟨not_not.mp hauthority, hkept, .inr hlater⟩, fun _ => rfl⟩
  · rw [dif_neg hlater]
    constructor
    · nofun
    · intro haccepts
      rcases haccepts.newer with hsame | hnewer
      · exact absurd hsame.symm hactive
      · exact absurd hnewer hlater

/-! ## The two ways to continue -/

/-- No lease is in force. -/
def NoLeaseInForce (state : DegradedOperationState) : Prop :=
  ∀ digest, state.activeAuthorizationSha256 = some digest →
    state.revokedAuthorizationSha256.has digest = true

theorem healthyResult_spec {state : DegradedOperationState} {snapshot : DegradedRuntimeSnapshot}
    {authorization : Option DegradedModeAuthorization} {evaluatedAt : Time} :
    (healthyResult state snapshot authorization evaluatedAt).Valid ∧
      ((healthyResult state snapshot authorization evaluatedAt).outcome =
        .continuePrimaryAssurance ↔ NoLeaseInForce state) := by
  have hinForce : (state.activeAuthorizationSha256.isSome ∧
      state.activeAuthorizationSha256.any state.revokedAuthorizationSha256.has = false) ↔
        ¬ NoLeaseInForce state := by
    unfold NoLeaseInForce
    cases state.activeAuthorizationSha256 with
    | none => simp
    | some digest => simp
  unfold healthyResult
  dsimp only
  by_cases hactive : NoLeaseInForce state
  · rw [if_neg (not_iff_not.mpr hinForce |>.mpr (not_not.mpr hactive))]
    exact ⟨admissionResult_valid (List.cons_ne_nil _ _) (List.nodup_singleton _) (by simp),
      fun _ => hactive, fun _ => rfl⟩
  · rw [if_pos (hinForce.mpr hactive)]
    refine ⟨admissionResult_valid (List.cons_ne_nil _ _) (List.nodup_singleton _) (by simp), ?_, ?_⟩
    · nofun
    · intro hnone
      exact absurd hnone hactive

theorem acceptedResult_spec {proposal : ActionProposal} {snapshot : DegradedRuntimeSnapshot}
    {lease : DegradedModeAuthorization} {reasons : List String} {evaluatedAt : Time} :
    (acceptedResult proposal snapshot lease reasons evaluatedAt).Valid ∧
      ((acceptedResult proposal snapshot lease reasons evaluatedAt).outcome =
          .continuePrimaryAssurance ↔
        effectiveBehavior snapshot.affectedRoles = .missionPreserving ∧
          Covers lease proposal) := by
  unfold acceptedResult
  dsimp only
  cases effectiveBehavior snapshot.affectedRoles with
  | safeState =>
    refine ⟨admissionResult_refuses (List.cons_ne_nil _ _) (by decide), by nofun, ?_⟩
    rintro ⟨h, -⟩
    cases h
  | holdState =>
    refine ⟨admissionResult_refuses (List.cons_ne_nil _ _) (by decide), by nofun, ?_⟩
    rintro ⟨h, -⟩
    cases h
  | missionPreserving =>
    dsimp only
    by_cases hscope : scopeReasons lease proposal ≠ []
    · rw [if_pos hscope]
      refine ⟨admissionResult_refuses hscope (by decide), by nofun, ?_⟩
      rintro ⟨-, hcovers⟩
      exact absurd (scopeReasons_eq_nil.mpr hcovers) hscope
    · rw [if_neg hscope]
      refine ⟨?_, fun _ => ⟨rfl, scopeReasons_eq_nil.mp (not_not.mp hscope)⟩, fun _ => rfl⟩
      exact admissionResult_valid (eraseDups_append_ne_nil (List.cons_ne_nil _ _))
        (nodup_eraseDups _) ⟨fun _ => rfl, fun _ => rfl⟩

/-! ## The calls -/

section Store

variable {gate : DegradedOperationGate} {proposal : ActionProposal}
  {snapshot : DegradedRuntimeSnapshot} {evaluatedAt : Time}
  {answer : DegradedStore → (action : StoreAct) → action.Reply × DegradedStore}
  {s : DegradedStore}

/-- The update with which the store accepts a lease returns. -/
def UpdateReturns (answer : DegradedStore → (action : StoreAct) → action.Reply × DegradedStore)
    (s : DegradedStore) (gate : DegradedOperationGate) (lease : DegradedModeAuthorization) : Prop :=
  ((answer s (.update (.acceptAuthorization gate lease))).1 : UpdateReply).raised = false

/-- What `evaluate` looks for after the update. -/
theorem acceptance_fails_iff {lease : DegradedModeAuthorization} {reasons : List String}
    {reply : UpdateReply} {s' : DegradedStore}
    (hupdate : DegradedStore.Update (.acceptAuthorization gate lease) s reply s')
    (hreasons : ∀ reason ∈ reasons, reason ∉ acceptanceFailures) :
    (∃ reason ∈ reasons ++ (reply.reasons ++
        if reply.raised then ["degraded_operation_state_unavailable"] else []),
      reason ∈ acceptanceFailures) ↔
        ¬ (reply.raised = false ∧ Accepts gate lease s.state) := by
  have hunavailable : "degraded_operation_state_unavailable" ∈ acceptanceFailures := by
    simp [acceptanceFailures]
  cases hraised : reply.raised with
  | true =>
    rw [if_pos rfl]
    constructor
    · rintro - ⟨hreturned, -⟩
      cases hreturned
    · intro _
      exact ⟨_, List.mem_append_right _ (List.mem_append_right _ List.mem_cons_self), hunavailable⟩
  | false =>
    rw [if_neg Bool.false_ne_true, List.append_nil]
    cases hupdate with
    | unavailable => cases hraised
    | raised => cases hraised
    | written hresult hauthority =>
      have haccepts := accepts_iff hresult
      change (∃ reason ∈ reasons ++ (StateTransition.acceptOn gate lease s.state).reasons, _) ↔ _
      constructor
      · rintro ⟨reason, hreason, hfailure⟩ ⟨-, haccepted⟩
        rw [haccepts.mpr haccepted, List.append_nil] at hreason
        exact hreasons reason hreason hfailure
      · intro hrefused
        have hfound : (StateTransition.acceptOn gate lease s.state).reasons ≠ [] := by
          intro hnone
          exact hrefused ⟨rfl, haccepts.mp hnone⟩
        obtain ⟨reason, hreason⟩ := List.exists_mem_of_ne_nil _ hfound
        exact ⟨reason, List.mem_append_right _ hreason, acceptOn_reasons_failures reason hreason⟩

omit [DegradedPrimitives] in
theorem exec_updateStore_bind {α : Type} (transition : StateTransition)
    (f : UpdateReply → DegradedProgram α) :
    Interleaving.exec answer (updateStore transition >>= f) s =
      Interleaving.exec answer (f (answer s (.update transition)).1)
        (answer s (.update transition)).2 := rfl

omit [DegradedPrimitives] in
theorem exec_readStore_bind {α : Type} (f : Option DegradedOperationState → DegradedProgram α) :
    Interleaving.exec answer (readStore >>= f) s =
      Interleaving.exec answer (f (answer s .read).1) (answer s .read).2 := rfl

theorem exec_admitLease {lease : DegradedModeAuthorization} {reasons : List String}
    (hstore : ∀ (s : DegradedStore) (action : StoreAct),
      s.Perform action (answer s action).1 (answer s action).2)
    (hreasons : ∀ reason ∈ reasons, reason ∉ acceptanceFailures) :
    ∃ result after, Interleaving.exec answer
        (gate.admitLease proposal snapshot lease reasons evaluatedAt) s = (.ok result, after) ∧
      result.Valid ∧ (result.outcome = .continuePrimaryAssurance ↔
        gate.Validates snapshot lease evaluatedAt ∧ Accepts gate lease s.state ∧
          UpdateReturns answer s gate lease ∧
          effectiveBehavior snapshot.affectedRoles = .missionPreserving ∧
          Covers lease proposal) := by
  unfold admitLease
  dsimp only
  by_cases hvalid : gate.validationReasons snapshot lease evaluatedAt ≠ []
  · rw [if_pos hvalid]
    refine ⟨_, _, rfl, admissionResult_refuses hvalid (by decide), by nofun, ?_⟩
    rintro ⟨hvalidates, -⟩
    exact absurd (validationReasons_eq_nil.mpr hvalidates) hvalid
  rw [if_neg hvalid]
  have hvalidates := validationReasons_eq_nil.mp (not_not.mp hvalid)
  have hupdate : DegradedStore.Update (.acceptAuthorization gate lease) s
      (answer s (.update (.acceptAuthorization gate lease))).1
      (answer s (.update (.acceptAuthorization gate lease))).2 :=
    hstore s (.update (.acceptAuthorization gate lease))
  have hfails := acceptance_fails_iff hupdate hreasons
  rw [exec_updateStore_bind]
  unfold UpdateReturns
  generalize (answer s (.update (.acceptAuthorization gate lease))).2 = after at *
  generalize (answer s (.update (.acceptAuthorization gate lease))).1 = reply at *
  change UpdateReply at reply
  by_cases hfailed : ∃ reason ∈ reasons ++ (reply.reasons ++
      if reply.raised then ["degraded_operation_state_unavailable"] else []),
    reason ∈ acceptanceFailures
  · rw [if_pos hfailed]
    obtain ⟨reason, hreason, hfailure⟩ := hfailed
    have hadded : reply.reasons ++
        (if reply.raised then ["degraded_operation_state_unavailable"] else []) ≠ [] := by
      intro hnone
      rw [hnone, List.append_nil] at hreason
      exact hreasons reason hreason hfailure
    refine ⟨_, _, rfl, admissionResult_refuses hadded (by decide), by nofun, ?_⟩
    rintro ⟨-, haccepts, hreturned, -⟩
    exact absurd ⟨hreturned, haccepts⟩ (hfails.mp ⟨reason, hreason, hfailure⟩)
  · rw [if_neg hfailed]
    obtain ⟨hreturned, haccepts⟩ := not_not.mp (not_iff_not.mpr hfails |>.mp hfailed)
    refine ⟨_, _, rfl, acceptedResult_spec.1, ?_⟩
    rw [acceptedResult_spec.2]
    constructor
    · rintro ⟨hbehavior, hcovers⟩
      exact ⟨hvalidates, haccepts, hreturned, hbehavior, hcovers⟩
    · rintro ⟨-, -, -, hbehavior, hcovers⟩
      exact ⟨hbehavior, hcovers⟩

/-- What the lease must be for the proposal to continue on it. -/
structure LeaseHolds (gate : DegradedOperationGate) (proposal : ActionProposal)
    (snapshot : DegradedRuntimeSnapshot) (state : DegradedOperationState)
    (lease : DegradedModeAuthorization) (evaluatedAt : Time) : Prop where
  signed : lease.signedBy gate.authorityPublicKey = true
  current : lease.issuedAt ≤ evaluatedAt ∧ evaluatedAt < lease.expiresAt
  lifetime : lease.expiresAt - lease.issuedAt ≤ gate.maximumAuthorizationLifetime
  evidence : lease.snapshotSha256 = snapshot.digest
  roles : ∀ role, role ∈ lease.affectedRoles ↔ snapshot.Affected role
  notRevoked : state.revokedAuthorizationSha256.has lease.digest = false
  newer : state.activeAuthorizationSha256 = some lease.digest ∨
    state.highestAuthorizationSequence < lease.sequence
  covers : Covers lease proposal

/-- The conditions under which a proposal continues: nothing is degraded and no lease is in force,
    or only the management role is, and the lease that is presented holds. -/
def MayContinue (answer : DegradedStore → (action : StoreAct) → action.Reply × DegradedStore)
    (s : DegradedStore) (gate : DegradedOperationGate) (proposal : ActionProposal)
    (snapshot : DegradedRuntimeSnapshot) (presented : Option DegradedModeAuthorization)
    (evaluatedAt : Time) : Prop :=
  snapshot.Fresh gate evaluatedAt ∧ snapshot.unresolvedEffect = false ∧
    ((∀ role, ¬ snapshot.Affected role) ∧ NoLeaseInForce s.state ∨
      (∀ role, snapshot.Affected role ↔ role = .management) ∧
        ∃ lease, presented = some lease ∧
          LeaseHolds gate proposal snapshot s.state lease evaluatedAt ∧
          lease.authorityId = gate.authorityId ∧ lease.behavior = .missionPreserving ∧
          UpdateReturns answer s gate lease)

omit [DegradedPrimitives] in
/-- The mission is preserved when management is all that is lost. -/
theorem onlyManagement_iff : snapshot.affectedRoles ≠ [] ∧
    effectiveBehavior snapshot.affectedRoles = .missionPreserving ↔
      ∀ role, snapshot.Affected role ↔ role = .management := by
  rw [effectiveBehavior_eq_missionPreserving]
  constructor
  · rintro ⟨hsome, honly⟩ role
    obtain ⟨affected, haffected⟩ := List.exists_mem_of_ne_nil _ hsome
    obtain rfl := honly affected haffected
    constructor
    · intro hrole
      exact honly role (DegradedRuntimeSnapshot.mem_affectedRoles.mpr hrole)
    · rintro rfl
      exact DegradedRuntimeSnapshot.mem_affectedRoles.mp haffected
  · intro h
    have hmanagement := DegradedRuntimeSnapshot.mem_affectedRoles.mpr ((h .management).mpr rfl)
    refine ⟨List.ne_nil_of_mem hmanagement, ?_⟩
    intro role hrole
    exact (h role).mp (DegradedRuntimeSnapshot.mem_affectedRoles.mp hrole)

theorem exec_evaluateOn {presented : Option DegradedModeAuthorization} {sourceUnavailable : Bool}
    (hstore : ∀ (s : DegradedStore) (action : StoreAct),
      s.Perform action (answer s action).1 (answer s action).2)
    (hauthority : s.state.authorityId = gate.authorityId) :
    ∃ result after, Interleaving.exec answer (gate.evaluateOn proposal snapshot presented
        sourceUnavailable s.state evaluatedAt) s = (.ok result, after) ∧ result.Valid ∧
      (result.outcome = .continuePrimaryAssurance ↔
        MayContinue answer s gate proposal snapshot presented evaluatedAt) := by
  unfold evaluateOn MayContinue
  dsimp only
  by_cases hhealthy : snapshot.healthy gate evaluatedAt
  · rw [if_pos hhealthy]
    obtain ⟨hnone, hfresh, hsettled⟩ := DegradedRuntimeSnapshot.healthy_iff.mp hhealthy
    refine ⟨_, _, rfl, healthyResult_spec.1, ?_⟩
    rw [healthyResult_spec.2]
    constructor
    · intro hclear
      exact ⟨hfresh, hsettled, .inl ⟨hnone, hclear⟩⟩
    · rintro ⟨-, -, ⟨-, hclear⟩ | ⟨honly, -⟩⟩
      · exact hclear
      · exact absurd ((honly .management).mpr rfl) (hnone .management)
  rw [if_neg hhealthy]
  have hdegraded (hfresh : snapshot.Fresh gate evaluatedAt)
      (hsettled : snapshot.unresolvedEffect = false) : ¬ ∀ role, ¬ snapshot.Affected role :=
    fun hnone => hhealthy (DegradedRuntimeSnapshot.healthy_iff.mpr ⟨hnone, hfresh, hsettled⟩)
  cases presented with
  | none =>
    refine ⟨_, _, rfl, admissionResult_refuses (List.cons_ne_nil _ _) (by decide), by nofun, ?_⟩
    rintro ⟨hfresh, hsettled, ⟨hnone, -⟩ | ⟨-, lease, hpresented, -⟩⟩
    · exact absurd hnone (hdegraded hfresh hsettled)
    · cases hpresented
  | some lease =>
    dsimp only
    by_cases hrevoked : s.state.revokedAuthorizationSha256.has lease.digest = true
    · rw [if_pos hrevoked]
      refine ⟨_, _, rfl, admissionResult_refuses (List.cons_ne_nil _ _) (by decide), by nofun, ?_⟩
      rintro ⟨hfresh, hsettled, ⟨hnone, -⟩ | ⟨-, lease', hpresented, hholds, -⟩⟩
      · exact absurd hnone (hdegraded hfresh hsettled)
      · cases hpresented
        rw [hholds.notRevoked] at hrevoked
        cases hrevoked
    · rw [if_neg hrevoked]
      have hreasons : ∀ reason ∈ snapshot.conditionReasons ++
          snapshot.freshnessReasons gate evaluatedAt ++
          (if snapshot.unresolvedEffect then ["outcome_reconciliation_required"] else []) ++
          (if sourceUnavailable then ["degraded_authorization_source_unavailable"] else []),
          reason ∉ acceptanceFailures := by
        intro reason hreason
        simp only [List.mem_append] at hreason
        rcases hreason with ((hcondition | hfreshness) | hunresolved) | hunavailable
        · exact DegradedRuntimeSnapshot.conditionReasons_not_failure hcondition
        · unfold DegradedRuntimeSnapshot.freshnessReasons at hfreshness
          split_ifs at hfreshness <;> simp_all [acceptanceFailures]
        · split_ifs at hunresolved <;> simp_all [acceptanceFailures]
        · split_ifs at hunavailable <;> simp_all [acceptanceFailures]
      obtain ⟨result, after, hexec, hvalid, hcontinues⟩ := exec_admitLease hstore hreasons
      refine ⟨result, after, hexec, hvalid, hcontinues.trans ?_⟩
      constructor
      · rintro ⟨hvalidates, haccepts, hreturned, hbehavior, hcovers⟩
        refine ⟨hvalidates.fresh, hvalidates.settled, .inr ⟨?_, lease, rfl, ?_, ?_⟩⟩
        · exact onlyManagement_iff.mp ⟨hvalidates.degraded, hbehavior⟩
        · exact ⟨hvalidates.signed, hvalidates.current, hvalidates.lifetime, hvalidates.evidence,
            hvalidates.roles, haccepts.notRevoked, haccepts.newer, hcovers⟩
        · exact ⟨hvalidates.authority, hvalidates.behavior.trans hbehavior, hreturned⟩
      · rintro ⟨hfresh, hsettled, ⟨hnone, -⟩ | ⟨honly, lease', hpresented, hholds, hissuer,
          hpreserves, hreturned⟩⟩
        · exact absurd hnone (hdegraded hfresh hsettled)
        · cases hpresented
          obtain ⟨hsome, hbehavior⟩ := onlyManagement_iff.mpr honly
          refine ⟨?_, ⟨hauthority, hholds.notRevoked, hholds.newer⟩, hreturned, hbehavior,
            hholds.covers⟩
          exact ⟨hissuer, hholds.signed, hholds.current, hholds.lifetime, hholds.evidence,
            hholds.roles, hsome, hpreserves.trans hbehavior.symm, hsettled, hfresh⟩

/-- What `evaluate` goes on with when the lease cannot be had. -/
def presentedLease :
    SourceAnswer (Option DegradedModeAuthorization) → Option DegradedModeAuthorization
  | .value presented => presented
  | _ => none

theorem exec_evaluateSnapshot {presented : Option DegradedModeAuthorization}
    {sourceUnavailable : Bool}
    (hstore : ∀ (s : DegradedStore) (action : StoreAct),
      s.Perform action (answer s action).1 (answer s action).2) :
    ∃ result after, Interleaving.exec answer (gate.evaluateSnapshot proposal snapshot presented
        sourceUnavailable evaluatedAt) s = (.ok result, after) ∧ result.Valid ∧
      (result.outcome = .continuePrimaryAssurance ↔
        (answer s .read).1 = some s.state ∧ s.state.authorityId = gate.authorityId ∧
          MayContinue answer s gate proposal snapshot presented evaluatedAt) := by
  unfold evaluateSnapshot
  rw [exec_readStore_bind]
  obtain ⟨hkept, hread⟩ := hstore s .read
  rw [hkept]
  rcases hread with hraised | hread
  · rw [hraised]
    refine ⟨_, _, rfl, admissionResult_valid (List.cons_ne_nil _ _) (List.nodup_singleton _)
      (by simp), by nofun, ?_⟩
    rintro ⟨hsome, -⟩
    cases hsome
  · rw [hread]
    dsimp only
    by_cases hauthority : s.state.authorityId ≠ gate.authorityId
    · rw [if_pos hauthority]
      refine ⟨_, _, rfl, admissionResult_valid (List.cons_ne_nil _ _) (List.nodup_singleton _)
        (by simp), by nofun, ?_⟩
      rintro ⟨-, hsame, -⟩
      exact absurd hsame hauthority
    · rw [if_neg hauthority]
      obtain ⟨result, after, hexec, hvalid, hcontinues⟩ :=
        exec_evaluateOn hstore (not_not.mp hauthority)
      refine ⟨result, after, hexec, hvalid, hcontinues.trans ?_⟩
      exact ⟨fun h => ⟨rfl, not_not.mp hauthority, h⟩, fun h => h.2.2⟩

end Store

/-- `evaluate` returns, whatever its sources and its store answer, and what it returns continues
    exactly when it may. -/
theorem admission_exact (gate : DegradedOperationGate) (proposal : ActionProposal)
    (evaluatedAt : Time) (snapshotAnswer : SourceAnswer DegradedRuntimeSnapshot)
    (authorizationAnswer : SourceAnswer (Option DegradedModeAuthorization))
    (answer : DegradedStore → (action : StoreAct) → action.Reply × DegradedStore)
    (hstore : ∀ (s : DegradedStore) (action : StoreAct),
      s.Perform action (answer s action).1 (answer s action).2)
    (s : DegradedStore) :
    ∃ result after, Interleaving.exec answer (gate.evaluate proposal (.aware evaluatedAt)
        snapshotAnswer authorizationAnswer) s = (.ok result, after) ∧ result.Valid ∧
      (result.outcome = .continuePrimaryAssurance ↔
        ∃ snapshot, snapshotAnswer = .value snapshot ∧ (answer s .read).1 = some s.state ∧
          s.state.authorityId = gate.authorityId ∧
          MayContinue answer s gate proposal snapshot (presentedLease authorizationAnswer)
            evaluatedAt) := by
  unfold evaluate
  rw [Interleaving.exec_bind, Interleaving.exec_result]
  unfold timezoneAware
  dsimp only
  have hunavailable (reason : String) : (admissionResult .safeState [reason] evaluatedAt 0 none []
      false).Valid :=
    admissionResult_valid (List.cons_ne_nil _ _) (List.nodup_singleton _) (by simp)
  cases snapshotAnswer with
  | raised =>
    refine ⟨_, _, rfl, hunavailable _, by nofun, ?_⟩
    rintro ⟨snapshot, hsnapshot, -⟩
    cases hsnapshot
  | invalid =>
    refine ⟨_, _, rfl, hunavailable _, by nofun, ?_⟩
    rintro ⟨snapshot, hsnapshot, -⟩
    cases hsnapshot
  | value snapshot =>
    have hvalue {presented : Option DegradedModeAuthorization} :
        ((answer s .read).1 = some s.state ∧ s.state.authorityId = gate.authorityId ∧
          MayContinue answer s gate proposal snapshot presented evaluatedAt) ↔
        ∃ given, SourceAnswer.value snapshot = .value given ∧
          (answer s .read).1 = some s.state ∧ s.state.authorityId = gate.authorityId ∧
          MayContinue answer s gate proposal given presented evaluatedAt := by
      constructor
      · intro h
        exact ⟨snapshot, rfl, h⟩
      · rintro ⟨given, hgiven, h⟩
        cases hgiven
        exact h
    cases authorizationAnswer with
    | raised =>
      obtain ⟨result, after, hexec, hvalid, hcontinues⟩ := exec_evaluateSnapshot hstore
      exact ⟨result, after, hexec, hvalid, hcontinues.trans hvalue⟩
    | invalid =>
      obtain ⟨result, after, hexec, hvalid, hcontinues⟩ := exec_evaluateSnapshot hstore
      exact ⟨result, after, hexec, hvalid, hcontinues.trans hvalue⟩
    | value presented =>
      obtain ⟨result, after, hexec, hvalid, hcontinues⟩ := exec_evaluateSnapshot hstore
      exact ⟨result, after, hexec, hvalid, hcontinues.trans hvalue⟩

end DegradedOperationGate

end

/-! ## A lease for another behavior -/

namespace Sample

/-- The sample lease, for holding the state. -/
def holdingLease : DegradedModeAuthorization := { lease with behavior := .holdState }

/-- `evaluate` of the sample gate while the management path is lost. -/
def evaluateLost (now : DateTime) (presented : DegradedModeAuthorization) :
    Except String DegradedAdmissionResult × DegradedStore :=
  Interleaving.exec answerInMemory (degradedGate.evaluate leasedProposal now
    (.value (runtimeView .unavailable)) (.value (some presented))) (.initial "authority-1")

theorem fresh_runtimeView : (runtimeView .unavailable).Fresh degradedGate second := by
  unfold DegradedRuntimeSnapshot.Fresh
  decide

theorem affected_runtimeView (role : DegradedRole) :
    (runtimeView .unavailable).Affected role ↔ role = .management := by
  unfold DegradedRuntimeSnapshot.Affected
  cases role <;> decide

open DegradedOperationGate in
theorem leaseHolds_of_behavior (behavior : DegradedBehavior) :
    LeaseHolds degradedGate leasedProposal (runtimeView .unavailable)
      (DegradedStore.initial "authority-1").state { lease with behavior := behavior } second where
  signed := by
    cases behavior <;> decide
  current := by
    change (0 : Time) ≤ second ∧ second < 60 * second
    decide
  lifetime := by
    change 60 * second - 0 ≤ 300 * second
    decide
  evidence := rfl
  roles role := by
    rw [affected_runtimeView]
    exact List.mem_singleton
  notRevoked := rfl
  newer := .inr Nat.zero_lt_one
  covers := ⟨List.mem_cons_self, List.mem_cons_self, List.mem_cons_self, List.mem_cons_self,
    show (10 : ℚ) ≤ 50 by decide⟩

end Sample

open Sample

namespace DegradedOperationGate

/-- A lease that names another behavior holds in every other respect and is refused, and a time
    without a timezone is an error. -/
theorem holding_lease_refused :
    ((runtimeView .unavailable).Fresh degradedGate second ∧
      (runtimeView .unavailable).unresolvedEffect = false ∧
      (∀ role, (runtimeView .unavailable).Affected role ↔ role = .management) ∧
      LeaseHolds degradedGate leasedProposal (runtimeView .unavailable)
        (DegradedStore.initial "authority-1").state holdingLease second) ∧
      (evaluateLost (.aware second) holdingLease).1.toOption.map (fun result => result.outcome) =
        some .safeState ∧
      (evaluateLost .naive holdingLease).1 =
        .error "degraded admission evaluation time must be timezone-aware" := by
  refine ⟨⟨fresh_runtimeView, rfl, affected_runtimeView, leaseHolds_of_behavior _⟩, ?_, ?_⟩
  · decide +kernel
  · decide +kernel

/-- The sample lease continues. -/
theorem admission_exact_leased : ∃ result after,
    evaluateLost (.aware second) lease = (.ok result, after) ∧
      result.outcome = .continuePrimaryAssurance := by
  obtain ⟨result, after, hexec, -, hcontinues⟩ := admission_exact degradedGate leasedProposal second
    (.value (runtimeView .unavailable)) (.value (some lease)) answerInMemory
    DegradedStore.perform_inMemory (.initial "authority-1")
  refine ⟨result, after, hexec, hcontinues.mpr ⟨_, rfl, rfl, rfl, fresh_runtimeView, rfl, .inr
    ⟨affected_runtimeView, lease, rfl, leaseHolds_of_behavior _, rfl, rfl, ?_⟩⟩⟩
  unfold UpdateReturns
  decide +kernel

end DegradedOperationGate

end AegisOt
