import AegisOt.Degraded.PublishedGate

/-!
# The steps of a consumer call

`readiness` and `evaluate` are made of the same three steps on the consumer state: the publication
floor rises, the authorization of the publication becomes active, a reversal ends the active one.
The lemmas here say when a step does anything, and in which order each call makes them.
-/

namespace AegisOt

variable [PublicationPrimitives]

namespace DegradedConsumerState

variable (s : DegradedConsumerState) (publication : DegradedRuntimePublication)

/-! ## The floor -/

@[simp] theorem raiseFloor_activeAuthorization :
    (s.raiseFloor publication).activeAuthorization = s.activeAuthorization := by
  unfold raiseFloor
  split <;> rfl

@[simp] theorem raiseFloor_highestAuthorizationSequence :
    (s.raiseFloor publication).highestAuthorizationSequence = s.highestAuthorizationSequence := by
  unfold raiseFloor
  split <;> rfl

@[simp] theorem raiseFloor_highestReversalSequence :
    (s.raiseFloor publication).highestReversalSequence = s.highestReversalSequence := by
  unfold raiseFloor
  split <;> rfl

@[simp] theorem raiseFloor_latestReversal :
    (s.raiseFloor publication).latestReversal = s.latestReversal := by
  unfold raiseFloor
  split <;> rfl

@[simp] theorem raiseFloor_authorityKeyId :
    (s.raiseFloor publication).authorityKeyId = s.authorityKeyId := by
  unfold raiseFloor
  split <;> rfl

theorem le_raiseFloor :
    s.highestPublicationSequence ≤ (s.raiseFloor publication).highestPublicationSequence := by
  unfold raiseFloor
  split
  · rename_i h
    exact h.le
  · exact le_refl _

theorem activate_ne {s : DegradedConsumerState} {authorization : StableDegradedAuthorization}
    (h : s.highestAuthorizationSequence < authorization.sequence) :
    s.activate authorization ≠ s := by
  intro heq
  have hsequence : authorization.sequence = s.highestAuthorizationSequence :=
    congrArg highestAuthorizationSequence heq
  omega

end DegradedConsumerState

namespace PublishedDegradedOperationGate

variable (gate : PublishedDegradedOperationGate) {state : DegradedConsumerState}
  {publication : DegradedRuntimePublication} {reversal : Option DegradedModeReversal}
  {evaluatedAt : Time}

/-! ## The lease -/

/-- The publication has an authorization that fits its condition and is newer than every one
    activated before. -/
structure LeaseReady (state : DegradedConsumerState) (publication : DegradedRuntimePublication)
    (evaluatedAt : Time) (authorization : StableDegradedAuthorization) : Prop where
  offered : publication.authorization = some authorization
  degraded : publication.degraded
  accepted : gate.authorizationReasons authorization publication evaluatedAt = []
  newer : state.highestAuthorizationSequence < authorization.sequence

/-- The authorization becomes active. -/
structure Activates (state : DegradedConsumerState) (publication : DegradedRuntimePublication)
    (evaluatedAt : Time) (authorization : StableDegradedAuthorization) : Prop
    extends gate.LeaseReady state publication evaluatedAt authorization where
  notRevoked : state.latestReversedAuthorizationSha256 ≠ some authorization.digest
  vacant : state.activeAuthorization = none

/-- The state after the authorization of the publication was looked at. -/
def leaseStep (state : DegradedConsumerState) (publication : DegradedRuntimePublication)
    (evaluatedAt : Time) : DegradedConsumerState :=
  match publication.authorization with
  | none => state
  | some authorization =>
      if publication.degraded then
        gate.activateLease state authorization publication evaluatedAt
      else state

/-- Without reasons against it, the authorization is active or can become active. -/
theorem leaseReasons_eq_nil {authorization : StableDegradedAuthorization} :
    gate.leaseReasons state authorization publication evaluatedAt = [] ↔
      gate.authorizationReasons authorization publication evaluatedAt = [] ∧
      state.latestReversedAuthorizationSha256 ≠ some authorization.digest ∧
      (some authorization.digest = state.activeAuthorizationSha256 ∨
        state.activeAuthorization = none ∧
          state.highestAuthorizationSequence < authorization.sequence) := by
  unfold leaseReasons
  rw [List.append_eq_nil_iff, List.append_eq_nil_iff, and_assoc]
  by_cases hactive : some authorization.digest = state.activeAuthorizationSha256
  · simp [hactive]
  · by_cases hvacant : state.activeAuthorization = none
    · simp [hactive, hvacant]
    · simp [hactive, hvacant]

/-- The lease step activates the offered authorization, or nothing can be activated. -/
theorem leaseStep_cases (state : DegradedConsumerState) (publication : DegradedRuntimePublication)
    (evaluatedAt : Time) :
    (∃ authorization, gate.Activates state publication evaluatedAt authorization ∧
      gate.leaseStep state publication evaluatedAt = state.activate authorization) ∨
    (∀ authorization, ¬ gate.Activates state publication evaluatedAt authorization) ∧
      gate.leaseStep state publication evaluatedAt = state := by
  unfold leaseStep
  cases hoffered : publication.authorization with
  | none =>
    refine .inr ⟨fun authorization h => ?_, rfl⟩
    have := h.offered
    rw [hoffered] at this
    cases this
  | some authorization =>
    have hsame {other : StableDegradedAuthorization}
        (h : gate.Activates state publication evaluatedAt other) : authorization = other := by
      have := h.offered
      rw [hoffered] at this
      exact Option.some.inj this
    by_cases hdegraded : publication.degraded
    · simp only [if_pos hdegraded]
      unfold activateLease
      by_cases hnew : some authorization.digest ≠ state.activeAuthorizationSha256 ∧
          gate.leaseReasons state authorization publication evaluatedAt = []
      · rw [if_pos hnew]
        obtain ⟨haccepted, hrevoked, hactive⟩ := gate.leaseReasons_eq_nil.mp hnew.2
        obtain ⟨hvacant, hnewer⟩ := hactive.resolve_left hnew.1
        exact .inl ⟨authorization, ⟨⟨hoffered, hdegraded, haccepted, hnewer⟩, hrevoked, hvacant⟩,
          rfl⟩
      · rw [if_neg hnew]
        refine .inr ⟨fun other h => ?_, rfl⟩
        obtain rfl := hsame h
        refine hnew ⟨?_, gate.leaseReasons_eq_nil.mpr ⟨h.accepted, h.notRevoked,
          .inr ⟨h.vacant, h.newer⟩⟩⟩
        simp [DegradedConsumerState.activeAuthorizationSha256, h.vacant]
    · simp only [if_neg hdegraded]
      exact .inr ⟨fun other h => hdegraded h.degraded, trivial⟩

/-! ## The reversal -/

/-- The reversal ends the active authorization. -/
structure Reverses (state : DegradedConsumerState) (reversal : Option DegradedModeReversal)
    (evaluatedAt : Time) (r : DegradedModeReversal) : Prop where
  present : reversal = some r
  fresh : ¬ state.AlreadyReversed r
  accepted : gate.reversalReasons state r evaluatedAt = []

/-- A reversal without reasons against it names the active authorization exactly. -/
theorem reversalReasons_eq_nil {r : DegradedModeReversal} :
    gate.reversalReasons state r evaluatedAt = [] ↔
      r.authorityId = gate.authorityId ∧ r.signedBy gate.authorityPublicKey = true ∧
      r.issuedAt ≤ evaluatedAt ∧ evaluatedAt - r.issuedAt ≤ gate.maximumReversalAge ∧
      state.highestReversalSequence < r.sequence ∧
      state.activeAuthorization = some
        { authorizationId := r.authorizationId
          authorizationSha256 := r.authorizationSha256
          recoveryCheckpointId := r.recoveryCheckpointId } := by
  have hage : (if evaluatedAt - r.issuedAt < 0 then ["degraded_reversal_from_future"]
      else if gate.maximumReversalAge < evaluatedAt - r.issuedAt then ["degraded_reversal_stale"]
      else []) = [] ↔
      r.issuedAt ≤ evaluatedAt ∧ evaluatedAt - r.issuedAt ≤ gate.maximumReversalAge := by
    by_cases hfuture : evaluatedAt - r.issuedAt < 0
    · have hissued : ¬ r.issuedAt ≤ evaluatedAt := not_le.mpr (sub_neg.mp hfuture)
      rw [if_pos hfuture]
      simp [hissued]
    · have hissued : r.issuedAt ≤ evaluatedAt := not_lt.mp (mt sub_neg.mpr hfuture)
      rw [if_neg hfuture]
      simp [hissued]
  unfold reversalReasons
  simp only [List.append_eq_nil_iff, hage, and_assoc]
  cases hactive : state.activeAuthorization with
  | none => simp
  | some active =>
    obtain ⟨id, digest, checkpoint⟩ := active
    simp only [Option.some.injEq, ActiveAuthorization.mk.injEq]
    simp [eq_comm (a := id), eq_comm (a := digest), eq_comm (a := checkpoint)]

/-- A reversal is applied, or the state stays; without an objection only when there is none or the
    last one is repeated. -/
theorem applyReversal_cases (state : DegradedConsumerState)
    (reversal : Option DegradedModeReversal) (evaluatedAt : Time) :
    (∃ r, gate.Reverses state reversal evaluatedAt r ∧
      ∃ h, gate.applyReversal state reversal evaluatedAt = (state.reverse r h, [], true)) ∨
    (∀ r, ¬ gate.Reverses state reversal evaluatedAt r) ∧
      (gate.applyReversal state reversal evaluatedAt).1 = state ∧
      ((gate.applyReversal state reversal evaluatedAt).2.1 = [] ↔
        ∀ r, reversal = some r → state.AlreadyReversed r) := by
  cases reversal with
  | none => exact .inr ⟨fun r h => (by cases h.present), rfl, by simp [applyReversal]⟩
  | some r =>
    by_cases hrepeated : state.AlreadyReversed r
    · have heq : gate.applyReversal state (some r) evaluatedAt = (state, [], true) :=
        if_pos hrepeated
      rw [heq]
      refine .inr ⟨fun r' h => ?_, rfl, by simpa using hrepeated⟩
      obtain rfl := Option.some.inj h.present
      exact h.fresh hrepeated
    · by_cases hreasons : gate.reversalReasons state r evaluatedAt = []
      · obtain ⟨-, -, -, -, hnewer, -⟩ := gate.reversalReasons_eq_nil.mp hreasons
        refine .inl ⟨r, ⟨rfl, hrepeated, hreasons⟩, hnewer, ?_⟩
        simp [applyReversal, hrepeated, hreasons, hnewer]
      · have heq : gate.applyReversal state (some r) evaluatedAt =
            (state, gate.reversalReasons state r evaluatedAt, false) := by
          simp [applyReversal, hrepeated, hreasons]
        rw [heq]
        refine .inr ⟨fun r' h => ?_, rfl, by simpa [hreasons] using hrepeated⟩
        obtain rfl := Option.some.inj h.present
        exact hreasons h.accepted

/-! ## The calls -/

/-- `readiness` activates first and reverses after it. -/
theorem readinessTransition_state :
    (gate.readinessTransition publication reversal evaluatedAt state).1 =
      if gate.consumerStateReasons state publication ≠ [] then state
      else (gate.applyReversal (gate.leaseStep (state.raiseFloor publication) publication
        evaluatedAt) reversal evaluatedAt).1 := by
  unfold readinessTransition leaseStep
  dsimp only
  split
  · rfl
  · cases publication.authorization with
    | none => rfl
    | some authorization =>
      dsimp only
      split <;> rfl

/-- `evaluate` makes the checks of `_consumer_state_reasons` one by one. -/
theorem evaluateTransition_refused (proposal : ActionProposal)
    (h : gate.consumerStateReasons state publication ≠ []) :
    gate.evaluateTransition proposal publication reversal evaluatedAt state =
      (state, refusal publication (gate.consumerStateReasons state publication) evaluatedAt) := by
  unfold consumerStateReasons at h ⊢
  unfold evaluateTransition
  split_ifs at h ⊢ <;> simp_all

theorem evaluateTransition_accepted (proposal : ActionProposal)
    (h : gate.consumerStateReasons state publication = []) :
    gate.evaluateTransition proposal publication reversal evaluatedAt state =
      let step := gate.applyReversal (state.raiseFloor publication) reversal evaluatedAt
      if step.2.1 ≠ [] then (step.1, refusal publication step.2.1 evaluatedAt)
      else gate.evaluateLease proposal publication evaluatedAt step.1 step.2.2 := by
  have hbroken : predecessorBroken state publication →
      publication.sequence ≠ state.highestPublicationSequence := by
    intro hpredecessor
    have hnext := hpredecessor.1
    omega
  unfold consumerStateReasons at h
  unfold evaluateTransition
  split_ifs at h ⊢ <;> simp_all

theorem evaluateLease_state (proposal : ActionProposal) (applied : Bool) :
    (gate.evaluateLease proposal publication evaluatedAt state applied).1 =
      gate.leaseStep state publication evaluatedAt := by
  unfold evaluateLease leaseStep
  by_cases hdegraded : publication.degraded
  · rw [if_neg (not_not.mpr hdegraded)]
    cases publication.authorization with
    | none => rfl
    | some authorization => simp [hdegraded]
  · rw [if_pos hdegraded]
    cases publication.authorization with
    | none => rfl
    | some authorization => simp [hdegraded]

/-- `evaluate` reverses first, and activates unless the reversal was objected to. -/
theorem evaluateTransition_state (proposal : ActionProposal) :
    (gate.evaluateTransition proposal publication reversal evaluatedAt state).1 =
      if gate.consumerStateReasons state publication ≠ [] then state
      else
        let step := gate.applyReversal (state.raiseFloor publication) reversal evaluatedAt
        if step.2.1 ≠ [] then step.1 else gate.leaseStep step.1 publication evaluatedAt := by
  by_cases h : gate.consumerStateReasons state publication = []
  · rw [gate.evaluateTransition_accepted proposal h, if_neg (not_not.mpr h)]
    dsimp only
    split
    · rfl
    · exact gate.evaluateLease_state proposal _
  · rw [gate.evaluateTransition_refused proposal h, if_pos h]

end PublishedDegradedOperationGate

end AegisOt
