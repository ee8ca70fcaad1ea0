import AegisOt.Degraded.Proofs.ReadinessOrder

/-!
# The lease of a consumer over its calls

Any number of gates call `readiness` and `evaluate` over one consumer state. The state comes with
the log of the authorizations that became active and of the reversals that ended them. The log
explains the active authorization, every entry of it is justified by the ones before, and no call
lowers a sequence of the state.
-/

namespace AegisOt

section

variable [PublicationPrimitives]

/-- What a call does to the active authorization. -/
inductive ConsumerEvent where
  | activated (authorization : StableDegradedAuthorization)
  | reversed (gate : PublishedDegradedOperationGate) (reversal : DegradedModeReversal)

namespace ConsumerEvent

/-- The authorizations that became active, oldest first. -/
def activatedIn (events : List ConsumerEvent) : List StableDegradedAuthorization :=
  events.filterMap (fun event =>
    match event with
    | .activated authorization => some authorization
    | .reversed _ _ => none)

/-- What the state keeps of an active authorization. -/
def leaseOf (authorization : StableDegradedAuthorization) : ActiveAuthorization where
  authorizationId := authorization.authorizationId
  authorizationSha256 := authorization.digest
  recoveryCheckpointId := authorization.recoveryCheckpointId

/-- The active authorization after a log: the last entry activated it. -/
def activeAfter (events : List ConsumerEvent) : Option ActiveAuthorization :=
  events.getLast?.bind (fun event =>
    match event with
    | .activated authorization => some (leaseOf authorization)
    | .reversed _ _ => none)

/-- An authorization becomes active when none is and later than all before it; a reversal carries
    the signature of the authority and names the active authorization exactly. -/
def Justified (authorityKeyId : Sha256) (before : List ConsumerEvent) : ConsumerEvent → Prop
  | .activated authorization =>
      activeAfter before = none ∧ ∀ earlier ∈ activatedIn before,
        earlier.sequence < authorization.sequence
  | .reversed gate reversal =>
      keyId gate.authorityPublicKey = authorityKeyId ∧
        reversal.signedBy gate.authorityPublicKey = true ∧
          activeAfter before = some
            { authorizationId := reversal.authorizationId
              authorizationSha256 := reversal.authorizationSha256
              recoveryCheckpointId := reversal.recoveryCheckpointId }

/-- Every entry is justified by the ones before it. -/
def Justifies (authorityKeyId : Sha256) (events : List ConsumerEvent) : Prop :=
  ∀ before event after, events = before ++ event :: after → Justified authorityKeyId before event

@[simp] theorem activeAfter_concat_activated (events : List ConsumerEvent)
    (authorization : StableDegradedAuthorization) :
    activeAfter (events ++ [.activated authorization]) = some (leaseOf authorization) := by
  simp [activeAfter]

@[simp] theorem activeAfter_concat_reversed (events : List ConsumerEvent)
    (gate : PublishedDegradedOperationGate) (reversal : DegradedModeReversal) :
    activeAfter (events ++ [.reversed gate reversal]) = none := by
  simp [activeAfter]

theorem activatedIn_append (events events' : List ConsumerEvent) :
    activatedIn (events ++ events') = activatedIn events ++ activatedIn events' :=
  List.filterMap_append

theorem Justifies.concat {authorityKeyId : Sha256} {events : List ConsumerEvent}
    (h : Justifies authorityKeyId events) {event : ConsumerEvent}
    (hevent : Justified authorityKeyId events event) :
    Justifies authorityKeyId (events ++ [event]) := by
  intro before e after hsplit
  rcases List.append_eq_append_iff.mp hsplit with ⟨rest, hbefore, hrest⟩ | ⟨rest, hevents, hrest⟩
  · cases rest with
    | nil =>
      rw [List.append_nil] at hbefore
      obtain rfl : event = e := List.head_eq_of_cons_eq hrest
      rw [hbefore]
      exact hevent
    | cons other rest => simp at hrest
  · cases rest with
    | nil =>
      rw [List.append_nil] at hevents
      obtain rfl : e = event := List.head_eq_of_cons_eq hrest
      rw [← hevents]
      exact hevent
    | cons other rest =>
      obtain rfl : e = other := List.head_eq_of_cons_eq hrest
      exact h before e rest hevents

end ConsumerEvent

open ConsumerEvent

/-- The consumer state with its log, oldest entry first. -/
structure ConsumerWorld where
  state : DegradedConsumerState
  events : List ConsumerEvent

namespace ConsumerWorld

variable (w : ConsumerWorld)

def initial (credential : DegradedPublisherCredential) : ConsumerWorld :=
  ⟨.initial credential, []⟩

/-- The floor step. -/
def raiseFloor (publication : DegradedRuntimePublication) : ConsumerWorld :=
  { w with state := w.state.raiseFloor publication }

/-- The lease step, which logs an activation. -/
def lease (gate : PublishedDegradedOperationGate) (publication : DegradedRuntimePublication)
    (evaluatedAt : Time) : ConsumerWorld where
  state := gate.leaseStep w.state publication evaluatedAt
  events := w.events ++
    if gate.leaseStep w.state publication evaluatedAt = w.state then []
    else (publication.authorization.map activated).toList

/-- The reversal step, which logs a reversal that took effect. -/
def reverse (gate : PublishedDegradedOperationGate) (reversal : Option DegradedModeReversal)
    (evaluatedAt : Time) : ConsumerWorld where
  state := (gate.applyReversal w.state reversal evaluatedAt).1
  events := w.events ++
    if (gate.applyReversal w.state reversal evaluatedAt).1 = w.state then []
    else (reversal.map (reversed gate)).toList

/-- How a step may change the world. -/
structure Advances (w w' : ConsumerWorld) : Prop where
  events : w.events <+: w'.events
  publication : w.state.highestPublicationSequence ≤ w'.state.highestPublicationSequence
  authorization : w.state.highestAuthorizationSequence ≤ w'.state.highestAuthorizationSequence
  reversal : w.state.highestReversalSequence ≤ w'.state.highestReversalSequence
  authority : w'.state.authorityKeyId = w.state.authorityKeyId

theorem Advances.refl (w : ConsumerWorld) : w.Advances w :=
  ⟨List.prefix_refl _, le_refl _, le_refl _, le_refl _, rfl⟩

theorem Advances.trans {w w₁ w₂ : ConsumerWorld} (h : w.Advances w₁) (h' : w₁.Advances w₂) :
    w.Advances w₂ where
  events := h.events.trans h'.events
  publication := h.publication.trans h'.publication
  authorization := h.authorization.trans h'.authorization
  reversal := h.reversal.trans h'.reversal
  authority := h'.authority.trans h.authority

/-- The log explains the state. -/
structure Consistent : Prop where
  active : w.state.activeAuthorization = activeAfter w.events
  highest : ∀ authorization ∈ activatedIn w.events,
    authorization.sequence ≤ w.state.highestAuthorizationSequence
  justified : Justifies w.state.authorityKeyId w.events

theorem consistent_initial (credential : DegradedPublisherCredential) :
    (initial credential).Consistent where
  active := rfl
  highest := by simp [initial, activatedIn]
  justified before event after h := by simp [initial] at h

variable {w}

theorem Consistent.raiseFloor (h : w.Consistent) (publication : DegradedRuntimePublication) :
    (w.raiseFloor publication).Consistent ∧ w.Advances (w.raiseFloor publication) := by
  refine ⟨⟨?_, ?_, ?_⟩, ⟨List.prefix_refl _, w.state.le_raiseFloor publication, ?_, ?_, ?_⟩⟩
  · simpa [ConsumerWorld.raiseFloor] using h.active
  · simpa [ConsumerWorld.raiseFloor] using h.highest
  · simpa [ConsumerWorld.raiseFloor] using h.justified
  · simp [ConsumerWorld.raiseFloor]
  · simp [ConsumerWorld.raiseFloor]
  · simp [ConsumerWorld.raiseFloor]

theorem Consistent.lease (h : w.Consistent) (gate : PublishedDegradedOperationGate)
    (publication : DegradedRuntimePublication) (evaluatedAt : Time) :
    (w.lease gate publication evaluatedAt).Consistent ∧
      w.Advances (w.lease gate publication evaluatedAt) := by
  rcases gate.leaseStep_cases w.state publication evaluatedAt with
    ⟨authorization, hactivates, heq⟩ | ⟨-, heq⟩
  · have hworld : w.lease gate publication evaluatedAt =
        ⟨w.state.activate authorization, w.events ++ [.activated authorization]⟩ := by
      unfold ConsumerWorld.lease
      rw [heq, if_neg (DegradedConsumerState.activate_ne hactivates.newer), hactivates.offered]
      rfl
    rw [hworld]
    have hearlier : ∀ earlier ∈ activatedIn w.events, earlier.sequence < authorization.sequence :=
      fun earlier hmem => lt_of_le_of_lt (h.highest earlier hmem) hactivates.newer
    refine ⟨⟨?_, ?_, ?_⟩, ⟨List.prefix_append _ _, le_refl _, hactivates.newer.le, le_refl _, rfl⟩⟩
    · simp [DegradedConsumerState.activate, leaseOf]
    · intro other hother
      rw [activatedIn_append] at hother
      rcases List.mem_append.mp hother with hold | hnew
      · exact (hearlier other hold).le
      · rw [List.mem_singleton.mp hnew]
        exact le_refl _
    · exact h.justified.concat ⟨h.active.symm.trans hactivates.vacant, hearlier⟩
  · have hworld : w.lease gate publication evaluatedAt = w := by
      unfold ConsumerWorld.lease
      rw [heq, if_pos rfl, List.append_nil]
    rw [hworld]
    exact ⟨h, .refl w⟩

theorem Consistent.reverse (h : w.Consistent) {gate : PublishedDegradedOperationGate}
    (reversal : Option DegradedModeReversal) (evaluatedAt : Time)
    (hkey : w.state.authorityKeyId = keyId gate.authorityPublicKey) :
    (w.reverse gate reversal evaluatedAt).Consistent ∧
      w.Advances (w.reverse gate reversal evaluatedAt) := by
  rcases gate.applyReversal_cases w.state reversal evaluatedAt with
    ⟨r, hreverses, hnewer, heq⟩ | ⟨-, heq, -⟩
  · obtain ⟨-, hsigned, -, -, -, hactive⟩ := gate.reversalReasons_eq_nil.mp hreverses.accepted
    have hchanged : w.state.reverse r hnewer ≠ w.state := by
      intro hsame
      have hsequence : r.sequence = w.state.highestReversalSequence :=
        congrArg DegradedConsumerState.highestReversalSequence hsame
      omega
    have hworld : w.reverse gate reversal evaluatedAt =
        ⟨w.state.reverse r hnewer, w.events ++ [.reversed gate r]⟩ := by
      unfold ConsumerWorld.reverse
      rw [heq, if_neg hchanged, hreverses.present]
      rfl
    rw [hworld]
    refine ⟨⟨?_, ?_, ?_⟩, ⟨List.prefix_append _ _, le_refl _, le_refl _, hnewer.le, rfl⟩⟩
    · simp [DegradedConsumerState.reverse]
    · intro other hother
      rw [activatedIn_append] at hother
      exact h.highest other (by simpa [activatedIn] using hother)
    · exact h.justified.concat ⟨hkey.symm, hsigned, h.active.symm.trans hactive⟩
  · have hworld : w.reverse gate reversal evaluatedAt = w := by
      unfold ConsumerWorld.reverse
      rw [heq, if_pos rfl, List.append_nil]
    rw [hworld]
    exact ⟨h, .refl w⟩

end ConsumerWorld

/-! ## Admission -/

namespace PublishedDegradedOperationGate

variable (gate : PublishedDegradedOperationGate) {state : DegradedConsumerState}
  {publication : DegradedRuntimePublication} {evaluatedAt : Time}

/-- Without reasons against it, the authorization is active after its lease step. -/
theorem activateLease_active {authorization : StableDegradedAuthorization}
    (h : gate.leaseReasons state authorization publication evaluatedAt = []) :
    (gate.activateLease state authorization publication evaluatedAt).activeAuthorizationSha256 =
      some authorization.digest := by
  unfold activateLease
  by_cases hactive : some authorization.digest = state.activeAuthorizationSha256
  · rw [if_neg (fun hnew => hnew.1 hactive), hactive]
  · rw [if_pos ⟨hactive, h⟩]
    rfl

/-- Work is admitted under no authorization, or under the one that is active afterwards. -/
theorem evaluateLease_admits {proposal : ActionProposal} {applied : Bool}
    (hadmits : (gate.evaluateLease proposal publication evaluatedAt state
      applied).2.mayEnterPrimaryAssurance = true) {digest : Sha256}
    (hunder : (gate.evaluateLease proposal publication evaluatedAt state
      applied).2.authorizationSha256 = some digest) :
    (gate.evaluateLease proposal publication evaluatedAt state
      applied).1.activeAuthorizationSha256 = some digest := by
  unfold evaluateLease at hadmits hunder ⊢
  split at hadmits
  · rename_i hhealthy
    rw [if_pos hhealthy] at hunder
    unfold healthyResult at hadmits hunder
    split at hadmits
    · cases hadmits
    · rename_i hvacant
      rw [if_neg hvacant] at hunder
      cases hunder
  · rename_i hdegraded
    rw [if_neg hdegraded] at hunder ⊢
    cases hoffered : publication.authorization with
    | none =>
      rw [hoffered] at hadmits
      cases hadmits
    | some authorization =>
      rw [hoffered] at hadmits hunder
      dsimp only at hadmits hunder ⊢
      by_cases hreasons : gate.leaseReasons state authorization publication evaluatedAt = []
      · rw [if_neg (not_not.mpr hreasons)] at hunder
        rw [gate.activateLease_active hreasons, ← hunder]
        unfold leaseResult result
        dsimp only
        split
        · rfl
        · rfl
        · split <;> rfl
      · rw [if_pos hreasons] at hadmits
        cases hadmits

theorem evaluateTransition_admits {proposal : ActionProposal}
    {reversal : Option DegradedModeReversal}
    (hadmits : (gate.evaluateTransition proposal publication reversal evaluatedAt
      state).2.mayEnterPrimaryAssurance = true) {digest : Sha256}
    (hunder : (gate.evaluateTransition proposal publication reversal evaluatedAt
      state).2.authorizationSha256 = some digest) :
    (gate.evaluateTransition proposal publication reversal evaluatedAt
      state).1.activeAuthorizationSha256 = some digest := by
  by_cases hcurrent : gate.consumerStateReasons state publication = []
  · rw [gate.evaluateTransition_accepted proposal hcurrent] at hadmits hunder ⊢
    dsimp only at hadmits hunder ⊢
    split at hadmits
    · cases hadmits
    · rename_i hobjected
      rw [if_neg hobjected] at hunder ⊢
      exact gate.evaluateLease_admits hadmits hunder
  · rw [gate.evaluateTransition_refused proposal hcurrent] at hadmits
    cases hadmits

theorem evaluateInputs_refused {inputs : GateInputs} {refused : DegradedAdmissionResult}
    (h : gate.evaluateInputs inputs evaluatedAt = .error refused) :
    refused.mayEnterPrimaryAssurance = false := by
  unfold evaluateInputs at h
  split at h
  · rw [← Except.error.inj h]
    rfl
  · rw [← Except.error.inj h]
    rfl
  · split at h
    · rw [← Except.error.inj h]
      rfl
    · split at h
      · rw [← Except.error.inj h]
        rfl
      · rw [← Except.error.inj h]
        rfl
      · cases h

end PublishedDegradedOperationGate

/-! ## Calls -/

/-- The two calls of a gate. -/
inductive GateRequest where
  | readiness
  | evaluate (proposal : ActionProposal)

/-- A call of a gate: its sources, and how the state store behaves. -/
structure GateCall where
  gate : PublishedDegradedOperationGate
  request : GateRequest
  inputs : GateInputs
  store : MutateOutcome

namespace GateCall

variable (call : GateCall)

/-- The consumer state after the call. -/
def stateAfter (state : DegradedConsumerState) : DegradedConsumerState :=
  match call.request with
  | .readiness => (call.gate.readiness call.inputs call.store state).2
  | .evaluate proposal => (call.gate.evaluate proposal call.inputs call.store state).2

/-- What the call works on once its inputs are accepted. -/
def accepted : Option (Time × DegradedRuntimePublication × Option DegradedModeReversal) :=
  match call.request with
  | .readiness => (call.gate.readinessInputs call.inputs).toOption
  | .evaluate _ =>
      match timezoneAware call.inputs.now "published degraded admission time" with
      | .error _ => none
      | .ok evaluatedAt =>
          (call.gate.evaluateInputs call.inputs evaluatedAt).toOption.map (fun inputs =>
            (evaluatedAt, inputs))

/-- The steps of the call, logged. -/
def steps (evaluatedAt : Time) (publication : DegradedRuntimePublication)
    (reversal : Option DegradedModeReversal) (w : ConsumerWorld) : ConsumerWorld :=
  if call.gate.consumerStateReasons w.state publication ≠ [] then w
  else
    match call.request with
    | .readiness =>
        ((w.raiseFloor publication).lease call.gate publication evaluatedAt).reverse call.gate
          reversal evaluatedAt
    | .evaluate _ =>
        if (call.gate.applyReversal (w.state.raiseFloor publication) reversal evaluatedAt).2.1 ≠ []
        then (w.raiseFloor publication).reverse call.gate reversal evaluatedAt
        else ((w.raiseFloor publication).reverse call.gate reversal evaluatedAt).lease call.gate
          publication evaluatedAt

/-- The steps of the call as it is accepted and stored. -/
def logged (w : ConsumerWorld) : ConsumerWorld :=
  match call.accepted, call.store with
  | none, _ => w
  | some _, .raised false => w
  | some (evaluatedAt, publication, reversal), _ =>
      call.steps evaluatedAt publication reversal w

/-- The world after the call. -/
def after (w : ConsumerWorld) : ConsumerWorld where
  state := call.stateAfter w.state
  events := (call.logged w).events

theorem steps_state (evaluatedAt : Time) (publication : DegradedRuntimePublication)
    (reversal : Option DegradedModeReversal) (w : ConsumerWorld) :
    (call.steps evaluatedAt publication reversal w).state =
      match call.request with
      | .readiness => (call.gate.readinessTransition publication reversal evaluatedAt w.state).1
      | .evaluate proposal =>
          (call.gate.evaluateTransition proposal publication reversal evaluatedAt w.state).1 := by
  unfold steps
  cases call.request with
  | readiness =>
    rw [call.gate.readinessTransition_state]
    split <;> rfl
  | evaluate proposal =>
    dsimp only
    rw [call.gate.evaluateTransition_state]
    split
    · rfl
    · dsimp only
      split <;> rfl

/-- The logged steps lead to the state that the call leaves. -/
theorem logged_state (w : ConsumerWorld) : (call.logged w).state = call.stateAfter w.state := by
  unfold logged stateAfter accepted
  cases hrequest : call.request with
  | readiness =>
    dsimp only
    unfold PublishedDegradedOperationGate.readiness
    cases call.gate.readinessInputs call.inputs with
    | error message => rfl
    | ok inputs =>
      obtain ⟨evaluatedAt, publication, reversal⟩ := inputs
      have hsteps := call.steps_state evaluatedAt publication reversal w
      rw [hrequest] at hsteps
      dsimp only at hsteps
      cases call.store with
      | returned =>
        dsimp only [mutateState, Except.toOption]
        rw [hsteps]
        split <;> rfl
      | raised written =>
        cases written with
        | true => exact hsteps
        | false => rfl
  | evaluate proposal =>
    dsimp only
    unfold PublishedDegradedOperationGate.evaluate
    cases timezoneAware call.inputs.now "published degraded admission time" with
    | error message => rfl
    | ok evaluatedAt =>
      dsimp only
      cases call.gate.evaluateInputs call.inputs evaluatedAt with
      | error refused => rfl
      | ok inputs =>
        obtain ⟨publication, reversal⟩ := inputs
        have hsteps := call.steps_state evaluatedAt publication reversal w
        rw [hrequest] at hsteps
        dsimp only at hsteps
        cases call.store with
        | returned => exact hsteps
        | raised written =>
          cases written with
          | true => exact hsteps
          | false => rfl

/-- A call keeps the log consistent and lowers nothing. -/
theorem after_consistent {w : ConsumerWorld} (h : w.Consistent) :
    (call.after w).Consistent ∧ w.Advances (call.after w) := by
  have hsteps (evaluatedAt : Time) (publication : DegradedRuntimePublication)
      (reversal : Option DegradedModeReversal) :
      (call.steps evaluatedAt publication reversal w).Consistent ∧
        w.Advances (call.steps evaluatedAt publication reversal w) := by
    unfold steps
    split
    · exact ⟨h, .refl w⟩
    · rename_i hcurrent
      have hkey : w.state.authorityKeyId = keyId call.gate.authorityPublicKey := by
        by_contra hother
        refine hcurrent ?_
        unfold PublishedDegradedOperationGate.consumerStateReasons
        rw [if_pos (fun htrusts => hother htrusts.2.1)]
        nofun
      obtain ⟨hfloor, hraised⟩ := h.raiseFloor publication
      cases call.request with
      | readiness =>
        obtain ⟨hlease, hleased⟩ := hfloor.lease call.gate publication evaluatedAt
        obtain ⟨hreverse, hreversed⟩ := hlease.reverse reversal evaluatedAt
          ((hraised.trans hleased).authority.trans hkey)
        exact ⟨hreverse, (hraised.trans hleased).trans hreversed⟩
      | evaluate proposal =>
        obtain ⟨hreverse, hreversed⟩ := hfloor.reverse reversal evaluatedAt
          (hraised.authority.trans hkey)
        dsimp only
        split
        · exact ⟨hreverse, hraised.trans hreversed⟩
        · obtain ⟨hlease, hleased⟩ := hreverse.lease call.gate publication evaluatedAt
          exact ⟨hlease, (hraised.trans hreversed).trans hleased⟩
  have hlogged : call.after w = call.logged w := by
    unfold after
    rw [← call.logged_state]
  rw [hlogged]
  unfold logged
  split
  · exact ⟨h, .refl w⟩
  · exact ⟨h, .refl w⟩
  · exact hsteps _ _ _

/-- A call that admits work under an authorization ends with that authorization active. -/
theorem active_of_admits {w : ConsumerWorld} {proposal : ActionProposal}
    (hrequest : call.request = .evaluate proposal) {result : DegradedAdmissionResult}
    (hresult : (call.gate.evaluate proposal call.inputs call.store w.state).1 = .ok result)
    (hadmits : result.mayEnterPrimaryAssurance = true) {digest : Sha256}
    (hunder : result.authorizationSha256 = some digest) :
    (call.after w).state.activeAuthorizationSha256 = some digest := by
  unfold after stateAfter
  rw [hrequest]
  dsimp only
  unfold PublishedDegradedOperationGate.evaluate at hresult ⊢
  cases hnow : timezoneAware call.inputs.now "published degraded admission time" with
  | error message =>
    rw [hnow] at hresult
    cases hresult
  | ok evaluatedAt =>
    rw [hnow] at hresult
    dsimp only at hresult ⊢
    cases hinputs : call.gate.evaluateInputs call.inputs evaluatedAt with
    | error refused =>
      rw [hinputs] at hresult
      obtain rfl : refused = result := Except.ok.inj hresult
      have hrefused := call.gate.evaluateInputs_refused hinputs
      rw [hadmits] at hrefused
      cases hrefused
    | ok inputs =>
      obtain ⟨publication, reversal⟩ := inputs
      rw [hinputs] at hresult
      cases hstore : call.store with
      | raised written =>
        rw [hstore] at hresult
        cases written <;> (obtain rfl := Except.ok.inj hresult; cases hadmits)
      | returned =>
        rw [hstore] at hresult
        obtain rfl := Except.ok.inj hresult
        exact call.gate.evaluateTransition_admits hadmits hunder

end GateCall

/-! ## Runs -/

/-- Any sequence of calls. -/
inductive ConsumerRun : ConsumerWorld → ConsumerWorld → Prop where
  | refl (w : ConsumerWorld) : ConsumerRun w w
  | call {w w' : ConsumerWorld} (h : ConsumerRun w w') (call : GateCall) :
      ConsumerRun w (call.after w')

theorem ConsumerRun.consistent {w w' : ConsumerWorld} (h : ConsumerRun w w')
    (hw : w.Consistent) : w'.Consistent ∧ w.Advances w' := by
  induction h with
  | refl => exact ⟨hw, .refl w⟩
  | call _ call ih =>
    obtain ⟨hconsistent, hadvances⟩ := call.after_consistent ih.1
    exact ⟨hconsistent, ih.2.trans hadvances⟩

namespace ConsumerEvent

/-- Another authorization with the same digest became active. -/
def CollidesIn (events : List ConsumerEvent) (authorization : StableDegradedAuthorization) : Prop :=
  ∃ other ∈ activatedIn events, other ≠ authorization ∧ other.digest = authorization.digest

/-- After its reversal an authorization is not activated again. -/
theorem Justifies.reversed_final {authorityKeyId : Sha256} {events : List ConsumerEvent}
    (h : Justifies authorityKeyId events) {before after : List ConsumerEvent}
    {authorization : StableDegradedAuthorization} {gate : PublishedDegradedOperationGate}
    {reversal : DegradedModeReversal}
    (hsplit : events = before ++ .activated authorization :: .reversed gate reversal :: after) :
    ∀ later ∈ activatedIn after, authorization.sequence < later.sequence := by
  intro later hlater
  obtain ⟨event, hevent, hactivated⟩ := List.mem_filterMap.mp hlater
  cases event with
  | reversed gate reversal => cases hactivated
  | activated other =>
    obtain rfl := Option.some.inj hactivated
    obtain ⟨middle, rest, rfl⟩ := List.append_of_mem hevent
    have hjustified := h (before ++ .activated authorization :: .reversed gate reversal :: middle)
      (.activated other) rest (by rw [hsplit]; simp)
    refine hjustified.2 authorization ?_
    simp [activatedIn]

/-- If the digest of a reversed authorization is active again, it is that of another one. -/
theorem Justifies.collides {authorityKeyId : Sha256} {events : List ConsumerEvent}
    (h : Justifies authorityKeyId events) {before after : List ConsumerEvent}
    {authorization : StableDegradedAuthorization} {gate : PublishedDegradedOperationGate}
    {reversal : DegradedModeReversal}
    (hsplit : events = before ++ .activated authorization :: .reversed gate reversal :: after)
    {lease : ActiveAuthorization} (hactive : activeAfter events = some lease)
    (hdigest : lease.authorizationSha256 = authorization.digest) :
    CollidesIn after authorization := by
  have hlater := h.reversed_final hsplit
  rcases List.eq_nil_or_concat' after with rfl | ⟨rest, last, rfl⟩
  · have hreversed :
        events = (before ++ [.activated authorization]) ++ [.reversed gate reversal] := by
      simp [hsplit]
    rw [hreversed, activeAfter_concat_reversed] at hactive
    cases hactive
  · have hlast : events = (before ++ .activated authorization :: .reversed gate reversal :: rest) ++
        [last] := by
      simp [hsplit]
    cases last with
    | reversed gate' reversal' =>
      rw [hlast, activeAfter_concat_reversed] at hactive
      cases hactive
    | activated other =>
      rw [hlast, activeAfter_concat_activated, Option.some.injEq] at hactive
      have hmem : other ∈ activatedIn (rest ++ [.activated other]) := by
        simp [activatedIn]
      refine ⟨other, hmem, ?_, ?_⟩
      · rintro rfl
        exact lt_irrefl _ (hlater other hmem)
      · rw [← hdigest, ← hactive]
        rfl

end ConsumerEvent

end

open ConsumerEvent in
/-- Over every run of calls no sequence is lowered, the log explains the active authorization and
    every entry is justified; a reversed authorization is not activated again, and if its digest is
    active again or admits work, another authorization with that digest was activated. -/
theorem consumer_lease_invariant [PublicationPrimitives] {credential : DegradedPublisherCredential}
    {w w' : ConsumerWorld} (hstart : ConsumerRun (.initial credential) w)
    (hrun : ConsumerRun w w') :
    w.Advances w' ∧ w'.state.activeAuthorization = activeAfter w'.events ∧
      Justifies credential.authorityKeyId w'.events ∧
      ∀ before authorization gate reversal after,
        w'.events = before ++ .activated authorization :: .reversed gate reversal :: after →
        (∀ later ∈ activatedIn after, authorization.sequence < later.sequence) ∧
        (w'.state.activeAuthorizationSha256 = some authorization.digest →
          CollidesIn after authorization) ∧
        ∀ (call : GateCall) (proposal : ActionProposal) (result : DegradedAdmissionResult),
          call.request = .evaluate proposal →
          (call.gate.evaluate proposal call.inputs call.store w'.state).1 = .ok result →
          result.mayEnterPrimaryAssurance = true →
          result.authorizationSha256 = some authorization.digest →
          CollidesIn (call.after w').events authorization := by
  obtain ⟨hconsistent, hadvanced⟩ := hstart.consistent (ConsumerWorld.consistent_initial credential)
  obtain ⟨hconsistent', hadvances⟩ := hrun.consistent hconsistent
  have hauthority : w'.state.authorityKeyId = credential.authorityKeyId :=
    (hadvanced.trans hadvances).authority
  have hjustified := hconsistent'.justified
  rw [hauthority] at hjustified
  refine ⟨hadvances, hconsistent'.active, hjustified, ?_⟩
  intro before authorization gate reversal after hsplit
  refine ⟨hjustified.reversed_final hsplit, ?_, ?_⟩
  · intro hactive
    obtain ⟨lease, hlease, hdigest⟩ := Option.map_eq_some_iff.mp hactive
    exact hjustified.collides hsplit (hconsistent'.active.symm.trans hlease) hdigest
  · intro call proposal result hrequest hresult hadmits hunder
    obtain ⟨hlater, hgrown⟩ := call.after_consistent hconsistent'
    obtain ⟨added, hadded⟩ := hgrown.events
    have hsplit' : (call.after w').events =
        before ++ .activated authorization :: .reversed gate reversal :: (after ++ added) := by
      rw [← hadded, hsplit]
      simp
    obtain ⟨lease, hlease, hdigest⟩ :=
      Option.map_eq_some_iff.mp (call.active_of_admits hrequest hresult hadmits hunder)
    obtain ⟨other, hother, hne, hsame⟩ :=
      hlater.justified.collides hsplit' (hlater.active.symm.trans hlease) hdigest
    refine ⟨other, ?_, hne, hsame⟩
    have hparts : (call.after w').events =
        (before ++ [.activated authorization, .reversed gate reversal]) ++ (after ++ added) := by
      rw [hsplit']
      simp
    rw [hparts, activatedIn_append]
    exact List.mem_append_right _ hother

namespace PublicationSample

/-- The first lease becomes active, and the second one replaces it by a reversal. -/
def activating : GateCall where
  gate := gate 1
  request := .readiness
  inputs := PublishedDegradedOperationGate.answering (publication 1) none second
  store := .returned

def replacing : GateCall where
  gate := gate 2
  request := .evaluate proposal
  inputs := rotating
  store := .returned

end PublicationSample

open PublicationSample ConsumerEvent in
theorem consumer_lease_invariant_rotated :
    let w := activating.after (.initial credential)
    let w' := replacing.after w
    w'.state.activeAuthorizationSha256 = some (authorization 2).digest ∧
      (activatedIn w'.events).map (fun a => a.sequence) = [1, 2] ∧
      w.Advances w' ∧ w'.state.activeAuthorization = activeAfter w'.events ∧
      Justifies credential.authorityKeyId w'.events := by
  have h := consumer_lease_invariant (.call (.refl (.initial credential)) activating)
    (.call (.refl _) replacing)
  exact ⟨by decide +kernel, by decide +kernel, h.1, h.2.1, h.2.2.1⟩

end AegisOt
