import AegisOt.Degraded.Proofs.ConsumerLease
import AegisOt.Degraded.Proofs.PublisherSteps
import AegisOt.Misc.HashChain
import Mathlib.Data.List.Infix

/-!
# One publisher and one consumer

A publisher whose calls may raise or die after any action, and a consumer that samples the sink and
settles its call at a later moment. The publications that were visible form a chain: sequences
increase, and each publication names the one before it. The state store is at the end of that chain
or one publication behind it, and the floor of the consumer is a member of it. So the publisher can
always reconcile, and the consumer never finds a rollback, an equivocation or a broken predecessor.
-/

namespace AegisOt

open HashChain

section

variable [PublicationPrimitives]

/-! ## The floor of the consumer -/

namespace DegradedConsumerState

/-- The floor: a sequence and the digest of its publication. -/
def floor (s : DegradedConsumerState) : Nat × Option Sha256 :=
  (s.highestPublicationSequence, s.highestPublicationSha256)

theorem raiseFloor_floor (s : DegradedConsumerState) (publication : DegradedRuntimePublication) :
    (s.raiseFloor publication).floor = s.floor ∨
      (s.raiseFloor publication).floor = (publication.sequence, some publication.digest) := by
  unfold raiseFloor
  split
  · exact .inr rfl
  · exact .inl rfl

end DegradedConsumerState

namespace PublishedDegradedOperationGate

variable (gate : PublishedDegradedOperationGate) (state : DegradedConsumerState)
  (publication : DegradedRuntimePublication) (evaluatedAt : Time)

theorem leaseStep_floor :
    (gate.leaseStep state publication evaluatedAt).floor = state.floor := by
  rcases gate.leaseStep_cases state publication evaluatedAt with ⟨authorization, -, heq⟩ | ⟨-, heq⟩
  · rw [heq]
    rfl
  · rw [heq]

theorem applyReversal_floor (reversal : Option DegradedModeReversal) :
    (gate.applyReversal state reversal evaluatedAt).1.floor = state.floor := by
  rcases gate.applyReversal_cases state reversal evaluatedAt with ⟨r, -, h, heq⟩ | ⟨-, heq, -⟩
  · rw [heq]
    rfl
  · rw [heq]

end PublishedDegradedOperationGate

namespace GateCall

variable (call : GateCall)

/-- What `_consumer_state_reasons` reports in the call. -/
def stateReasons (state : DegradedConsumerState) : List String :=
  match call.accepted with
  | none => []
  | some (_, publication, _) => call.gate.consumerStateReasons state publication

/-- An accepted call works on the publication that its source returned. -/
theorem accepted_publication {evaluatedAt : Time} {publication : DegradedRuntimePublication}
    {reversal : Option DegradedModeReversal}
    (h : call.accepted = some (evaluatedAt, publication, reversal)) :
    call.inputs.publication = .value publication := by
  unfold accepted at h
  cases hrequest : call.request with
  | readiness =>
    rw [hrequest] at h
    dsimp only at h
    rw [toOption_eq_some] at h
    unfold PublishedDegradedOperationGate.readinessInputs at h
    cases hpublication : call.inputs.publication with
    | raised => simp [hpublication] at h
    | invalid => simp [hpublication] at h
    | value answer =>
      rw [hpublication] at h
      cases hreversal : call.inputs.reversal with
      | raised => simp [hreversal] at h
      | invalid => simp [hreversal] at h
      | value reversal =>
        rw [hreversal] at h
        simp only [bind_eq_ok, Except.ok.injEq, pure_eq_ok, Prod.mk.injEq] at h
        obtain ⟨_, -, _, rfl, _, -, _, -, -, rfl, -⟩ := h
        rfl
  | evaluate proposal =>
    rw [hrequest] at h
    dsimp only at h
    split at h
    · cases h
    · rw [Option.map_eq_some_iff] at h
      obtain ⟨answer, hinputs, hanswer⟩ := h
      rw [toOption_eq_some] at hinputs
      unfold PublishedDegradedOperationGate.evaluateInputs at hinputs
      cases hpublication : call.inputs.publication with
      | raised => simp [hpublication] at hinputs
      | invalid => simp [hpublication] at hinputs
      | value sampled =>
        rw [hpublication] at hinputs
        dsimp only at hinputs
        split at hinputs
        · cases hinputs
        · split at hinputs
          · cases hinputs
          · cases hinputs
          · obtain rfl := Except.ok.inj hinputs
            simp only [Prod.mk.injEq] at hanswer
            rw [← hanswer.2.1]

/-- A call leaves the floor, or raises it to the publication that its source returned. -/
theorem stateAfter_floor (state : DegradedConsumerState) :
    (call.stateAfter state).floor = state.floor ∨
      ∃ publication, call.inputs.publication = .value publication ∧
        (call.stateAfter state).floor = (publication.sequence, some publication.digest) := by
  have hsteps (evaluatedAt : Time) (publication : DegradedRuntimePublication)
      (reversal : Option DegradedModeReversal) :
      (call.steps evaluatedAt publication reversal ⟨state, []⟩).state.floor = state.floor ∨
        (call.steps evaluatedAt publication reversal ⟨state, []⟩).state.floor =
          (publication.sequence, some publication.digest) := by
    have hraised := state.raiseFloor_floor publication
    unfold steps
    split
    · exact .inl rfl
    · cases call.request with
      | readiness =>
        simpa [ConsumerWorld.raiseFloor, ConsumerWorld.lease, ConsumerWorld.reverse,
          PublishedDegradedOperationGate.leaseStep_floor,
          PublishedDegradedOperationGate.applyReversal_floor] using hraised
      | evaluate proposal =>
        dsimp only
        split <;>
          simpa [ConsumerWorld.raiseFloor, ConsumerWorld.lease, ConsumerWorld.reverse,
            PublishedDegradedOperationGate.leaseStep_floor,
            PublishedDegradedOperationGate.applyReversal_floor] using hraised
  rw [← call.logged_state ⟨state, []⟩]
  unfold logged
  split
  · exact .inl rfl
  · exact .inl rfl
  · rename_i evaluatedAt publication reversal haccepted _
    rcases hsteps evaluatedAt publication reversal with h | h
    · exact .inl h
    · exact .inr ⟨publication, call.accepted_publication haccepted, h⟩

end GateCall

/-! ## What is visible -/

/-- The sequence of the last publication, 0 if there is none. -/
def lastSequence (published : List DegradedRuntimePublication) : Nat :=
  (published.getLast?.map DegradedRuntimePublication.sequence).getD 0

omit [PublicationPrimitives] in
@[simp] theorem lastSequence_concat (published : List DegradedRuntimePublication)
    (publication : DegradedRuntimePublication) :
    lastSequence (published ++ [publication]) = publication.sequence := by
  simp [lastSequence]

/-- What a publication puts into `previous_publication_sha256` of the next one. -/
abbrev namedAs (publication : DegradedRuntimePublication) : Option Sha256 :=
  some publication.digest

/-- The state has exactly these publications committed. -/
structure DegradedPublisherState.AtEnd (state : DegradedPublisherState)
    (published : List DegradedRuntimePublication) : Prop where
  sequence : state.latestPublishedSequence = lastSequence published
  digest : state.latestPublicationSha256 = lastHash namedAs none published

/-- The publications form a chain of increasing sequences. -/
structure Chained (published : List DegradedRuntimePublication) : Prop where
  increasing : published.Pairwise (fun a b => a.sequence < b.sequence)
  linked : Linked DegradedRuntimePublication.previousPublicationSha256 namedAs none published
  positive : ∀ publication ∈ published, 0 < publication.sequence

theorem Chained.le_lastSequence {published : List DegradedRuntimePublication}
    (h : Chained published) {publication : DegradedRuntimePublication}
    (hmem : publication ∈ published) : publication.sequence ≤ lastSequence published := by
  obtain ⟨earlier, last, rfl⟩ :=
    (List.eq_nil_or_concat' published).resolve_left (List.ne_nil_of_mem hmem)
  rw [lastSequence_concat]
  rcases List.mem_append.mp hmem with hearlier | hlast
  · exact ((List.pairwise_append.mp h.increasing).2.2 publication hearlier last
      List.mem_cons_self).le
  · rw [List.mem_singleton.mp hlast]

/-- A publication that follows the end of the chain extends it. -/
theorem Chained.concat {published : List DegradedRuntimePublication} (h : Chained published)
    {state : DegradedPublisherState} (hend : state.AtEnd published)
    {publication : DegradedRuntimePublication} (hfollows : state.Follows publication) :
    Chained (published ++ [publication]) where
  increasing := by
    refine List.pairwise_append.mpr ⟨h.increasing, List.pairwise_singleton _ _, ?_⟩
    intro earlier hearlier last hlast
    rw [List.mem_singleton.mp hlast]
    have hbelow := h.le_lastSequence hearlier
    have hnewer := hfollows.newer
    rw [hend.sequence] at hnewer
    omega
  linked := linked_append_singleton _ _ |>.mpr
    ⟨h.linked, hfollows.predecessor.trans hend.digest⟩
  positive := by
    intro other hother
    rcases List.mem_append.mp hother with hearlier | hlast
    · exact h.positive other hearlier
    · rw [List.mem_singleton.mp hlast]
      have hnewer := hfollows.newer
      omega

/-- The floor is at no publication, or at one of these. -/
def DegradedConsumerState.FloorIn (s : DegradedConsumerState)
    (published : List DegradedRuntimePublication) : Prop :=
  s.floor.1 = 0 ∨ ∃ publication ∈ published,
    s.floor = (publication.sequence, some publication.digest)

theorem DegradedConsumerState.FloorIn.mono {s : DegradedConsumerState}
    {published published' : List DegradedRuntimePublication} (h : s.FloorIn published)
    (hsub : published <+: published') : s.FloorIn published' :=
  h.imp_right (fun ⟨publication, hmem, hfloor⟩ => ⟨publication, hsub.subset hmem, hfloor⟩)

/-- The three ways a consumer can be out of step with its publisher. -/
def outOfStep : List String :=
  ["degraded_publication_sequence_rollback", "degraded_publication_sequence_equivocation",
    "degraded_publication_predecessor_mismatch"]

/-- A publication of the chain that is not behind the floor leaves nothing to report. -/
theorem Chained.inStep {published : List DegradedRuntimePublication} (h : Chained published)
    {state : DegradedConsumerState} (hfloor : state.FloorIn published)
    {publication : DegradedRuntimePublication} (hmem : publication ∈ published)
    (hahead : state.highestPublicationSequence ≤ publication.sequence)
    (gate : PublishedDegradedOperationGate) :
    ∀ reason ∈ gate.consumerStateReasons state publication, reason ∉ outOfStep := by
  unfold PublishedDegradedOperationGate.consumerStateReasons
  have hpositive := h.positive publication hmem
  split
  · simp [outOfStep]
  · rw [if_neg (not_lt.mpr hahead)]
    split
    · rename_i hsame
      rcases hfloor with hzero | ⟨floor, hfloormem, hfloor⟩
      · have hzero : state.highestPublicationSequence = 0 := hzero
        omega
      · obtain ⟨hsequence, hdigest⟩ := Prod.mk.inj hfloor
        obtain rfl : publication = floor :=
          eq_of_number h.increasing hmem hfloormem (hsame.trans hsequence)
        rw [if_neg (not_not.mpr hdigest.symm)]
        simp
    · rw [if_neg]
      · simp
      · rintro ⟨hnext, habove, hbroken⟩
        rcases hfloor with hzero | ⟨floor, hfloormem, hfloor⟩
        · have hzero : state.highestPublicationSequence = 0 := hzero
          omega
        · obtain ⟨hsequence, hdigest⟩ := Prod.mk.inj hfloor
          have hprevious := h.linked.previous_of_succ h.increasing hfloormem hmem
            (by rw [hnext, hsequence])
          exact hbroken (hprevious.trans hdigest.symm)

/-! ## The publisher's files -/

namespace PublicationFiles

/-- The files are in step: the sink shows the end of the chain, and the state is at that end or
    waits for its last publication. -/
structure InStep (credential : DegradedPublisherCredential) (s : PublicationFiles) : Prop where
  owned : s.state.Matches credential
  shown : s.sink = s.visible.getLast?
  trusted : ∀ publication ∈ s.visible, publication.trustedBy credential = true
  chained : Chained s.visible
  position : s.state.AtEnd s.visible ∨
    ∃ earlier publication, s.visible = earlier ++ [publication] ∧ s.state.AtEnd earlier ∧
      s.state.Follows publication

theorem inStep_initial (credential : DegradedPublisherCredential) :
    InStep credential ⟨.initial credential, none, []⟩ where
  owned := ⟨rfl, rfl, rfl⟩
  shown := rfl
  trusted := by simp
  chained := ⟨List.Pairwise.nil, trivial, by simp⟩
  position := .inl ⟨rfl, rfl⟩

variable {credential : DegradedPublisherCredential} {s : PublicationFiles}

/-- Reconciliation succeeds, and it leads to the end of the chain. -/
theorem InStep.reconciled (h : s.InStep credential) :
    ∃ updated, FileDegradedPublisherStateStore.reconciledState s.state s.sink credential =
      .ok updated ∧ updated.AtEnd s.visible := by
  rcases h.position with hend | ⟨earlier, publication, hvisible, hend, hfollows⟩
  · refine ⟨s.state, ?_, hend⟩
    rcases List.eq_nil_or_concat' s.visible with hvisible | ⟨earlier, publication, hvisible⟩
    · rw [h.shown, hvisible, List.getLast?_nil]
      refine FileDegradedPublisherStateStore.reconciledState_none.mpr ⟨h.owned, ?_, rfl⟩
      rw [hend.sequence, hvisible]
      rfl
    · rw [h.shown, hvisible, List.getLast?_concat]
      refine FileDegradedPublisherStateStore.reconciledState_some.mpr ⟨h.owned,
        h.trusted publication (by simp [hvisible]), .inl ⟨⟨?_, ?_⟩, rfl⟩⟩
      · rw [hend.sequence, hvisible, lastSequence_concat]
      · rw [hend.digest, hvisible, lastHash_append_singleton]
  · refine ⟨s.state.adopt publication ⟨hfollows.newer, hfollows.allocated⟩, ?_, ?_⟩
    · rw [h.shown, hvisible, List.getLast?_concat]
      exact FileDegradedPublisherStateStore.reconciledState_some.mpr ⟨h.owned,
        h.trusted publication (by simp [hvisible]), .inr ⟨hfollows, rfl⟩⟩
    · rw [hvisible]
      exact ⟨by rw [lastSequence_concat]; rfl, by rw [lastHash_append_singleton]; rfl⟩

/-- The state after a reconciliation, with more of it allocated. -/
theorem InStep.atEnd (h : s.InStep credential) {state : DegradedPublisherState}
    (howned : state.Matches credential) (hend : state.AtEnd s.visible) :
    InStep credential { s with state := state } :=
  ⟨howned, h.shown, h.trusted, h.chained, .inl hend⟩

/-- `allocate` on what the sink shows. -/
theorem InStep.allocate (h : s.InStep credential) (outcome : MutateOutcome)
    (statusInput : DegradedStatusInput) :
    InStep credential { s with
      state := (mutateState outcome (FileDegradedPublisherStateStore.allocate s.sink credential
        statusInput) s.state).2 } ∧
    ∀ sequence previousDigest,
      (mutateState outcome (FileDegradedPublisherStateStore.allocate s.sink credential statusInput)
        s.state).1 = some (sequence, previousDigest) →
      ∃ state, state = (mutateState outcome (FileDegradedPublisherStateStore.allocate s.sink
        credential statusInput) s.state).2 ∧ state.AtEnd s.visible ∧
        state.latestPublishedSequence < sequence ∧ sequence ≤ state.highestAllocatedSequence ∧
        previousDigest = state.latestPublicationSha256 := by
  obtain ⟨reconciled, hreconciled, hend⟩ := h.reconciled
  rcases mutateState_cases outcome
      (FileDegradedPublisherStateStore.allocate s.sink credential statusInput) s.state with
    heq | ⟨updated, result, hallocate, hcases⟩
  · rw [heq]
    exact ⟨h, by simp⟩
  · obtain ⟨other, hother, -, hresult⟩ :=
      FileDegradedPublisherStateStore.allocate_eq_ok.mp hallocate
    obtain rfl : reconciled = other := Except.ok.inj (hreconciled.symm.trans hother)
    obtain ⟨rfl, rfl⟩ := Prod.mk.inj hresult
    have howned := (FileDegradedPublisherStateStore.reconciledState_keeps hreconciled).1
    have hstep : InStep credential { s with state := reconciled.allocateNext statusInput } :=
      h.atEnd howned ⟨hend.sequence, hend.digest⟩
    rcases hcases with heq | heq
    · rw [heq]
      refine ⟨hstep, ?_⟩
      intro sequence previousDigest hreply
      obtain ⟨rfl, rfl⟩ := Prod.mk.inj (Option.some.inj hreply)
      refine ⟨_, rfl, ⟨hend.sequence, hend.digest⟩, ?_, le_refl _, rfl⟩
      exact Nat.lt_succ_of_le reconciled.publishedAllocated
    · rw [heq]
      exact ⟨hstep, by simp⟩

/-- The sink is replaced by a publication that follows the end of the chain. -/
theorem InStep.replace (h : s.InStep credential) (hend : s.state.AtEnd s.visible)
    {publication : DegradedRuntimePublication} (hfollows : s.state.Follows publication)
    (htrusted : publication.trustedBy credential = true) :
    (s.replace publication).InStep credential where
  owned := h.owned
  shown := by simp [PublicationFiles.replace]
  trusted := by
    intro other hother
    rcases List.mem_append.mp hother with hearlier | hlast
    · exact h.trusted other hearlier
    · rw [List.mem_singleton.mp hlast]
      exact htrusted
  chained := h.chained.concat hend hfollows
  position := .inr ⟨s.visible, publication, rfl, hend, hfollows⟩

/-- `commit` of what the sink shows. -/
theorem InStep.commit (h : s.InStep credential) (outcome : MutateOutcome)
    {publication : DegradedRuntimePublication} (hsink : s.sink = some publication) :
    InStep credential { s with
      state := (mutateState outcome (FileDegradedPublisherStateStore.commit publication credential)
        s.state).2 } := by
  obtain ⟨reconciled, hreconciled, hend⟩ := h.reconciled
  rw [hsink] at hreconciled
  rcases mutateState_cases outcome
      (FileDegradedPublisherStateStore.commit publication credential) s.state with
    heq | ⟨updated, result, hcommit, hcases⟩
  · rw [heq]
    exact h
  · obtain ⟨other, hother, hresult⟩ := FileDegradedPublisherStateStore.commit_eq_ok.mp hcommit
    obtain rfl : reconciled = other := Except.ok.inj (hreconciled.symm.trans hother)
    obtain ⟨rfl, rfl⟩ := Prod.mk.inj hresult
    have hstep := h.atEnd (FileDegradedPublisherStateStore.reconciledState_keeps hreconciled).1 hend
    rcases hcases with heq | heq
    · rw [heq]
      exact hstep
    · rw [heq]
      exact hstep

end PublicationFiles

/-! ## The processes -/

/-- The two processes. -/
inductive StreamParty where
  | publisher
  | consumer
  deriving DecidableEq

/-- The publisher's files and the consumer's state. -/
structure StreamState where
  files : PublicationFiles
  consumer : DegradedConsumerState

/-- An action of a gate: it samples the published file, and runs its call on what it sampled. -/
inductive ConsumerAct where
  | sample
  | settle (call : GateCall)

def ConsumerAct.Reply : ConsumerAct → Type
  | .sample => SourceAnswer DegradedRuntimePublication
  | .settle _ => Unit

/-- A call of a gate whose publication source reads the published file. -/
def consult (call : GateCall) : Program ConsumerAct ConsumerAct.Reply String Unit := do
  let publication ← Program.call ConsumerAct.sample
  Program.call (ConsumerAct.settle
    { call with inputs := { call.inputs with publication := publication } })

/-- An action of either process. -/
abbrev StreamAct := PublisherAct ⊕ ConsumerAct

abbrev StreamReply : StreamAct → Type := Sum.elim PublisherAct.Reply ConsumerAct.Reply

namespace StreamState

/-- What a consumer's action does. -/
inductive Consult (s : StreamState) :
    (action : ConsumerAct) → action.Reply → StreamState → Prop where
  | sampled (publication : DegradedRuntimePublication) (hsink : s.files.sink = some publication) :
      Consult s .sample (SourceAnswer.value publication) s
  | unavailable :
      Consult s .sample (SourceAnswer.raised : SourceAnswer DegradedRuntimePublication) s
  | settled (call : GateCall) :
      Consult s (.settle call) () { s with consumer := call.stateAfter s.consumer }

/-- What an action does to the state. -/
def Perform (s : StreamState) : (action : StreamAct) → StreamReply action → StreamState → Prop
  | .inl action, reply, s' => s.files.Perform action reply s'.files ∧ s'.consumer = s.consumer
  | .inr action, reply, s' => s.Consult action reply s'

/-- The state when nothing fails. -/
def answer (s : StreamState) : (action : StreamAct) → StreamReply action × StreamState
  | .inl action => ((s.files.answer action).1, { s with files := (s.files.answer action).2 })
  | .inr .sample =>
      (match s.files.sink with
        | some publication => SourceAnswer.value publication
        | none => SourceAnswer.raised, s)
  | .inr (.settle call) => ((), { s with consumer := call.stateAfter s.consumer })

theorem perform_answer (s : StreamState) (action : StreamAct) :
    s.Perform action (s.answer action).1 (s.answer action).2 := by
  rcases action with action | action
  · exact ⟨s.files.perform_answer action, rfl⟩
  · cases action with
    | sample =>
      unfold Perform answer
      cases hsink : s.files.sink with
      | some publication => exact .sampled publication hsink
      | none => exact .unavailable
    | settle call => exact .settled call

/-- Both stores as their `initialize` writes them, and no publication yet. -/
def initial (credential : DegradedPublisherCredential) : StreamState where
  files := ⟨.initial credential, none, []⟩
  consumer := .initial credential

end StreamState

/-! ## What holds between them -/

/-- What a publisher's action needs of the files. -/
def PublicationFiles.Allows (credential : DegradedPublisherCredential) (s : PublicationFiles) :
    PublisherAct → Prop
  | .readSink => True
  | .allocate currentPublication other _ => currentPublication = s.sink ∧ other = credential
  | .publish publication =>
      s.state.AtEnd s.visible ∧ s.state.Follows publication ∧
        publication.trustedBy credential = true
  | .commit publication other => s.sink = some publication ∧ other = credential

/-- What a consumer's action needs: a sampled publication was visible and is not behind the
    floor. -/
def StreamState.Allows (s : StreamState) : ConsumerAct → Prop
  | .sample => True
  | .settle call => ∀ publication, call.inputs.publication = .value publication →
      publication ∈ s.files.visible ∧
        s.consumer.highestPublicationSequence ≤ publication.sequence

/-- An allowed action keeps the files in step, and only adds to what was visible. -/
theorem PublicationFiles.InStep.act {credential : DegradedPublisherCredential}
    {s s' : PublicationFiles} (h : s.InStep credential) {action : PublisherAct}
    {reply : action.Reply} (hallowed : s.Allows credential action)
    (hperform : s.Perform action reply s') :
    s'.InStep credential ∧ s.visible <+: s'.visible := by
  cases hperform with
  | read => exact ⟨h, List.prefix_refl _⟩
  | unreadable => exact ⟨h, List.prefix_refl _⟩
  | allocate outcome currentPublication other statusInput =>
    obtain ⟨rfl, rfl⟩ := hallowed
    exact ⟨(h.allocate outcome statusInput).1, List.prefix_refl _⟩
  | published publication returned =>
    obtain ⟨hend, hfollows, htrusted⟩ := hallowed
    exact ⟨h.replace hend hfollows htrusted, List.prefix_append _ _⟩
  | unpublished publication => exact ⟨h, List.prefix_refl _⟩
  | commit outcome publication other =>
    obtain ⟨hsink, rfl⟩ := hallowed
    exact ⟨h.commit outcome hsink, List.prefix_refl _⟩

/-- The floor stays in the chain, whatever a gate is asked to do with a sampled publication. -/
theorem StreamState.consult_floor {s s' : StreamState}
    (h : s.consumer.FloorIn s.files.visible) {action : ConsumerAct} {reply : action.Reply}
    (hallowed : s.Allows action) (hperform : s.Consult action reply s') :
    s'.files = s.files ∧ s'.consumer.FloorIn s'.files.visible := by
  cases hperform with
  | sampled publication hsink => exact ⟨rfl, h⟩
  | unavailable => exact ⟨rfl, h⟩
  | settled call =>
    refine ⟨rfl, ?_⟩
    rcases call.stateAfter_floor s.consumer with hsame | ⟨publication, hsampled, hraised⟩
    · unfold DegradedConsumerState.FloorIn at h ⊢
      rw [hsame]
      exact h
    · exact .inr ⟨publication, (hallowed publication hsampled).1, hraised⟩

/-- What is promised for the two processes. -/
def streamDiscipline (credential : DegradedPublisherCredential) :
    Interleaving.Discipline StreamParty StreamState StreamAct (PublisherInputs × GateCall) String
      Unit where
  invariant s := s.files.InStep credential ∧ s.consumer.FloorIn s.files.visible
  advances s s' := s.files.visible <+: s'.files.visible
  rely
    | .publisher, s, s' => s'.files = s.files
    | .consumer, s, s' => s'.consumer = s.consumer ∧ s.files.visible <+: s'.files.visible
  allowed
    | .publisher, s, .inl action => s.files.Allows credential action
    | .consumer, s, .inr action => s.Allows action
    | _, _, _ => False
  idle _ _ := True
  post _ _ _ _ _ := True

end

section

variable [PublicationSigning]

/-- The publisher and the gates of one consumer, each with its calls one after another. Dying leaves
    the files as they are. -/
def streamProcesses (publisher : DegradedPublicationPublisher) :
    Interleaving.Processes StreamParty StreamState StreamAct StreamReply
      (PublisherInputs × GateCall) String Unit where
  program
    | .publisher, (inputs, _) => (do
        let _ ← publisher.publishOnce inputs
        pure ()).left
    | .consumer, (_, call) => (consult call).right
  perform _ s := s.Perform
  crash _ s s' := s' = s

/-! ## The publisher's call -/

section

variable {publisher : DegradedPublicationPublisher} {s : StreamState}

/-- What the publisher's call counts on and must respect. -/
abbrev publisherContract (publisher : DegradedPublicationPublisher) :
    Program.Contract StreamState PublisherAct PublisherAct.Reply :=
  ((streamDiscipline publisher.credential).contract (streamProcesses publisher) .publisher).left

theorem guarded_readSink :
    readSink.Guarded (publisherContract publisher) (Program.Returns fun current s =>
      ∀ publication, current = some publication → publication = s.files.sink) s := by
  intro s₁ _ _
  refine ⟨trivial, ?_⟩
  rintro reply s' ⟨hperform, -⟩ _
  intro publication hreply
  obtain rfl : reply = some publication := hreply
  generalize hfiles : s'.files = files at hperform ⊢
  cases hperform
  rfl

/-- The publication that the call is going to make fits the end of the chain. -/
def Allocated (allocated : Option (Nat × Option Sha256)) (s : StreamState) : Prop :=
  ∀ sequence previousDigest, allocated = some (sequence, previousDigest) →
    s.files.state.AtEnd s.files.visible ∧ s.files.state.latestPublishedSequence < sequence ∧
      sequence ≤ s.files.state.highestAllocatedSequence ∧
      previousDigest = s.files.state.latestPublicationSha256

theorem guarded_allocateNext {current : Option DegradedRuntimePublication}
    (hcurrent : current = s.files.sink) (statusInput : DegradedStatusInput) :
    (allocateNext current publisher.credential statusInput).Guarded (publisherContract publisher)
      (Program.Returns Allocated) s := by
  intro s₁ hrely hinvariant
  have hsink : current = s₁.files.sink := by
    have hsame : s₁.files = s.files := hrely
    rw [hcurrent, hsame]
  refine ⟨⟨hsink, rfl⟩, ?_⟩
  rintro reply s' ⟨hperform, -⟩ _
  generalize hfiles : s'.files = files at hperform
  cases hperform with
  | allocate outcome =>
    intro sequence previousDigest hreply
    rw [hsink] at hreply hfiles
    obtain ⟨state, hstate, hend, hnewer, hallocated, hprevious⟩ :=
      (hinvariant.1.allocate outcome statusInput).2 sequence previousDigest hreply
    rw [hfiles, ← hstate]
    exact ⟨hend, hnewer, hallocated, hprevious⟩

theorem guarded_publishToSink {publication : DegradedRuntimePublication}
    (hend : s.files.state.AtEnd s.files.visible) (hfollows : s.files.state.Follows publication)
    (htrusted : publication.trustedBy publisher.credential = true) :
    (publishToSink publication).Guarded (publisherContract publisher)
      (Program.Returns fun published s => published = true → s.files.sink = some publication)
      s := by
  intro s₁ hrely _
  have hsame : s₁.files = s.files := hrely
  refine ⟨?_, ?_⟩
  · change s₁.files.Allows publisher.credential (.publish publication)
    rw [hsame]
    exact ⟨hend, hfollows, htrusted⟩
  · rintro reply s' ⟨hperform, -⟩ _
    generalize hfiles : s'.files = files at hperform
    cases hperform with
    | published returned =>
      intro _
      rw [hfiles]
      rfl
    | unpublished =>
      intro hreturned
      cases hreturned

theorem guarded_commitState {publication : DegradedRuntimePublication}
    (hsink : s.files.sink = some publication) :
    (commitState publication publisher.credential).Guarded (publisherContract publisher)
      (Program.Returns fun _ _ => True) s := by
  intro s₁ hrely _
  have hsame : s₁.files = s.files := hrely
  refine ⟨⟨?_, rfl⟩, fun _ _ _ _ => trivial⟩
  rw [hsame]
  exact hsink

theorem guarded_publishOnce (hsign : PublicationSignaturesVerify) (inputs : PublisherInputs) :
    (publisher.publishOnce inputs).Guarded (publisherContract publisher)
      (Program.Returns fun _ _ => True) s := by
  apply Program.guarded_result_bind
  rintro ⟨now, statusInput, authorization⟩ -
  apply Program.guarded_returns_bind guarded_readSink
  intro current s₁ hcurrent
  apply Program.guarded_result_bind
  intro current' hread
  apply Program.guarded_returns_bind
    (guarded_allocateNext (hcurrent current' (orRaise_eq_ok.mp hread)) statusInput)
  intro allocated s₂ hallocated
  apply Program.guarded_result_bind
  rintro ⟨sequence, previousDigest⟩ hreply
  obtain ⟨hend, hnewer, hbelow, hprevious⟩ :=
    hallocated sequence previousDigest (orRaise_eq_ok.mp hreply)
  apply Program.guarded_returns_bind (guarded_publishToSink hend ⟨hnewer, hbelow, hprevious⟩
    (publisher.publication_trusted inputs now statusInput authorization sequence previousDigest
      hsign))
  intro published s₃ hpublished
  apply Program.guarded_require_bind
  intro hreturned
  have hsink := hpublished (Bool.eq_true_of_not_eq_false hreturned)
  apply Program.guarded_returns_bind (guarded_commitState hsink)
  intro committed s₄ _
  apply Program.guarded_require_bind
  intro _
  trivial

end

/-! ## The consumer's call -/

theorem guarded_consult {publisher : DegradedPublicationPublisher} {s : StreamState}
    (call : GateCall) :
    (consult call).Guarded ((streamDiscipline publisher.credential).contract
      (streamProcesses publisher) .consumer).right (Program.Returns fun _ _ => True) s := by
  intro s₁ _ hinvariant
  refine ⟨trivial, ?_⟩
  intro reply s₂ hsampled _ s₃ hrely _
  refine ⟨?_, fun _ _ _ _ => trivial⟩
  intro publication hreply
  obtain ⟨hconsumer, hgrown⟩ : s₃.consumer = s₂.consumer ∧
    s₂.files.visible <+: s₃.files.visible := hrely
  have hsampled : s₁.Consult .sample reply s₂ := hsampled
  obtain rfl : reply = .value publication := hreply
  cases hsampled with
  | sampled _ hsink =>
    obtain ⟨⟨-, hshown, -, hchained, -⟩, hfloor⟩ := hinvariant
    have hlast : s₁.files.visible.getLast? = some publication := hshown.symm.trans hsink
    obtain ⟨earlier, hvisible⟩ := List.getLast?_eq_some_iff.mp hlast
    refine ⟨hgrown.subset (by simp [hvisible]), ?_⟩
    rw [hconsumer]
    rcases hfloor with hzero | ⟨floor, hmem, hfloor⟩
    · have hzero : s₁.consumer.highestPublicationSequence = 0 := hzero
      omega
    · have hsequence : s₁.consumer.highestPublicationSequence = floor.sequence :=
        (Prod.mk.inj hfloor).1
      have hbelow := hchained.le_lastSequence hmem
      rw [hvisible, lastSequence_concat] at hbelow
      rw [hsequence]
      exact hbelow

/-! ## Runs -/

theorem sound_stream (hsign : PublicationSignaturesVerify)
    (publisher : DegradedPublicationPublisher) :
    Interleaving.Sound (streamProcesses publisher) (streamDiscipline publisher.credential) where
  advances_refl s := List.prefix_refl _
  advances_trans h h' := h.trans h'
  rely_refl := by
    intro i s
    cases i with
    | publisher => rfl
    | consumer => exact ⟨rfl, List.prefix_refl _⟩
  rely_trans := by
    intro i s s₁ s₂ h h'
    cases i with
    | publisher => exact Eq.trans h' h
    | consumer => exact ⟨h'.1.trans h.1, h.2.trans h'.2⟩
  act := by
    intro i s action reply s' hinvariant hallowed hperform
    obtain ⟨hfiles, hfloor⟩ := hinvariant
    cases i with
    | publisher =>
      cases action with
      | inr action => exact hallowed.elim
      | inl action =>
        obtain ⟨hact, hconsumer⟩ := hperform
        obtain ⟨hinStep, hgrown⟩ := hfiles.act hallowed hact
        refine ⟨⟨hinStep, ?_⟩, hgrown, ?_⟩
        · rw [hconsumer]
          exact hfloor.mono hgrown
        · intro j hj
          cases j with
          | publisher => exact absurd rfl hj
          | consumer => exact ⟨hconsumer, hgrown⟩
    | consumer =>
      cases action with
      | inl action => exact hallowed.elim
      | inr action =>
        obtain ⟨hsame, hfloor'⟩ := StreamState.consult_floor hfloor hallowed hperform
        refine ⟨⟨by rw [hsame]; exact hfiles, hfloor'⟩, ?_, ?_⟩
        · change s.files.visible <+: s'.files.visible
          rw [hsame]
        · intro j hj
          cases j with
          | publisher => exact hsame
          | consumer => exact absurd rfl hj
  crash := by
    intro i s s' hinvariant hcrash
    obtain rfl : s' = s := hcrash
    refine ⟨hinvariant, List.prefix_refl _, trivial, ?_⟩
    intro j _
    cases j with
    | publisher => rfl
    | consumer => exact ⟨rfl, List.prefix_refl _⟩
  idle_stable _ _ := trivial
  post_stable _ _ := trivial
  idle_of_post _ := trivial
  begin := by
    rintro i s ⟨inputs, call⟩ _ _
    cases i with
    | publisher =>
      have hcall : (publisher.publishOnce inputs >>= fun _ => pure ()).Guarded
          (publisherContract publisher) (Program.Returns fun _ _ => True) s := by
        apply Program.guarded_returns_bind (guarded_publishOnce hsign inputs)
        intro publication s' _
        trivial
      exact Program.guarded_left.mpr (Program.guarded_mono (fun _ _ _ => trivial) hcall)
    | consumer =>
      exact Program.guarded_right.mpr
        (Program.guarded_mono (fun _ _ _ => trivial) (guarded_consult call))

end

namespace PublicationSample

/-- A signature is the public key of its signer, which names the private key. -/
scoped instance samplePublicationSigning : PublicationSigning :=
  { samplePublicationPrimitives with
    publicKeyOf := fun privateKey => "publisher-" ++ privateKey
    signPublication := fun privateKey _ => "publisher-" ++ privateKey }

theorem publicationSignaturesVerify : PublicationSignaturesVerify := by
  intro privateKey unsigned
  refine ⟨?_, decide_eq_true rfl⟩
  intro hempty
  have hlength := congrArg String.length hempty
  simp [PublicationSigning.signPublication] at hlength

def publisher : DegradedPublicationPublisher where
  authorityPublicKey := "root-key"
  credential := credential
  publisherPrivateKey := "key"
  credentialVerified := by decide
  keysMatch := rfl
  publisherKey := rfl

/-- A status input and the lease of the same number. -/
def publishing (sequence : Nat) : PublisherInputs where
  now := .aware second
  statusInput := .value
    { statusInputId := "status-input-0001"
      sequence := sequence
      sourceId := "health-source-1"
      observedAt := second
      expiresAt := 20 * second
      roleConditions := fun _ => .healthy
      communicationConditions := managementLost
      unresolvedEffect := false
      operatorAssertedNotDetected := true }
  authorization := .value (authorization sequence)
  snapshotToken := "01"
  publicationToken := "01"

/-- A gate that is ready for the first lease. -/
def probing : GateCall where
  gate := gate 1
  request := .readiness
  inputs := PublishedDegradedOperationGate.answering (publication 1) none second
  store := .returned

/-- The publisher makes one publication and begins the next one; the gate samples the first. -/
def sampledStream : Interleaving.World StreamParty StreamState StreamAct StreamReply
    (PublisherInputs × GateCall) String Unit :=
  ([.publisher, .publisher, .publisher, .publisher, .publisher, .publisher, .consumer, .consumer,
    .publisher, .publisher] : List StreamParty).foldl
    (Interleaving.World.turn (fun _ => StreamState.answer) (streamProcesses publisher)
      (fun _ => (publishing 1, probing)))
    (.quiet (.initial publisher.credential))

end PublicationSample

end AegisOt
