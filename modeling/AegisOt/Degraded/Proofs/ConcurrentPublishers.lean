import AegisOt.Degraded.Proofs.PublicationStream

/-!
# Several publishers of one stream

Any number of `publish_once` calls over one state store and one sink. The state lock orders
allocations and commits, but not the replacement of the sink between them: a call may replace the
publication that another one commits, and then no later call can reconcile. While every step that
takes effect is in its place (`InPlace`), the files stay reconcilable and a further call succeeds.
-/

namespace AegisOt

section

variable [PublicationPrimitives]

/-- What the action carries belongs to the credential. -/
def PublisherAct.Belongs (credential : DegradedPublisherCredential) :
    PublisherAct → Prop
  | .readSink => True
  | .allocate _ other _ => other = credential
  | .publish publication => publication.trustedBy credential = true
  | .commit _ other => other = credential

namespace PublicationFiles

/-- A further call can reconcile the sink with the state. -/
def Reconcilable (credential : DegradedPublisherCredential) (s : PublicationFiles) : Prop :=
  ∃ reconciled, FileDegradedPublisherStateStore.reconciledState s.state s.sink credential =
    .ok reconciled

/-- The sink shows the publication. -/
def Shows (s : PublicationFiles) (publication : DegradedRuntimePublication) : Prop :=
  ∃ shown ∈ s.sink, shown.sequence = publication.sequence ∧ shown.digest = publication.digest

instance (s : PublicationFiles) (publication : DegradedRuntimePublication) :
    Decidable (s.Shows publication) := by
  unfold Shows
  cases s.sink with
  | none => exact isFalse (by simp)
  | some shown =>
    exact decidable_of_iff
      (shown.sequence = publication.sequence ∧ shown.digest = publication.digest) (by simp)

instance (state : DegradedPublisherState) (publication : DegradedRuntimePublication) :
    Decidable (state.Follows publication) :=
  decidable_of_iff (state.latestPublishedSequence < publication.sequence ∧
    publication.sequence ≤ state.highestAllocatedSequence ∧
    publication.previousPublicationSha256 = state.latestPublicationSha256)
    ⟨fun ⟨h, h', h''⟩ => ⟨h, h', h''⟩, fun ⟨h, h', h''⟩ => ⟨h, h', h''⟩⟩

/-- The sink takes only a publication that follows the latest one of the state, and the state
    adopts only a publication that the sink shows. -/
def InPlace (s : PublicationFiles) : PublisherAct → Prop
  | .readSink => True
  | .allocate none _ _ => True
  | .allocate (some publication) _ _ => s.state.Follows publication → s.Shows publication
  | .publish publication => s.state.Follows publication
  | .commit publication _ => s.state.Follows publication → s.Shows publication

instance (s : PublicationFiles) (action : PublisherAct) : Decidable (s.InPlace action) := by
  unfold InPlace
  split <;> infer_instance

variable {credential : DegradedPublisherCredential} {s s' : PublicationFiles}

/-- More of the state is allocated, and nothing else of it changes. -/
theorem Reconcilable.allocateNext (h : s.Reconcilable credential)
    (statusInput : DegradedStatusInput) :
    Reconcilable credential { s with state := s.state.allocateNext statusInput } := by
  obtain ⟨reconciled, h⟩ := h
  unfold Reconcilable
  dsimp only
  cases hsink : s.sink with
  | none =>
    rw [hsink] at h
    obtain ⟨howned, hzero, -⟩ := FileDegradedPublisherStateStore.reconciledState_none.mp h
    exact ⟨_, FileDegradedPublisherStateStore.reconciledState_none.mpr ⟨howned, hzero, rfl⟩⟩
  | some publication =>
    rw [hsink] at h
    obtain ⟨howned, htrusted, ⟨hcommitted, -⟩ | ⟨hfollows, -⟩⟩ :=
      FileDegradedPublisherStateStore.reconciledState_some.mp h
    · exact ⟨_, FileDegradedPublisherStateStore.reconciledState_some.mpr
        ⟨howned, htrusted, .inl ⟨⟨hcommitted.sequence, hcommitted.digest⟩, rfl⟩⟩⟩
    · exact ⟨_, FileDegradedPublisherStateStore.reconciledState_some.mpr
        ⟨howned, htrusted, .inr ⟨⟨hfollows.newer, hfollows.allocated.trans (Nat.le_succ _),
          hfollows.predecessor⟩, rfl⟩⟩⟩

/-- The state adopts a publication only while the sink shows it. -/
theorem Reconcilable.adopt (h : s.Reconcilable credential)
    {publication : DegradedRuntimePublication} {updated : DegradedPublisherState}
    (hinPlace : s.state.Follows publication → s.Shows publication)
    (hupdated : FileDegradedPublisherStateStore.reconciledState s.state (some publication)
      credential = .ok updated) : Reconcilable credential { s with state := updated } := by
  obtain ⟨howned, -, ⟨-, rfl⟩ | ⟨hfollows, rfl⟩⟩ :=
    FileDegradedPublisherStateStore.reconciledState_some.mp hupdated
  · exact h
  · obtain ⟨shown, hshown, hsequence, hdigest⟩ := hinPlace hfollows
    have hsink : s.sink = some shown := hshown
    obtain ⟨reconciled, hreconciled⟩ := h
    rw [hsink] at hreconciled
    obtain ⟨-, htrusted, -⟩ := FileDegradedPublisherStateStore.reconciledState_some.mp hreconciled
    refine ⟨s.state.adopt publication ⟨hfollows.newer, hfollows.allocated⟩, ?_⟩
    dsimp only
    rw [hsink]
    exact FileDegradedPublisherStateStore.reconciledState_some.mpr
      ⟨howned, htrusted, .inl ⟨⟨hsequence, congrArg some hdigest⟩, rfl⟩⟩

/-- A step in its place keeps the files reconcilable. -/
theorem Reconcilable.act (h : s.Reconcilable credential) {action : PublisherAct}
    {reply : action.Reply} (hbelongs : action.Belongs credential) (hinPlace : s.InPlace action)
    (hperform : s.Perform action reply s') : s'.Reconcilable credential := by
  cases hperform with
  | read => exact h
  | unreadable => exact h
  | unpublished => exact h
  | allocate outcome current other statusInput =>
    obtain rfl : other = credential := hbelongs
    rcases mutateState_cases outcome
        (FileDegradedPublisherStateStore.allocate current other statusInput) s.state with
      heq | ⟨updated, result, hallocate, hcases⟩
    · rw [heq]
      exact h
    · obtain ⟨reconciled, hreconciled, -, hresult⟩ :=
        FileDegradedPublisherStateStore.allocate_eq_ok.mp hallocate
      obtain ⟨rfl, rfl⟩ := Prod.mk.inj hresult
      have hadopted : Reconcilable other { s with state := reconciled } := by
        cases current with
        | none =>
          obtain ⟨-, -, rfl⟩ := FileDegradedPublisherStateStore.reconciledState_none.mp hreconciled
          exact h
        | some publication => exact h.adopt hinPlace hreconciled
      have hnext := hadopted.allocateNext statusInput
      rcases hcases with heq | heq
      · rw [heq]
        exact hnext
      · rw [heq]
        exact hnext
  | published publication returned =>
    obtain ⟨reconciled, hreconciled⟩ := h
    have howned : s.state.Matches credential := by
      cases hsink : s.sink with
      | none =>
        rw [hsink] at hreconciled
        exact (FileDegradedPublisherStateStore.reconciledState_none.mp hreconciled).1
      | some shown =>
        rw [hsink] at hreconciled
        exact (FileDegradedPublisherStateStore.reconciledState_some.mp hreconciled).1
    exact ⟨_, FileDegradedPublisherStateStore.reconciledState_some.mpr
      ⟨howned, hbelongs, .inr ⟨hinPlace, rfl⟩⟩⟩
  | commit outcome publication other =>
    obtain rfl : other = credential := hbelongs
    rcases mutateState_cases outcome
        (FileDegradedPublisherStateStore.commit publication other) s.state with
      heq | ⟨updated, result, hcommit, hcases⟩
    · rw [heq]
      exact h
    · obtain ⟨reconciled, hreconciled, hresult⟩ :=
        FileDegradedPublisherStateStore.commit_eq_ok.mp hcommit
      obtain ⟨rfl, rfl⟩ := Prod.mk.inj hresult
      have hadopted := h.adopt hinPlace hreconciled
      rcases hcases with heq | heq
      · rw [heq]
        exact hadopted
      · rw [heq]
        exact hadopted

theorem reconcilable_initial (credential : DegradedPublisherCredential) :
    Reconcilable credential ⟨.initial credential, none, []⟩ :=
  ⟨_, FileDegradedPublisherStateStore.reconciledState_none.mpr ⟨⟨rfl, rfl, rfl⟩, rfl, rfl⟩⟩

/-- What a failing action answers. -/
def failed : (action : PublisherAct) → action.Reply
  | .readSink => (none : Option (Option DegradedRuntimePublication))
  | .allocate _ _ _ => (none : Option (Nat × Option Sha256))
  | .publish _ => false
  | .commit _ _ => false

/-- The files when only steps in their place take effect. -/
def inPlaceAnswer (s : PublicationFiles) (action : PublisherAct) :
    action.Reply × PublicationFiles :=
  if s.InPlace action then s.answer action else (failed action, s)

theorem perform_inPlaceAnswer (s : PublicationFiles) (action : PublisherAct) :
    s.Perform action (s.inPlaceAnswer action).1 (s.inPlaceAnswer action).2 ∧
      (s.InPlace action ∨ (s.inPlaceAnswer action).2 = s) := by
  unfold inPlaceAnswer
  by_cases hinPlace : s.InPlace action
  · rw [if_pos hinPlace]
    exact ⟨s.perform_answer action, .inl hinPlace⟩
  · rw [if_neg hinPlace]
    refine ⟨?_, .inr rfl⟩
    cases action with
    | readSink => exact .unreadable
    | allocate current credential statusInput => exact .allocate (.raised false) _ _ _
    | publish publication => exact .unpublished _
    | commit publication credential => exact .commit (.raised false) _ _

end PublicationFiles

end

section

variable [PublicationSigning]

/-! ## The processes -/

variable {ι : Type}

/-- Publishers of one stream; dying leaves the files as they are. -/
def publisherProcesses (publishers : ι → DegradedPublicationPublisher) :
    Interleaving.Processes ι PublicationFiles PublisherAct PublisherAct.Reply PublisherInputs String
      DegradedRuntimePublication where
  program i inputs := (publishers i).publishOnce inputs
  perform _ s := s.Perform
  crash _ s s' := s' = s

/-- The same publishers, when every step that takes effect is in its place. -/
def inPlaceProcesses (publishers : ι → DegradedPublicationPublisher) :
    Interleaving.Processes ι PublicationFiles PublisherAct PublisherAct.Reply PublisherInputs String
      DegradedRuntimePublication :=
  { publisherProcesses publishers with
    perform := fun _ s action reply s' => s.Perform action reply s' ∧ (s.InPlace action ∨ s' = s) }

namespace DegradedPublicationPublisher

variable (publisher : DegradedPublicationPublisher)

theorem uses_publishOnce (hsign : PublicationSignaturesVerify) (inputs : PublisherInputs) :
    (publisher.publishOnce inputs).Uses (fun action => action.Belongs publisher.credential) := by
  apply Program.uses_bind (Program.uses_result _)
  rintro ⟨now, statusInput, authorization⟩
  apply Program.uses_bind ((Program.uses_call _).mpr trivial)
  intro current
  apply Program.uses_bind (Program.uses_result _)
  intro current
  apply Program.uses_bind
  · exact (Program.uses_call _).mpr rfl
  intro allocated
  apply Program.uses_bind (Program.uses_result _)
  rintro ⟨sequence, previousDigest⟩
  apply Program.uses_bind
  · exact (Program.uses_call _).mpr (publisher.publication_trusted inputs now statusInput
      authorization sequence previousDigest hsign)
  intro published
  apply Program.uses_bind (Program.uses_require _ _)
  intro _
  apply Program.uses_bind
  · exact (Program.uses_call _).mpr rfl
  intro committed
  exact Program.uses_bind (Program.uses_require _ _) (fun _ => Program.uses_pure _)

/-- The inputs pass every check before the files are touched, and their status is not behind. -/
def ValidInputs (inputs : PublisherInputs) (s : PublicationFiles) : Prop :=
  ∃ now statusInput authorization,
    publisher.checkInputs inputs = .ok (now, statusInput, authorization) ∧
      FileDegradedPublisherStateStore.AcceptsStatus s.state statusInput

variable {publisher} {inputs : PublisherInputs} {s : PublicationFiles}

section

variable {current : Option DegradedRuntimePublication} {credential : DegradedPublisherCredential}
  {statusInput : DegradedStatusInput} {publication : DegradedRuntimePublication}
  {updated : DegradedPublisherState} {sequence : Nat} {previousDigest : Option Sha256}

theorem exec_readSink :
    Interleaving.exec PublicationFiles.answer readSink s = (.ok (some s.sink), s) := rfl

theorem exec_allocateNext (h : FileDegradedPublisherStateStore.allocate current credential
    statusInput s.state = .ok (updated, sequence, previousDigest)) :
    Interleaving.exec PublicationFiles.answer (allocateNext current credential statusInput) s =
      (.ok (some (sequence, previousDigest)), { s with state := updated }) := by
  have hmutate : mutateState .returned
      (FileDegradedPublisherStateStore.allocate current credential statusInput) s.state =
        (some (sequence, previousDigest), updated) := by
    simp [mutateState, h]
  change (Except.ok (mutateState .returned _ s.state).1,
    { s with state := (mutateState .returned _ s.state).2 }) = _
  rw [hmutate]

theorem exec_allocateNext_refused (h : ∀ result, FileDegradedPublisherStateStore.allocate current
    credential statusInput s.state ≠ .ok result) :
    Interleaving.exec PublicationFiles.answer (allocateNext current credential statusInput) s =
      (.ok none, s) := by
  have hmutate : mutateState .returned
      (FileDegradedPublisherStateStore.allocate current credential statusInput) s.state =
        (none, s.state) := by
    unfold mutateState
    split
    · rename_i hallocate
      exact absurd hallocate (h _)
    · rename_i hraised _
      cases hraised
    · rfl
  change (Except.ok (mutateState .returned _ s.state).1,
    { s with state := (mutateState .returned _ s.state).2 }) = _
  rw [hmutate]

theorem exec_publishToSink :
    Interleaving.exec PublicationFiles.answer (publishToSink publication) s =
      (.ok true, s.replace publication) := rfl

theorem exec_commitState (h : FileDegradedPublisherStateStore.commit publication credential
    s.state = .ok (updated, updated)) :
    Interleaving.exec PublicationFiles.answer (commitState publication credential) s =
      (.ok true, { s with state := updated }) := by
  have hmutate : mutateState .returned
      (FileDegradedPublisherStateStore.commit publication credential) s.state =
        (some updated, updated) := by
    simp [mutateState, h]
  change (Except.ok (mutateState .returned _ s.state).1.isSome,
    { s with state := (mutateState .returned _ s.state).2 }) = _
  rw [hmutate]
  rfl

end

/-- From reconcilable files a call with valid inputs succeeds. -/
theorem publishOnce_succeeds (hsign : PublicationSignaturesVerify)
    (h : s.Reconcilable publisher.credential) (hvalid : publisher.ValidInputs inputs s) :
    ∃ publication, (Interleaving.exec PublicationFiles.answer (publisher.publishOnce inputs) s).1 =
      .ok publication := by
  obtain ⟨now, statusInput, authorization, hchecked, haccepts⟩ := hvalid
  obtain ⟨reconciled, hreconciled⟩ := h
  obtain ⟨howned, -, hstatus, hstatusDigest⟩ :=
    FileDegradedPublisherStateStore.reconciledState_keeps hreconciled
  have hallocate : FileDegradedPublisherStateStore.allocate s.sink publisher.credential statusInput
      s.state = .ok (reconciled.allocateNext statusInput, reconciled.highestAllocatedSequence + 1,
        reconciled.latestPublicationSha256) := by
    refine FileDegradedPublisherStateStore.allocate_eq_ok.mpr ⟨reconciled, hreconciled, ?_, rfl⟩
    unfold FileDegradedPublisherStateStore.AcceptsStatus at haccepts ⊢
    rw [hstatus, hstatusDigest]
    exact haccepts
  let publication := publisher.publication inputs now statusInput authorization
    (reconciled.highestAllocatedSequence + 1) reconciled.latestPublicationSha256
  have hfollows : (reconciled.allocateNext statusInput).Follows publication :=
    ⟨Nat.lt_succ_of_le reconciled.publishedAllocated, le_refl _, rfl⟩
  have hcommit : FileDegradedPublisherStateStore.commit publication publisher.credential
      (reconciled.allocateNext statusInput) =
        .ok ((reconciled.allocateNext statusInput).adopt publication ⟨hfollows.1, hfollows.2⟩,
          (reconciled.allocateNext statusInput).adopt publication ⟨hfollows.1, hfollows.2⟩) :=
    FileDegradedPublisherStateStore.commit_eq_ok.mpr
      ⟨_, FileDegradedPublisherStateStore.reconciledState_some.mpr ⟨howned,
        publisher.publication_trusted inputs now statusInput authorization _ _ hsign,
        .inr ⟨hfollows, rfl⟩⟩, rfl⟩
  refine ⟨publication, ?_⟩
  unfold publishOnce
  rw [Interleaving.exec_bind, Interleaving.exec_result, hchecked]
  dsimp only
  rw [Interleaving.exec_bind, exec_readSink]
  dsimp only
  rw [Interleaving.exec_bind, Interleaving.exec_result]
  dsimp only [orRaise]
  rw [Interleaving.exec_bind, exec_allocateNext hallocate]
  dsimp only
  rw [Interleaving.exec_bind, Interleaving.exec_result]
  dsimp only [orRaise]
  rw [Interleaving.exec_bind, exec_publishToSink]
  dsimp only
  rw [Interleaving.exec_bind, Interleaving.exec_require, if_neg Bool.true_eq_false.mp]
  dsimp only
  rw [Interleaving.exec_bind, exec_commitState hcommit]
  rfl

/-- From files that are not reconcilable every call fails. -/
theorem publishOnce_fails (h : ¬ s.Reconcilable publisher.credential) (inputs : PublisherInputs) :
    ∃ message, (Interleaving.exec PublicationFiles.answer (publisher.publishOnce inputs) s).1 =
      .error message := by
  unfold publishOnce
  rw [Interleaving.exec_bind, Interleaving.exec_result]
  cases hchecked : publisher.checkInputs inputs with
  | error message => exact ⟨message, rfl⟩
  | ok checked =>
    obtain ⟨now, statusInput, authorization⟩ := checked
    dsimp only
    rw [Interleaving.exec_bind, exec_readSink]
    dsimp only
    rw [Interleaving.exec_bind, Interleaving.exec_result]
    dsimp only [orRaise]
    refine ⟨"degraded state allocation failed", ?_⟩
    rw [Interleaving.exec_bind, exec_allocateNext_refused]
    · rfl
    · intro result hallocate
      obtain ⟨reconciled, hreconciled, -⟩ :=
        FileDegradedPublisherStateStore.allocate_eq_ok.mp hallocate
      exact h ⟨reconciled, hreconciled⟩

end DegradedPublicationPublisher

/-! ## Runs -/

section

variable {publishers : ι → DegradedPublicationPublisher}
  {credential : DegradedPublisherCredential}

/-- What is promised while every step is in its place. -/
def inPlaceDiscipline (ι : Type) (credential : DegradedPublisherCredential) :
    Interleaving.Discipline ι PublicationFiles PublisherAct PublisherInputs String
      DegradedRuntimePublication where
  invariant s := s.Reconcilable credential
  advances _ _ := True
  rely _ _ _ := True
  allowed _ _ action := action.Belongs credential
  idle _ _ := True
  post _ _ _ _ _ := True

theorem sound_inPlace (hsign : PublicationSignaturesVerify)
    (hcredential : ∀ i, (publishers i).credential = credential) :
    Interleaving.Sound (inPlaceProcesses publishers) (inPlaceDiscipline ι credential) where
  advances_refl _ := trivial
  advances_trans _ _ := trivial
  rely_refl _ := trivial
  rely_trans _ _ := trivial
  act := by
    intro i s action reply s' hreconcilable hbelongs hperform
    refine ⟨?_, trivial, fun _ _ => trivial⟩
    obtain ⟨hperform, hinPlace | rfl⟩ := hperform
    · exact PublicationFiles.Reconcilable.act hreconcilable hbelongs hinPlace hperform
    · exact hreconcilable
  crash := by
    intro i s s' hreconcilable hcrash
    obtain rfl : s' = s := hcrash
    exact ⟨hreconcilable, trivial, trivial, fun _ _ => trivial⟩
  idle_stable _ _ := trivial
  post_stable _ _ := trivial
  idle_of_post _ := trivial
  begin := by
    intro i s inputs _ _
    refine Program.guarded_of_keeps (fun _ _ _ _ _ => trivial) ?_ trivial
    refine Program.uses_mono ?_ ((publishers i).uses_publishOnce hsign inputs)
    intro action hbelongs s _ _
    rw [hcredential i] at hbelongs
    exact ⟨hbelongs, fun _ _ _ _ => trivial⟩

end

end

/-- In every run of which each step that takes effect is in its place, at any moment a further call
    with valid inputs succeeds. -/
theorem inPlace_publishers_continue [PublicationSigning] {ι : Type} [DecidableEq ι]
    (hsign : PublicationSignaturesVerify)
    {publishers : ι → DegradedPublicationPublisher} {credential : DegradedPublisherCredential}
    (hcredential : ∀ i, (publishers i).credential = credential)
    {w : Interleaving.World ι PublicationFiles PublisherAct PublisherAct.Reply PublisherInputs
      String DegradedRuntimePublication}
    (hrun : (inPlaceProcesses publishers).Steps
      (.quiet ⟨.initial credential, none, []⟩) w) (i : ι) (inputs : PublisherInputs)
    (hvalid : (publishers i).ValidInputs inputs w.shared) :
    ∃ publication, (Interleaving.exec PublicationFiles.answer ((publishers i).publishOnce inputs)
      w.shared).1 = .ok publication := by
  have hsound := sound_inPlace hsign hcredential
  have hstart : Interleaving.Governed (inPlaceProcesses publishers)
      (inPlaceDiscipline ι credential) (.quiet ⟨.initial credential, none, []⟩) :=
    .quiet (PublicationFiles.reconcilable_initial credential) (fun _ => trivial)
  obtain ⟨hgoverned, -⟩ := hstart.steps hsound hrun
  have hreconcilable : w.shared.Reconcilable credential := hgoverned.invariant
  rw [← hcredential i] at hreconcilable
  exact DegradedPublicationPublisher.publishOnce_succeeds hsign hreconcilable hvalid

/-! ## A wedged stream -/

namespace PublicationSample

/-- Two calls of one publisher. -/
abbrev pair : Bool → DegradedPublicationPublisher := fun _ => publisher

/-- A world of the two calls. -/
abbrev PairWorld : Type :=
  Interleaving.World Bool PublicationFiles PublisherAct PublisherAct.Reply PublisherInputs String
    DegradedRuntimePublication

/-- Both calls read the empty sink and allocate; the second one publishes and commits its
    publication, then the first one replaces it. -/
def crossed : PairWorld :=
  [false, true, false, true, false, true, true, true, true, false, false, false].foldl
    (Interleaving.World.turn (fun _ => PublicationFiles.answer) (publisherProcesses pair)
      (fun _ => publishing 1))
    (.quiet ⟨.initial publisher.credential, none, []⟩)

end PublicationSample

open PublicationSample in
/-- The two calls have ended, and no later one succeeds. -/
theorem concurrent_publishers_wedge :
    (publisherProcesses pair).Steps (.quiet ⟨.initial publisher.credential, none, []⟩) crossed ∧
      (∀ i, (crossed.calls i).isNone = true) ∧
      crossed.shared.visible.map (fun p => p.sequence) = [2, 1] ∧
      publisher.ValidInputs (publishing 1) crossed.shared ∧
      ∀ inputs, ∃ message, (Interleaving.exec PublicationFiles.answer
        (publisher.publishOnce inputs) crossed.shared).1 = .error message := by
  have hwedged : (FileDegradedPublisherStateStore.reconciledState crossed.shared.state
      crossed.shared.sink publisher.credential).toOption.isNone = true := by
    decide +kernel
  refine ⟨Interleaving.World.steps_turns (fun _ => PublicationFiles.perform_answer) _ _ _,
    by decide +kernel, by decide +kernel, ⟨_, _, _, rfl, .inr ⟨?_, ?_⟩⟩, ?_⟩
  · decide +kernel
  · decide +kernel
  · refine DegradedPublicationPublisher.publishOnce_fails ?_
    rintro ⟨reconciled, hreconciled⟩
    rw [hreconciled] at hwedged
    cases hwedged

namespace PublicationSample

/-- Two calls, of which the second one begins when the first one has committed. -/
def ordered : PairWorld :=
  [false, false, false, false, false, true, true, true, true].foldl
    (Interleaving.World.turn (fun _ => PublicationFiles.inPlaceAnswer) (inPlaceProcesses pair)
      (fun _ => publishing 1))
    (.quiet ⟨.initial publisher.credential, none, []⟩)

end PublicationSample

open PublicationSample in
theorem inPlace_publishers_continue_ordered :
    ordered.shared.visible.map (fun p => p.sequence) = [1, 2] ∧
      ∃ publication, (Interleaving.exec PublicationFiles.answer
        (publisher.publishOnce (publishing 2)) ordered.shared).1 = .ok publication := by
  refine ⟨by decide +kernel, ?_⟩
  refine @inPlace_publishers_continue _ Bool _ publicationSignaturesVerify pair _ (fun _ => rfl) _
    (Interleaving.World.steps_turns (fun _ => PublicationFiles.perform_inPlaceAnswer) _ _ _ :
      (inPlaceProcesses pair).Steps (.quiet ⟨.initial publisher.credential, none, []⟩) ordered)
    true (publishing 2) ⟨_, _, _, rfl, .inl ?_⟩
  decide +kernel

end AegisOt
