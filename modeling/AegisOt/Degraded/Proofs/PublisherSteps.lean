import AegisOt.Degraded.Publisher

/-!
# The steps of a publisher call

When the durable state can be reconciled with the sink, and what `allocate` and `commit` then leave
behind. A publication `Follows` the state if it may be adopted as its latest one: that is what both
the reconciliation and the commit ask of a publication that is not committed yet.
-/

namespace AegisOt

/-- A `mutate` leaves the state as it was and returns nothing, or the transition has happened. -/
theorem mutateState_cases {State Result : Type} (outcome : MutateOutcome)
    (transition : State → Except String (State × Result)) (state : State) :
    mutateState outcome transition state = (none, state) ∨
    ∃ updated result, transition state = .ok (updated, result) ∧
      (mutateState outcome transition state = (some result, updated) ∨
        mutateState outcome transition state = (none, updated)) := by
  unfold mutateState
  split
  · rename_i updated result htransition
    exact .inr ⟨updated, result, htransition, .inl rfl⟩
  · rename_i updated result htransition
    exact .inr ⟨updated, result, htransition, .inr rfl⟩
  · exact .inl rfl

section

variable [PublicationPrimitives]

/-- The publication may become the latest one of the state. -/
structure DegradedPublisherState.Follows (state : DegradedPublisherState)
    (publication : DegradedRuntimePublication) : Prop where
  newer : state.latestPublishedSequence < publication.sequence
  allocated : publication.sequence ≤ state.highestAllocatedSequence
  predecessor : publication.previousPublicationSha256 = state.latestPublicationSha256

/-- The publication is the latest one of the state. -/
structure DegradedPublisherState.Committed (state : DegradedPublisherState)
    (publication : DegradedRuntimePublication) : Prop where
  sequence : publication.sequence = state.latestPublishedSequence
  digest : some publication.digest = state.latestPublicationSha256

namespace FileDegradedPublisherStateStore

variable {state reconciled : DegradedPublisherState} {credential : DegradedPublisherCredential}
  {publication : DegradedRuntimePublication}

/-! ## Reconciliation -/

theorem reconciledState_none :
    reconciledState state none credential = .ok reconciled ↔
      state.Matches credential ∧ state.latestPublishedSequence = 0 ∧ reconciled = state := by
  unfold reconciledState
  by_cases hmatches : state.Matches credential
  · by_cases hzero : state.latestPublishedSequence = 0
    · simp [hmatches, hzero, eq_comm]
    · simp [hmatches, hzero]
  · simp [hmatches]

theorem reconciledState_some :
    reconciledState state (some publication) credential = .ok reconciled ↔
      state.Matches credential ∧ publication.trustedBy credential = true ∧
        (state.Committed publication ∧ reconciled = state ∨
          ∃ h : state.Follows publication,
            reconciled = state.adopt publication ⟨h.newer, h.allocated⟩) := by
  unfold reconciledState
  by_cases hmatches : state.Matches credential
  · by_cases htrusted : publication.trustedBy credential = true
    · simp only [hmatches, not_true_eq_false, if_false, htrusted, Bool.true_eq_false, true_and]
      by_cases hsame : publication.sequence = state.latestPublishedSequence
      · have hnew : ¬ state.Follows publication := fun h => by have := h.newer; omega
        rw [if_pos hsame]
        by_cases hdigest : some publication.digest = state.latestPublicationSha256
        · have hcommitted : state.Committed publication := ⟨hsame, hdigest⟩
          simp [hdigest, hnew, hcommitted, eq_comm]
        · have hold : ¬ state.Committed publication := fun h => hdigest h.digest
          simp [hdigest, hnew, hold]
      · have hold : ¬ state.Committed publication := fun h => hsame h.sequence
        rw [if_neg hsame]
        by_cases hallocated : state.latestPublishedSequence < publication.sequence ∧
            publication.sequence ≤ state.highestAllocatedSequence
        · rw [dif_pos hallocated]
          by_cases hprevious :
              publication.previousPublicationSha256 = state.latestPublicationSha256
          · have hfollows : state.Follows publication :=
              ⟨hallocated.1, hallocated.2, hprevious⟩
            simp [hprevious, hold, hfollows, eq_comm]
          · have hbroken : ¬ state.Follows publication := fun h => hprevious h.predecessor
            simp [hprevious, hold, hbroken]
        · have houtside : ¬ state.Follows publication :=
            fun h => hallocated ⟨h.newer, h.allocated⟩
          simp [hallocated, hold, houtside]
    · simp [hmatches, htrusted]
  · simp [hmatches]

/-- What a reconciliation never changes. -/
theorem reconciledState_keeps {current : Option DegradedRuntimePublication}
    (h : reconciledState state current credential = .ok reconciled) :
    reconciled.Matches credential ∧
      reconciled.highestAllocatedSequence = state.highestAllocatedSequence ∧
      reconciled.highestStatusInputSequence = state.highestStatusInputSequence ∧
      reconciled.latestStatusInputSha256 = state.latestStatusInputSha256 := by
  cases current with
  | none =>
    obtain ⟨hmatches, -, rfl⟩ := reconciledState_none.mp h
    exact ⟨hmatches, rfl, rfl, rfl⟩
  | some publication =>
    obtain ⟨hmatches, -, ⟨-, rfl⟩ | ⟨-, rfl⟩⟩ := reconciledState_some.mp h
    · exact ⟨hmatches, rfl, rfl, rfl⟩
    · exact ⟨hmatches, rfl, rfl, rfl⟩

/-! ## `commit` -/

/-- A commit accepts what a reconciliation accepts. -/
theorem commit_eq_ok {result : DegradedPublisherState × DegradedPublisherState} :
    commit publication credential state = .ok result ↔
      ∃ updated, reconciledState state (some publication) credential = .ok updated ∧
        result = (updated, updated) := by
  unfold commit reconciledState
  by_cases hmatches : state.Matches credential
  · by_cases htrusted : publication.trustedBy credential = true
    · simp only [hmatches, htrusted, not_true_eq_false, Bool.true_eq_false, or_self, if_false]
      split_ifs <;> simp [eq_comm]
    · simp [hmatches, htrusted]
  · simp [hmatches]

/-! ## `allocate` -/

/-- The status input may be used: it is newer than the ones before, or the latest one again. -/
def AcceptsStatus (state : DegradedPublisherState) (statusInput : DegradedStatusInput) : Prop :=
  state.highestStatusInputSequence < statusInput.sequence ∨
    state.highestStatusInputSequence = statusInput.sequence ∧
      state.latestStatusInputSha256 = some statusInput.digest

theorem allocate_eq_ok {current : Option DegradedRuntimePublication}
    {statusInput : DegradedStatusInput}
    {result : DegradedPublisherState × Nat × Option Sha256} :
    allocate current credential statusInput state = .ok result ↔
      ∃ updated, reconciledState state current credential = .ok updated ∧
        AcceptsStatus updated statusInput ∧
        result = (updated.allocateNext statusInput, updated.highestAllocatedSequence + 1,
          updated.latestPublicationSha256) := by
  unfold allocate AcceptsStatus
  rw [bind_eq_ok]
  simp only [bind_unit_eq_ok, refuseIf_eq_ok, pure_eq_ok, Except.ok.injEq]
  refine exists_congr fun updated => and_congr_right fun _ => ?_
  constructor
  · rintro ⟨hbehind, hsame, rfl⟩
    refine ⟨?_, rfl⟩
    rcases lt_or_eq_of_le (not_lt.mp hbehind) with hnewer | hequal
    · exact .inl hnewer
    · by_contra hneither
      exact hsame ⟨hequal.symm, fun hdigest => hneither (.inr ⟨hequal, hdigest.symm⟩)⟩
  · rintro ⟨haccepts, rfl⟩
    rcases haccepts with hnewer | ⟨hequal, hdigest⟩
    · exact ⟨not_lt.mpr hnewer.le, fun h => absurd h.1 hnewer.ne', rfl⟩
    · exact ⟨not_lt.mpr hequal.le, fun h => h.2 hdigest.symm, rfl⟩

end FileDegradedPublisherStateStore

end

/-! ## The publication of a call -/

variable [PublicationSigning]

/-- What a private key signs verifies under its public key. -/
def PublicationSignaturesVerify : Prop :=
  ∀ (privateKey : PrivateKey) (unsigned : DegradedRuntimePublication),
    PublicationSigning.signPublication privateKey unsigned ≠ "" ∧
      PublicationPrimitives.verifyPublication (PublicationSigning.publicKeyOf privateKey)
        (.publication unsigned) (PublicationSigning.signPublication privateKey unsigned) = true

namespace DegradedPublicationPublisher

variable (publisher : DegradedPublicationPublisher) (inputs : PublisherInputs) (now : Time)
  (statusInput : DegradedStatusInput) (authorization : StableDegradedAuthorization)
  (sequence : Nat) (previousDigest : Option Sha256)

@[simp] theorem publication_sequence :
    (publisher.publication inputs now statusInput authorization sequence
      previousDigest).sequence = sequence := rfl

@[simp] theorem publication_previous :
    (publisher.publication inputs now statusInput authorization sequence
      previousDigest).previousPublicationSha256 = previousDigest := rfl

/-- A publisher's own publications are within its trust. -/
theorem publication_trusted (hsign : PublicationSignaturesVerify) :
    (publisher.publication inputs now statusInput authorization sequence
      previousDigest).trustedBy publisher.credential = true := by
  have hverify : (publisher.publication inputs now statusInput authorization sequence
      previousDigest).verify publisher.credential.publisherPublicKey = true := by
    unfold DegradedRuntimePublication.verify verifyKeyed
    rw [← publisher.keysMatch]
    simp only [Bool.and_eq_true, decide_eq_true_eq]
    refine ⟨⟨?_, (hsign _ _).1⟩, (hsign _ _).2⟩
    rw [publisher.keysMatch]
    exact publisher.publisherKey
  unfold DegradedRuntimePublication.trustedBy
  rw [hverify, Bool.and_true, decide_eq_true_eq]
  exact ⟨rfl, rfl, rfl⟩

end DegradedPublicationPublisher

end AegisOt
