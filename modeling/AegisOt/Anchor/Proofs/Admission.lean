import AegisOt.Anchor.Proofs.Monotonic
import AegisOt.Anchor.Recovery

/-!
# Anchored recovery against the authority

The validator and the authority keep the same rule in two places. Here the decisions of
`validate_anchored_coordination_recovery` are read back as the conditions under which they are
made, and compared with what the authority accepts over any sequence of calls: an old local state
is refused, a local state is told to advance exactly when the authority lets it, and an admitted
writer holds the newest token.
-/

namespace AegisOt

/-- Ed25519: what a key signs verifies under its public key, and no signature is empty. -/
def AnchorSignaturesVerify [AnchorPrimitives] : Prop :=
  ∀ key material,
    AnchorPrimitives.verifyBytes (AnchorPrimitives.publicKeyOf key) material
      (AnchorPrimitives.signBytes key material) = true ∧
    AnchorPrimitives.signBytes key material ≠ ""

section

variable [AnchorPrimitives]

/-! ## Decisions -/

/-- The readback passes the checks that come before the comparison with the local state. -/
structure AnchorExpectation.Accepts (expected : AnchorExpectation)
    (readback : CoordinationAnchorReadback) : Prop where
  stream : readback.anchor.streamId = expected.streamId
  nonce : readback.requestNonce = expected.requestNonce
  signed : readback.verify expected.authorityPublicKey = true
  fresh : readback.validAt expected.evaluatedAt = true
  floor : validFloor readback expected.trustedFloor = none

variable {projection : LocalCoordinationProjection} {readback : CoordinationAnchorReadback}
  {expected : AnchorExpectation}

theorem validFloor_ne_localAdvance {floor : Option TrustedAnchorFloor}
    {failure : AnchoredRecoveryReason} (h : validFloor readback floor = some failure) :
    failure ≠ .localAdvanceRequiresAnchor := by
  rintro rfl
  unfold validFloor at h
  cases floor with
  | none => cases h
  | some floor =>
    dsimp only at h
    split_ifs at h <;> cases h

theorem validFence_ne_localAdvance {fence : Option CoordinationFenceGrant} {key : PublicKey}
    {evaluatedAt : DateTime} {failure : AnchoredRecoveryReason}
    (h : validFence fence readback key evaluatedAt = some failure) :
    failure ≠ .localAdvanceRequiresAnchor := by
  rintro rfl
  unfold validFence at h
  cases fence with
  | none => cases h
  | some grant =>
    dsimp only at h
    split_ifs at h <;> cases h

/-- A decision fails closed before the comparison, or it is made by the comparison. -/
theorem validateAnchoredCoordinationRecovery_cases (projection : LocalCoordinationProjection)
    (found : Option CoordinationAnchorReadback) (expected : AnchorExpectation) :
    (((validateAnchoredCoordinationRecovery projection found expected).status = .inconsistent ∨
        (validateAnchoredCoordinationRecovery projection found expected).status = .unavailable) ∧
      (validateAnchoredCoordinationRecovery projection found expected).reason ≠
        .localAdvanceRequiresAnchor) ∨
    ∃ readback, found = some readback ∧ expected.Accepts readback ∧
      projection.recoveryStatus ≠ .inconsistent ∧ projection.recoveryStatus ≠ .unavailable ∧
      validateAnchoredCoordinationRecovery projection found expected =
        if projection.digest = readback.anchor.projection.digest then
          validateAnchored projection readback expected
        else validateUnanchored projection readback := by
  unfold validateAnchoredCoordinationRecovery
  by_cases hclosed : projection.recoveryStatus = .inconsistent ∨
      projection.recoveryStatus = .unavailable
  · rw [if_pos hclosed]
    exact .inl ⟨.inl rfl, nofun⟩
  rw [if_neg hclosed]
  cases found with
  | none => exact .inl ⟨.inr rfl, nofun⟩
  | some readback =>
    by_cases hstream : readback.anchor.streamId = expected.streamId
    · by_cases hsigned : readback.requestNonce ≠ expected.requestNonce ∨
          readback.verify expected.authorityPublicKey = false
      · simp only [hstream, hsigned, ne_eq, not_true_eq_false, if_false, if_true]
        exact .inl ⟨.inr rfl, nofun⟩
      by_cases hfresh : readback.validAt expected.evaluatedAt = true
      · cases hfloor : validFloor readback expected.trustedFloor with
        | some failure =>
          simp only [hstream, hsigned, hfresh, hfloor, ne_eq, not_true_eq_false, if_false,
            Bool.true_eq_false]
          refine .inl ⟨?_, validFloor_ne_localAdvance hfloor⟩
          by_cases hstale : failure ∈ [AnchoredRecoveryReason.anchorSequenceStale, .anchorChainGap]
          · rw [if_pos hstale]
            exact .inr rfl
          · rw [if_neg hstale]
            exact .inl rfl
        | none =>
          rw [not_or, ne_eq, not_not, Bool.not_eq_false] at hsigned
          refine .inr ⟨readback, rfl, ⟨hstream, hsigned.1, hsigned.2, hfresh, hfloor⟩,
            fun h => hclosed (.inl h), fun h => hclosed (.inr h), ?_⟩
          simp only [hstream, hsigned.1, hsigned.2, hfresh, hfloor, ne_eq, not_true_eq_false,
            if_false, Bool.true_eq_false, or_self]
      · rw [Bool.not_eq_true] at hfresh
        simp only [hstream, hsigned, hfresh, ne_eq, not_true_eq_false, if_false, if_true]
        exact .inl ⟨.inr rfl, nofun⟩
    · simp only [hstream, ne_eq, not_false_eq_true, if_true]
      exact .inl ⟨.inl rfl, nofun⟩

/-- An accepted readback is compared with the local state. -/
theorem AnchorExpectation.Accepts.decides (h : expected.Accepts readback)
    (hstatus : projection.recoveryStatus = .aligned) :
    validateAnchoredCoordinationRecovery projection (some readback) expected =
      if projection.digest = readback.anchor.projection.digest then
        validateAnchored projection readback expected
      else validateUnanchored projection readback := by
  unfold validateAnchoredCoordinationRecovery
  simp only [hstatus, h.stream, h.nonce, h.signed, h.fresh, h.floor, ne_eq, not_true_eq_false,
    if_false, reduceCtorEq, or_self, Bool.true_eq_false]

/-- The fence admits a writer to the exact checkpoint of the readback. -/
structure CoordinationFenceGrant.Admits (fence : CoordinationFenceGrant)
    (readback : CoordinationAnchorReadback) (authorityPublicKey : PublicKey)
    (evaluatedAt : DateTime) : Prop where
  signed : fence.verify authorityPublicKey = true
  fresh : evaluatedAt.within fence.issuedAt fence.expiresAt = true
  stream : fence.streamId = readback.anchor.streamId
  sequence : fence.basedOnAnchorSequence = readback.anchor.anchorSequence
  anchor : fence.basedOnAnchorSha256 = readback.anchor.digest
  current : fence.fencingToken = readback.authorityFencingToken
  unused : readback.anchor.fencingToken < fence.fencingToken

theorem validFence_eq_none {fence : Option CoordinationFenceGrant} {key : PublicKey}
    {evaluatedAt : DateTime} :
    validFence fence readback key evaluatedAt = none ↔
      ∃ grant, fence = some grant ∧ grant.Admits readback key evaluatedAt := by
  unfold validFence
  cases fence with
  | none => simp
  | some grant =>
    constructor
    · intro h
      dsimp only at h
      split_ifs at h with hsigned hfresh hbound htoken
      rw [Bool.not_eq_false] at hsigned hfresh
      rw [not_or, not_or, ne_eq, ne_eq, ne_eq, not_not, not_not, not_not] at hbound
      rw [not_or, ne_eq, not_not, not_le] at htoken
      exact ⟨grant, rfl, hsigned, hfresh, hbound.1, hbound.2.1, hbound.2.2, htoken.1, htoken.2⟩
    · rintro ⟨_, hsame, h⟩
      obtain rfl := Option.some.inj hsame
      have hunused : ¬ grant.fencingToken ≤ readback.anchor.fencingToken := not_le.mpr h.unused
      simp [h.signed, h.fresh, h.stream, h.sequence, h.anchor, ← h.current, hunused]

theorem validateAnchored_cases (projection : LocalCoordinationProjection)
    (readback : CoordinationAnchorReadback) (expected : AnchorExpectation) :
    (validateAnchored projection readback expected).reason ≠ .localAdvanceRequiresAnchor ∧
    ((validateAnchored projection readback expected).status = .admissionReady ↔
      expected.requireFence = true ∧ ∃ grant, expected.fence = some grant ∧
        grant.Admits readback expected.authorityPublicKey expected.evaluatedAt) := by
  unfold validateAnchored
  cases hrequire : expected.requireFence with
  | false => exact ⟨nofun, by simp [anchoredDecision]⟩
  | true =>
    simp only [Bool.true_eq_false, if_false, true_and]
    rw [← validFence_eq_none]
    cases hfence : validFence expected.fence readback expected.authorityPublicKey
        expected.evaluatedAt with
    | none => exact ⟨nofun, by simp [anchoredDecision]⟩
    | some failure =>
      refine ⟨validFence_ne_localAdvance hfence, ?_⟩
      simp only [anchoredDecision, reduceCtorEq, iff_false]
      split_ifs <;> nofun

/-- Everything an admission asks for. -/
structure AnchorExpectation.Admits (expected : AnchorExpectation)
    (projection : LocalCoordinationProjection) (readback : CoordinationAnchorReadback) :
    Prop where
  required : expected.requireFence = true
  aligned : projection.recoveryStatus = .aligned
  accepts : expected.Accepts readback
  anchored : projection.digest = readback.anchor.projection.digest
  fence : ∃ grant, expected.fence = some grant ∧
    grant.Admits readback expected.authorityPublicKey expected.evaluatedAt

/-- The local state may become the next checkpoint of the anchor read. -/
structure LocalCoordinationProjection.Succeeds (projection : LocalCoordinationProjection)
    (anchor : SignedCoordinationAnchor) (authorityFencingToken : Nat) : Prop where
  newer : anchor.projection.writerFencingToken < projection.writerFencingToken
  version : anchor.projection.plantStateVersion ≤ projection.plantStateVersion
  model : projection.plantModelSha256 = anchor.projection.plantModelSha256
  state : projection.plantStateVersion = anchor.projection.plantStateVersion →
    projection.plantStateSha256 = anchor.projection.plantStateSha256
  current : projection.writerFencingToken = authorityFencingToken
  sequence : projection.basedOnAnchorSequence = some anchor.anchorSequence
  anchor : projection.basedOnAnchorSha256 = some anchor.digest

theorem validateUnanchored_status (projection : LocalCoordinationProjection)
    (readback : CoordinationAnchorReadback) :
    (validateUnanchored projection readback).status = .inconsistent ∨
      (validateUnanchored projection readback).status = .recoveryRequired := by
  unfold validateUnanchored
  dsimp only
  split_ifs
  all_goals first | exact .inl rfl | exact .inr rfl

theorem validateUnanchored_recoveryRequired :
    (validateUnanchored projection readback).status = .recoveryRequired ↔
      projection.Succeeds readback.anchor readback.authorityFencingToken := by
  unfold validateUnanchored
  dsimp only
  constructor
  · intro h
    split_ifs at h with hback hconflict hequal hfence hlineage
    · cases h
    · cases h
    · cases h
    · cases h
    · cases h
    all_goals
      rw [not_or, not_lt, not_lt] at hback
      rw [not_or, ne_eq, not_not, not_and, ne_eq, not_not] at hconflict
      rw [ne_eq, not_not] at hfence
      rw [not_or, ne_eq, ne_eq, not_not, not_not] at hlineage
      exact ⟨lt_of_le_of_ne hback.1 (Ne.symm hequal), hback.2, hconflict.1, hconflict.2, hfence,
        hlineage.1, hlineage.2⟩
  · intro h
    have hback : ¬ (projection.writerFencingToken < readback.anchor.projection.writerFencingToken ∨
        projection.plantStateVersion < readback.anchor.projection.plantStateVersion) := by
      have hnewer := h.newer
      have hversion := h.version
      omega
    have hconflict : ¬ (projection.plantModelSha256 ≠ readback.anchor.projection.plantModelSha256 ∨
        (projection.plantStateVersion = readback.anchor.projection.plantStateVersion ∧
          projection.plantStateSha256 ≠ readback.anchor.projection.plantStateSha256)) := by
      rintro (hmodel | ⟨hversion, hstate⟩)
      · exact hmodel h.model
      · exact hstate (h.state hversion)
    have hequal : projection.writerFencingToken ≠
        readback.anchor.projection.writerFencingToken := (ne_of_lt h.newer).symm
    rw [if_neg hback, if_neg hconflict, if_neg hequal, if_neg (not_not.mpr h.current), if_neg]
    · rfl
    · rintro (hsequence | hanchor)
      · exact hsequence h.sequence
      · exact hanchor h.anchor

/-- An aligned local state is told to advance exactly when it may become the next checkpoint. -/
theorem validateUnanchored_localAdvance (haligned : projection.recoveryStatus = .aligned) :
    (validateUnanchored projection readback).reason = .localAdvanceRequiresAnchor ↔
      projection.Succeeds readback.anchor readback.authorityFencingToken := by
  rw [← validateUnanchored_recoveryRequired]
  unfold validateUnanchored
  dsimp only
  rw [if_neg (show ¬ projection.recoveryStatus = .recoveryRequired by rw [haligned]; nofun)]
  split_ifs <;> simp [anchoredDecision]

/-- When a writer is admitted. -/
theorem admissionReady_iff :
    (validateAnchoredCoordinationRecovery projection (some readback) expected).status =
      .admissionReady ↔
    expected.Accepts readback ∧
      (projection.recoveryStatus ≠ .inconsistent ∧ projection.recoveryStatus ≠ .unavailable) ∧
      projection.digest = readback.anchor.projection.digest ∧ expected.requireFence = true ∧
      ∃ grant, expected.fence = some grant ∧
        grant.Admits readback expected.authorityPublicKey expected.evaluatedAt := by
  have hanchored := (validateAnchored_cases projection readback expected).2
  constructor
  · intro h
    rcases validateAnchoredCoordinationRecovery_cases projection (some readback) expected with
      ⟨hclosed, -⟩ | ⟨_, hfound, haccepts, hconsistent, havailable, hdecision⟩
    · rw [h] at hclosed
      rcases hclosed with hclosed | hclosed <;> cases hclosed
    · obtain rfl := Option.some.inj hfound
      rw [hdecision] at h
      by_cases hsame : projection.digest = readback.anchor.projection.digest
      · rw [if_pos hsame] at h
        exact ⟨haccepts, ⟨hconsistent, havailable⟩, hsame, hanchored.mp h⟩
      · rw [if_neg hsame] at h
        rcases validateUnanchored_status projection readback with hstatus | hstatus
        · rw [hstatus] at h
          cases h
        · rw [hstatus] at h
          cases h
  · rintro ⟨haccepts, ⟨hconsistent, havailable⟩, hsame, hfence⟩
    unfold validateAnchoredCoordinationRecovery
    simp only [hconsistent, havailable, haccepts.stream, haccepts.nonce, haccepts.signed,
      haccepts.fresh, haccepts.floor, hsame, ne_eq, not_true_eq_false, if_false, if_true, or_self,
      Bool.true_eq_false]
    exact hanchored.mpr hfence

/-- An admitted writer showed a fence. -/
theorem fence_of_admissionReady
    (h : (validateAnchoredCoordinationRecovery projection (some readback) expected).status =
      .admissionReady) :
    ∃ grant, expected.fence = some grant ∧
      grant.Admits readback expected.authorityPublicKey expected.evaluatedAt :=
  (admissionReady_iff.mp h).2.2.2.2

/-! ## The authority -/

/-- What an issued checkpoint is. -/
theorem SignedCoordinationAnchor.issue_eq_ok {streamId : String} {sequence token : Nat}
    {previous : Option Sha256} {key : PrivateKey} {issuedAt : DateTime}
    {anchor : SignedCoordinationAnchor} :
    SignedCoordinationAnchor.issue streamId sequence token previous projection key issuedAt
      = .ok anchor ↔
    ∃ instant, issuedAt = .aware instant ∧ streamPatternMatches streamId = true ∧
      anchor.requireMonotonicShape = .ok () ∧
      anchor = { streamId := streamId
                 anchorSequence := sequence
                 fencingToken := token
                 previousAnchorSha256 := previous
                 projection := projection
                 authorityKeyId := AnchorPrimitives.workloadKeyId
                   (AnchorPrimitives.publicKeyOf key)
                 issuedAt := instant
                 signature := AnchorPrimitives.signBytes key (.anchor
                   { streamId := streamId
                     anchorSequence := sequence
                     fencingToken := token
                     previousAnchorSha256 := previous
                     projection := projection
                     authorityKeyId := AnchorPrimitives.workloadKeyId
                       (AnchorPrimitives.publicKeyOf key)
                     issuedAt := instant
                     signature := "" }) } := by
  unfold SignedCoordinationAnchor.issue
  cases issuedAt with
  | naive => simp [DateTime.require]
  | aware instant =>
    simp only [DateTime.require, bind_unit_eq_ok, refuseIf_eq_ok, Bool.not_eq_false, ok_bind,
      pure_eq_ok, Except.ok.injEq, DateTime.aware.injEq, exists_eq_left']
    constructor
    · rintro ⟨hstream, hshape, rfl⟩
      exact ⟨hstream, hshape, rfl⟩
    · rintro ⟨hstream, hshape, rfl⟩
      exact ⟨hstream, hshape, rfl⟩

theorem SignedCoordinationAnchor.verify_of_issue (hsigned : AnchorSignaturesVerify)
    {streamId : String} {sequence token : Nat} {previous : Option Sha256} {key : PrivateKey}
    {issuedAt : DateTime} {anchor : SignedCoordinationAnchor}
    (h : SignedCoordinationAnchor.issue streamId sequence token previous projection key issuedAt
      = .ok anchor) : anchor.verify (AnchorPrimitives.publicKeyOf key) = true := by
  obtain ⟨instant, -, -, -, rfl⟩ := SignedCoordinationAnchor.issue_eq_ok.mp h
  simp [SignedCoordinationAnchor.verify, hsigned key]

omit [AnchorPrimitives] in
/-- The token that a validated checkpoint's writer held. -/
theorem SignedCoordinationAnchor.token_of_shape {anchor : SignedCoordinationAnchor}
    (h : anchor.requireMonotonicShape = .ok ()) :
    anchor.projection.recoveryStatus = .aligned ∧
      anchor.projection.writerFencingToken = anchor.fencingToken := by
  unfold SignedCoordinationAnchor.requireMonotonicShape at h
  simp only [bind_unit_eq_ok, refuseIf_eq_ok, not_not, ne_eq] at h
  refine ⟨h.1, ?_⟩
  have hrest := h.2
  by_cases hgenesis : anchor.anchorSequence = 0
  · rw [if_pos hgenesis] at hrest
    simp only [bind_unit_eq_ok, refuseIf_eq_ok, not_or, not_not] at hrest
    rw [hrest.1.2, hrest.2]
  · rw [if_neg hgenesis] at hrest
    simp only [bind_unit_eq_ok, refuseIf_eq_ok, not_or, not_not] at hrest
    exact hrest.2.1

/-- The readback tells what the authority holds. -/
theorem CoordinationAnchorReadback.issue_spec {nonce : String} {anchor : SignedCoordinationAnchor}
    {token : Nat} {key : PrivateKey} {readAt : DateTime} {lifetime : Time}
    (h : CoordinationAnchorReadback.issue nonce anchor token key readAt lifetime = .ok readback) :
    readback.anchor = anchor ∧ readback.authorityFencingToken = token := by
  unfold CoordinationAnchorReadback.issue at h
  rw [bind_unit_eq_ok] at h
  obtain ⟨instant, -, hrest⟩ := bind_eq_ok.mp h.2
  obtain ⟨-, heq⟩ := bind_unit_eq_ok.mp hrest
  rw [pure_eq_ok, Except.ok.injEq] at heq
  rw [← heq]
  exact ⟨rfl, rfl⟩

/-- The grant is the authority's answer for its current checkpoint and token. -/
structure CoordinationFenceGrant.IssuedBy (grant : CoordinationFenceGrant)
    (ref : InMemoryMonotonicAnchorReference) : Prop where
  stream : grant.streamId = ref.anchor.streamId
  sequence : grant.basedOnAnchorSequence = ref.anchor.anchorSequence
  anchor : grant.basedOnAnchorSha256 = ref.anchor.digest
  token : grant.fencingToken = ref.fencingToken
  signed : AnchorSignaturesVerify →
    grant.verify (AnchorPrimitives.publicKeyOf ref.privateKey) = true

namespace InMemoryMonotonicAnchorReference

variable {ref after : InMemoryMonotonicAnchorReference}

theorem readback_ok {nonce : String} {readAt : DateTime} {lifetime : Time}
    (h : (Method.call (InMemoryMonotonicAnchorReference.readback nonce readAt lifetime) ref).1 =
      .ok readback) :
    readback.anchor = ref.anchor ∧ readback.authorityFencingToken = ref.fencingToken := by
  unfold InMemoryMonotonicAnchorReference.readback at h
  rw [Method.call_self_bind, Method.call_check] at h
  exact CoordinationAnchorReadback.issue_spec h

theorem acquireFence_issuedBy {holder nonce : String} {expectedSha : Sha256}
    {issuedAt : DateTime} {lifetime : Time} {grant : CoordinationFenceGrant}
    (h : Method.call (acquireFence holder nonce expectedSha issuedAt lifetime) ref
      = (.ok grant, after)) : grant.IssuedBy after := by
  unfold acquireFence at h
  rw [Method.call_self_bind, Method.call_check_bind_eq_ok] at h
  obtain ⟨-, -, h⟩ := h
  obtain ⟨granted, hissue, h⟩ := Method.call_check_bind_eq_ok.mp h
  rw [Method.call_assign_bind, Method.call_pure, Prod.mk.injEq, Except.ok.injEq] at h
  obtain ⟨rfl, rfl⟩ := h
  unfold CoordinationFenceGrant.issue at hissue
  rw [bind_unit_eq_ok, bind_unit_eq_ok, bind_unit_eq_ok] at hissue
  obtain ⟨instant, -, hrest⟩ := bind_eq_ok.mp hissue.2.2.2
  obtain ⟨-, heq⟩ := bind_unit_eq_ok.mp hrest
  rw [pure_eq_ok, Except.ok.injEq] at heq
  subst heq
  refine ⟨rfl, rfl, rfl, rfl, ?_⟩
  intro hsigned
  simp [CoordinationFenceGrant.verify, hsigned ref.privateKey]

/-- When the authority advances, and to what. -/
theorem compareAndAdvance_eq_ok {expectedSha : Sha256} {fence : CoordinationFenceGrant}
    {advancedAt : DateTime} {anchor : SignedCoordinationAnchor} :
    Method.call (compareAndAdvance expectedSha projection fence advancedAt) ref
      = (.ok anchor, after) ↔
    expectedSha = ref.anchor.digest ∧
      (∃ instant, advancedAt = .aware instant ∧ ref.anchor.issuedAt ≤ instant ∧
        ref.fenceAccepted fence instant = true) ∧
      projectionMonotonic ref.anchor projection fence = true ∧
      SignedCoordinationAnchor.issue ref.anchor.streamId (ref.anchor.anchorSequence + 1)
        fence.fencingToken (some ref.anchor.digest) projection ref.privateKey advancedAt
          = .ok anchor ∧
      after = { ref with anchor := anchor } := by
  unfold compareAndAdvance
  rw [Method.call_self_bind, Method.call_check_bind_eq_ok]
  cases advancedAt with
  | naive =>
    constructor
    · rintro ⟨-, -, h⟩
      obtain ⟨instant, hinstant, _⟩ := Method.call_check_bind_eq_ok.mp h
      cases hinstant
    · rintro ⟨-, ⟨instant, hinstant, -⟩, -⟩
      cases hinstant
  | aware instant =>
    simp only [Method.call_check_bind_eq_ok, advanceInstant, bind_unit_eq_ok, refuseIf_eq_ok,
      pure_eq_ok, Except.ok.injEq, Method.call_assign_bind, Method.call_pure, Prod.mk.injEq,
      not_lt, Bool.not_eq_false, DateTime.aware.injEq, exists_eq_left', ne_eq, not_not]
    constructor
    · rintro ⟨-, hdigest, _, ⟨hlater, rfl⟩, -, hfence, -, hprojection, issued, hissue, rfl, rfl⟩
      exact ⟨hdigest, ⟨hlater, hfence⟩, hprojection, hissue, rfl⟩
    · rintro ⟨hdigest, ⟨hlater, hfence⟩, hprojection, hissue, rfl⟩
      exact ⟨(), hdigest, instant, ⟨hlater, rfl⟩, (), hfence, (), hprojection, anchor, hissue,
        rfl, rfl⟩

/-- What holds of an authority from its creation on, when it has issued these grants. -/
structure Authentic (ref : InMemoryMonotonicAnchorReference)
    (grants : List CoordinationFenceGrant) : Prop where
  stream : streamPatternMatches ref.anchor.streamId = true
  shape : ref.anchor.requireMonotonicShape = .ok ()
  signed : AnchorSignaturesVerify →
    ref.anchor.verify (AnchorPrimitives.publicKeyOf ref.privateKey) = true
  newest : ref.anchor.fencingToken < ref.fencingToken →
    ∃ grant, grants.getLast? = some grant ∧ grant.IssuedBy ref

theorem Authentic.of_create {streamId : String} {genesis : LocalCoordinationProjection}
    {key : PrivateKey} {initializedAt : DateTime}
    (hcreate : create streamId genesis key initializedAt = .ok ref) : ref.Authentic [] := by
  unfold create at hcreate
  obtain ⟨anchor, hissue, heq⟩ := bind_eq_ok.mp hcreate
  rw [pure_eq_ok, Except.ok.injEq] at heq
  subst heq
  obtain ⟨instant, -, hstream, hshape, heq⟩ := SignedCoordinationAnchor.issue_eq_ok.mp hissue
  refine ⟨?_, hshape, fun hsigned => SignedCoordinationAnchor.verify_of_issue hsigned hissue, ?_⟩
  · rw [heq]
    exact hstream
  · intro htoken
    exact absurd htoken (Nat.not_lt_zero _)

/-- One call keeps it. -/
theorem Authentic.serve {grants : List CoordinationFenceGrant} (h : ref.Authentic grants)
    (call : AnchorCall) :
    (ref.serve call).after.Authentic (grants ++ (ref.serve call).issued.toList) := by
  rcases hserve : ref.serve call with ⟨before, asked, result, after⟩
  have hlegal := ref.serve_legal call
  rw [hserve] at hlegal
  have hcall : asked = call := (congrArg AnchorEvent.call hserve).symm
  have hended : Method.call call.body ref = (result, after) :=
    Prod.ext (congrArg AnchorEvent.result hserve) (congrArg AnchorEvent.after hserve)
  cases hlegal with
  | raised _ error =>
    rw [AnchorEvent.issued, Option.toList_none, List.append_nil]
    exact h
  | read nonce readAt lifetime readback =>
    rw [AnchorEvent.issued, Option.toList_none, List.append_nil]
    exact h
  | granted holder nonce expectedSha issuedAt lifetime grant htoken =>
    subst hcall
    obtain ⟨answer, mid, hgrant, hrest⟩ := Method.call_bind_eq_ok.mp hended
    rw [Method.call_pure, Prod.mk.injEq, Except.ok.injEq, AnchorReply.grant.injEq] at hrest
    obtain ⟨rfl, rfl⟩ := hrest
    refine ⟨h.stream, h.shape, h.signed, ?_⟩
    intro _
    exact ⟨answer, by simp [AnchorEvent.issued], acquireFence_issuedBy hgrant⟩
  | advanced expectedSha projection fence advancedAt anchor hsequence hlink htoken hcurrent
      hunused hplant =>
    subst hcall
    obtain ⟨answer, mid, hadvance, hrest⟩ := Method.call_bind_eq_ok.mp hended
    rw [Method.call_pure, Prod.mk.injEq, Except.ok.injEq, AnchorReply.advanced.injEq] at hrest
    obtain ⟨rfl, rfl⟩ := hrest
    obtain ⟨-, -, -, hissue, -⟩ := compareAndAdvance_eq_ok.mp hadvance
    obtain ⟨instant, -, hstream, hshape, heq⟩ := SignedCoordinationAnchor.issue_eq_ok.mp hissue
    refine ⟨?_, hshape, fun hsigned => SignedCoordinationAnchor.verify_of_issue hsigned hissue, ?_⟩
    · rw [heq]
      exact hstream
    · -- The advance used the newest token, so none is left.
      intro hleft
      have hleft : answer.fencingToken < ref.fencingToken := hleft
      omega

theorem afterAll_append (ref : InMemoryMonotonicAnchorReference)
    (earlier later : List AnchorCall) :
    ref.afterAll (earlier ++ later) = (ref.afterAll earlier).afterAll later := by
  induction earlier generalizing ref with
  | nil => rfl
  | cons call rest ih => exact ih (ref.serve call).after

/-- Any number of calls keeps it. -/
theorem Authentic.afterAll {grants : List CoordinationFenceGrant} (h : ref.Authentic grants)
    (calls : List AnchorCall) :
    (ref.afterAll calls).Authentic (grants ++ ref.grants calls) := by
  induction calls generalizing ref grants with
  | nil =>
    rw [show ref.grants [] = [] from rfl, List.append_nil]
    exact h
  | cons call rest ih =>
    have hrest := ih (h.serve call)
    have hgrants : (ref.serve call).issued.toList ++ (ref.serve call).after.grants rest =
        ref.grants (call :: rest) := by
      cases hissued : (ref.serve call).issued with
      | none => rw [grants_cons_none hissued, Option.toList_none, List.nil_append]
      | some grant => rw [grants_cons_some hissued, Option.toList_some, List.singleton_append]
    rw [List.append_assoc, hgrants] at hrest
    exact hrest

/-- A run that moves the checkpoint moves its token. -/
theorem anchor_afterAll (ref : InMemoryMonotonicAnchorReference) (calls : List AnchorCall) :
    (ref.afterAll calls).anchor = ref.anchor ∨
      ref.anchor.fencingToken < (ref.afterAll calls).anchor.fencingToken := by
  induction calls generalizing ref with
  | nil => exact .inl rfl
  | cons call rest ih =>
    rw [afterAll]
    rcases ref.serve_used call with ⟨-, hsame⟩ | ⟨fence, -, -, hunused, hafter⟩
    · rw [← hsame]
      exact ih (ref.serve call).after
    · rcases ih (ref.serve call).after with hlater | hlater
      · rw [hlater]
        omega
      · omega

theorem fencingToken_le_afterAll (ref : InMemoryMonotonicAnchorReference)
    (calls : List AnchorCall) : ref.fencingToken ≤ (ref.afterAll calls).fencingToken := by
  induction calls generalizing ref with
  | nil => exact le_refl _
  | cons call rest ih =>
    have hrest := ih (ref.serve call).after
    rcases ref.serve_token call with ⟨-, hsame⟩ | ⟨grant, -, htoken, hafter⟩
    · rw [hsame] at hrest
      exact hrest
    · rw [afterAll]
      omega

/-- A run that advances leaves a checkpoint with at least the token it started with. -/
theorem fencingToken_le_anchor (ref : InMemoryMonotonicAnchorReference)
    {calls : List AnchorCall} (h : ref.advances calls ≠ []) :
    ref.fencingToken ≤ (ref.afterAll calls).anchor.fencingToken := by
  induction calls generalizing ref with
  | nil => exact absurd rfl h
  | cons call rest ih =>
    rw [afterAll]
    rcases ref.serve_used call with ⟨hnone, -⟩ | ⟨fence, -, hcurrent, -, hafter⟩
    · rw [advances_cons_none hnone] at h
      have hrest := ih _ h
      have hgrown := ref.fencingToken_le_afterAll [call]
      exact le_trans hgrown hrest
    · rcases (ref.serve call).after.anchor_afterAll rest with hlater | hlater
      · rw [hlater]
        omega
      · omega

/-- A local state that an earlier checkpoint held is refused against the current one. -/
theorem rollback_detected {streamId : String} {genesis : LocalCoordinationProjection}
    {key : PrivateKey} {initializedAt : DateTime}
    (hcreate : create streamId genesis key initializedAt = .ok ref)
    (earlier later : List AnchorCall)
    (hreadback : readback.anchor = (ref.afterAll (earlier ++ later)).anchor)
    (hprojection : projection = (ref.afterAll earlier).anchor.projection)
    (hdiffers : projection ≠ readback.anchor.projection)
    (hdigest : projection.digest = readback.anchor.projection.digest →
      projection = readback.anchor.projection) (expected : AnchorExpectation) :
    (validateAnchoredCoordinationRecovery projection (some readback) expected).status ∉
      [.aligned, .admissionReady, .recoveryRequired] := by
  have hearlier := (Authentic.of_create hcreate).afterAll earlier
  have hcurrent := (Authentic.of_create hcreate).afterAll (earlier ++ later)
  have htoken : projection.writerFencingToken < readback.anchor.projection.writerFencingToken := by
    have hold := (SignedCoordinationAnchor.token_of_shape hearlier.shape).2
    have hnew := (SignedCoordinationAnchor.token_of_shape hcurrent.shape).2
    rw [hprojection, hold, hreadback, hnew, afterAll_append]
    rcases (ref.afterAll earlier).anchor_afterAll later with hsame | hless
    · rw [hprojection, hreadback, afterAll_append, hsame] at hdiffers
      exact absurd rfl hdiffers
    · exact hless
  rcases validateAnchoredCoordinationRecovery_cases projection (some readback) expected with
    ⟨hclosed, -⟩ | ⟨_, hfound, -, -, -, hdecision⟩
  · rcases hclosed with hstatus | hstatus <;> simp [hstatus]
  · obtain rfl := Option.some.inj hfound
    rw [hdecision, if_neg (fun hsame => hdiffers (hdigest hsame))]
    unfold validateUnanchored
    rw [if_pos (.inl htoken)]
    simp [anchoredDecision]

end InMemoryMonotonicAnchorReference

end

namespace Sample

/-- A writer takes a grant and anchors its local state; the plant has not moved. -/
def advancingCalls : List AnchorCall :=
  [.acquireFence "writer" "nonce-0123456789" 0 (.aware 0) second,
    .compareAndAdvance 0 (projection 0 1 (some 0) (some 0)) (grant 1) (.aware 1)]

/-- A checkpoint that the authority signs at time one. -/
def signedAnchor (sequence token : Nat) (previous : Option Sha256)
    (projection : LocalCoordinationProjection) : SignedCoordinationAnchor :=
  { streamId := "plant"
    anchorSequence := sequence
    fencingToken := token
    previousAnchorSha256 := previous
    projection := projection
    authorityKeyId := "ed25519:authority"
    issuedAt := 1
    signature := "signature" }

/-- The authority's answer to a readback at time two. -/
def readbackOf (anchor : SignedCoordinationAnchor) (token : Nat) : CoordinationAnchorReadback :=
  { requestNonce := "nonce-9876543210"
    anchor := anchor
    authorityFencingToken := token
    authorityKeyId := "ed25519:authority"
    readAt := 2
    expiresAt := 2 + second
    signature := "signature" }

/-- What a gateway expects of that readback at time three. -/
def expectation (fence : Option CoordinationFenceGrant) (requireFence : Bool) :
    AnchorExpectation :=
  { streamId := "plant"
    requestNonce := "nonce-9876543210"
    authorityPublicKey := "authority"
    evaluatedAt := .aware 3
    trustedFloor := none
    fence := fence
    requireFence := requireFence }

theorem create_authority :
    InMemoryMonotonicAnchorReference.create "plant" (projection 0 0 none none) "authority"
      (.aware 0) = .ok authority := by decide +kernel

end Sample

open Sample in
set_option maxRecDepth 10000 in
/-- The empty baseline is refused once a writer anchored, although the plant did not move. -/
theorem rollback_detected_unmoved_plant :
    let current := signedAnchor 1 1 (some 0) (projection 0 1 (some 0) (some 0))
    (Method.call (InMemoryMonotonicAnchorReference.readback "nonce-9876543210" (.aware 2) second)
      (authority.afterAll advancingCalls)).1 = .ok (readbackOf current 1) ∧
    (validateAnchoredCoordinationRecovery (projection 0 0 none none)
      (some (readbackOf current 1)) (expectation none false)).status ∉
        [.aligned, .admissionReady, .recoveryRequired] :=
  ⟨by decide +kernel,
    InMemoryMonotonicAnchorReference.rollback_detected create_authority [] advancingCalls
      (by decide +kernel) (by decide +kernel) (by decide +kernel) (by decide +kernel) _⟩

section

variable [AnchorPrimitives] {projection : LocalCoordinationProjection}
  {readback : CoordinationAnchorReadback} {ref : InMemoryMonotonicAnchorReference}

namespace InMemoryMonotonicAnchorReference

/-- The validator tells an aligned local state to advance exactly when the authority lets it, and
    then finds it aligned. -/
theorem validator_agrees_with_authority (hsigned : AnchorSignaturesVerify) {streamId : String}
    {genesis : LocalCoordinationProjection} {key : PrivateKey} {initializedAt : DateTime}
    (hcreate : create streamId genesis key initializedAt = .ok ref) (calls : List AnchorCall)
    {current : InMemoryMonotonicAnchorReference} (hcurrent : current = ref.afterAll calls)
    (hdigest : projection.digest = current.anchor.projection.digest →
      projection = current.anchor.projection)
    {nonce : String} {readAt : DateTime} {lifetime : Time}
    (hreadback : (Method.call (InMemoryMonotonicAnchorReference.readback nonce readAt lifetime)
      current).1 = .ok readback) (expected : AnchorExpectation) :
    (projection.recoveryStatus = .aligned →
      (validateAnchoredCoordinationRecovery projection (some readback) expected).reason =
        .localAdvanceRequiresAnchor →
      ∃ grant, (ref.grants calls).getLast? = some grant ∧
        ∀ advancedAt, grant.validAt advancedAt = true → current.anchor.issuedAt ≤ advancedAt →
          ∃ anchor, Method.call (compareAndAdvance current.anchor.digest projection grant
              (.aware advancedAt)) current = (.ok anchor, { current with anchor := anchor }) ∧
            ∀ nextNonce nextReadAt nextLifetime next nextExpected,
              (Method.call (InMemoryMonotonicAnchorReference.readback nextNonce nextReadAt
                nextLifetime) { current with anchor := anchor }).1 = .ok next →
              AnchorExpectation.Accepts nextExpected next → nextExpected.requireFence = false →
                (validateAnchoredCoordinationRecovery projection (some next) nextExpected).status =
                  .aligned) ∧
    (∀ expectedSha fence advancedAt anchor after,
      Method.call (compareAndAdvance expectedSha projection fence advancedAt) current =
        (.ok anchor, after) → expected.Accepts readback →
          (validateAnchoredCoordinationRecovery projection (some readback) expected).reason =
            .localAdvanceRequiresAnchor) := by
  have hauthentic := (Authentic.of_create hcreate).afterAll calls
  rw [← hcurrent, List.nil_append] at hauthentic
  obtain ⟨hanchor, hauthority⟩ := readback_ok hreadback
  have hwriter := (SignedCoordinationAnchor.token_of_shape hauthentic.shape).2
  refine ⟨?_, ?_⟩
  · intro haligned hreason
    -- The decision was made by the comparison, and the local state was not the anchored one.
    have hsucceeds : projection.Succeeds current.anchor current.fencingToken := by
      rcases validateAnchoredCoordinationRecovery_cases projection (some readback) expected with
        ⟨-, hclosed⟩ | ⟨_, hfound, -, -, -, hdecision⟩
      · exact absurd hreason hclosed
      · obtain rfl := Option.some.inj hfound
        rw [hdecision] at hreason
        by_cases hsame : projection.digest = readback.anchor.projection.digest
        · rw [if_pos hsame] at hreason
          exact absurd hreason (validateAnchored_cases projection readback expected).1
        · rw [if_neg hsame] at hreason
          have h := (validateUnanchored_localAdvance haligned).mp hreason
          rw [hanchor, hauthority] at h
          exact h
    have hleft : current.anchor.fencingToken < current.fencingToken := by
      rw [← hwriter, ← hsucceeds.current]
      exact hsucceeds.newer
    obtain ⟨grant, hlast, hissued⟩ := hauthentic.newest hleft
    refine ⟨grant, hlast, ?_⟩
    intro advancedAt hvalid hlater
    have hfence : current.fenceAccepted grant advancedAt = true := by
      unfold fenceAccepted
      rw [hissued.signed hsigned, hvalid, Bool.true_and, Bool.true_and, decide_eq_true_eq]
      exact ⟨hissued.stream, hissued.sequence, hissued.anchor, hissued.token,
        by rw [hissued.token]; exact hleft⟩
    have hmonotonic : projectionMonotonic current.anchor projection grant = true := by
      unfold projectionMonotonic
      rw [decide_eq_true_eq]
      exact ⟨haligned, hsucceeds.current.trans hissued.token.symm, hsucceeds.sequence,
        hsucceeds.anchor, hsucceeds.model, hsucceeds.version, hsucceeds.state⟩
    have hissue : ∃ anchor, SignedCoordinationAnchor.issue current.anchor.streamId
        (current.anchor.anchorSequence + 1) grant.fencingToken (some current.anchor.digest)
        projection current.privateKey (.aware advancedAt) = .ok anchor := by
      refine ⟨_, SignedCoordinationAnchor.issue_eq_ok.mpr
        ⟨advancedAt, rfl, hauthentic.stream, ?_, rfl⟩⟩
      have hpositive : ¬ grant.fencingToken < 1 := by
        rw [hissued.token]
        omega
      have hbinds : ¬ (projection.writerFencingToken ≠ grant.fencingToken ∨
          projection.basedOnAnchorSequence ≠ some (current.anchor.anchorSequence + 1 - 1) ∨
          projection.basedOnAnchorSha256 ≠ some current.anchor.digest) := by
        rintro (h | h | h)
        · exact h (hsucceeds.current.trans hissued.token.symm)
        · exact h hsucceeds.sequence
        · exact h hsucceeds.anchor
      simp only [SignedCoordinationAnchor.requireMonotonicShape, haligned, ne_eq,
        not_true_eq_false, bind_unit_eq_ok, refuseIf_eq_ok, not_false_eq_true, true_and,
        Nat.succ_ne_zero, if_false, reduceCtorEq, hpositive, or_self]
      exact hbinds
    obtain ⟨anchor, hissue⟩ := hissue
    refine ⟨anchor, compareAndAdvance_eq_ok.mpr
      ⟨rfl, ⟨advancedAt, rfl, hlater, hfence⟩, hmonotonic, hissue, rfl⟩, ?_⟩
    intro nextNonce nextReadAt nextLifetime next nextExpected hnext haccepts hunfenced
    obtain ⟨hnextAnchor, -⟩ := readback_ok hnext
    have hanchored : next.anchor.projection = projection := by
      rw [hnextAnchor]
      obtain ⟨instant, -, -, -, heq⟩ := SignedCoordinationAnchor.issue_eq_ok.mp hissue
      rw [heq]
    rw [haccepts.decides haligned, if_pos (by rw [hanchored]), validateAnchored, if_pos hunfenced]
    rfl
  · intro expectedSha fence advancedAt anchor after hadvance haccepts
    obtain ⟨-, ⟨instant, -, -, hfence⟩, hmonotonic, -, -⟩ := compareAndAdvance_eq_ok.mp hadvance
    obtain ⟨-, -, -, hnewest, hunused⟩ := of_decide_eq_true (Bool.and_eq_true_iff.mp hfence).2
    obtain ⟨haligned, htoken, hsequence, hbased, hmodel, hversion, hstate⟩ :=
      of_decide_eq_true hmonotonic
    have hsucceeds : projection.Succeeds readback.anchor readback.authorityFencingToken := by
      rw [hanchor, hauthority]
      refine ⟨?_, hversion, hmodel, hstate, htoken.trans hnewest, hsequence, hbased⟩
      rw [hwriter, htoken]
      exact hunused
    have hdiffers : projection.digest ≠ readback.anchor.projection.digest := by
      rw [hanchor]
      intro hsame
      have hnewer := hsucceeds.newer
      rw [hanchor, ← hdigest hsame] at hnewer
      exact lt_irrefl _ hnewer
    rw [haccepts.decides haligned, if_neg hdiffers]
    exact (validateUnanchored_localAdvance haligned).mpr hsucceeds

end InMemoryMonotonicAnchorReference

end

namespace Sample

theorem anchorSignaturesVerify : AnchorSignaturesVerify := by
  intro key material
  exact ⟨rfl, show "signature" ≠ "" by decide⟩

end Sample

open Sample in
set_option maxRecDepth 10000 in
/-- A writer that holds the first grant is told to anchor, anchors, and is then aligned. -/
theorem validator_agrees_with_authority_granted :
    let current := { authority with fencingToken := 1 }
    let written := projection 0 1 (some 0) (some 0)
    (validateAnchoredCoordinationRecovery written (some (readbackOf authority.anchor 1))
      (expectation none false)).reason = .localAdvanceRequiresAnchor ∧
    ∃ anchor, Method.call (InMemoryMonotonicAnchorReference.compareAndAdvance 0 written (grant 1)
      (.aware 1)) current = (.ok anchor, { current with anchor := anchor }) ∧
      (validateAnchoredCoordinationRecovery written (some (readbackOf anchor 1))
        (expectation none false)).status = .aligned := by
  intro current written
  have hreason : (validateAnchoredCoordinationRecovery written
      (some (readbackOf authority.anchor 1)) (expectation none false)).reason =
        .localAdvanceRequiresAnchor := by decide +kernel
  have hcurrent : current = authority.afterAll
      [.acquireFence "writer" "nonce-0123456789" 0 (.aware 0) second] := by decide +kernel
  have hdigest : written.digest = current.anchor.projection.digest →
      written = current.anchor.projection := by decide +kernel
  have hreadback : (Method.call (InMemoryMonotonicAnchorReference.readback "nonce-9876543210"
      (.aware 2) second) current).1 = .ok (readbackOf authority.anchor 1) := by decide +kernel
  refine ⟨hreason, ?_⟩
  obtain ⟨⟨latest, hlatest, hadvances⟩, -⟩ :=
    (InMemoryMonotonicAnchorReference.validator_agrees_with_authority anchorSignaturesVerify
      create_authority _ hcurrent hdigest hreadback (expectation none false)).imp_left
        (fun h => h (by decide +kernel) hreason)
  have hgrant : latest = grant 1 := by
    rw [show authority.grants [.acquireFence "writer" "nonce-0123456789" 0 (.aware 0) second] =
      [grant 1] by decide +kernel] at hlatest
    exact (Option.some.inj hlatest).symm
  subst hgrant
  obtain ⟨anchor, hadvance, haligned⟩ := hadvances 1 (by decide +kernel) (by decide +kernel)
  refine ⟨anchor, hadvance, ?_⟩
  have hanchor : anchor = signedAnchor 1 1 (some 0) written := by
    rw [show Method.call (InMemoryMonotonicAnchorReference.compareAndAdvance
      current.anchor.digest written (grant 1) (.aware 1)) current =
        (.ok (signedAnchor 1 1 (some 0) written),
          { current with anchor := signedAnchor 1 1 (some 0) written }) by decide +kernel,
      Prod.mk.injEq, Except.ok.injEq] at hadvance
    exact hadvance.1.symm
  subst hanchor
  exact haligned "nonce-9876543210" (.aware 2) second _ _ (by decide +kernel)
    ⟨rfl, rfl, by decide +kernel, by decide +kernel, rfl⟩ rfl

section

variable [AnchorPrimitives] {projection : LocalCoordinationProjection}
  {readback : CoordinationAnchorReadback} {ref : InMemoryMonotonicAnchorReference}

namespace InMemoryMonotonicAnchorReference

/-- An admitted writer holds a newer token than everyone admitted before the last grant or
    advance; and a writer is admitted exactly under the conditions of `Admits`. -/
theorem one_admissible_writer :
    (∀ (ref : InMemoryMonotonicAnchorReference) (earlier later : List AnchorCall)
      firstNonce firstReadAt firstLifetime first secondNonce secondReadAt secondLifetime second
      firstProjection secondProjection (firstExpected secondExpected : AnchorExpectation),
      (Method.call (InMemoryMonotonicAnchorReference.readback firstNonce firstReadAt
        firstLifetime) (ref.afterAll earlier)).1 = .ok first →
      (Method.call (InMemoryMonotonicAnchorReference.readback secondNonce secondReadAt
        secondLifetime) (ref.afterAll (earlier ++ later))).1 = .ok second →
      (validateAnchoredCoordinationRecovery firstProjection (some first) firstExpected).status =
        .admissionReady →
      (validateAnchoredCoordinationRecovery secondProjection (some second)
        secondExpected).status = .admissionReady →
      ((ref.afterAll earlier).grants later ≠ [] ∨ (ref.afterAll earlier).advances later ≠ []) →
        ∃ firstFence secondFence, firstExpected.fence = some firstFence ∧
          secondExpected.fence = some secondFence ∧
          firstFence.fencingToken < secondFence.fencingToken) ∧
    ∀ (projection : LocalCoordinationProjection) (readback : CoordinationAnchorReadback)
      (expected : AnchorExpectation),
      readback.anchor.requireMonotonicShape = .ok () →
      (projection.digest = readback.anchor.projection.digest →
        projection = readback.anchor.projection) →
      ((validateAnchoredCoordinationRecovery projection (some readback) expected).status =
        .admissionReady ↔ expected.Admits projection readback) := by
  refine ⟨?_, ?_⟩
  · intro ref earlier later firstNonce firstReadAt firstLifetime first secondNonce secondReadAt
      secondLifetime second firstProjection secondProjection firstExpected secondExpected
      hfirst hsecond hfirstReady hsecondReady hmoved
    obtain ⟨firstFence, hfirstFence, hfirstAdmits⟩ := fence_of_admissionReady hfirstReady
    obtain ⟨secondFence, hsecondFence, hsecondAdmits⟩ := fence_of_admissionReady hsecondReady
    refine ⟨firstFence, secondFence, hfirstFence, hsecondFence, ?_⟩
    obtain ⟨-, hfirstToken⟩ := readback_ok hfirst
    obtain ⟨hsecondAnchor, hsecondToken⟩ := readback_ok hsecond
    have hfirstCurrent := hfirstAdmits.current
    have hsecondCurrent := hsecondAdmits.current
    have hsecondUnused := hsecondAdmits.unused
    rw [hsecondAnchor, afterAll_append] at hsecondUnused
    rw [hsecondToken, afterAll_append] at hsecondCurrent
    rw [hfirstToken] at hfirstCurrent
    rcases hmoved with hgranted | hadvanced
    · obtain ⟨newest, hnewest⟩ := List.getLast?_isSome.mpr hgranted |> Option.isSome_iff_exists.mp
      have htoken := (ref.afterAll earlier).fencingToken_afterAll later
      rw [hnewest, Option.map_some, Option.getD_some] at htoken
      have habove := ((ref.afterAll earlier).grants_increase later).1 newest
        (List.mem_of_getLast? hnewest)
      omega
    · have hanchored := (ref.afterAll earlier).fencingToken_le_anchor hadvanced
      omega
  · intro projection readback expected hshape hdigest
    rw [admissionReady_iff]
    constructor
    · rintro ⟨haccepts, -, hsame, hrequired, hfence⟩
      refine ⟨hrequired, ?_, haccepts, hsame, hfence⟩
      rw [hdigest hsame]
      exact (SignedCoordinationAnchor.token_of_shape hshape).1
    · intro h
      refine ⟨h.accepts, ?_, h.anchored, h.required, h.fence⟩
      rw [h.aligned]
      exact ⟨nofun, nofun⟩

end InMemoryMonotonicAnchorReference

end

open Sample in
set_option maxRecDepth 10000 in
/-- A writer admitted on the first grant, and one admitted on the second. -/
theorem one_admissible_writer_superseded :
    let acquire := AnchorCall.acquireFence "writer" "nonce-0123456789" 0 (.aware 0) second
    (authority.afterAll [acquire]).grants [acquire] = [grant 2] ∧
    (∃ firstFence secondFence, (expectation (some (grant 1)) true).fence = some firstFence ∧
      (expectation (some (grant 2)) true).fence = some secondFence ∧
      firstFence.fencingToken < secondFence.fencingToken) ∧
    ((validateAnchoredCoordinationRecovery (projection 0 0 none none)
      (some (readbackOf authority.anchor 1)) (expectation (some (grant 1)) true)).status =
        .admissionReady ↔
      (expectation (some (grant 1)) true).Admits (projection 0 0 none none)
        (readbackOf authority.anchor 1)) :=
  ⟨by decide +kernel,
    InMemoryMonotonicAnchorReference.one_admissible_writer.1 authority
      [.acquireFence "writer" "nonce-0123456789" 0 (.aware 0) second]
      [.acquireFence "writer" "nonce-0123456789" 0 (.aware 0) second]
      "nonce-9876543210" (.aware 2) second (readbackOf authority.anchor 1)
      "nonce-9876543210" (.aware 2) second (readbackOf authority.anchor 2)
      (projection 0 0 none none) (projection 0 0 none none) _ _ (by decide +kernel)
      (by decide +kernel) (by decide +kernel) (by decide +kernel) (.inl (by decide +kernel)),
    InMemoryMonotonicAnchorReference.one_admissible_writer.2 _ _ _ (by decide +kernel)
      (by decide +kernel)⟩

end AegisOt
