import AegisOt.Coordination.Proofs.RecordHistory
import AegisOt.Coordination.Sample

/-!
# Live and historical verification of an outcome

An outcome is verified when it arrives, under the credentials of that instant, and again
whenever the retained outcome is exposed, under the credentials of the instants at which its
artifacts were signed. Everything the first verification reads from the trust bundle is a
historical fact or current at the first instant; what the second one asks for in addition is
exactly that the sender's credential of a query still held when the outcome was signed.
-/

namespace AegisOt

section

variable [Primitives]

/-! ## Credentials -/

/-- What `checkClaims` asks of a credential at every instant. -/
def WorkloadIdentityVerifier.Claims (v : WorkloadIdentityVerifier)
    (signed : SignedWorkloadCredential) (role : WorkloadRole) (audience subject : String)
    (actorId : Option String) : Prop :=
  signed.credential.trustDomain = v.trustDomain ∧
    signed.credential.authorityKeyId = v.trustRootKeyId ∧
    signed.verify v.trustRootPublicKey = true ∧
    signed.credential.expiresAt - signed.credential.notBefore ≤ v.maximumCredentialLifetime ∧
    signed.credential.role = role ∧ signed.credential.subject = subject ∧
    signed.credential.actorId = actorId ∧ audience ∈ signed.credential.audiences

/-- The trust bundle does not hold a revocation of the credential by the given instant. -/
def WorkloadTrustBundle.Trusts (bundle : WorkloadTrustBundle) (signed : SignedWorkloadCredential)
    (instant : Time) : Prop :=
  ∀ r ∈ bundle.revocations, r.credentialId = signed.credential.credentialId →
    instant < r.revokedAt

/-- `later` adds no revocation effective at or before one of the instants. -/
def WorkloadTrustBundle.RevokesOnlyAfter (bundle later : WorkloadTrustBundle)
    (instants : List Time) : Prop :=
  ∀ r ∈ later.revocations, r ∈ bundle.revocations ∨ ∀ instant ∈ instants, instant < r.revokedAt

theorem checkClaims_eq_ok {v : WorkloadIdentityVerifier} {signed : SignedWorkloadCredential}
    {label message audience subject : String} {valid : Prop} [Decidable valid]
    {role : WorkloadRole} {actorId : Option String} :
    v.checkClaims signed label valid message role audience subject actorId = .ok () ↔
      v.Claims signed role audience subject actorId ∧ valid := by
  unfold WorkloadIdentityVerifier.checkClaims WorkloadIdentityVerifier.Claims
  simp only [bind_unit_eq_ok, refuseIf_eq_ok]
  constructor
  · rintro ⟨hissuer, hlifetime, hvalid, hrole, hsubject, hactor, haudience⟩
    simp only [not_or, ne_eq, not_not, Bool.not_eq_false] at hissuer
    rw [not_not] at hvalid hrole hsubject hactor haudience
    exact ⟨⟨hissuer.1, hissuer.2.1, hissuer.2.2, not_lt.mp hlifetime, hrole, hsubject, hactor,
      haudience⟩, hvalid⟩
  · rintro ⟨⟨hdomain, hauthority, hverify, hlifetime, hrole, hsubject, hactor, haudience⟩, hvalid⟩
    refine ⟨?_, not_lt.mpr hlifetime, not_not.mpr hvalid, not_not.mpr hrole,
      not_not.mpr hsubject, not_not.mpr hactor, not_not.mpr haudience⟩
    simp [hdomain, hauthority, hverify]

/-- A live credential check, read back. -/
theorem credentialPublicKey_eq_some {v : WorkloadIdentityVerifier}
    {signed : SignedWorkloadCredential} {role : WorkloadRole} {audience subject : String}
    {now : Time} {key : PublicKey}
    (h : credentialPublicKey v signed role audience subject now = some key) :
    v.Claims signed role audience subject none ∧
      signed.credential.notBefore ≤ now ∧ now < signed.credential.expiresAt ∧
      signed.credential.publicKey = key ∧
      ∀ bundle, v.trustedBundle now = some bundle →
        ∀ r ∈ bundle.revocations, r.credentialId ≠ signed.credential.credentialId := by
  unfold credentialPublicKey WorkloadIdentityVerifier.verifyCredential at h
  rw [toOption_eq_some, bind_eq_ok] at h
  obtain ⟨bundle, hbundle, h⟩ := h
  rw [bind_unit_eq_ok, bind_unit_eq_ok, checkClaims_eq_ok, refuseIf_eq_ok, pure_eq_ok,
    Except.ok.injEq] at h
  obtain ⟨⟨hclaims, hfrom, huntil⟩, hrevoked, hkey⟩ := h
  refine ⟨hclaims, hfrom, huntil, hkey, ?_⟩
  intro other hother r hr hid
  rw [orRaise_eq_ok, hother, Option.some.injEq] at hbundle
  subst hbundle
  exact hrevoked (List.any_eq_true.mpr ⟨r, hr, decide_eq_true hid⟩)

/-- A historical credential check, read in both directions. -/
theorem historicalCredentialPublicKey_eq_some {v : WorkloadIdentityVerifier}
    {signed : SignedWorkloadCredential} {role : WorkloadRole} {audience subject : String}
    {instant now : Time} {bundle : WorkloadTrustBundle} {key : PublicKey}
    (hbundle : v.trustedBundle now = some bundle) :
    historicalCredentialPublicKey v signed role audience subject instant now
        maxCoordinationFutureSkew = some key ↔
      instant ≤ now + maxCoordinationFutureSkew ∧
        v.Claims signed role audience subject none ∧
        signed.credential.notBefore ≤ instant ∧ instant < signed.credential.expiresAt ∧
        bundle.Trusts signed instant ∧ signed.credential.publicKey = key := by
  have hskew : ¬ maxCoordinationFutureSkew < 0 := by decide
  have htrusts : (¬ bundle.revocations.any (fun r =>
        decide (r.credentialId = signed.credential.credentialId ∧ r.revokedAt ≤ instant)) = true) ↔
      bundle.Trusts signed instant := by
    rw [List.any_eq_true]
    constructor
    · intro hnone r hr hid
      by_contra hlate
      exact hnone ⟨r, hr, decide_eq_true ⟨hid, not_lt.mp hlate⟩⟩
    · rintro hall ⟨r, hr, hrevoked⟩
      obtain ⟨hid, hearly⟩ := of_decide_eq_true hrevoked
      exact absurd (hall r hr hid) (not_lt.mpr hearly)
  unfold historicalCredentialPublicKey WorkloadIdentityVerifier.verifyHistoricalCredential
  rw [toOption_eq_some, bind_unit_eq_ok, bind_unit_eq_ok, refuseIf_eq_ok, refuseIf_eq_ok,
    hbundle, orRaise, ok_bind, bind_unit_eq_ok, bind_unit_eq_ok, checkClaims_eq_ok,
    refuseIf_eq_ok, htrusts, pure_eq_ok, Except.ok.injEq]
  constructor
  · rintro ⟨-, hfuture, ⟨hclaims, hfrom, huntil⟩, htrusted, hkey⟩
    exact ⟨not_lt.mp hfuture, hclaims, hfrom, huntil, htrusted, hkey⟩
  · rintro ⟨hfuture, hclaims, hfrom, huntil, htrusted, hkey⟩
    exact ⟨hskew, not_lt.mpr hfuture, ⟨hclaims, hfrom, huntil⟩, htrusted, hkey⟩

/-! ## What stays true under a later trust bundle -/

/-- The verifier with another trust bundle on disk. -/
def WorkloadIdentityVerifier.withBundle (v : WorkloadIdentityVerifier)
    (trusted : Time → Option WorkloadTrustBundle) : WorkloadIdentityVerifier :=
  { v with trustedBundle := trusted }

/-- Two readings of the trust bundle, the second one later and without a new revocation
    effective by one of the given instants. -/
structure TrustContinues (v : WorkloadIdentityVerifier)
    (trusted : Time → Option WorkloadTrustBundle) (now later : Time) (instants : List Time) :
    Prop where
  order : now ≤ later
  valid : ∃ bundle, trusted later = some bundle
  revokes : ∀ first second, v.trustedBundle now = some first → trusted later = some second →
    first.RevokesOnlyAfter second instants

section

variable {v : WorkloadIdentityVerifier} {trusted : Time → Option WorkloadTrustBundle}
variable {now later : Time} {instants : List Time}

/-- A live check needs a trust bundle. -/
theorem bundle_of_credentialPublicKey {signed : SignedWorkloadCredential} {role : WorkloadRole}
    {audience subject : String} {key : PublicKey}
    (h : credentialPublicKey v signed role audience subject now = some key) :
    ∃ bundle, v.trustedBundle now = some bundle := by
  unfold credentialPublicKey WorkloadIdentityVerifier.verifyCredential at h
  rw [toOption_eq_some, bind_eq_ok] at h
  obtain ⟨bundle, hbundle, -⟩ := h
  exact ⟨bundle, orRaise_eq_ok.mp hbundle⟩

theorem bundle_of_historicalCredentialPublicKey {signed : SignedWorkloadCredential}
    {role : WorkloadRole} {audience subject : String} {instant skew : Time} {key : PublicKey}
    (h : historicalCredentialPublicKey v signed role audience subject instant now skew
      = some key) : ∃ bundle, v.trustedBundle now = some bundle := by
  unfold historicalCredentialPublicKey WorkloadIdentityVerifier.verifyHistoricalCredential at h
  rw [toOption_eq_some, bind_unit_eq_ok, bind_unit_eq_ok, bind_eq_ok] at h
  obtain ⟨-, -, bundle, hbundle, -⟩ := h
  exact ⟨bundle, orRaise_eq_ok.mp hbundle⟩

/-- A credential judged at a retained instant is judged the same way later. -/
theorem TrustContinues.historicalCredentialPublicKey {signed : SignedWorkloadCredential}
    {role : WorkloadRole} {audience subject : String} {instant : Time} {key : PublicKey}
    (hcontinues : TrustContinues v trusted now later instants) (hinstant : instant ∈ instants)
    (h : AegisOt.historicalCredentialPublicKey v signed role audience subject instant now
      maxCoordinationFutureSkew = some key) :
    AegisOt.historicalCredentialPublicKey (v.withBundle trusted) signed role audience subject
      instant later maxCoordinationFutureSkew = some key := by
  obtain ⟨first, hfirst⟩ := bundle_of_historicalCredentialPublicKey h
  obtain ⟨second, hsecond⟩ := hcontinues.valid
  obtain ⟨hfuture, hclaims, hfrom, huntil, htrusts, hkey⟩ :=
    (historicalCredentialPublicKey_eq_some hfirst).mp h
  refine (historicalCredentialPublicKey_eq_some (v := v.withBundle trusted) hsecond).mpr
    ⟨?_, hclaims, hfrom, huntil, ?_, hkey⟩
  · exact le_trans hfuture (Int.add_le_add_right hcontinues.order _)
  · intro r hr hid
    rcases hcontinues.revokes first second hfirst hsecond r hr with hold | hnew
    · exact htrusts r hold hid
    · exact hnew instant hinstant

/-- A credential that is accepted now is accepted later for a retained instant within its
    validity. -/
theorem TrustContinues.historical_of_live {signed : SignedWorkloadCredential}
    {role : WorkloadRole} {audience subject : String} {instant : Time} {key : PublicKey}
    (hcontinues : TrustContinues v trusted now later instants) (hinstant : instant ∈ instants)
    (hfuture : instant ≤ now + maxCoordinationFutureSkew)
    (hfrom : signed.credential.notBefore ≤ instant)
    (h : credentialPublicKey v signed role audience subject now = some key) :
    AegisOt.historicalCredentialPublicKey (v.withBundle trusted) signed role audience subject
      instant later maxCoordinationFutureSkew =
        if instant < signed.credential.expiresAt then some key else none := by
  obtain ⟨first, hfirst⟩ := bundle_of_credentialPublicKey h
  obtain ⟨second, hsecond⟩ := hcontinues.valid
  obtain ⟨hclaims, -, -, hkey, hunrevoked⟩ := credentialPublicKey_eq_some h
  split
  · rename_i huntil
    refine (historicalCredentialPublicKey_eq_some (v := v.withBundle trusted) hsecond).mpr
      ⟨?_, hclaims, hfrom, huntil, ?_, hkey⟩
    · exact le_trans hfuture (Int.add_le_add_right hcontinues.order _)
    · intro r hr hid
      rcases hcontinues.revokes first second hfirst hsecond r hr with hold | hnew
      · exact absurd hid (hunrevoked first hfirst r hold)
      · exact hnew instant hinstant
  · rename_i hexpired
    cases hresult : AegisOt.historicalCredentialPublicKey (v.withBundle trusted) signed role
        audience subject instant later maxCoordinationFutureSkew with
    | none => rfl
    | some found =>
      have hvalid := (historicalCredentialPublicKey_eq_some
        (v := v.withBundle trusted) hsecond).mp hresult
      exact absurd hvalid.2.2.2.1 hexpired

/-- A receipt verifies later as it does now. -/
theorem TrustContinues.receipt {receipt : CoordinationReceipt}
    {request : SignedEffectPrepareRequest} {gatewaySubject coordinatorSubject : String}
    (hcontinues : TrustContinues v trusted now later instants)
    (hinstant : receipt.preparedAt ∈ instants)
    (h : receipt.verifyForRequest v request gatewaySubject coordinatorSubject now = true) :
    receipt.verifyForRequest (v.withBundle trusted) request gatewaySubject coordinatorSubject
      later = true := by
  unfold CoordinationReceipt.verifyForRequest at h ⊢
  split at h
  · rename_i gatewayKey coordinatorKey hgateway hcoordinator
    rw [hcontinues.historicalCredentialPublicKey hinstant hgateway,
      hcontinues.historicalCredentialPublicKey hinstant hcoordinator]
    have horder := hcontinues.order
    simp only [Bool.and_eq_true, decide_eq_true_eq] at h ⊢
    obtain ⟨⟨⟨h₁, h₂, h₃, h₄, h₅, h₆, h₇, h₈, h₉, h₁₀, h₁₁⟩, hrequest⟩, hreceipt⟩ := h
    exact ⟨⟨⟨h₁, h₂, h₃, h₄, h₅, h₆, h₇, h₈, h₉, h₁₀,
      le_trans h₁₁ (Int.add_le_add_right horder _)⟩, hrequest⟩, hreceipt⟩
  · cases h

/-- An acceptance verifies later as it does now. -/
theorem TrustContinues.acceptance {acceptance : DurableCommitAcceptance}
    {request : SignedEffectCommitRequest} {gatewaySubject coordinatorSubject : String}
    {expected : ExpectedIdentities}
    (hcontinues : TrustContinues v trusted now later instants)
    (haccepted : acceptance.acceptedAt ∈ instants)
    (hprepared : request.receipt.preparedAt ∈ instants)
    (h : acceptance.verifyForCommit v request gatewaySubject coordinatorSubject expected now
      = true) :
    acceptance.verifyForCommit (v.withBundle trusted) request gatewaySubject coordinatorSubject
      expected later = true := by
  unfold DurableCommitAcceptance.verifyForCommit at h ⊢
  split at h
  · rename_i gatewayKey coordinatorKey hgateway hcoordinator
    rw [hcontinues.historicalCredentialPublicKey haccepted hgateway,
      hcontinues.historicalCredentialPublicKey haccepted hcoordinator]
    have horder := hcontinues.order
    simp only [Bool.and_eq_true, decide_eq_true_eq] at h ⊢
    obtain ⟨⟨⟨⟨⟨h₁, h₂, h₃, h₄, h₅, h₆, h₇, h₈, h₉, h₁₀⟩, hrequest⟩, hreceipt⟩, hinner⟩,
      hacceptance⟩ := h
    exact ⟨⟨⟨⟨⟨h₁, h₂, h₃, h₄, h₅, h₆, h₇, h₈, h₉,
      le_trans h₁₀ (Int.add_le_add_right horder _)⟩, hrequest⟩,
      hcontinues.receipt hprepared hreceipt⟩, hinner⟩, hacceptance⟩
  · cases h

/-! ## Requests and outcomes -/

/-- An accepted request envelope, read back. -/
theorem SignedRequest.verifyWorkloadEnvelope_spec {r : SignedRequest}
    {verifySignature : PublicKey → Bool} {audience subject : String}
    (h : r.verifyWorkloadEnvelope verifySignature v audience subject now = true) :
    ∃ key, credentialPublicKey v r.senderCredential .gateway audience subject now = some key ∧
      r.audience = audience ∧ r.senderSubject = subject ∧ r.issuedAt ≤ now ∧
      now < r.expiresAt ∧ verifySignature key = true := by
  unfold SignedRequest.verifyWorkloadEnvelope at h
  split at h
  · cases h
  · rename_i key hkey
    simp only [Bool.and_eq_true, decide_eq_true_eq, validAt] at h
    obtain ⟨⟨⟨-, haudience, hsubject⟩, hissued, hexpires⟩, hsignature⟩ := h
    exact ⟨key, hkey, haudience, hsubject, hissued, hexpires, hsignature⟩

/-- The sender of an accepted commit was judged at the acceptance. -/
theorem DurableCommitAcceptance.verifyForCommit_sender {acceptance : DurableCommitAcceptance}
    {request : SignedEffectCommitRequest} {gatewaySubject coordinatorSubject : String}
    {expected : ExpectedIdentities}
    (h : acceptance.verifyForCommit v request gatewaySubject coordinatorSubject expected now
      = true) :
    ∃ key, historicalCredentialPublicKey v request.senderCredential .gateway
      effectCoordinatorAudience gatewaySubject acceptance.acceptedAt now
      maxCoordinationFutureSkew = some key ∧ request.verifyWith key = true := by
  unfold DurableCommitAcceptance.verifyForCommit at h
  split at h
  · rename_i gatewayKey coordinatorKey hgateway hcoordinator
    simp only [Bool.and_eq_true] at h
    exact ⟨gatewayKey, hgateway, h.1.1.1.2⟩
  · cases h

namespace SignedEffectOutcome

/-- What the live verification of an outcome established. -/
structure LiveVerified (o : SignedEffectOutcome) (v : WorkloadIdentityVerifier)
    (request : OutcomeRequest) (gatewaySubject coordinatorSubject : String)
    (expected : ExpectedIdentities) (now : Time) : Prop where
  envelope : request.signedRequest.verifyWorkloadEnvelope request.verifyWith v
    effectCoordinatorAudience gatewaySubject now = true
  coordinator : ∃ key, credentialPublicKey v o.coordinatorCredential .otAdapter
    gatewayCoordinationAudience coordinatorSubject now = some key ∧ o.verifyWith key = true
  kind : o.requestKind = request.kind
  digest : o.requestSha256 = request.digest
  effect : o.effect = request.signedRequest.effect
  effectDigest : o.effectSha256 = request.signedRequest.effect.digest
  exact : request.commitSatisfies
    (fun r => decide (o.acceptance.map (fun a => a.commitRequest) = some r)) = true
  acceptance : ∀ a, o.acceptance = some a → a.verifyForCommit v a.commitRequest gatewaySubject
    coordinatorSubject expected now = true
  audience : o.audience = gatewayCoordinationAudience
  subject : o.coordinatorSubject = coordinatorSubject
  signedFrom : request.signedRequest.issuedAt ≤ o.signedAt
  signedBefore : o.signedAt < request.signedRequest.expiresAt
  signedSkew : o.signedAt ≤ now + maxCoordinationFutureSkew

theorem verifyForRequest_spec {o : SignedEffectOutcome} {request : OutcomeRequest}
    {gatewaySubject coordinatorSubject : String} {expected : ExpectedIdentities}
    (h : o.verifyForRequest v request gatewaySubject coordinatorSubject expected now = true) :
    o.LiveVerified v request gatewaySubject coordinatorSubject expected now := by
  unfold verifyForRequest at h
  simp only at h
  split at h
  · cases h
  · rename_i key hkey
    simp only [Bool.and_eq_true, decide_eq_true_eq] at h
    obtain ⟨⟨⟨⟨⟨⟨henvelope, hkind, hdigest, heffect, heffectDigest⟩, hexact⟩, hacceptance⟩, -⟩,
      haudience, hsubject, hfrom, hbefore, hskew⟩, hsignature⟩ := h
    refine ⟨henvelope, ⟨key, hkey, hsignature⟩, hkind, hdigest, heffect, heffectDigest, hexact,
      ?_, haudience, hsubject, hfrom, hbefore, hskew⟩
    intro a ha
    rw [ha] at hacceptance
    exact hacceptance

/-- The instants at which the outcome, the request and everything inside them were signed. -/
def signingInstants (o : SignedEffectOutcome) (request : OutcomeRequest) : List Time :=
  o.signedAt :: request.signedRequest.issuedAt ::
    match o.acceptance with
    | none => []
    | some a => [a.acceptedAt, a.commitRequest.issuedAt, a.commitRequest.receipt.preparedAt,
        a.commitRequest.receipt.prepareRequest.issuedAt]

variable {o : SignedEffectOutcome} {request : OutcomeRequest}
variable {gatewaySubject coordinatorSubject : String} {expected : ExpectedIdentities}

/-- The instant at which the historical verification judges the sender. -/
def requestAuthenticatedAt (o : SignedEffectOutcome) (request : OutcomeRequest) : Time :=
  match request, o.acceptance with
  | .commit _, some acceptance => acceptance.acceptedAt
  | _, _ => o.signedAt

/-- The acceptance check of the historical verification. -/
def historicalAcceptanceValid (o : SignedEffectOutcome) (v : WorkloadIdentityVerifier)
    (gatewaySubject coordinatorSubject : String) (expected : ExpectedIdentities)
    (evaluatedAt : Time) : Bool :=
  match o.acceptance with
  | none => decide (o.disposition = .notDispatched)
  | some acceptance => acceptance.verifyForCommit v acceptance.commitRequest gatewaySubject
      coordinatorSubject expected evaluatedAt

/-- The acknowledgment check of the historical verification. -/
def historicalAcknowledgmentValid (o : SignedEffectOutcome) : Bool :=
  match o.acknowledgment, o.acceptance with
  | none, _ => !o.disposition.dispatchedTerminal
  | some _, none => false
  | some acknowledgment, some acceptance =>
      decide (some acknowledgment.status = o.disposition.expectedStatus ∧
        acceptance.acceptedAt ≤ acknowledgment.acknowledgedAt ∧
        acknowledgment.acknowledgedAt ≤ o.signedAt) &&
      acknowledgmentTransactionValid acceptance acknowledgment

/-- The historical verification in terms of its parts. -/
theorem verifyHistoricalForRequest_eq :
    o.verifyHistoricalForRequest v request gatewaySubject coordinatorSubject expected now =
      match historicalCredentialPublicKey v request.signedRequest.senderCredential .gateway
          effectCoordinatorAudience gatewaySubject (o.requestAuthenticatedAt request) now
          maxCoordinationFutureSkew,
        historicalCredentialPublicKey v o.coordinatorCredential .otAdapter
          gatewayCoordinationAudience coordinatorSubject o.signedAt now
          maxCoordinationFutureSkew with
      | some gatewayPublicKey, some coordinatorPublicKey =>
          decide (
            o.requestKind = request.kind ∧
            o.requestSha256 = request.digest ∧
            o.effect = request.signedRequest.effect ∧
            o.effectSha256 = request.signedRequest.effect.digest ∧
            request.signedRequest.audience = effectCoordinatorAudience ∧
            request.signedRequest.senderSubject = gatewaySubject ∧
            request.signedRequest.issuedAt ≤ o.signedAt ∧
            o.signedAt < request.signedRequest.expiresAt) &&
          request.verifyWith gatewayPublicKey &&
          request.commitSatisfies
            (fun r => decide (o.acceptance.map (fun a => a.commitRequest) = some r)) &&
          o.historicalAcceptanceValid v gatewaySubject coordinatorSubject expected now &&
          o.historicalAcknowledgmentValid &&
          decide (
            o.audience = gatewayCoordinationAudience ∧
            o.coordinatorSubject = coordinatorSubject ∧
            o.signedAt ≤ now + maxCoordinationFutureSkew) &&
          o.verifyWith coordinatorPublicKey
      | _, _ => false := by
  rfl

/-- The evidence of a closed outcome passes the historical checks on it. -/
theorem historical_acknowledgment (houtcome : o.validate = .ok ()) :
    o.historicalAcknowledgmentValid = true := by
  unfold historicalAcknowledgmentValid
  rcases o.closed_cases houtcome with ⟨hnd, -, hnone, hack⟩ | ⟨hnd, acceptance, hsome, hevidence⟩
  · rw [hack, hnd]
    rfl
  · rw [hsome]
    cases hack : o.acknowledgment with
    | none =>
      cases hterminal : o.disposition.dispatchedTerminal with
      | false => rfl
      | true =>
        have hstatus := hevidence.terminal hterminal
        rw [hack] at hstatus
        cases hdisposition : o.disposition with
        | notDispatched => exact absurd hdisposition hnd
        | unknownEffect => rw [hdisposition] at hterminal; cases hterminal
        | applied | rejected => rw [hdisposition] at hstatus; cases hstatus
    | some acknowledgment =>
      have hstatus : some acknowledgment.status = o.disposition.expectedStatus := by
        cases hdisposition : o.disposition with
        | notDispatched => exact absurd hdisposition hnd
        | unknownEffect => rw [hevidence.unknown hdisposition acknowledgment hack]; rfl
        | applied | rejected =>
          have hterminal := hevidence.terminal (by rw [hdisposition]; rfl)
          rw [hack, hdisposition] at hterminal
          exact hterminal
      simp only [Bool.and_eq_true, decide_eq_true_eq]
      exact ⟨⟨hstatus, hevidence.chronology acknowledgment hack⟩,
        hevidence.transaction acknowledgment hack⟩

/-- The acceptance of a verified outcome passes the historical checks on it. -/
theorem LiveVerified.historical_acceptance
    (hlive : o.LiveVerified v request gatewaySubject coordinatorSubject expected now)
    (houtcome : o.validate = .ok ())
    (hcontinues : TrustContinues v trusted now later (o.signingInstants request)) :
    o.historicalAcceptanceValid (v.withBundle trusted) gatewaySubject coordinatorSubject expected
      later = true := by
  unfold historicalAcceptanceValid
  rcases o.closed_cases houtcome with ⟨hnd, -, hnone, -⟩ | ⟨-, acceptance, hsome, -⟩
  · rw [hnone]
    exact decide_eq_true hnd
  · rw [hsome]
    refine hcontinues.acceptance ?_ ?_ (hlive.acceptance acceptance hsome)
    · simp [signingInstants, hsome]
    · simp [signingInstants, hsome]

/-- The historical verification finds the coordinator's key. -/
theorem LiveVerified.historical_coordinator
    (hlive : o.LiveVerified v request gatewaySubject coordinatorSubject expected now)
    (houtcome : o.validate = .ok ())
    (hcontinues : TrustContinues v trusted now later (o.signingInstants request)) :
    ∃ key, historicalCredentialPublicKey (v.withBundle trusted) o.coordinatorCredential .otAdapter
      gatewayCoordinationAudience coordinatorSubject o.signedAt later maxCoordinationFutureSkew
        = some key ∧ o.verifyWith key = true := by
  obtain ⟨key, hkey, hsignature⟩ := hlive.coordinator
  have hclaim := o.credential_valid houtcome
  simp only [credentialClaimValidAt, decide_eq_true_eq] at hclaim
  refine ⟨key, ?_, hsignature⟩
  rw [hcontinues.historical_of_live (by simp [signingInstants]) hlive.signedSkew hclaim.2.1 hkey,
    if_pos hclaim.2.2]

/-- The historical verification finds the sender's key exactly while the sender's credential
    held at the signing of a query's outcome. -/
theorem LiveVerified.historical_sender
    (hlive : o.LiveVerified v request gatewaySubject coordinatorSubject expected now)
    (hrequest : request.validate = .ok ())
    (hcontinues : TrustContinues v trusted now later (o.signingInstants request)) :
    ∃ key, request.verifyWith key = true ∧
      historicalCredentialPublicKey (v.withBundle trusted) request.signedRequest.senderCredential
        .gateway effectCoordinatorAudience gatewaySubject (o.requestAuthenticatedAt request) later
        maxCoordinationFutureSkew =
          if request.kind = .commit ∨
              o.signedAt < request.signedRequest.senderCredential.credential.expiresAt
          then some key else none := by
  cases request with
  | commit commit =>
    have hexact := hlive.exact
    simp only [OutcomeRequest.commitSatisfies, decide_eq_true_eq] at hexact
    obtain ⟨acceptance, hacceptance, rfl⟩ := Option.map_eq_some_iff.mp hexact
    obtain ⟨key, hkey, hsignature⟩ :=
      DurableCommitAcceptance.verifyForCommit_sender (hlive.acceptance acceptance hacceptance)
    refine ⟨key, hsignature, ?_⟩
    rw [if_pos (.inl rfl)]
    have hat : o.requestAuthenticatedAt (.commit acceptance.commitRequest)
        = acceptance.acceptedAt := by
      unfold requestAuthenticatedAt
      rw [hacceptance]
    rw [hat]
    exact hcontinues.historicalCredentialPublicKey (by simp [signingInstants, hacceptance]) hkey
  | query query =>
    obtain ⟨key, hkey, -, -, -, -, hsignature⟩ :=
      SignedRequest.verifyWorkloadEnvelope_spec hlive.envelope
    have hcommon : query.toSignedRequest.validateCommon "effect query request" = .ok () := hrequest
    simp only [SignedRequest.validateCommon, bind_unit_eq_ok] at hcommon
    have hclaim := hcommon.2.2.2.2.2.2.2
    rw [refuseIf_eq_ok, Bool.not_eq_false] at hclaim
    have hissued : query.senderCredential.credential.notBefore ≤ query.issuedAt :=
      (of_decide_eq_true hclaim).2.1
    refine ⟨key, hsignature, ?_⟩
    have hfrom := le_trans hissued hlive.signedFrom
    have hfound := hcontinues.historical_of_live (by simp [signingInstants]) hlive.signedSkew
      hfrom hkey
    simp only [OutcomeRequest.kind, reduceCtorEq, false_or]
    exact hfound

/-- A verified outcome verifies again later exactly when it answers a commit, or a query whose
    sender's credential had not expired when the outcome was signed. -/
theorem historical_iff_sender_unexpired (houtcome : o.validate = .ok ())
    (hrequest : request.validate = .ok ())
    (hlive : o.verifyForRequest v request gatewaySubject coordinatorSubject expected now = true)
    (hcontinues : TrustContinues v trusted now later (o.signingInstants request)) :
    o.verifyHistoricalForRequest (v.withBundle trusted) request gatewaySubject
        coordinatorSubject expected later = true ↔
      request.kind = .commit ∨
        o.signedAt < request.signedRequest.senderCredential.credential.expiresAt := by
  have hverified := verifyForRequest_spec hlive
  obtain ⟨senderKey, hrequestSigned, hsender⟩ := hverified.historical_sender hrequest hcontinues
  obtain ⟨coordinatorKey, hcoordinator, hsigned⟩ :=
    hverified.historical_coordinator houtcome hcontinues
  have hacceptance := hverified.historical_acceptance houtcome hcontinues
  have hacknowledgment := historical_acknowledgment houtcome
  obtain ⟨-, -, haudience, hsubject, -⟩ :=
    SignedRequest.verifyWorkloadEnvelope_spec hverified.envelope
  by_cases hheld : request.kind = .commit ∨
      o.signedAt < request.signedRequest.senderCredential.credential.expiresAt
  · rw [if_pos hheld] at hsender
    refine iff_of_true ?_ hheld
    rw [verifyHistoricalForRequest_eq, hsender, hcoordinator]
    simp only [Bool.and_eq_true, decide_eq_true_eq]
    have hskew := le_trans hverified.signedSkew
      (Int.add_le_add_right hcontinues.order maxCoordinationFutureSkew)
    exact ⟨⟨⟨⟨⟨⟨⟨hverified.kind, hverified.digest, hverified.effect, hverified.effectDigest,
      haudience, hsubject, hverified.signedFrom, hverified.signedBefore⟩, hrequestSigned⟩,
      hverified.exact⟩, hacceptance⟩, hacknowledgment⟩, hverified.audience, hverified.subject,
      hskew⟩, hsigned⟩
  · rw [if_neg hheld] at hsender
    refine iff_of_false ?_ hheld
    rw [verifyHistoricalForRequest_eq, hsender]
    exact Bool.false_ne_true

end SignedEffectOutcome

end

end

namespace Sample

/-- The identities of the sample dispatch. -/
def expectedIdentities : ExpectedIdentities :=
  { observerPublicKey := "observer-key"
    observerId := "observer"
    observerKeyId := "observer-key"
    observerBootEpoch := "observer-boot-epoch"
    permitPublicKey := "permit-key"
    permitKeyId := "permit-key"
    plcId := "plc-1"
    plcKeyId := "coordinator-key"
    plcBootEpoch := "plc-boot-epoch-01" }

/-- A query whose sender's credential expires at second five. -/
def expiringQuery : SignedEffectQueryRequest :=
  { queryRequest "action-1" "query-nonce-0001" 2 with
    senderCredential := { gatewayCredential with
      credential := { gatewayCredential.credential with expiresAt := 5 * second } } }

/-- The coordinator's answer to it, signed at the given instant. -/
def expiringOutcome (signedAt : Time) : SignedEffectOutcome :=
  notDispatchedOutcome expiringQuery "not dispatched" signedAt

/-- The gateway accepts an answer half a second before the credential expires. -/
def acceptedAt : Time := 4500000

/-- The gateway exposes it again a minute later. -/
def exposedAt : Time := 60 * second

theorem trust_continues (o : SignedEffectOutcome) (request : OutcomeRequest) :
    TrustContinues verifier verifier.trustedBundle acceptedAt exposedAt
      (o.signingInstants request) where
  order := by decide
  valid := ⟨⟨1, []⟩, rfl⟩
  revokes := by
    intro first second _ hsecond r hr
    cases hsecond
    cases hr

end Sample

open Sample in
set_option maxRecDepth 10000 in
/-- An answer signed before the sender's credential expires verifies again. -/
theorem historical_iff_sender_unexpired_in_time :
    (expiringOutcome 4000000).verifyHistoricalForRequest
        (verifier.withBundle verifier.trustedBundle) (.query expiringQuery) "gateway"
        "coordinator" expectedIdentities exposedAt = true ↔
      OutcomeRequest.kind (.query expiringQuery) = .commit ∨
        (expiringOutcome 4000000).signedAt <
          (OutcomeRequest.query
            expiringQuery).signedRequest.senderCredential.credential.expiresAt :=
  SignedEffectOutcome.historical_iff_sender_unexpired (by decide +kernel) (by decide +kernel)
    (by decide +kernel) (trust_continues _ _)

open Sample in
set_option maxRecDepth 10000 in
/-- An answer signed by a clock slightly ahead, at the instant the sender's credential expires,
    is accepted on arrival and refused ever after. -/
theorem expired_sender_refused :
    (expiringOutcome 5000000).validate = .ok () ∧
      OutcomeRequest.validate (.query expiringQuery) = .ok () ∧
      (expiringOutcome 5000000).verifyForRequest verifier (.query expiringQuery) "gateway"
        "coordinator" expectedIdentities acceptedAt = true ∧
      TrustContinues verifier verifier.trustedBundle acceptedAt exposedAt
        ((expiringOutcome 5000000).signingInstants (.query expiringQuery)) ∧
      (expiringOutcome 5000000).verifyHistoricalForRequest
        (verifier.withBundle verifier.trustedBundle) (.query expiringQuery) "gateway"
        "coordinator" expectedIdentities exposedAt = false :=
  ⟨by decide +kernel, by decide +kernel, by decide +kernel, trust_continues _ _,
    by decide +kernel⟩

end AegisOt
