import AegisOt.Coordination.Proofs.AnswerHistory

/-!
# What the coordinator can sign

`SignedEffectOutcome.issue` and `DurableCommitAcceptance.issue` validate what they are about to
sign, sign it, and check the signature against the signer's credential. With signatures that
verify, only the validation can fail.
-/

namespace AegisOt

/-- Signatures of a key verify under its public key and are not empty. -/
structure SignaturesVerify [Primitives] : Prop where
  verifies : ∀ key payload, Primitives.verifyBytes (Primitives.publicKeyOf key) payload
    (Primitives.signBytes key payload) = true
  nonempty : ∀ key payload, Primitives.signBytes key payload ≠ ""

variable [Primitives]

/-- The signer's credential holds the public key of its private key. -/
def WorkloadSigner.Matches (signer : WorkloadSigner) : Prop :=
  signer.credential.credential.publicKey = Primitives.publicKeyOf signer.privateKey

theorem WorkloadSigner.Matches.verifies {signer : WorkloadSigner} (h : signer.Matches)
    (hverify : SignaturesVerify) (payload : Material) :
    Primitives.verifyBytes signer.credential.credential.publicKey payload
      (Primitives.signBytes signer.privateKey payload) = true := by
  rw [show signer.credential.credential.publicKey = _ from h]
  exact hverify.verifies signer.privateKey payload

theorem WorkloadSigner.Matches.requireSignerMatch {signer : WorkloadSigner} (h : signer.Matches)
    (hverify : SignaturesVerify) (payload : Material) :
    requireSignerMatch signer payload (Primitives.signBytes signer.privateKey payload) =
      .ok () := by
  rw [AegisOt.requireSignerMatch, refuseIf_eq_ok, h.verifies hverify]
  simp

/-! ## Acceptances -/

namespace DurableCommitAcceptance

/-- What an issued acceptance holds. -/
structure Issued (a : DurableCommitAcceptance) (request : SignedEffectCommitRequest)
    (signer : WorkloadSigner) (acceptedAt : Time) : Prop where
  commitRequest : a.commitRequest = request
  effect : a.effect = request.effect
  signedBy : a.coordinatorCredential = signer.credential
  receiptSigner : a.coordinatorCredential = request.receipt.coordinatorCredential
  time : a.acceptedAt = acceptedAt
  window : request.issuedAt ≤ acceptedAt ∧ acceptedAt < request.expiresAt
  role : a.coordinatorCredential.credential.role = .otAdapter
  audience : gatewayCoordinationAudience ∈ a.coordinatorCredential.credential.audiences
  credential : credentialClaimValidAt a.coordinatorCredential acceptedAt = true

theorem issued_of_issue {a : DurableCommitAcceptance} {request : SignedEffectCommitRequest}
    {signer : WorkloadSigner} {acceptedAt : Time} (h : issue request signer acceptedAt = .ok a) :
    a.Issued request signer acceptedAt := by
  simp only [issue, bind_unit_eq_ok] at h
  obtain ⟨-, hclosed, -, h⟩ := h
  obtain rfl := Except.ok.inj h
  simp only [requireClosedAcceptance, bind_unit_eq_ok, refuseIf_eq_ok, not_not, ne_eq,
    Bool.not_eq_false] at hclosed
  obtain ⟨-, -, hwindow, -, hrole, haudience, hsigner, hcredential⟩ := hclosed
  exact ⟨rfl, rfl, rfl, hsigner, rfl, hwindow, hrole, haudience, hcredential⟩

theorem verify_of_issue (hverify : SignaturesVerify) {a : DurableCommitAcceptance}
    {request : SignedEffectCommitRequest} {signer : WorkloadSigner} {acceptedAt : Time}
    (h : issue request signer acceptedAt = .ok a) : a.verify = true := by
  simp only [issue, bind_unit_eq_ok] at h
  obtain ⟨-, -, hmatch, h⟩ := h
  obtain rfl := Except.ok.inj h
  rw [requireSignerMatch, refuseIf_eq_ok, Bool.not_eq_false] at hmatch
  rw [verify, verifyWith, verifySigned, Bool.and_eq_true, decide_eq_true_eq]
  exact ⟨hverify.nonempty _ _, hmatch⟩

end DurableCommitAcceptance

/-! ## Outcomes -/

namespace SignedEffectOutcome

/-- The outcome `issue` is about to sign. -/
def unsigned (request : OutcomeRequest) (disposition : EffectDisposition) (reason : String)
    (signer : WorkloadSigner) (signedAt : Time) (acceptance : Option DurableCommitAcceptance)
    (acknowledgment : Option PlcCommandAcknowledgment) : SignedEffectOutcome :=
  { requestKind := request.kind
    requestSha256 := request.digest
    effect := request.signedRequest.effect
    effectSha256 := request.signedRequest.effect.digest
    disposition := disposition
    acceptance := acceptance
    acknowledgment := acknowledgment
    reason := reason
    audience := gatewayCoordinationAudience
    coordinatorCredential := signer.credential
    signedAt := signedAt
    signature := "" }

/-- The outcome under the signer's signature. -/
def signedBy (o : SignedEffectOutcome) (signer : WorkloadSigner) : SignedEffectOutcome :=
  { o with signature := Primitives.signBytes signer.privateKey o.signingPayload }

/-- What `issue` demands of an acceptance and an acknowledgment before it builds the outcome. -/
structure Issuable (request : OutcomeRequest) (disposition : EffectDisposition)
    (signedAt : Time) (acceptance : Option DurableCommitAcceptance)
    (acknowledgment : Option PlcCommandAcknowledgment) : Prop where
  window : request.signedRequest.issuedAt ≤ signedAt ∧ signedAt < request.signedRequest.expiresAt
  commit : request.commitSatisfies
    (fun r => decide (acceptance.map (fun a => a.commitRequest) = some r)) = true
  notDispatched : disposition = .notDispatched → acceptance = none ∧ acknowledgment = none
  dispatched : disposition ≠ .notDispatched →
    acceptance.map (fun a => a.effect) = some request.signedRequest.effect
  verified : ∀ a ∈ acceptance, a.verify = true

variable {request : OutcomeRequest} {disposition : EffectDisposition} {reason : String}
  {signer : WorkloadSigner} {signedAt : Time} {acceptance : Option DurableCommitAcceptance}
  {acknowledgment : Option PlcCommandAcknowledgment} {o : SignedEffectOutcome}

/-- With signatures that verify, `issue` fails only in its checks. -/
theorem issue_eq_ok (hverify : SignaturesVerify) (hsigner : signer.Matches) :
    issue request disposition reason signer signedAt acceptance acknowledgment = .ok o ↔
      Issuable request disposition signedAt acceptance acknowledgment ∧
      (unsigned request disposition reason signer signedAt acceptance
        acknowledgment).requireClosedOutcome = .ok () ∧
      o = (unsigned request disposition reason signer signedAt acceptance
        acknowledgment).signedBy signer := by
  have hmatch := hsigner.requireSignerMatch hverify (unsigned request disposition reason signer
    signedAt acceptance acknowledgment).signingPayload
  simp only [issue, bind_unit_eq_ok, refuseIf_eq_ok]
  constructor
  · rintro ⟨hwindow, hcommit, hnotDispatched, hdispatched, hverified, hclosed, -, h⟩
    refine ⟨⟨not_not.mp hwindow, by simpa using hcommit, ?_, ?_, ?_⟩, hclosed,
      (Except.ok.inj h).symm⟩
    · intro hnd
      simpa [hnd] using hnotDispatched
    · intro hd
      by_contra hne
      exact hdispatched ⟨hd, hne⟩
    · rintro a rfl
      simpa using hverified
  · rintro ⟨hissuable, hclosed, rfl⟩
    refine ⟨not_not.mpr hissuable.window, by rw [hissuable.commit]; simp, ?_, ?_, ?_, hclosed,
      hmatch, rfl⟩
    · rintro ⟨hnd, hevidence⟩
      obtain ⟨hnone, hnone'⟩ := hissuable.notDispatched hnd
      rcases hevidence with hevidence | hevidence
      · exact hevidence hnone
      · exact hevidence hnone'
    · rintro ⟨hd, hne⟩
      exact hne (hissuable.dispatched hd)
    · cases hacceptance : acceptance with
      | none => simp
      | some a => simp [hissuable.verified a hacceptance]

omit [Primitives] in
theorem any_status_ne {status : CommandStatus} :
    acknowledgment.any (fun a => decide (a.status ≠ status)) = true ↔
      ¬ ∀ a, acknowledgment = some a → a.status = status := by
  cases acknowledgment with
  | none => simp
  | some a => simp

/-- The evidence checks of a dispatched outcome, read in both directions. -/
theorem requireDispatchedEvidence_eq_ok {a : DurableCommitAcceptance} :
    o.requireDispatchedEvidence a = .ok () ↔ o.Evidences a := by
  refine ⟨evidences_of_required, fun h => ?_⟩
  simp only [requireDispatchedEvidence, bind_unit_eq_ok, refuseIf_eq_ok]
  refine ⟨not_not.mpr h.effect, not_lt.mpr h.accepted, not_not.mpr h.subject, ?_, ?_, ?_⟩
  · exact fun hterminal => hterminal.2 (h.terminal hterminal.1)
  · rintro ⟨hunknown, hany⟩
    exact any_status_ne.mp hany (h.unknown hunknown)
  · split
    · rfl
    · rename_i acknowledged hacknowledged
      simp only [bind_unit_eq_ok, refuseIf_eq_ok]
      exact ⟨not_not.mpr (h.chronology _ hacknowledged), by simp [h.transaction _ hacknowledged]⟩

/-- The checks of `require_closed_outcome` that do not depend on the disposition. -/
structure Described (o : SignedEffectOutcome) : Prop where
  reason : lengthWithin 1 512 o.reason = true
  effectSha256 : o.effectSha256 = o.effect.digest
  role : o.coordinatorCredential.credential.role = .otAdapter
  audience : o.audience ∈ o.coordinatorCredential.credential.audiences
  credential : credentialClaimValidAt o.coordinatorCredential o.signedAt = true

/-- `require_closed_outcome` of a dispatched outcome. -/
theorem requireClosedOutcome_dispatched {a : DurableCommitAcceptance}
    (hacceptance : o.acceptance = some a) (hdispatched : o.disposition ≠ .notDispatched) :
    o.requireClosedOutcome = .ok () ↔ o.Described ∧ o.Evidences a := by
  simp only [requireClosedOutcome, bind_unit_eq_ok, refuseIf_eq_ok, if_neg hdispatched,
    hacceptance, orRaise, ok_bind, requireDispatchedEvidence_eq_ok]
  simp only [Bool.not_eq_false, not_not, ne_eq]
  constructor
  · rintro ⟨hreason, hsha, hrole, haudience, hcredential, hevidence⟩
    exact ⟨⟨hreason, hsha, hrole, haudience, hcredential⟩, hevidence⟩
  · rintro ⟨h, hevidence⟩
    exact ⟨h.reason, h.effectSha256, h.role, h.audience, h.credential, hevidence⟩

/-- What an issued outcome binds. -/
theorem binds_signedBy (hverify : SignaturesVerify) (hsigner : signer.Matches)
    (hreceipt : request.commitSatisfies (fun r =>
      decide ((acceptance.map (fun a => a.commitRequest.receipt)) = some r.receipt)) = true) :
    ((unsigned request disposition reason signer signedAt acceptance acknowledgment).signedBy
      signer).binds request := by
  refine ⟨hverify.nonempty _ _, ?_, rfl, rfl, rfl, hreceipt⟩
  have hverifies := hsigner.verifies hverify (unsigned request disposition reason signer signedAt
    acceptance acknowledgment).signingPayload
  rw [verify, verifyWith, verifySigned, Bool.and_eq_true, decide_eq_true_eq]
  exact ⟨hverify.nonempty _ _, hverifies⟩

/-- An issued outcome passes its own validators where its nested models do. -/
theorem validate_signedBy
    (heffect : request.signedRequest.effect.validate = .ok ())
    (hacceptance : ∀ a ∈ acceptance, a.validate = .ok ())
    (hclosed : (unsigned request disposition reason signer signedAt acceptance
      acknowledgment).requireClosedOutcome = .ok ()) :
    ((unsigned request disposition reason signer signedAt acceptance acknowledgment).signedBy
      signer).validate = .ok () := by
  cases acceptance with
  | none =>
    rw [validate, bind_unit_eq_ok]
    exact ⟨heffect, hclosed⟩
  | some a =>
    rw [validate, bind_unit_eq_ok]
    exact ⟨heffect, bind_unit_eq_ok.mpr ⟨hacceptance a rfl, hclosed⟩⟩

end SignedEffectOutcome

end AegisOt
