import AegisOt.Misc.Checks
import AegisOt.Capability

/-!
# Workload identity

Credential verification of `workload_identity.py`. The signed trust bundle is re-read at every
trust decision; `trustedBundle` is what that transaction yields at an instant (`none` when the
bundle is missing, not rooted in the configured authority, not current, or rolled back), so
every later check is the source's own.
-/

namespace AegisOt

variable [Primitives]

/-- `workload_identity.WorkloadRevocation`. -/
structure WorkloadRevocation where
  credentialId : String
  revokedAt : Time
  deriving DecidableEq

/-- The part of `WorkloadTrustBundle` that credential checks read. -/
structure WorkloadTrustBundle where
  sequence : Nat
  revocations : List WorkloadRevocation
  deriving DecidableEq

/-- `WorkloadCredentialRejected` and `WorkloadIdentityUnavailable`. -/
inductive WorkloadIdentityError where
  | rejected (message : String)
  | unavailable (message : String)
  deriving DecidableEq, Repr

/-- `workload_identity.WorkloadIdentityVerifier`. -/
structure WorkloadIdentityVerifier where
  trustRootPublicKey : PublicKey
  trustRootKeyId : String
  trustDomain : String
  maximumCredentialLifetime : Time
  trustedBundle : Time → Option WorkloadTrustBundle

/-- `SignedWorkloadCredential.verify`. -/
def SignedWorkloadCredential.verify (c : SignedWorkloadCredential) (authority : PublicKey) :
    Bool :=
  Primitives.verifyBytes authority (.credential c.credential) c.signature

namespace WorkloadIdentityVerifier

/-- The checks `verify_credential_with_receipt` and `verify_historical_credential` share: the
    issuer, the lifetime and the expected role, subject, actor and audience. `label` starts the
    message and `validAt` is the source's validity test with its own message. -/
def checkClaims (v : WorkloadIdentityVerifier) (signed : SignedWorkloadCredential)
    (label : String) (validAt : Prop) [Decidable validAt] (invalidMessage : String)
    (expectedRole : WorkloadRole) (expectedAudience expectedSubject : String)
    (expectedActorId : Option String) : Except WorkloadIdentityError Unit := do
  let credential := signed.credential
  refuseIf (credential.trustDomain ≠ v.trustDomain ∨
      credential.authorityKeyId ≠ v.trustRootKeyId ∨
      signed.verify v.trustRootPublicKey = false)
    (.rejected (label ++ " issuer or signature is invalid"))
  refuseIf (v.maximumCredentialLifetime < credential.expiresAt - credential.notBefore)
    (.rejected (label ++ " lifetime exceeds policy"))
  refuseIf (¬ validAt) (.rejected invalidMessage)
  refuseIf (credential.role ≠ expectedRole) (.rejected (label ++ " role is not authorized"))
  refuseIf (credential.subject ≠ expectedSubject)
    (.rejected (label ++ " subject is not authorized"))
  refuseIf (credential.actorId ≠ expectedActorId)
    (.rejected (label ++ " actor is not authorized"))
  refuseIf (expectedAudience ∉ credential.audiences)
    (.rejected (label ++ " audience is not authorized"))

/-- `WorkloadIdentityVerifier.verify_credential`. -/
def verifyCredential (v : WorkloadIdentityVerifier) (signed : SignedWorkloadCredential)
    (expectedRole : WorkloadRole) (expectedAudience expectedSubject : String)
    (expectedActorId : Option String) (now : Time) :
    Except WorkloadIdentityError PublicKey := do
  let bundle ← orRaise (v.trustedBundle now)
    (.unavailable "workload trust bundle is unavailable")
  let credential := signed.credential
  v.checkClaims signed "workload credential"
    (credential.notBefore ≤ now ∧ now < credential.expiresAt)
    "workload credential is not currently valid"
    expectedRole expectedAudience expectedSubject expectedActorId
  refuseIf (bundle.revocations.any (fun r => r.credentialId = credential.credentialId) = true)
    (.rejected "workload credential is revoked")
  pure credential.publicKey

/-- `WorkloadIdentityVerifier.verify_historical_credential`: the credential is judged at the
    retained admission time, against revocations effective by then. -/
def verifyHistoricalCredential (v : WorkloadIdentityVerifier)
    (signed : SignedWorkloadCredential) (expectedRole : WorkloadRole)
    (expectedAudience expectedSubject : String) (expectedActorId : Option String)
    (authenticatedAt now maximumFutureSkew : Time) :
    Except WorkloadIdentityError PublicKey := do
  refuseIf (maximumFutureSkew < 0)
    (.rejected "historical workload verification time must be timezone-aware")
  refuseIf (now + maximumFutureSkew < authenticatedAt)
    (.rejected "historical workload authentication time is in the future")
  let bundle ← orRaise (v.trustedBundle now)
    (.unavailable "workload trust bundle is unavailable")
  let credential := signed.credential
  v.checkClaims signed "historical workload credential"
    (credential.notBefore ≤ authenticatedAt ∧ authenticatedAt < credential.expiresAt)
    "workload credential was not valid at historical admission"
    expectedRole expectedAudience expectedSubject expectedActorId
  refuseIf (bundle.revocations.any (fun r =>
      decide (r.credentialId = credential.credentialId ∧ r.revokedAt ≤ authenticatedAt)) = true)
    (.rejected "workload credential was revoked at historical admission")
  pure credential.publicKey

end WorkloadIdentityVerifier

/-- `workload_identity.WorkloadSigner`. -/
structure WorkloadSigner where
  credential : SignedWorkloadCredential
  privateKey : PrivateKey

/-- `workload_identity.ResolvedWorkloadIdentity`, a credential resolved at one instant. -/
structure ResolvedWorkloadIdentity where
  credential : SignedWorkloadCredential
  publicKey : PublicKey

namespace ResolvedWorkloadIdentity

def keyId (r : ResolvedWorkloadIdentity) : String := r.credential.credential.keyId

def subject (r : ResolvedWorkloadIdentity) : String := r.credential.credential.subject

end ResolvedWorkloadIdentity

/-- `workload_identity.WorkloadCredentialBinding`. The credential file is re-read at every
    trust decision, so `resolve` takes what the file held. -/
structure WorkloadCredentialBinding where
  verifier : WorkloadIdentityVerifier
  expectedRole : WorkloadRole
  expectedAudience : String
  expectedSubject : String
  expectedActorId : Option String

/-- `WorkloadCredentialBinding.resolve`. -/
def WorkloadCredentialBinding.resolve (b : WorkloadCredentialBinding)
    (loaded : Except WorkloadIdentityError SignedWorkloadCredential) (now : Time) :
    Except WorkloadIdentityError ResolvedWorkloadIdentity := do
  let credential ← loaded
  let publicKey ← b.verifier.verifyCredential credential b.expectedRole b.expectedAudience
    b.expectedSubject b.expectedActorId now
  pure ⟨credential, publicKey⟩

/-- `workload_runtime.LocalWorkloadIdentity`. -/
structure LocalWorkloadIdentity where
  binding : WorkloadCredentialBinding
  signer : WorkloadSigner

/-- `LocalWorkloadIdentity.resolve`. -/
def LocalWorkloadIdentity.resolve (l : LocalWorkloadIdentity)
    (loaded : Except WorkloadIdentityError SignedWorkloadCredential) (now : Time) :
    Except WorkloadIdentityError ResolvedWorkloadIdentity := do
  let resolved ← l.binding.resolve loaded now
  refuseIf (resolved.keyId ≠ l.signer.credential.credential.keyId)
    (.unavailable "local workload credential changed without its signer")
  refuseIf (resolved.publicKey ≠ Primitives.publicKeyOf l.signer.privateKey)
    (.unavailable "local workload signer no longer matches its credential")
  pure resolved

/-- What the trust bundle and the two credential files of a process hold during one call. -/
structure TrustView where
  trustedBundle : Time → Option WorkloadTrustBundle
  gatewayCredential : Except WorkloadIdentityError SignedWorkloadCredential
  coordinatorCredential : Except WorkloadIdentityError SignedWorkloadCredential

/-- The verifier under a view of the trust bundle. -/
def WorkloadIdentityVerifier.under (v : WorkloadIdentityVerifier) (view : TrustView) :
    WorkloadIdentityVerifier :=
  { v with trustedBundle := view.trustedBundle }

def WorkloadCredentialBinding.under (b : WorkloadCredentialBinding) (view : TrustView) :
    WorkloadCredentialBinding :=
  { b with verifier := b.verifier.under view }

def LocalWorkloadIdentity.under (l : LocalWorkloadIdentity) (view : TrustView) :
    LocalWorkloadIdentity :=
  { l with binding := l.binding.under view }

end AegisOt
