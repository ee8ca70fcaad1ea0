import AegisOt.Degraded.Gate

/-!
# Signed degraded-operation publications

The models of `m5_degraded_publication.py`: what the offline authority and the online publisher
sign, and the durable states of the publisher and of its consumers. The all-or-none field groups of
a state are optional structures, and the agreement of a sequence with its digest is a field.
`integrity_sha256` is derived from the other fields and left out.
-/

namespace AegisOt

/-! ## Signed models -/

/-- `DegradedPublisherCredential`. -/
structure DegradedPublisherCredential where
  credentialId : String
  authorityId : String
  authorityKeyId : Sha256
  publisherId : String
  publisherKeyId : Sha256
  publisherPublicKey : PublicKey
  healthSourceId : String
  sourceGitCommit : String
  sourceFingerprintSha256 : Sha256
  issuedAt : Time
  expiresAt : Time
  /-- `timedelta(seconds=maximum_publication_age_seconds)`. -/
  maximumPublicationAge : Time
  /-- `timedelta(seconds=maximum_status_input_age_seconds)`. -/
  maximumStatusInputAge : Time
  signature : String
  deriving DecidableEq

/-- `StableDegradedAuthorization`; its two mappings have every role. -/
structure StableDegradedAuthorization where
  authorizationId : String
  sequence : Nat
  authorityId : String
  authorityKeyId : Sha256
  publisherCredentialSha256 : Sha256
  publisherKeyId : Sha256
  modeName : String
  behavior : DegradedBehavior
  affectedRoles : List DegradedRole
  roleConditions : DegradedRole → RoleCondition
  communicationConditions : DegradedRole → RoleCondition
  allowedActorIds : List String
  allowedMissionIds : List String
  allowedResources : List String
  allowedOperations : List Operation
  maximumRiskScore : ℚ
  rolePolicySha256 : Sha256
  recoveryCheckpointId : String
  nonce : String
  issuedAt : Time
  expiresAt : Time
  signature : String

/-- `DegradedStatusInput`. -/
structure DegradedStatusInput where
  statusInputId : String
  sequence : Nat
  sourceId : String
  observedAt : Time
  expiresAt : Time
  roleConditions : DegradedRole → RoleCondition
  communicationConditions : DegradedRole → RoleCondition
  unresolvedEffect : Bool
  operatorAssertedNotDetected : Bool

/-- `DegradedRuntimePublication`. -/
structure DegradedRuntimePublication where
  publicationId : String
  sequence : Nat
  previousPublicationSha256 : Option Sha256
  publisherCredentialSha256 : Sha256
  publisherKeyId : Sha256
  healthSourceId : String
  statusInputSha256 : Sha256
  publishedAt : Time
  expiresAt : Time
  snapshot : DegradedRuntimeSnapshot
  authorization : Option StableDegradedAuthorization
  signature : String

/-- Everything the module hashes or signs; a signing payload is the model with its signature
    cleared. -/
inductive PublicationMaterial where
  | credential (credential : DegradedPublisherCredential)
  | authorization (authorization : StableDegradedAuthorization)
  | statusInput (statusInput : DegradedStatusInput)
  | publication (publication : DegradedRuntimePublication)

/-- `_model_digest`, `_key_id` and Ed25519. -/
class PublicationPrimitives extends DegradedPrimitives where
  modelDigest : PublicationMaterial → Sha256
  keyId : PublicKey → Sha256
  verifyPublication : PublicKey → PublicationMaterial → String → Bool

section

variable [PublicationPrimitives]

/-- `_key_id`. -/
def keyId (publicKey : PublicKey) : Sha256 := PublicationPrimitives.keyId publicKey

/-- The shared shape of the `verify` methods. -/
def verifyKeyed (signerKeyId : Sha256) (publicKey : PublicKey) (unsigned : PublicationMaterial)
    (signature : String) : Bool :=
  decide (signerKeyId = keyId publicKey) && decide (signature ≠ "") &&
    PublicationPrimitives.verifyPublication publicKey unsigned signature

/-- `digest`. -/
def DegradedPublisherCredential.digest (c : DegradedPublisherCredential) : Sha256 :=
  PublicationPrimitives.modelDigest (.credential c)

/-- `verify`. -/
def DegradedPublisherCredential.verify (c : DegradedPublisherCredential)
    (authorityPublicKey : PublicKey) : Bool :=
  verifyKeyed c.authorityKeyId authorityPublicKey (.credential { c with signature := "" })
    c.signature

/-- `digest`. -/
def StableDegradedAuthorization.digest (a : StableDegradedAuthorization) : Sha256 :=
  PublicationPrimitives.modelDigest (.authorization a)

/-- `verify`. -/
def StableDegradedAuthorization.verify (a : StableDegradedAuthorization)
    (authorityPublicKey : PublicKey) : Bool :=
  verifyKeyed a.authorityKeyId authorityPublicKey (.authorization { a with signature := "" })
    a.signature

/-- `digest`. -/
def DegradedStatusInput.digest (i : DegradedStatusInput) : Sha256 :=
  PublicationPrimitives.modelDigest (.statusInput i)

/-- `digest`. -/
def DegradedRuntimePublication.digest (p : DegradedRuntimePublication) : Sha256 :=
  PublicationPrimitives.modelDigest (.publication p)

/-- `verify`. -/
def DegradedRuntimePublication.verify (p : DegradedRuntimePublication)
    (publisherPublicKey : PublicKey) : Bool :=
  verifyKeyed p.publisherKeyId publisherPublicKey (.publication { p with signature := "" })
    p.signature

end

/-! ## Durable states -/

/-- `DegradedPublisherState`. -/
@[ext]
structure DegradedPublisherState where
  authorityKeyId : Sha256
  publisherCredentialSha256 : Sha256
  publisherKeyId : Sha256
  highestAllocatedSequence : Nat
  latestPublishedSequence : Nat
  latestPublicationSha256 : Option Sha256
  highestStatusInputSequence : Nat
  latestStatusInputSha256 : Option Sha256
  publishedAllocated : latestPublishedSequence ≤ highestAllocatedSequence
  publishedDigest : latestPublishedSequence = 0 ↔ latestPublicationSha256 = none
  statusDigest : highestStatusInputSequence = 0 ↔ latestStatusInputSha256 = none

instance : DecidableEq DegradedPublisherState := fun _ _ =>
  decidable_of_iff' _ DegradedPublisherState.ext_iff

/-- The lease that a consumer has active. -/
structure ActiveAuthorization where
  authorizationId : String
  authorizationSha256 : Sha256
  recoveryCheckpointId : String
  deriving DecidableEq

/-- The reversal that a consumer applied last. -/
structure AppliedReversal where
  reversalSha256 : Sha256
  authorizationSha256 : Sha256
  deriving DecidableEq

/-- `DegradedConsumerState`. -/
@[ext]
structure DegradedConsumerState where
  authorityId : String
  authorityKeyId : Sha256
  publisherCredentialSha256 : Sha256
  publisherKeyId : Sha256
  highestPublicationSequence : Nat
  highestPublicationSha256 : Option Sha256
  highestAuthorizationSequence : Nat
  activeAuthorization : Option ActiveAuthorization
  highestReversalSequence : Nat
  latestReversal : Option AppliedReversal
  publicationDigest : highestPublicationSequence = 0 ↔ highestPublicationSha256 = none
  reversalDigests : highestReversalSequence = 0 ↔ latestReversal = none

instance : DecidableEq DegradedConsumerState := fun _ _ =>
  decidable_of_iff' _ DegradedConsumerState.ext_iff

/-- The state that `FileDegradedPublisherStateStore.initialize` writes. -/
def DegradedPublisherState.initial [PublicationPrimitives]
    (credential : DegradedPublisherCredential) : DegradedPublisherState where
  authorityKeyId := credential.authorityKeyId
  publisherCredentialSha256 := credential.digest
  publisherKeyId := credential.publisherKeyId
  highestAllocatedSequence := 0
  latestPublishedSequence := 0
  latestPublicationSha256 := none
  highestStatusInputSequence := 0
  latestStatusInputSha256 := none
  publishedAllocated := le_refl 0
  publishedDigest := noSequence_iff
  statusDigest := noSequence_iff

namespace DegradedConsumerState

/-- The state that `FileDegradedConsumerStateStore.initialize` writes. -/
def initial [PublicationPrimitives] (credential : DegradedPublisherCredential) :
    DegradedConsumerState where
  authorityId := credential.authorityId
  authorityKeyId := credential.authorityKeyId
  publisherCredentialSha256 := credential.digest
  publisherKeyId := credential.publisherKeyId
  highestPublicationSequence := 0
  highestPublicationSha256 := none
  highestAuthorizationSequence := 0
  activeAuthorization := none
  highestReversalSequence := 0
  latestReversal := none
  publicationDigest := noSequence_iff
  reversalDigests := by simp

/-- `active_authorization_sha256`. -/
def activeAuthorizationSha256 (s : DegradedConsumerState) : Option Sha256 :=
  s.activeAuthorization.map ActiveAuthorization.authorizationSha256

/-- `latest_reversed_authorization_sha256`. -/
def latestReversedAuthorizationSha256 (s : DegradedConsumerState) : Option Sha256 :=
  s.latestReversal.map AppliedReversal.authorizationSha256

end DegradedConsumerState

/-! ## State stores -/

/-- How a `mutate` of a durable state file ends: it returns, or something raises after the new
    state was written or without it. -/
inductive MutateOutcome where
  | returned
  | raised (written : Bool)
  deriving DecidableEq

/-- `mutate(transition)`: what it returns, if it does, and the state afterwards. -/
def mutateState {State Result : Type} (outcome : MutateOutcome)
    (transition : State → Except String (State × Result)) (state : State) :
    Option Result × State :=
  match outcome, transition state with
  | .returned, .ok (updated, result) => (some result, updated)
  | .raised true, .ok (updated, _) => (none, updated)
  | _, _ => (none, state)

end AegisOt
