import AegisOt.Coordination.Recovery
import AegisOt.Misc.Method

/-!
# The external anchor authority

`InMemoryMonotonicAnchorReference` of `coordination_anchor.py`: the authority that signs
checkpoints of the local recovery state, hands out fencing tokens and advances its checkpoint by
compare-and-advance. The artifacts are validated where the source builds them, and a field that
the source only copies from a validated artifact is not checked again.
-/

namespace AegisOt

/-- `AnchorAuthorityError` and the `ValidationError` of a model constructor. -/
inductive AnchorError where
  | authority (message : String)
  | validation (message : String)
  deriving DecidableEq, Repr

/-- `MAX_ANCHOR_READBACK_LIFETIME`. -/
def maxAnchorReadbackLifetime : Time := 60 * second

/-- `MAX_FENCE_GRANT_LIFETIME`. -/
def maxFenceGrantLifetime : Time := 60 * second

/-- `LocalCoordinationProjection`. -/
structure LocalCoordinationProjection where
  gatewayJournalSha256 : Sha256
  otJournalSha256 : Sha256
  plantModelSha256 : Sha256
  plantStateVersion : Nat
  plantStateSha256 : Sha256
  recoveryStatus : CoordinationRecoveryStatus
  recoveryReason : CoordinationRecoveryReason
  recordCount : Nat
  appliedEffectCount : Nat
  pendingEffectCount : Nat
  latestAppliedStateVersion : Option Nat
  latestAppliedStateSha256 : Option Sha256
  writerFencingToken : Nat
  basedOnAnchorSequence : Option Nat
  basedOnAnchorSha256 : Option Sha256
  deriving DecidableEq

/-- `SignedCoordinationAnchor`. -/
structure SignedCoordinationAnchor where
  streamId : String
  anchorSequence : Nat
  fencingToken : Nat
  previousAnchorSha256 : Option Sha256
  projection : LocalCoordinationProjection
  authorityKeyId : String
  issuedAt : Time
  signature : String
  deriving DecidableEq

/-- `CoordinationAnchorReadback`. -/
structure CoordinationAnchorReadback where
  requestNonce : String
  anchor : SignedCoordinationAnchor
  authorityFencingToken : Nat
  authorityKeyId : String
  readAt : Time
  expiresAt : Time
  signature : String
  deriving DecidableEq

/-- `CoordinationFenceGrant`. -/
structure CoordinationFenceGrant where
  streamId : String
  holderId : String
  requestNonce : String
  basedOnAnchorSequence : Nat
  basedOnAnchorSha256 : Sha256
  fencingToken : Nat
  authorityKeyId : String
  issuedAt : Time
  expiresAt : Time
  signature : String
  deriving DecidableEq

/-- The canonical JSON of the anchor artifacts; a signing payload is the artifact with its
    signature cleared. -/
inductive AnchorMaterial where
  | anchor (anchor : SignedCoordinationAnchor)
  | readback (readback : CoordinationAnchorReadback)
  | grant (grant : CoordinationFenceGrant)
  | projection (projection : LocalCoordinationProjection)

/-- SHA-256, Ed25519 and the key identifier as the anchor module uses them. -/
class AnchorPrimitives where
  canonicalDigest : AnchorMaterial → Sha256
  workloadKeyId : PublicKey → String
  publicKeyOf : PrivateKey → PublicKey
  signBytes : PrivateKey → AnchorMaterial → String
  verifyBytes : PublicKey → AnchorMaterial → String → Bool

/-! ## Constructors -/

/-- `_STREAM_PATTERN`. -/
def streamPatternMatches (text : String) : Bool :=
  match text.toList with
  | [] => false
  | first :: rest =>
      first.isAlphanum && decide (rest.length ≤ 255) &&
        rest.all (fun c => c.isAlphanum || ['.', '_', ':', '/', '-'].contains c)

/-- A text field with `min_length` and `max_length`. -/
def boundedText (low high : Nat) (text : String) : Bool :=
  decide (low ≤ text.length ∧ text.length ≤ high)

/-- The instant of a `datetime` that its model requires to be timezone-aware. -/
def DateTime.require (value : DateTime) (message : String) : Except AnchorError Time :=
  match value with
  | .aware instant => .ok instant
  | .naive => .error (.validation message)

namespace SignedCoordinationAnchor

/-- `require_monotonic_shape`, after its check of `issued_at`. -/
def requireMonotonicShape (anchor : SignedCoordinationAnchor) : Except AnchorError Unit := do
  refuseIf (anchor.projection.recoveryStatus ≠ .aligned)
    (.validation "only an aligned local recovery state may be anchored")
  if anchor.anchorSequence = 0 then
    refuseIf (anchor.previousAnchorSha256 ≠ none ∨ anchor.fencingToken ≠ 0)
      (.validation "genesis anchor must use the unfenced zero lineage")
    refuseIf (anchor.projection.writerFencingToken ≠ 0)
      (.validation "genesis projection must be unfenced")
  else
    refuseIf (anchor.previousAnchorSha256 = none ∨ anchor.fencingToken < 1)
      (.validation "non-genesis anchor requires predecessor and fence")
    refuseIf (anchor.projection.writerFencingToken ≠ anchor.fencingToken ∨
        anchor.projection.basedOnAnchorSequence ≠ some (anchor.anchorSequence - 1) ∨
        anchor.projection.basedOnAnchorSha256 ≠ anchor.previousAnchorSha256)
      (.validation "anchored projection does not bind its writer fence")

variable [AnchorPrimitives]

/-- `SignedCoordinationAnchor.digest`. -/
def digest (anchor : SignedCoordinationAnchor) : Sha256 :=
  AnchorPrimitives.canonicalDigest (.anchor anchor)

/-- `SignedCoordinationAnchor.issue`. -/
def issue (streamId : String) (anchorSequence fencingToken : Nat)
    (previousAnchorSha256 : Option Sha256) (projection : LocalCoordinationProjection)
    (authorityPrivateKey : PrivateKey) (issuedAt : DateTime) :
    Except AnchorError SignedCoordinationAnchor := do
  refuseIf (streamPatternMatches streamId = false) (.validation "stream_id")
  let issuedAt ← issuedAt.require "anchor issuance time must be timezone-aware"
  let provisional : SignedCoordinationAnchor :=
    { streamId := streamId
      anchorSequence := anchorSequence
      fencingToken := fencingToken
      previousAnchorSha256 := previousAnchorSha256
      projection := projection
      authorityKeyId := AnchorPrimitives.workloadKeyId
        (AnchorPrimitives.publicKeyOf authorityPrivateKey)
      issuedAt := issuedAt
      signature := "" }
  provisional.requireMonotonicShape
  pure { provisional with
    signature := AnchorPrimitives.signBytes authorityPrivateKey (.anchor provisional) }

end SignedCoordinationAnchor

namespace CoordinationAnchorReadback

variable [AnchorPrimitives]

/-- `require_bounded_readback`, after its check of the two times. -/
def requireBoundedReadback (readback : CoordinationAnchorReadback) : Except AnchorError Unit := do
  refuseIf (readback.expiresAt ≤ readback.readAt)
    (.validation "anchor readback must expire after issuance")
  refuseIf (maxAnchorReadbackLifetime < readback.expiresAt - readback.readAt)
    (.validation "anchor readback lifetime exceeds the closed bound")
  refuseIf (readback.authorityFencingToken < readback.anchor.fencingToken)
    (.validation "authority fence watermark cannot precede its checkpoint")
  refuseIf (readback.authorityKeyId ≠ readback.anchor.authorityKeyId)
    (.validation "readback and checkpoint authorities differ")

/-- `CoordinationAnchorReadback.issue` with `expires_at = read_at + lifetime`. -/
def issue (requestNonce : String) (anchor : SignedCoordinationAnchor)
    (authorityFencingToken : Nat) (authorityPrivateKey : PrivateKey) (readAt : DateTime)
    (lifetime : Time) : Except AnchorError CoordinationAnchorReadback := do
  refuseIf (boundedText 16 256 requestNonce = false) (.validation "request_nonce")
  let readAt ← readAt.require "anchor readback times must be timezone-aware"
  let provisional : CoordinationAnchorReadback :=
    { requestNonce := requestNonce
      anchor := anchor
      authorityFencingToken := authorityFencingToken
      authorityKeyId := AnchorPrimitives.workloadKeyId
        (AnchorPrimitives.publicKeyOf authorityPrivateKey)
      readAt := readAt
      expiresAt := readAt + lifetime
      signature := "" }
  provisional.requireBoundedReadback
  pure { provisional with
    signature := AnchorPrimitives.signBytes authorityPrivateKey (.readback provisional) }

end CoordinationAnchorReadback

namespace CoordinationFenceGrant

/-- `require_bounded_grant`, after its check of the two times. -/
def requireBoundedGrant (grant : CoordinationFenceGrant) : Except AnchorError Unit := do
  refuseIf (grant.expiresAt ≤ grant.issuedAt)
    (.validation "fence grant must expire after issuance")
  refuseIf (maxFenceGrantLifetime < grant.expiresAt - grant.issuedAt)
    (.validation "fence grant lifetime exceeds the closed bound")

/-- `CoordinationFenceGrant.valid_at`. -/
def validAt (grant : CoordinationFenceGrant) (evaluatedAt : Time) : Bool :=
  decide (grant.issuedAt ≤ evaluatedAt ∧ evaluatedAt < grant.expiresAt)

variable [AnchorPrimitives]

/-- `CoordinationFenceGrant.verify`. -/
def verify (grant : CoordinationFenceGrant) (publicKey : PublicKey) : Bool :=
  decide (grant.authorityKeyId = AnchorPrimitives.workloadKeyId publicKey) &&
    decide (grant.signature ≠ "") &&
    AnchorPrimitives.verifyBytes publicKey (.grant { grant with signature := "" })
      grant.signature

/-- `CoordinationFenceGrant.issue` with `expires_at = issued_at + lifetime`. -/
def issue (streamId holderId requestNonce : String) (anchor : SignedCoordinationAnchor)
    (fencingToken : Nat) (authorityPrivateKey : PrivateKey) (issuedAt : DateTime)
    (lifetime : Time) : Except AnchorError CoordinationFenceGrant := do
  refuseIf (boundedText 1 256 holderId = false) (.validation "holder_id")
  refuseIf (boundedText 16 256 requestNonce = false) (.validation "request_nonce")
  refuseIf (fencingToken < 1) (.validation "fencing_token")
  let issuedAt ← issuedAt.require "fence grant times must be timezone-aware"
  let provisional : CoordinationFenceGrant :=
    { streamId := streamId
      holderId := holderId
      requestNonce := requestNonce
      basedOnAnchorSequence := anchor.anchorSequence
      basedOnAnchorSha256 := anchor.digest
      fencingToken := fencingToken
      authorityKeyId := AnchorPrimitives.workloadKeyId
        (AnchorPrimitives.publicKeyOf authorityPrivateKey)
      issuedAt := issuedAt
      expiresAt := issuedAt + lifetime
      signature := "" }
  provisional.requireBoundedGrant
  pure { provisional with
    signature := AnchorPrimitives.signBytes authorityPrivateKey (.grant provisional) }

end CoordinationFenceGrant

/-! ## The reference authority -/

/-- `InMemoryMonotonicAnchorReference`; every method runs under the object's lock. -/
structure InMemoryMonotonicAnchorReference where
  privateKey : PrivateKey
  anchor : SignedCoordinationAnchor
  fencingToken : Nat
  deriving DecidableEq

namespace InMemoryMonotonicAnchorReference

variable [AnchorPrimitives]

/-- `InMemoryMonotonicAnchorReference.__init__`. -/
def create (streamId : String) (genesis : LocalCoordinationProjection)
    (authorityPrivateKey : PrivateKey) (initializedAt : DateTime) :
    Except AnchorError InMemoryMonotonicAnchorReference := do
  let anchor ← SignedCoordinationAnchor.issue streamId 0 0 none genesis authorityPrivateKey
    initializedAt
  pure { privateKey := authorityPrivateKey, anchor := anchor, fencingToken := 0 }

/-- `InMemoryMonotonicAnchorReference.readback`. -/
def readback (requestNonce : String) (readAt : DateTime) (lifetime : Time) :
    Method InMemoryMonotonicAnchorReference AnchorError CoordinationAnchorReadback := do
  let ref ← Method.self
  Method.check (CoordinationAnchorReadback.issue requestNonce ref.anchor ref.fencingToken
    ref.privateKey readAt lifetime)

/-- `InMemoryMonotonicAnchorReference.acquire_fence`. -/
def acquireFence (holderId requestNonce : String) (expectedAnchorSha256 : Sha256)
    (issuedAt : DateTime) (lifetime : Time) :
    Method InMemoryMonotonicAnchorReference AnchorError CoordinationFenceGrant := do
  let ref ← Method.self
  Method.check (refuseIf (expectedAnchorSha256 ≠ ref.anchor.digest)
    (.authority "anchor compare failed before fence issuance"))
  let nextFencingToken := ref.fencingToken + 1
  let grant ← Method.check (CoordinationFenceGrant.issue ref.anchor.streamId holderId
    requestNonce ref.anchor nextFencingToken ref.privateKey issuedAt lifetime)
  Method.assign (fun ref => { ref with fencingToken := nextFencingToken })
  pure grant

/-- The fence checks of `compare_and_advance`. -/
def fenceAccepted (ref : InMemoryMonotonicAnchorReference) (fence : CoordinationFenceGrant)
    (advancedAt : Time) : Bool :=
  fence.verify (AnchorPrimitives.publicKeyOf ref.privateKey) && fence.validAt advancedAt &&
    decide (fence.streamId = ref.anchor.streamId ∧
      fence.basedOnAnchorSequence = ref.anchor.anchorSequence ∧
      fence.basedOnAnchorSha256 = ref.anchor.digest ∧
      fence.fencingToken = ref.fencingToken ∧
      ref.anchor.fencingToken < fence.fencingToken)

/-- The projection checks of `compare_and_advance`. -/
def projectionMonotonic (current : SignedCoordinationAnchor)
    (projection : LocalCoordinationProjection) (fence : CoordinationFenceGrant) : Bool :=
  decide (projection.recoveryStatus = .aligned ∧
    projection.writerFencingToken = fence.fencingToken ∧
    projection.basedOnAnchorSequence = some current.anchorSequence ∧
    projection.basedOnAnchorSha256 = some current.digest ∧
    projection.plantModelSha256 = current.projection.plantModelSha256 ∧
    current.projection.plantStateVersion ≤ projection.plantStateVersion ∧
    (projection.plantStateVersion = current.projection.plantStateVersion →
      projection.plantStateSha256 = current.projection.plantStateSha256))

/-- The time check of `compare_and_advance`. -/
def advanceInstant (current : SignedCoordinationAnchor) (advancedAt : DateTime) :
    Except AnchorError Time :=
  match advancedAt with
  | .naive => .error (.authority "anchor advance time was invalid or regressed")
  | .aware instant => do
      refuseIf (instant < current.issuedAt)
        (.authority "anchor advance time was invalid or regressed")
      pure instant

/-- `InMemoryMonotonicAnchorReference.compare_and_advance`. -/
def compareAndAdvance (expectedAnchorSha256 : Sha256)
    (projection : LocalCoordinationProjection) (fence : CoordinationFenceGrant)
    (advancedAt : DateTime) :
    Method InMemoryMonotonicAnchorReference AnchorError SignedCoordinationAnchor := do
  let ref ← Method.self
  let current := ref.anchor
  Method.check (refuseIf (expectedAnchorSha256 ≠ current.digest)
    (.authority "anchor compare-and-advance used stale state"))
  let instant ← Method.check (advanceInstant current advancedAt)
  Method.check (refuseIf (ref.fenceAccepted fence instant = false)
    (.authority "anchor compare-and-advance fence was invalid"))
  Method.check (refuseIf (projectionMonotonic current projection fence = false)
    (.authority "candidate anchor projection was not monotonic"))
  let advanced ← Method.check (SignedCoordinationAnchor.issue current.streamId
    (current.anchorSequence + 1) fence.fencingToken (some current.digest) projection
    ref.privateKey advancedAt)
  Method.assign (fun ref => { ref with anchor := advanced })
  pure advanced

end InMemoryMonotonicAnchorReference

/-! ## Runs -/

/-- A call of the authority with its arguments. -/
inductive AnchorCall where
  | readback (requestNonce : String) (readAt : DateTime) (lifetime : Time)
  | acquireFence (holderId requestNonce : String) (expectedAnchorSha256 : Sha256)
      (issuedAt : DateTime) (lifetime : Time)
  | compareAndAdvance (expectedAnchorSha256 : Sha256) (projection : LocalCoordinationProjection)
      (fence : CoordinationFenceGrant) (advancedAt : DateTime)
  deriving DecidableEq

/-- What a returning call returns. -/
inductive AnchorReply where
  | readback (readback : CoordinationAnchorReadback)
  | grant (grant : CoordinationFenceGrant)
  | advanced (anchor : SignedCoordinationAnchor)
  deriving DecidableEq

/-- One call in a run: the authority before and after it, and how it ended. -/
structure AnchorEvent where
  before : InMemoryMonotonicAnchorReference
  call : AnchorCall
  result : Except AnchorError AnchorReply
  after : InMemoryMonotonicAnchorReference

variable [AnchorPrimitives]

/-- The method a call runs. -/
def AnchorCall.body :
    AnchorCall → Method InMemoryMonotonicAnchorReference AnchorError AnchorReply
  | .readback requestNonce readAt lifetime => do
      let reply ← InMemoryMonotonicAnchorReference.readback requestNonce readAt lifetime
      pure (.readback reply)
  | .acquireFence holderId requestNonce expectedAnchorSha256 issuedAt lifetime => do
      let reply ← InMemoryMonotonicAnchorReference.acquireFence holderId requestNonce
        expectedAnchorSha256 issuedAt lifetime
      pure (.grant reply)
  | .compareAndAdvance expectedAnchorSha256 projection fence advancedAt => do
      let reply ← InMemoryMonotonicAnchorReference.compareAndAdvance expectedAnchorSha256
        projection fence advancedAt
      pure (.advanced reply)

namespace InMemoryMonotonicAnchorReference

/-- One call. -/
def serve (ref : InMemoryMonotonicAnchorReference) (call : AnchorCall) : AnchorEvent :=
  let ended := Method.call call.body ref
  { before := ref, call := call, result := ended.1, after := ended.2 }

/-- The events of a sequence of calls. -/
def events (ref : InMemoryMonotonicAnchorReference) : List AnchorCall → List AnchorEvent
  | [] => []
  | call :: rest => ref.serve call :: (ref.serve call).after.events rest

end InMemoryMonotonicAnchorReference

namespace AnchorEvent

/-- The grant an `acquire_fence` returned. -/
def issued (event : AnchorEvent) : Option CoordinationFenceGrant :=
  match event.result with
  | .ok (.grant grant) => some grant
  | _ => none

/-- The grant of a successful `compare_and_advance`. -/
def used (event : AnchorEvent) : Option CoordinationFenceGrant :=
  match event.call, event.result with
  | .compareAndAdvance _ _ fence _, .ok _ => some fence
  | _, _ => none

end AnchorEvent

end AegisOt
