import AegisOt.Misc.Program
import AegisOt.Trust.SequenceState
import AegisOt.WorkloadIdentity

/-!
# Trust transactions

`FileWorkloadTrustSequenceStateStore.transaction` of `workload_trust_state.py` and the verifications
of `WorkloadIdentityVerifier` that run inside it. Between any two operations on the directory other
verifiers act and processes end, so each operation is one action: listing, opening and locking the
sidecar file, reading, writing, replacing, syncing. Each of them may raise. The attributes of a
verifier and of its store are read and assigned by actions of their own, since they outlive a call.
-/

namespace AegisOt

/-- The exceptions of a verification. -/
inductive TrustError where
  /-- `WorkloadTrustSequenceStateError`. -/
  | state (message : String)
  | identity (error : WorkloadIdentityError)
  /-- An `OSError` that nothing wraps. -/
  | os (description : String)
  deriving DecidableEq

/-- Whether the checkpoint, the stable lock and anything else are in the directory. -/
structure DirectoryEntries where
  state : Bool
  lock : Bool
  others : Bool
  deriving DecidableEq

/-- The attributes of a verifier and of its store that change. -/
structure VerifierMemory where
  /-- `WorkloadIdentityVerifier._highest_sequence`. -/
  highestSequence : ℤ
  highestSequenceDigest : String
  /-- `FileWorkloadTrustSequenceStateStore._highest_sequence`. -/
  storeHighestSequence : ℤ
  storeHighestBundleSha256 : String
  poisoned : Bool
  deriving DecidableEq

/-- A new verifier with its store. -/
def VerifierMemory.initial : VerifierMemory := ⟨0, "", 0, "", false⟩

/-- An operation on the directory that answers nothing. -/
inductive DirectoryOperation where
  /-- `_open_parent`. -/
  | openParent
  /-- `_open_lock`. -/
  | openLock (bootstrap : Bool)
  /-- `_acquire_lock`. -/
  | acquireLock
  /-- `_require_stable_lock`. -/
  | requireStableLock
  /-- `os.open` of the temporary file. -/
  | createTemporary
  /-- The writes up to `os.close`. -/
  | writeTemporary
  /-- `os.replace`. -/
  | replaceCheckpoint (material : ByteArray)
  /-- `os.unlink` under `suppress(FileNotFoundError)`. -/
  | unlinkTemporary
  /-- `os.fsync` of the directory. -/
  | syncParent
  /-- `os.close(lock_fd)`. -/
  | closeLock
  /-- `os.close(parent_fd)`. -/
  | closeParent
  deriving DecidableEq

/-- What a verification does to the directory and to its own attributes. -/
inductive TrustAct where
  | operate (operation : DirectoryOperation)
  /-- `os.listdir`. -/
  | listEntries
  /-- The reads of `_load_locked`. -/
  | readCheckpoint
  /-- `fcntl.flock(lock_fd, fcntl.LOCK_UN)`; it answers whether that succeeded. -/
  | unlock
  /-- Read the attributes. -/
  | recollect
  /-- Assign them. -/
  | remember (memory : VerifierMemory)
  /-- `yield`: the bundle is admitted. -/
  | admitBundle (sequence : ℤ) (bundleSha256 : String)
  deriving DecidableEq

/-- The answers. -/
def TrustAct.Reply : TrustAct → Type
  | .operate _ => Except TrustError Unit
  | .listEntries => Except TrustError DirectoryEntries
  | .readCheckpoint => Except TrustError ByteArray
  | .unlock => Bool
  | .recollect => VerifierMemory
  | .remember _ => Unit
  | .admitBundle _ _ => Unit

abbrev TrustProgram (α : Type) := Program TrustAct TrustAct.Reply TrustError α

/-- An operation that may raise. -/
def operate (operation : DirectoryOperation) : TrustProgram Unit := do
  let reply ← Program.call (TrustAct.operate operation)
  Program.result reply

/-- `_entries`. -/
def listEntries : TrustProgram DirectoryEntries := do
  let reply ← Program.call TrustAct.listEntries
  Program.result reply

/-- The bytes of the checkpoint. -/
def readCheckpoint : TrustProgram ByteArray := do
  let reply ← Program.call TrustAct.readCheckpoint
  Program.result reply

def recollect : TrustProgram VerifierMemory := Program.call TrustAct.recollect

def remember (memory : VerifierMemory) : TrustProgram Unit :=
  Program.call (TrustAct.remember memory)

def admitBundle (sequence : ℤ) (bundleSha256 : String) : TrustProgram Unit :=
  Program.call (TrustAct.admitBundle sequence bundleSha256)

/-- `FileWorkloadTrustSequenceStateStore`, by its checked configuration. -/
structure FileWorkloadTrustSequenceStateStore where
  trustDomain : String
  authorityKeyId : String
  authorityPublicKeySha256 : String
  trustDomainValid : isTrustIdentity trustDomain = true
  authorityKeyIdValid : isTrustIdentity authorityKeyId = true
  authorityPublicKeyValid : isHexDigest authorityPublicKeySha256 = true

namespace FileWorkloadTrustSequenceStateStore

open Program

/-- `_classify_layout`: whether the directory is an unused bootstrap root. -/
def classifyLayout : TrustProgram Bool := do
  let entries ← listEntries
  if entries.state = false ∧ entries.lock = false then do
    require (entries.others = true)
      (.state "workload trust-sequence bootstrap directory contains unexpected entries")
    pure true
  else do
    require (entries.state ≠ entries.lock)
      (.state "workload trust-sequence checkpoint and stable lock must both exist")
    pure false

/-- `_require_entries`. -/
def requireEntries (expected : DirectoryEntries) : TrustProgram Unit := do
  let entries ← listEntries
  require (entries ≠ expected)
    (.state "workload trust-sequence directory contains unexpected entries")

/-- `self._poisoned = True`. -/
def poison : TrustProgram Unit := do
  let memory ← recollect
  remember { memory with poisoned := true }

variable [TrustStatePrimitives] (store : FileWorkloadTrustSequenceStateStore)

/-- `_load_locked`. -/
def loadLocked : TrustProgram WorkloadTrustSequenceState := do
  let bytes ← readCheckpoint
  let state ← result ((WorkloadTrustSequenceState.parse bytes).mapError .state)
  require (state.trustDomain ≠ store.trustDomain ∨
      state.authorityKeyId ≠ store.authorityKeyId ∨
      state.authorityPublicKeySha256 ≠ store.authorityPublicKeySha256)
    (.state "workload trust-sequence checkpoint does not match configured trust")
  pure state

/-- What `_write_locked` raises for an exception of its body. -/
def updateFailed : TrustError → TrustError
  | .state message => .state message
  | _ => .state "workload trust-sequence checkpoint update failed"

/-- The `try` statement of `_write_locked`. -/
def replaceState (state : WorkloadTrustSequenceState) : TrustProgram Unit := do
  let replaced ← attempt (do
    operate .createTemporary
    operate .writeTemporary
    operate (.replaceCheckpoint state.material))
  match replaced with
  | .error error => do
      poison
      operate .unlinkTemporary
      raise (updateFailed error)
  | .ok _ =>
      catching (do
        operate .syncParent
        let readback ← store.loadLocked
        require (readback ≠ state)
          (.state "workload trust-sequence checkpoint readback disagrees"))
        (fun error => do
          poison
          raise (updateFailed error))

/-- `_write_locked`. -/
def writeLocked (state : WorkloadTrustSequenceState) : TrustProgram Unit := do
  require (maxStateBytes < state.material.size)
    (.state "workload trust-sequence checkpoint exceeds its size limit")
  store.replaceState state

/-- The comparisons with the stored state and with the attributes of the store. -/
def checkSequence (current : Option WorkloadTrustSequenceState) (memory : VerifierMemory)
    (sequence : ℤ) (bundleSha256 : String) : Except TrustError Unit := do
  refuseIf (∃ state ∈ current, sequence < state.highestSequence)
    (.state "workload trust bundle sequence rolled back")
  refuseIf (∃ state ∈ current, sequence = state.highestSequence ∧
      bundleSha256 ≠ state.highestBundleSha256)
    (.state "workload trust bundle sequence was equivocated")
  refuseIf (sequence < memory.storeHighestSequence)
    (.state "workload trust bundle sequence rolled back in process")
  refuseIf (sequence = memory.storeHighestSequence ∧ memory.storeHighestBundleSha256 ≠ "" ∧
      bundleSha256 ≠ memory.storeHighestBundleSha256)
    (.state "workload trust bundle sequence was equivocated in process")

/-- The stored state, if the directory is not a bootstrap root. -/
def currentState (bootstrap : Bool) : TrustProgram (Option WorkloadTrustSequenceState) :=
  if bootstrap then do
    requireEntries ⟨false, true, false⟩
    pure none
  else do
    requireEntries ⟨true, true, false⟩
    let state ← catching store.loadLocked (fun error =>
      match error with
      | .state message => do
          poison
          raise (.state message)
      | error => raise error)
    pure (some state)

/-- `transaction` from the acquired lock to the end of its `with` body. -/
def underLock {α : Type} (bootstrap : Bool) (sequence : ℤ) (bundleSha256 : String)
    (body : TrustProgram α) : TrustProgram α := do
  operate .requireStableLock
  let current ← store.currentState bootstrap
  let memory ← recollect
  result (checkSequence current memory sequence bundleSha256)
  runIf (∀ state ∈ current, state.highestSequence < sequence) (do
    store.writeLocked (.create store.trustDomain store.authorityKeyId
      store.authorityPublicKeySha256 sequence bundleSha256)
    requireEntries ⟨true, true, false⟩)
  let memory ← recollect
  remember { memory with
    storeHighestSequence := sequence
    storeHighestBundleSha256 := bundleSha256 }
  admitBundle sequence bundleSha256
  body

/-- The unlocking part of the `finally` clause. -/
def releaseLock : TrustProgram Unit := do
  let released : Bool ← call TrustAct.unlock
  runIf (released = false) poison
  operate .closeLock
  operate .closeParent

/-- `transaction`, with the `with` body. -/
def transaction {α : Type} (sequence : ℤ) (bundleSha256 : String) (body : TrustProgram α) :
    TrustProgram α := do
  require (isHexDigest bundleSha256 = false)
    (.state "workload trust-sequence bundle digest is invalid")
  require (sequence < 1) (.state "workload trust-bundle sequence is invalid")
  let memory ← recollect
  require (memory.poisoned = true)
    (.state "workload trust-sequence state instance is poisoned")
  operate .openParent
  let opened ← attempt (do
    let bootstrap ← classifyLayout
    operate (.openLock bootstrap)
    pure bootstrap)
  match opened with
  | .error error => do
      operate .closeParent
      raise error
  | .ok bootstrap => do
      let acquired ← attempt (operate .acquireLock)
      match acquired with
      | .error error => do
          operate .closeLock
          operate .closeParent
          raise error
      | .ok _ => ensuring (store.underLock bootstrap sequence bundleSha256 body) releaseLock

end FileWorkloadTrustSequenceStateStore

/-! ## Verifiers -/

/-- `WorkloadTrustBundle`. -/
structure SignedWorkloadTrustBundle extends WorkloadTrustBundle where
  bundleId : String
  trustDomain : String
  authorityKeyId : String
  authorityPublicKeyB64 : String
  issuedAt : Time
  expiresAt : Time
  signature : String
  deriving DecidableEq

/-- The digests, encodings and signatures of bundles and their authority keys. -/
class TrustBundlePrimitives where
  publicKeyBase64 : PublicKey → String
  publicKeySha256 : PublicKey → Sha256
  bundleSha256 : SignedWorkloadTrustBundle → Sha256
  /-- `bundle.verify(public_key)`. -/
  verifyBundle : PublicKey → SignedWorkloadTrustBundle → Bool

section

variable [TrustBundlePrimitives]

/-- `hashlib.sha256(canonical_json_bytes(bundle)).hexdigest()`. -/
def SignedWorkloadTrustBundle.sha256 (bundle : SignedWorkloadTrustBundle) : String :=
  hexdigest (TrustBundlePrimitives.bundleSha256 bundle)

/-- `WorkloadIdentityVerifier` with its store, which `__post_init__` configures. The verifier's
    `trustedBundle` is what a transaction yields, so the one here is never read. -/
structure WorkloadTrustVerifier where
  identity : WorkloadIdentityVerifier
  maximumBundleLifetime : Time
  store : FileWorkloadTrustSequenceStateStore
  storeTrustDomain : store.trustDomain = identity.trustDomain
  storeAuthorityKeyId : store.authorityKeyId = identity.trustRootKeyId
  storeAuthorityPublicKey : store.authorityPublicKeySha256 =
    hexdigest (TrustBundlePrimitives.publicKeySha256 identity.trustRootPublicKey)

/-- `_trusted_bundle`. `loaded` is what `load_workload_trust_bundle` answers. -/
def WorkloadTrustVerifier.trustedBundle (v : WorkloadTrustVerifier) (now : Time)
    (loaded : Except WorkloadIdentityError SignedWorkloadTrustBundle) :
    Except WorkloadIdentityError SignedWorkloadTrustBundle := do
  let bundle ← loaded
  refuseIf (bundle.trustDomain ≠ v.identity.trustDomain ∨
      bundle.authorityKeyId ≠ v.identity.trustRootKeyId ∨
      bundle.authorityPublicKeyB64 ≠
        TrustBundlePrimitives.publicKeyBase64 v.identity.trustRootPublicKey ∨
      TrustBundlePrimitives.verifyBundle v.identity.trustRootPublicKey bundle = false)
    (.unavailable "workload trust bundle is not rooted in configured trust")
  refuseIf (v.maximumBundleLifetime < bundle.expiresAt - bundle.issuedAt)
    (.unavailable "workload trust bundle lifetime exceeds policy")
  refuseIf (¬ (bundle.issuedAt ≤ now ∧ now < bundle.expiresAt))
    (.unavailable "workload trust bundle is not currently valid")
  pure bundle

variable [Primitives] [TrustStatePrimitives]

namespace WorkloadTrustVerifier

open Program

/-- `raise WorkloadTrustStateUnavailable(str(exc)) from exc`. -/
def stateUnavailable : TrustError → TrustError
  | .state message => .identity (.unavailable message)
  | error => error

/-- `_trusted_bundle_transaction`, with the `with` body. -/
def trustedBundleTransaction {α : Type} (v : WorkloadTrustVerifier) (now : Time)
    (loaded : Except WorkloadIdentityError SignedWorkloadTrustBundle)
    (body : SignedWorkloadTrustBundle → TrustProgram α) : TrustProgram α := do
  let bundle ← result ((v.trustedBundle now loaded).mapError .identity)
  let memory ← recollect
  require ((bundle.sequence : ℤ) < memory.highestSequence)
    (.identity (.unavailable "workload trust bundle sequence rolled back"))
  require ((bundle.sequence : ℤ) = memory.highestSequence ∧ memory.highestSequenceDigest ≠ "" ∧
      bundle.sha256 ≠ memory.highestSequenceDigest)
    (.identity (.unavailable "workload trust bundle sequence was equivocated"))
  catching (v.store.transaction bundle.sequence bundle.sha256 (do
    let memory ← recollect
    remember { memory with
      highestSequence := bundle.sequence
      highestSequenceDigest := bundle.sha256 }
    body bundle))
    (fun error => raise (stateUnavailable error))

/-- The verifier inside a transaction that yields the bundle. -/
def yielding (v : WorkloadTrustVerifier) (bundle : SignedWorkloadTrustBundle) :
    WorkloadIdentityVerifier :=
  { v.identity with trustedBundle := fun _ => some bundle.toWorkloadTrustBundle }

/-- `verify_credential`. Without an expected subject any subject is the expected one. -/
def verifyCredential (v : WorkloadTrustVerifier)
    (loaded : Except WorkloadIdentityError SignedWorkloadTrustBundle)
    (signed : SignedWorkloadCredential) (expectedRole : WorkloadRole)
    (expectedAudience : String) (expectedSubject expectedActorId : Option String)
    (now : DateTime) : TrustProgram PublicKey :=
  match now with
  | .naive => raise (.identity (.rejected "workload verification time must be timezone-aware"))
  | .aware evaluatedAt =>
      v.trustedBundleTransaction evaluatedAt loaded (fun bundle =>
        result (((v.yielding bundle).verifyCredential signed expectedRole expectedAudience
          (expectedSubject.getD signed.credential.subject) expectedActorId
            evaluatedAt).mapError .identity))

/-- `verify_historical_credential`. The times are checked before the transaction. -/
def verifyHistoricalCredential (v : WorkloadTrustVerifier)
    (loaded : Except WorkloadIdentityError SignedWorkloadTrustBundle)
    (signed : SignedWorkloadCredential) (expectedRole : WorkloadRole)
    (expectedAudience : String) (expectedSubject expectedActorId : Option String)
    (authenticatedAt now : DateTime) (maximumFutureSkew : Time) : TrustProgram PublicKey :=
  match now, authenticatedAt with
  | .aware evaluatedAt, .aware authenticated => do
      require (maximumFutureSkew < 0) (.identity
        (.rejected "historical workload verification time must be timezone-aware"))
      require (evaluatedAt + maximumFutureSkew < authenticated) (.identity
        (.rejected "historical workload authentication time is in the future"))
      v.trustedBundleTransaction evaluatedAt loaded (fun bundle =>
        result (((v.yielding bundle).verifyHistoricalCredential signed expectedRole
          expectedAudience (expectedSubject.getD signed.credential.subject) expectedActorId
            authenticated evaluatedAt maximumFutureSkew).mapError .identity))
  | _, _ => raise (.identity
      (.rejected "historical workload verification time must be timezone-aware"))

end WorkloadTrustVerifier

/-- A call of a verifier, with what its bundle file holds then. -/
inductive TrustRequest where
  | credential (loaded : Except WorkloadIdentityError SignedWorkloadTrustBundle)
      (signed : SignedWorkloadCredential) (expectedRole : WorkloadRole) (expectedAudience : String)
      (expectedSubject expectedActorId : Option String) (now : DateTime)
  | historical (loaded : Except WorkloadIdentityError SignedWorkloadTrustBundle)
      (signed : SignedWorkloadCredential) (expectedRole : WorkloadRole) (expectedAudience : String)
      (expectedSubject expectedActorId : Option String) (authenticatedAt now : DateTime)
      (maximumFutureSkew : Time)

namespace TrustRequest

def loaded : TrustRequest → Except WorkloadIdentityError SignedWorkloadTrustBundle
  | credential loaded _ _ _ _ _ _ => loaded
  | historical loaded _ _ _ _ _ _ _ _ => loaded

def program (v : WorkloadTrustVerifier) : TrustRequest → TrustProgram PublicKey
  | credential loaded signed expectedRole expectedAudience expectedSubject expectedActorId now =>
      v.verifyCredential loaded signed expectedRole expectedAudience expectedSubject
        expectedActorId now
  | historical loaded signed expectedRole expectedAudience expectedSubject expectedActorId
      authenticatedAt now maximumFutureSkew =>
      v.verifyHistoricalCredential loaded signed expectedRole expectedAudience expectedSubject
        expectedActorId authenticatedAt now maximumFutureSkew

end TrustRequest

end

end AegisOt
