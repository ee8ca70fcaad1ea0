import AegisOt.Misc.AtomicFile
import AegisOt.Plant.Pandapower

/-!
# The durable plant checkpoint

`DurablePlantCheckpointStore` of `plant_checkpoint.py`: one JSON document in a file that is replaced
by renaming, an exclusive writer lock, and an object that refuses everything once an update became
uncertain. A file content stands for the canonical JSON text of its document, which strict parsing
reads back. What the operating system does during a call is an argument of the call: each of the
places where the source can raise or die is an outcome of `ReadOutcome` or `WriteOutcome`.
-/

namespace AegisOt

/-- `MAX_CHECKPOINT_BYTES`. -/
def maxCheckpointBytes : Nat := 1024 * 1024

/-- `_document`. -/
structure CheckpointDocument where
  checkpoint : Option PhysicalStateSnapshot
  modelDigest : Sha256
  plantKeyId : String
  deriving DecidableEq

/-- The length of `_canonical_bytes` of a document. -/
class CheckpointCodec where
  materialLength : CheckpointDocument → Nat

/-- What a method of the store ends in: a `PlantCheckpointError`, an `OSError` that it lets
    through, or the end of the process. -/
inductive CheckpointError where
  | checkpoint (message : String)
  | os (description : String)
  | crash
  deriving DecidableEq

/-- The attributes of `DurablePlantCheckpointStore`. -/
structure CheckpointStore where
  plantKeyId : String
  modelDigest : Sha256
  lockHeld : Bool
  unusable : Bool
  checkpoint : Option PhysicalStateSnapshot
  deriving DecidableEq

/-- What a method of the store works on: the object and the checkpoint file. -/
structure StoreState where
  store : CheckpointStore
  file : AtomicFile CheckpointDocument
  deriving DecidableEq

abbrev StoreMethod (α : Type) := Method StoreState CheckpointError α

/-- How `_read` ends before its content is parsed. -/
inductive ReadOutcome where
  | completed
  /-- A `PlantCheckpointError` of the directory, `open`, `fstat` or `read`. -/
  | refused (message : String)
  /-- `os.close` in its `finally` block raised. -/
  | closeFailed (description : String)
  deriving DecidableEq

/-- How the writes of `_persist` end. -/
inductive WriteOutcome where
  | written
  /-- A `PlantCheckpointError` of `_check_parent`. -/
  | parentRefused (message : String)
  /-- An `OSError` before `before_replace` is called. -/
  | temporaryFailed
  /-- `os.replace` raised; it may have taken effect. -/
  | replaceFailed (replaced : Bool)
  /-- An `OSError` of the directory's `open`, `fsync` or `close`. -/
  | directoryFailed
  /-- The process died before or after the replacement. -/
  | crashed (replaced : Bool)
  deriving DecidableEq

/-- What the operating system does during one `_persist`; `cleanup` is an `OSError` of its
    `finally` block, which runs before a replacement only. -/
structure WriteIo where
  outcome : WriteOutcome
  cleanup : Option String
  deriving DecidableEq

/-- What the operating system does during one update. -/
structure StoreIo where
  read : ReadOutcome
  write : WriteIo
  /-- The `_load` that verifies the update. -/
  verify : ReadOutcome
  deriving DecidableEq

namespace CheckpointStore

def raise {α : Type} (error : CheckpointError) : StoreMethod α := Method.check (.error error)

/-- `_assert_usable`. -/
def assertUsable : StoreMethod Unit := do
  let s ← Method.self
  Method.check (refuseIf (s.store.unusable = true)
    (.checkpoint "plant checkpoint is unusable after an uncertain update"))
  Method.check (refuseIf (s.store.lockHeld = false)
    (.checkpoint "plant checkpoint writer lock is closed"))

/-- `self._unusable = True`. -/
def markUnusable : StoreMethod Unit :=
  Method.assign fun s => { s with store := { s.store with unusable := true } }

section

variable [Primitives]

/-- `_validate_snapshot`. -/
def validateSnapshot (store : CheckpointStore) (snapshot : PhysicalStateSnapshot) :
    Except CheckpointError PhysicalStateSnapshot := do
  refuseIf (snapshot.fieldsValid = false) (.checkpoint "plant checkpoint snapshot is invalid")
  refuseIf (snapshot.modelDigest ≠ store.modelDigest)
    (.checkpoint "plant checkpoint snapshot model does not match configuration")
  refuseIf (snapshot.verifyDigest = false)
    (.checkpoint "plant checkpoint snapshot digest is invalid")
  refuseIf (snapshot.converged = false ∨ snapshot.unsafeState = true)
    (.checkpoint "plant checkpoint snapshot is not a safe solved state")
  pure snapshot

variable [CheckpointCodec]

/-- `_load` on the content of the file. -/
def loadContent (store : CheckpointStore) :
    Option CheckpointDocument → Except CheckpointError (Option PhysicalStateSnapshot)
  | none => .error (.checkpoint "plant checkpoint is missing or unavailable")
  | some document => do
      refuseIf (maxCheckpointBytes < CheckpointCodec.materialLength document)
        (.checkpoint "plant checkpoint exceeds its size limit")
      refuseIf (document.plantKeyId ≠ store.plantKeyId ∨
          document.modelDigest ≠ store.modelDigest)
        (.checkpoint "plant checkpoint identity does not match configuration")
      match document.checkpoint with
      | none => pure none
      | some snapshot => do
          let validated ← store.validateSnapshot snapshot
          pure (some validated)

/-- `_load`. -/
def load (io : ReadOutcome) : StoreMethod (Option PhysicalStateSnapshot) := do
  assertUsable
  match io with
  | .refused message => raise (.checkpoint message)
  | .closeFailed description => raise (.os description)
  | .completed => do
      let s ← Method.self
      Method.check (s.store.loadContent s.file.visible)

/-- The exception that leaves `_persist` when its `finally` block runs before a replacement. -/
def afterCleanup (io : WriteIo) (error : CheckpointError) : CheckpointError :=
  match io.cleanup with
  | none => error
  | some description => .os description

/-- `except OSError` of `_persist`. -/
def updateFailed : CheckpointError := .checkpoint "plant checkpoint update failed"

/-- `os.replace`, with a document of this store. -/
def replaceFile (checkpoint : Option PhysicalStateSnapshot) : StoreMethod Unit :=
  Method.assign fun s =>
    { s with
      file := s.file.replace ⟨checkpoint, s.store.modelDigest, s.store.plantKeyId⟩ }

/-- `_persist` from `before_replace` on. -/
def replaceChecked (checkpoint : Option PhysicalStateSnapshot)
    (beforeReplace : Except CheckpointError Unit) (io : WriteIo) : StoreMethod Unit := do
  match beforeReplace with
  | .error error => raise (afterCleanup io error)
  | .ok () =>
      match io.outcome with
      | .replaceFailed replaced => do
          if replaced then replaceFile checkpoint
          markUnusable
          raise (afterCleanup io updateFailed)
      | .directoryFailed => do
          replaceFile checkpoint
          markUnusable
          raise updateFailed
      | .crashed replaced => do
          if replaced then replaceFile checkpoint
          raise .crash
      | _ => do
          replaceFile checkpoint
          Method.assign fun s => { s with file := s.file.sync }

/-- `_persist`. -/
def persist (checkpoint : Option PhysicalStateSnapshot)
    (beforeReplace : Except CheckpointError Unit) (io : WriteIo) : StoreMethod Unit := do
  assertUsable
  let s ← Method.self
  match io.outcome with
  | .parentRefused message => raise (.checkpoint message)
  | _ => do
      let document : CheckpointDocument := ⟨checkpoint, s.store.modelDigest, s.store.plantKeyId⟩
      Method.check (refuseIf (maxCheckpointBytes < CheckpointCodec.materialLength document)
        (.checkpoint "plant checkpoint exceeds its size limit"))
      match io.outcome with
      | .temporaryFailed => do
          markUnusable
          raise (afterCleanup io updateFailed)
      | .crashed false => raise .crash
      | _ => replaceChecked checkpoint beforeReplace io

/-- The end of an update: the file is loaded again, and a `PlantCheckpointError` or another content
    makes the store unusable. -/
def verifyUpdate (expected : PhysicalStateSnapshot) (message : String) (io : ReadOutcome) :
    StoreMethod PhysicalStateSnapshot := do
  let retained ← (load io).catching fun error => do
    match error with
    | .checkpoint _ => markUnusable
    | _ => pure ()
    raise error
  if retained ≠ some expected then do
    markUnusable
    raise (.checkpoint message)
  else do
    Method.assign fun s => { s with store := { s.store with checkpoint := retained } }
    pure expected

/-- `_same_physical_state`. -/
def samePhysicalState (left right : PhysicalStateSnapshot) : Bool :=
  decide (left.modelId = right.modelId ∧ left.simulatorVersion = right.simulatorVersion ∧
    left.modelDigest = right.modelDigest ∧ left.inputDigest = right.inputDigest ∧
    left.topologyDigest = right.topologyDigest ∧ left.stateVersion = right.stateVersion ∧
    left.stateDigest = right.stateDigest ∧ left.simulationTimeS = right.simulationTimeS)

/-- `current`. -/
def current (io : ReadOutcome) : StoreMethod (Option PhysicalStateSnapshot) := do
  let loaded ← load io
  Method.assign fun s => { s with store := { s.store with checkpoint := loaded } }
  pure loaded

/-- `verify_current`. -/
def verifyCurrent (snapshot : PhysicalStateSnapshot) (io : ReadOutcome) :
    StoreMethod PhysicalStateSnapshot := do
  let s ← Method.self
  let live ← Method.check (s.store.validateSnapshot snapshot)
  let loaded ← load io
  let stored ← Method.check (orRaise loaded
    (.checkpoint "plant checkpoint baseline has not been installed"))
  Method.check (refuseIf (samePhysicalState stored live = false)
    (.checkpoint "plant checkpoint does not match the current physical state"))
  Method.assign fun s => { s with store := { s.store with checkpoint := some stored } }
  pure stored

/-- `install_baseline` up to its write. -/
def admitBaseline (snapshot : PhysicalStateSnapshot) (io : ReadOutcome) :
    StoreMethod PhysicalStateSnapshot := do
  let s ← Method.self
  let baseline ← Method.check (s.store.validateSnapshot snapshot)
  Method.check (refuseIf (baseline.stateVersion ≠ 0 ∨ baseline.simulationTimeS ≠ 0)
    (.checkpoint "plant checkpoint baseline must be the version-zero initial state"))
  let loaded ← load io
  Method.check (refuseIf (loaded ≠ none)
    (.checkpoint "plant checkpoint baseline is already installed"))
  pure baseline

/-- `install_baseline`. -/
def installBaseline (snapshot : PhysicalStateSnapshot) (io : StoreIo) :
    StoreMethod PhysicalStateSnapshot := do
  let baseline ← admitBaseline snapshot io.read
  persist (some baseline) (.ok ()) io.write
  verifyUpdate baseline "plant checkpoint baseline could not be verified" io.verify

/-- The arguments of `commit_next`; the clock is given by what it reads. -/
structure CommitRequest where
  current : PhysicalStateSnapshot
  nextState : PhysicalStateSnapshot
  effectDeadline : Option DateTime
  effectClock : Option (Except String DateTime)

/-- The checks of `commit_next` on its deadline. -/
def checkDeadline (request : CommitRequest) : Except CheckpointError Unit := do
  refuseIf (request.effectDeadline.isNone ≠ request.effectClock.isNone)
    (.checkpoint
      "plant checkpoint effect deadline and clock must be configured together")
  refuseIf (request.effectDeadline = some .naive)
    (.checkpoint "plant checkpoint effect deadline must be timezone-aware")

/-- `require_live_deadline`, which `commit_next` passes when it has a deadline. -/
def requireLiveDeadline (request : CommitRequest) : Except CheckpointError Unit :=
  match request.effectDeadline, request.effectClock with
  | some (.aware deadline), some (.ok (.aware evaluatedAt)) =>
      refuseIf (deadline ≤ evaluatedAt)
        (.checkpoint "plant checkpoint effect deadline expired before replace")
  | some _, _ => .error (.checkpoint "plant checkpoint effect deadline check failed")
  | none, _ => .ok ()

/-- `commit_next` up to its write. -/
def admitNext (request : CommitRequest) (io : ReadOutcome) :
    StoreMethod PhysicalStateSnapshot := do
  Method.check (checkDeadline request)
  let s ← Method.self
  let expected ← Method.check (s.store.validateSnapshot request.current)
  let candidate ← Method.check (s.store.validateSnapshot request.nextState)
  let loaded ← load io
  let stored ← Method.check (orRaise loaded
    (.checkpoint "plant checkpoint baseline has not been installed"))
  Method.check (refuseIf (samePhysicalState stored expected = false)
    (.checkpoint "plant checkpoint changed before the next state commit"))
  Method.check (refuseIf (candidate.modelId ≠ stored.modelId ∨
      candidate.simulatorVersion ≠ stored.simulatorVersion)
    (.checkpoint "plant checkpoint next state changed the configured model"))
  Method.check (refuseIf (candidate.stateVersion ≠ stored.stateVersion + 1)
    (.checkpoint "plant checkpoint next state must advance exactly one version"))
  Method.check (refuseIf (candidate.simulationTimeS ≤ stored.simulationTimeS)
    (.checkpoint "plant checkpoint next state must advance simulation time"))
  pure candidate

/-- `commit_next`. -/
def commitNext (request : CommitRequest) (io : StoreIo) : StoreMethod PhysicalStateSnapshot := do
  let candidate ← admitNext request io.read
  persist (some candidate) (requireLiveDeadline request) io.write
  verifyUpdate candidate "plant checkpoint next state could not be verified" io.verify

/-- `__init__` once the writer lock is held. -/
def construct (initializing : Bool) (write : WriteIo) (read : ReadOutcome) : StoreMethod Unit := do
  if initializing then do
    let s ← Method.self
    Method.check (refuseIf (s.file.visible ≠ none)
      (.checkpoint "plant checkpoint already exists; refusing to initialize"))
    persist none (.ok ()) write
  let loaded ← load read
  Method.assign fun s => { s with store := { s.store with checkpoint := loaded } }

end

end CheckpointStore

/-! ## Stores over one file -/

/-- A method call on a store, with what the operating system does during it. -/
inductive StoreCall where
  | current (io : ReadOutcome)
  | verifyCurrent (snapshot : PhysicalStateSnapshot) (io : ReadOutcome)
  | installBaseline (snapshot : PhysicalStateSnapshot) (io : StoreIo)
  | commitNext (request : CheckpointStore.CommitRequest) (io : StoreIo)

/-- A store object, and whether an update of it became uncertain. -/
structure StoreInstance where
  store : CheckpointStore
  uncertain : Bool
  deriving DecidableEq

/-- A host: the checkpoint file, its lock file and every store object that was constructed. -/
structure CheckpointHost where
  file : AtomicFile CheckpointDocument
  lockFile : Bool
  stores : List StoreInstance
  deriving DecidableEq

/-- What the operating system does while a store is constructed: refusals of the directory and of
    the lock, whether a refused lock file was created, and the write and the read. -/
structure ConstructIo where
  parent : Option String
  lock : Option String
  lockCreated : Bool
  write : WriteIo
  read : ReadOutcome
  deriving DecidableEq

/-- One event on a host. -/
inductive CheckpointEvent where
  | construct (initializing : Bool) (plantKeyId : String) (modelDigest : Sha256)
      (io : ConstructIo)
  | call (index : Nat) (call : StoreCall)
  /-- `close`, or the end of the process that holds the store. -/
  | close (index : Nat)
  | writeback (count : Nat)
  /-- The host stops; a lock file that had not reached the medium is gone. -/
  | powerLoss (count : Nat) (lockKept : Bool)

section

variable [Primitives] [CheckpointCodec]

namespace StoreCall

/-- The method that is called, and the state it reports. -/
def method : StoreCall → StoreMethod (Option PhysicalStateSnapshot)
  | .current io => CheckpointStore.current io
  | .verifyCurrent snapshot io => do
      let stored ← CheckpointStore.verifyCurrent snapshot io
      pure (some stored)
  | .installBaseline snapshot io => do
      let baseline ← CheckpointStore.installBaseline snapshot io
      pure (some baseline)
  | .commitNext request io => do
      let candidate ← CheckpointStore.commitNext request io
      pure (some candidate)

/-- An update that raised although it had replaced the file, or that the store itself takes for
    uncertain. -/
def uncertain (result : Except CheckpointError (Option PhysicalStateSnapshot))
    (before after : StoreState) : Bool :=
  decide (result.toOption = none ∧
    (after.file ≠ before.file ∨
      (after.store.unusable = true ∧ before.store.unusable = false)))

end StoreCall

namespace CheckpointHost

/-- Nothing was ever stored. -/
def empty : CheckpointHost := ⟨.missing, false, []⟩

/-- The lock is free. -/
def unlocked (host : CheckpointHost) : Bool := host.stores.all fun s => !s.store.lockHeld

/-- `DurablePlantCheckpointStore(...)`. -/
def construct (host : CheckpointHost) (initializing : Bool) (plantKeyId : String)
    (modelDigest : Sha256) (io : ConstructIo) : CheckpointHost :=
  if io.parent.isSome ∨ (initializing ∧ (host.file.visible.isSome ∨ host.lockFile)) then host
  else if ¬ host.unlocked ∨ (¬ initializing ∧ ¬ host.lockFile) ∨ io.lock.isSome then
    { host with lockFile := host.lockFile || (initializing && io.lockCreated) }
  else
    let store : CheckpointStore :=
      { plantKeyId := plantKeyId
        modelDigest := modelDigest
        lockHeld := true
        unusable := false
        checkpoint := none }
    match Method.call (CheckpointStore.construct initializing io.write io.read)
        ⟨store, host.file⟩ with
    | (.ok _, s) => ⟨s.file, true, host.stores ++ [⟨s.store, false⟩]⟩
    | (.error _, s) => ⟨s.file, true, host.stores⟩

/-- A method call on one store object. -/
def call (host : CheckpointHost) (index : Nat) (storeCall : StoreCall) : CheckpointHost :=
  match host.stores[index]? with
  | none => host
  | some inst =>
      let before : StoreState := ⟨inst.store, host.file⟩
      let ended := Method.call storeCall.method before
      { host with
        file := ended.2.file
        stores := host.stores.set index
          { store :=
              if ended.1 = .error .crash then { ended.2.store with lockHeld := false }
              else ended.2.store
            uncertain := inst.uncertain || StoreCall.uncertain ended.1 before ended.2 } }

/-- The lock of one store is released. -/
def close (host : CheckpointHost) (index : Nat) : CheckpointHost :=
  { host with
    stores := host.stores.modify index fun s =>
      { s with store := { s.store with lockHeld := false } } }

/-- One event. -/
def step (host : CheckpointHost) : CheckpointEvent → CheckpointHost
  | .construct initializing plantKeyId modelDigest io =>
      host.construct initializing plantKeyId modelDigest io
  | .call index storeCall => host.call index storeCall
  | .close index => host.close index
  | .writeback count => { host with file := host.file.writeback count }
  | .powerLoss count lockKept =>
      { file := host.file.powerLoss count
        lockFile := host.lockFile && lockKept
        stores := host.stores.map fun s => { s with store := { s.store with lockHeld := false } } }

/-- Any sequence of events from an empty directory on. -/
def run (events : List CheckpointEvent) : CheckpointHost := events.foldl step empty

end CheckpointHost

end

end AegisOt
