import AegisOt.Misc.AtomicFile
import AegisOt.Misc.Interleaving
import AegisOt.Traceability.ReplayState

/-!
# Ingesting attestations

`ingest_external_attestation` of `m8_evidence_traceability.py` as a program over a directory that
any number of processes share. Between any two operations other processes act and die, so each
operation is one action, and each of them may raise. The state file is only ever replaced by
renaming; a loss of power ends all processes and drops the renames that were not synced.
-/

namespace AegisOt

/-- The operations that raise nothing but an `OSError`. -/
inductive ReplayOperation where
  /-- `fcntl.flock(lock_fd, fcntl.LOCK_EX)`. -/
  | acquireLock
  /-- `os.open` and `os.fchmod` of the temporary file. -/
  | createTemporary
  /-- The writes up to `os.close`. -/
  | writeTemporary
  /-- `os.replace`. -/
  | replaceState (material : ByteArray)
  /-- `os.fsync(parent_fd)`. -/
  | syncParent
  /-- `os.close` of a descriptor that is still open, and `os.unlink`. -/
  | dropTemporary
  /-- `fcntl.flock(lock_fd, fcntl.LOCK_UN)`. -/
  | unlock
  /-- `os.close(lock_fd)`. -/
  | closeLock
  /-- `os.close(parent_fd)`. -/
  | closeParent
  deriving DecidableEq

/-- What an ingestion does to the directory. -/
inductive ReplayAct where
  /-- `_private_state_parent`, `os.open` and the comparison of the opened directory. -/
  | openParent
  /-- `_open_private_lock`. -/
  | openLock
  /-- `_read_replay_state` up to the bytes of the file, if there is one. -/
  | readState
  | operate (operation : ReplayOperation)
  /-- Nothing in the source: the attestation is now recorded for good. -/
  | accept (keyId : String) (entry : ConsumedEntry)
  deriving DecidableEq

/-- The answers. -/
def ReplayAct.Reply : ReplayAct → Type
  | .openParent => Except IngestError Unit
  | .openLock => Except IngestError Unit
  | .readState => Except IngestError (Option ByteArray)
  | .operate _ => Except String Unit
  | .accept _ _ => Unit

abbrev ReplayProgram (α : Type) := Program ReplayAct ReplayAct.Reply IngestError α

namespace ReplayProgram

open Program

def openParent : ReplayProgram Unit := do
  let reply : Except IngestError Unit ← call ReplayAct.openParent
  result reply

def openLock : ReplayProgram Unit := do
  let reply : Except IngestError Unit ← call ReplayAct.openLock
  result reply

def readState : ReplayProgram (Option ByteArray) := do
  let reply : Except IngestError (Option ByteArray) ← call ReplayAct.readState
  result reply

def operate (operation : ReplayOperation) : ReplayProgram Unit := do
  let reply : Except String Unit ← call (ReplayAct.operate operation)
  result (reply.mapError .os)

def accept (keyId : String) (entry : ConsumedEntry) : ReplayProgram Unit :=
  call (ReplayAct.accept keyId entry)

end ReplayProgram

open Program ReplayProgram

/-- What `_write_replay_state` raises for an `OSError`. -/
def commitFailure : String := "attestation replay-state cannot be committed atomically"

/-- The `except` clause of `_write_replay_state`. -/
def commitFailed : IngestError → IngestError
  | .os _ => .traceability commitFailure
  | error => error

/-- A call of `ingest_external_attestation`. -/
structure IngestRequest where
  material : ByteArray
  authority : TrustedAttestationAuthority
  context : AttestationContext
  now : DateTime

variable [TraceabilityPrimitives]

/-- The `try` statement of `_write_replay_state`. -/
def commitReplayState (material : ByteArray) (keyId : String) (entry : ConsumedEntry) :
    ReplayProgram Unit :=
  ensuring
    (catching (do
        operate .createTemporary
        operate .writeTemporary
        operate (.replaceState material)
        operate .syncParent
        accept keyId entry)
      (fun error => raise (commitFailed error)))
    (operate .dropTemporary)

/-- The `try` body of `ingest_external_attestation`. -/
def ingestUnderLock (authority : TrustedAttestationAuthority) (verified : VerifiedAttestation) :
    ReplayProgram Unit := do
  operate .acquireLock
  let found ← readState
  let state ← result (ReplayState.ofFile found)
  let next ← result (state.consume authority verified)
  let material ← result next.stage
  commitReplayState material authority.keyId verified.consumed

/-- The `finally` clause of `ingest_external_attestation`. -/
def releaseReplayLock : ReplayProgram Unit := do
  operate .unlock
  operate .closeLock
  operate .closeParent

/-- `ingest_external_attestation`. -/
def ingestExternalAttestation (request : IngestRequest) : ReplayProgram VerifiedAttestation := do
  let verified ← result (verifyExternalAttestationStateless request.material request.authority
    request.context request.now)
  openParent
  let opened ← attempt openLock
  match opened with
  | .error error => do
      operate .closeParent
      raise error
  | .ok _ => do
      ensuring (ingestUnderLock request.authority verified) releaseReplayLock
      pure { verified with
        replaySafeIngestionCompleted := true
        automaticRequirementAcceptance := false
        independentValidationEstablished := false }

/-! ## The shared directory -/

/-- An attestation that was accepted, with the process that did. -/
structure Acceptance (ι : Type) where
  process : ι
  keyId : String
  entry : ConsumedEntry

/-- The replay-state directory. -/
structure ReplayDirectory (ι : Type) where
  file : AtomicFile ByteArray
  /-- Who holds the lock. -/
  holder : Option ι
  /-- Whether the lock is held through the descriptor of the process's present call. -/
  locked : ι → Bool
  /-- What was accepted, oldest first. -/
  accepted : List (Acceptance ι)
  /-- How often a process replaced the state file. -/
  written : ι → Nat

namespace ReplayDirectory

variable {ι : Type}

/-- A directory that nobody uses. -/
def found (file : AtomicFile ByteArray) : ReplayDirectory ι :=
  ⟨file, none, fun _ => false, [], fun _ => 0⟩

/-- A loss of power drops renames that were not synced. -/
def PowerLoss (d d' : ReplayDirectory ι) : Prop :=
  ∃ count, d' =
    { d with file := d.file.powerLoss count, holder := none, locked := fun _ => false }

variable [DecidableEq ι]

/-- The process's present call gives up the lock, if it holds it. -/
def released (d : ReplayDirectory ι) (i : ι) : ReplayDirectory ι :=
  if d.holder = some i ∧ d.locked i = true then
    { d with holder := none, locked := Function.update d.locked i false }
  else d

/-- One operation of a process: what it may answer and leave. -/
def Operate (i : ι) (d : ReplayDirectory ι) :
    ReplayOperation → Except String Unit → ReplayDirectory ι → Prop
  | .acquireLock, .ok _, d' => d.holder = none ∧
      d' = { d with holder := some i, locked := Function.update d.locked i true }
  | .replaceState material, .ok _, d' =>
      d' = { d with
        file := d.file.replace material
        written := Function.update d.written i (d.written i + 1) }
  | .syncParent, .ok _, d' => d' = { d with file := d.file.sync }
  | .unlock, .ok _, d' => d' = d.released i
  | .closeLock, _, d' => d' = d.released i
  | _, _, d' => d' = d

/-- A new descriptor of the lock file holds no lock. -/
def OpenLock (i : ι) (d : ReplayDirectory ι) :
    Except IngestError Unit → ReplayDirectory ι → Prop
  | .ok _, d' => d' = { d with locked := Function.update d.locked i false }
  | .error _, d' => d' = d

/-- One action of a process. -/
def Perform (i : ι) (d : ReplayDirectory ι) :
    (action : ReplayAct) → action.Reply → ReplayDirectory ι → Prop
  | .openParent, _, d' => d' = d
  | .openLock, reply, d' => d.OpenLock i reply d'
  | .readState, reply, d' => d' = d ∧ ∀ bytes, reply = Except.ok bytes → bytes = d.file.visible
  | .operate operation, reply, d' => d.Operate i operation reply d'
  | .accept keyId entry, _, d' => d' = { d with accepted := d.accepted ++ [⟨i, keyId, entry⟩] }

/-- A process dies; its descriptors are closed. -/
def Crash (i : ι) (d d' : ReplayDirectory ι) : Prop :=
  d' = { d with
    holder := if d.holder = some i then none else d.holder
    locked := Function.update d.locked i false }

end ReplayDirectory

/-- Processes that ingest attestations over one directory. -/
def ingesting (ι : Type) [DecidableEq ι] : Interleaving.Processes ι (ReplayDirectory ι) ReplayAct
    ReplayAct.Reply IngestRequest IngestError VerifiedAttestation where
  program _ := ingestExternalAttestation
  perform := ReplayDirectory.Perform
  crash := ReplayDirectory.Crash

end AegisOt
