import AegisOt.Misc.Program
import AegisOt.Runtime.VirtualPlc
import Mathlib.Logic.Relation

/-!
# The virtual PLC as a process

`_execute_locked` of `capability_plc.py` action by action: it reads the clock, the plant and the
ledger file, writes the ledger, and hands the command to the plant. The process can die between
any two actions; the ledger file and the plant survive it. `PlcSystem` is a PLC with its file and
its plant, over any number of calls and restarts.
-/

namespace AegisOt

/-- What `_execute_locked` does to its environment. -/
inductive PlcAct where
  | clock
  | readState
  /-- `_load` of the replay ledger. -/
  | loadLedger
  /-- `_persist` of the replay ledger. -/
  | persistLedger (reservations : ReplayReservations)
  | simulateCandidate (command : PhysicalControlCommand)
  | applyAuthorizedCommand (command : AuthorizedCommand)
  /-- The identifier of a new acknowledgment. -/
  | uuid

abbrev PlcAct.Reply : PlcAct → Type
  | .clock => Time
  | .readState => Except String PhysicalStateSnapshot
  | .loadLedger => Except LedgerError ReplayReservations
  | .persistLedger _ => Except LedgerError Unit
  | .simulateCandidate _ => Except String CandidateAssessment
  | .applyAuthorizedCommand _ => Except PlantError PhysicalStateSnapshot
  | .uuid => String

abbrev PlcProgram (α : Type) := Program PlcAct PlcAct.Reply PlcError α

namespace PlcProgram

/-- Perform one action. -/
def perform (action : PlcAct) : PlcProgram action.Reply := Program.call action

/-- The end of `reserve`, with the sets loaded. -/
def reserveIn (key : ReplayKey) (state : ReplayReservations) : PlcProgram (Option String) :=
  match state.replayReason key with
  | some reason => pure (some reason)
  | none => do
      match ← perform (.persistLedger (state.add key)) with
      | .error (.value reason) => pure (some reason)
      | .error (.other description) => Program.raise (.ledger (.other description))
      | .ok () => pure none

/-- `self.replay.reserve(...)`: the text of its `ValueError`, if it raised one. -/
def reserve (key : ReplayKey) : PlcProgram (Option String) := do
  match ← perform .loadLedger with
  | .error (.value reason) => pure (some reason)
  | .error (.other description) => Program.raise (.ledger (.other description))
  | .ok state => reserveIn key state

variable [Primitives]

open CapabilityVirtualPlc

/-- `_acknowledge`. -/
def acknowledge (plc : CapabilityVirtualPlc) (dispatch : SegmentedCapabilityDispatch)
    (d : Disposition) : PlcProgram PlcCommandAcknowledgment := do
  let acknowledgmentId ← perform .uuid
  Program.result (plc.acknowledge acknowledgmentId dispatch d)

/-- The `except PhysicalSimulationError` branch. -/
def acknowledgeRefusal (plc : CapabilityVirtualPlc) (dispatch : SegmentedCapabilityDispatch)
    (current : PhysicalStateSnapshot) (reason : String) :
    PlcProgram PlcCommandAcknowledgment := do
  let preState ←
    if reason ∈ PlcCommandAcknowledgment.casReasons then do
      let state ← perform .readState
      Program.result (state.mapError .plant)
    else pure current
  let acknowledgedAt ← perform .clock
  acknowledge plc dispatch ⟨.rejected, .knownNoEffect, reason, acknowledgedAt, preState, none⟩

/-- The plant is told to apply the command. -/
def applyCommand (plc : CapabilityVirtualPlc) (carriesDeadline : Bool)
    (dispatch : SegmentedCapabilityDispatch) (current : PhysicalStateSnapshot) :
    PlcProgram PlcCommandAcknowledgment := do
  let base := dispatch.permit.basePermit
  match ← perform (.applyAuthorizedCommand (authorizedCommand base carriesDeadline)) with
  | .error (.simulation reason) => acknowledgeRefusal plc dispatch current reason
  | .error (.other _) => do
      let acknowledgedAt ← perform .clock
      acknowledge plc dispatch ⟨.unknownEffect, .effectUnknown,
        "plant_dispatch_outcome_unavailable", acknowledgedAt, current, none⟩
  | .ok postState => do
      let acknowledgedAt ← perform .clock
      if diverges postState base then
        acknowledge plc dispatch ⟨.unknownEffect, .effectUnknown,
          "post_dispatch_candidate_divergence", acknowledgedAt, current, none⟩
      else
        acknowledge plc dispatch ⟨.applied, .committed, "command_applied_and_plc_read_back",
          acknowledgedAt, current, some postState⟩

/-- From the replay reservation on. -/
def reserveAndApply (plc : CapabilityVirtualPlc) (carriesDeadline : Bool)
    (dispatch : SegmentedCapabilityDispatch) (current : PhysicalStateSnapshot) :
    PlcProgram PlcCommandAcknowledgment := do
  match ← reserve (replayKey dispatch) with
  | some reason => do
      let acknowledgedAt ← perform .clock
      acknowledge plc dispatch (preDispatch reason acknowledgedAt current)
  | none => do
      let finalDispatchTime ← perform .clock
      if dispatch.permit.basePermit.expiresAt ≤ finalDispatchTime then
        acknowledge plc dispatch
          (preDispatch "permit_expired_after_replay_reservation" finalDispatchTime current)
      else applyCommand plc carriesDeadline dispatch current

/-- From the candidate check on. -/
def dispatchCandidate (plc : CapabilityVirtualPlc) (carriesDeadline : Bool)
    (dispatch : SegmentedCapabilityDispatch) (current : PhysicalStateSnapshot) :
    PlcProgram PlcCommandAcknowledgment := do
  let base := dispatch.permit.basePermit
  let assessment ← perform (.simulateCandidate base.command)
  let fresh ← Program.result (assessment.mapError .plant)
  -- Both branches read the clock next, for the acknowledgment or as the commit time.
  let commitTime ← perform .clock
  if attestationMismatch fresh dispatch.assessment then
    acknowledge plc dispatch (preDispatch "candidate_attestation_mismatch" commitTime current)
  else if base.expiresAt ≤ commitTime then
    acknowledge plc dispatch (preDispatch "permit_expired_before_dispatch" commitTime current)
  else reserveAndApply plc carriesDeadline dispatch current

/-- `_execute_locked`. -/
def executeLocked (plc : CapabilityVirtualPlc) (carriesDeadline : Bool)
    (dispatch : SegmentedCapabilityDispatch) : PlcProgram PlcCommandAcknowledgment := do
  let evaluatedAt ← perform .clock
  let state ← perform .readState
  let current ← Program.result (state.mapError .plant)
  let loaded ← perform .loadLedger
  let ledger ← Program.result (loaded.mapError .ledger)
  match ledger.replayReason (replayKey dispatch) with
  | some reason => acknowledge plc dispatch (preDispatch reason evaluatedAt current)
  | none =>
      match firstFailure (plc.checks dispatch evaluatedAt current) with
      | some reason => acknowledge plc dispatch (preDispatch reason evaluatedAt current)
      | none => dispatchCandidate plc carriesDeadline dispatch current

end PlcProgram

/-! ## The PLC, its ledger and its plant -/

/-- What survives the PLC process, and the history of the runs: `dispatched` are the transactions
    that reached the plant, `effects` the plant before and after each `apply` of the running
    call. -/
structure PlcState (P : Type) where
  file : ReplayReservations
  plant : P
  dispatched : List ReplayKey
  effects : List (P × P)

namespace PlcState

variable {P : Type}

/-- What one action of the call with this key can do. Every read may fail; a write of the ledger
    that raised may have reached the file; a plant that raises a `PhysicalSimulationError` has not
    changed. -/
def perform (key : ReplayKey) (s : PlcState P) :
    (action : PlcAct) → action.Reply → PlcState P → Prop
  | .clock, _, s' => s' = s
  | .readState, _, s' => s' = s
  | .loadLedger, reply, s' => s' = s ∧ ∀ loaded, reply = .ok loaded → loaded = s.file
  | .persistLedger reservations, reply, s' =>
      (s' = { s with file := reservations }) ∨ (s' = s ∧ reply ≠ .ok ())
  | .simulateCandidate _, _, s' => s' = s
  | .applyAuthorizedCommand _, reply, s' =>
      ∃ after, s' = { s with
          plant := after
          dispatched := key :: s.dispatched
          effects := (s.plant, after) :: s.effects } ∧
        ∀ reason, reply = .error (.simulation reason) → after = s.plant
  | .uuid, _, s' => s' = s

end PlcState

/-- A call that `execute` answered: its key, what was answered, and what it did to the plant. -/
structure PlcAnswer (P : Type) where
  key : ReplayKey
  result : Except PlcError PlcCommandAcknowledgment
  effects : List (P × P)

/-- A PLC process. Its lock lets one call run at a time. -/
structure PlcSystem (P : Type) where
  plc : CapabilityVirtualPlc
  state : PlcState P
  running : Option (ReplayKey × PlcProgram PlcCommandAcknowledgment)
  answered : List (PlcAnswer P)

section

variable [Primitives] {P : Type}

/-- One event: `execute` is called, the running call performs its next action or ends, the process
    dies and is started again with the ledger file it finds, or the plant changes by itself. -/
inductive PlcStep : PlcSystem P → PlcSystem P → Prop where
  | start (plc : CapabilityVirtualPlc) (s : PlcState P) (answered : List (PlcAnswer P))
      (carriesDeadline : Bool) (dispatch : SegmentedCapabilityDispatch) :
      PlcStep ⟨plc, s, none, answered⟩
        ⟨{ plc with executeRequests := plc.executeRequests + 1,
                    scanCounter := plc.scanCounter + 1 },
          { s with effects := [] },
          some (CapabilityVirtualPlc.replayKey dispatch, PlcProgram.executeLocked
            { plc with executeRequests := plc.executeRequests + 1,
                       scanCounter := plc.scanCounter + 1 } carriesDeadline dispatch),
          answered⟩
  | act (plc : CapabilityVirtualPlc) (s s' : PlcState P) (answered : List (PlcAnswer P))
      (key : ReplayKey) (action : PlcAct)
      (next : action.Reply → PlcProgram PlcCommandAcknowledgment) (reply : action.Reply)
      (hperform : s.perform key action reply s') :
      PlcStep ⟨plc, s, some (key, .act action next), answered⟩
        ⟨plc, s', some (key, next reply), answered⟩
  | finish (plc : CapabilityVirtualPlc) (s : PlcState P) (answered : List (PlcAnswer P))
      (key : ReplayKey) (result : Except PlcError PlcCommandAcknowledgment) :
      PlcStep ⟨plc, s, some (key, .done result), answered⟩
        ⟨plc, s, none, ⟨key, result, s.effects⟩ :: answered⟩
  | restart (sys : PlcSystem P) (plc : CapabilityVirtualPlc) :
      PlcStep sys ⟨plc, sys.state, none, sys.answered⟩
  | plantMoves (sys : PlcSystem P) (plant : P) :
      PlcStep sys { sys with state := { sys.state with plant := plant } }

/-- Any sequence of events. -/
abbrev PlcRun : PlcSystem P → PlcSystem P → Prop := Relation.ReflTransGen PlcStep

/-- A PLC that has not been called yet, with whatever its ledger file holds. -/
def PlcSystem.Initial (sys : PlcSystem P) : Prop :=
  sys.state.dispatched = [] ∧ sys.running = none ∧ sys.answered = []

end

end AegisOt
