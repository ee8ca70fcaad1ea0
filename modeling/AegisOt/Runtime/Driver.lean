import AegisOt.Coordination.Sample
import AegisOt.Runtime.OtRuntime

/-!
# A scripted environment for the OT runtime

An environment that answers every action by a script makes a handler a function of the state,
so runs can be evaluated. `OtSystem.serve` is one request handled to its end; it is a run of
the system, whatever the script says.
-/

namespace AegisOt

open Program

variable [Primitives] [RecordCodec]

/-- What the operation returns, with the journal it leaves behind. -/
def EffectOp.exec : (op : EffectOp) → Journal .effectCoordinator → OpEnv →
    Except PyError op.Result × Journal .effectCoordinator
  | .prepareEffect request issue recordedAt, j, env =>
      j.carryOut (j.guarded (j.prepareEffect request issue recordedAt env.now)) env.writes.1
  | .beginCommit request issue recordedAt, j, env =>
      j.beginCommit request issue recordedAt env.now env.writes.1
  | .finishCommit request outcome recordedAt, j, env =>
      j.carryOut (j.guarded (j.finishCommitRecord request outcome recordedAt env.now))
        env.writes.1
  | .markCommitUnknown request reason evidence recordedAt, j, env =>
      j.carryOut (j.guarded (j.markCommitUnknownRecord request reason evidence recordedAt
        env.now)) env.writes.1
  | .retainQueryOutcome request outcome recordedAt, j, env =>
      j.completeQuery request outcome recordedAt env.now true env.writes
  | .answerQuery request issue recordedAt, j, env =>
      j.answerQuery request issue recordedAt env.now env.writes

theorem EffectOp.run_eq_exec (op : EffectOp) (j : Journal .effectCoordinator) (env : OpEnv) :
    op.run j env = mapReply op.reply (op.exec j env) := by
  cases op <;> rfl

/-- The answers of the environment; clock and plant depend on how many actions were
    performed. -/
structure OtEnvironment where
  clock : Nat → Time
  trust : TrustView
  admitted : Bool
  plant : Nat → Option PlantHealthMetadata
  acknowledgment : Option PlcCommandAcknowledgment
  hookReturns : Bool
  writes : WriteResult × WriteResult

/-- The reply to the `n`-th action and the state after it. -/
def OtState.react (env : OtEnvironment) (n : Nat) (s : OtState) :
    (action : OtAct) → action.Reply × OtState
  | .clock => (env.clock n, s)
  | .trust => (env.trust, s)
  | .admission _ _ _ _ => (env.admitted, s)
  | .plant => (env.plant n, s)
  | .marker => (s.marker, s)
  | .setMarker marker => ((), { s with marker := marker })
  | .records => (s.journal.listRecords, s)
  | .pending => (s.journal.pending, s)
  | .get effect => (s.journal.get (.identity effect), s)
  | .journal op =>
      let result := op.exec s.journal ⟨env.clock n, env.writes⟩
      (result.1, { s with journal := result.2 })
  | .execute request => (env.acknowledgment, { s with executed := request :: s.executed })
  | .terminalHook => (env.hookReturns, s)

theorem OtState.perform_react (env : OtEnvironment) (n : Nat) (s : OtState) (action : OtAct) :
    s.perform action (s.react env n action).1 (s.react env n action).2 := by
  cases action with
  | journal op =>
    refine ⟨⟨env.clock n, env.writes⟩, ?_, ?_⟩
    · rw [op.run_eq_exec]
      rfl
    · rw [op.run_eq_exec]
      rfl
  | marker | records | pending | get => exact ⟨rfl, rfl⟩
  | clock | trust | admission | plant | setMarker | execute | terminalHook => rfl

/-- Run a program to its end. -/
def OtProgram.runWith {α : Type} (env : OtEnvironment) :
    OtProgram α → Nat → OtState → Except RuntimeError α × OtState
  | .done result, _, s => (result, s)
  | .act action next, n, s =>
      let reaction := s.react env n action
      OtProgram.runWith env (next reaction.1) (n + 1) reaction.2

theorem OtProgram.run_runWith (env : OtEnvironment) (config : OtConfig)
    (p : OtProgram OtReply) (n : Nat) (s : OtState) :
    OtRun ⟨config, s, some p⟩
      ⟨config, (runWith env p n s).2, some (.done (runWith env p n s).1)⟩ := by
  induction p generalizing n s with
  | done result => exact .refl
  | act action next ih =>
    exact .head (.act config s _ action next _ (s.perform_react env n action)) (ih _ _ _)

/-- What a program performs on its way to its end. -/
def OtProgram.traceWith {α : Type} (env : OtEnvironment) :
    OtProgram α → Nat → OtState → List (Event OtAct OtAct.Reply)
  | .done _, _, _ => []
  | .act action next, n, s =>
      let reaction := s.react env n action
      ⟨action, reaction.1⟩ :: OtProgram.traceWith env (next reaction.1) (n + 1) reaction.2

/-- Perform a number of actions of a program. -/
def OtProgram.runFor {α : Type} (env : OtEnvironment) :
    Nat → OtProgram α → Nat → OtState → OtProgram α × OtState
  | 0, p, _, s => (p, s)
  | _ + 1, .done result, _, s => (.done result, s)
  | count + 1, .act action next, n, s =>
      let reaction := s.react env n action
      OtProgram.runFor env count (next reaction.1) (n + 1) reaction.2

theorem OtProgram.run_runFor (env : OtEnvironment) (config : OtConfig) (count : Nat)
    (p : OtProgram OtReply) (n : Nat) (s : OtState) :
    OtRun ⟨config, s, some p⟩
      ⟨config, (runFor env count p n s).2, some (runFor env count p n s).1⟩ := by
  induction count generalizing p n s with
  | zero => exact .refl
  | succ count ih =>
    cases p with
    | done result => exact .refl
    | act action next =>
      exact .head (.act config s _ action next _ (s.perform_react env n action)) (ih _ _ _)

/-- Start to handle a request and stop after a number of actions. -/
def OtSystem.serveFor (env : OtEnvironment) (count : Nat) (sys : OtSystem) (request : OtRequest) :
    OtSystem :=
  let result := OtProgram.runFor env count (request.handle sys.config) 0 sys.state
  ⟨sys.config, result.2, some result.1⟩

theorem OtSystem.run_serveFor (env : OtEnvironment) (count : Nat) {sys : OtSystem}
    (request : OtRequest) (hidle : sys.running = none) :
    OtRun sys (sys.serveFor env count request) := by
  obtain ⟨config, s, running⟩ := sys
  obtain rfl : running = none := hidle
  exact .head (.start config s request) (OtProgram.run_runFor env config count _ 0 s)

/-- The commit on which a running handler is about to call the device. -/
def OtSystem.executing (sys : OtSystem) : Option SignedEffectCommitRequest :=
  match sys.running with
  | some (.act (.execute request) _) => some request
  | _ => none

omit [RecordCodec] in
theorem OtSystem.running_of_executing {sys : OtSystem} {request : SignedEffectCommitRequest}
    (h : sys.executing = some request) :
    ∃ next, sys.running = some (.act (.execute request) next) := by
  unfold OtSystem.executing at h
  split at h
  · rename_i next hrunning
    obtain rfl := Option.some.inj h
    exact ⟨next, hrunning⟩
  · cases h

/-- Handle one request to its end. -/
def OtSystem.serve (env : OtEnvironment) (sys : OtSystem) (request : OtRequest) : OtSystem :=
  let result := OtProgram.runWith env (request.handle sys.config) 0 sys.state
  ⟨sys.config, result.2.answer result.1, none⟩

theorem OtSystem.run_serve (env : OtEnvironment) {sys : OtSystem} (request : OtRequest)
    (hidle : sys.running = none) : OtRun sys (sys.serve env request) := by
  obtain ⟨config, s, running⟩ := sys
  obtain rfl : running = none := hidle
  refine .head (.start config s request) ?_
  exact .tail (OtProgram.run_runWith env config _ 0 s) (.finish config _ _)

/-- Handle requests one after the other. -/
def OtSystem.serveAll (sys : OtSystem) : List (OtEnvironment × OtRequest) → OtSystem
  | [] => sys
  | (env, request) :: rest => (sys.serve env request).serveAll rest

theorem OtSystem.run_serveAll {sys : OtSystem} (requests : List (OtEnvironment × OtRequest))
    (hidle : sys.running = none) : OtRun sys (sys.serveAll requests) := by
  induction requests generalizing sys with
  | nil => exact .refl
  | cons head rest ih =>
    exact (OtSystem.run_serve head.1 head.2 hidle).trans (@ih (sys.serve head.1 head.2) rfl)

end AegisOt

namespace AegisOt.Sample

/-! ## The sample plant and coordinator -/

def plantAt (version : Nat) : PlantHealthMetadata :=
  { bootEpoch := "plant-boot-epoch"
    keyId := "plant-key"
    publicKey := "plant-key"
    backend := "pandapower"
    modelDigest := sha 1
    simulatorVersion := "1.0"
    observationSourceId := "observer"
    stateVersion := version
    stateDigest := sha (1000 + version) }

def coordinatorSigner : WorkloadSigner := ⟨coordinatorCredential, "coordinator-key"⟩

def otConfig : OtConfig :=
  { observerInfo := ⟨"observer-key", "observer", "observer-key", "observer-boot-epoch"⟩
    permitPublicKey := "permit-key"
    permitKeyId := "permit-key"
    keyId := "coordinator-key"
    publicKey := "coordinator-key"
    plcId := "plc-1"
    bootEpoch := "plc-boot-epoch-01"
    plantInfo := plantAt 0
    gatewayWorkloadIdentity :=
      ⟨verifier, .gateway, effectCoordinatorAudience, "gateway", none⟩
    localWorkloadIdentity :=
      ⟨⟨verifier, .otAdapter, gatewayCoordinationAudience, "coordinator", none⟩,
        coordinatorSigner⟩
    coordinationRequired := true
    coordinationAnchorRequired := false }

/-- The environment of a calm process at one instant. -/
def calmAt (now : Time) (acknowledgment : Option PlcCommandAcknowledgment) : OtEnvironment :=
  { clock := fun _ => now
    trust := ⟨fun _ => some ⟨1, []⟩, .ok gatewayCredential, .ok coordinatorCredential⟩
    admitted := true
    plant := fun _ => some (plantAt 0)
    acknowledgment := acknowledgment
    hookReturns := true
    writes := (.written, .written) }

/-- An OT process that was just initialized. -/
def otSystem : OtSystem := ⟨otConfig, ⟨effectJournal, none, [], []⟩, none⟩

theorem initial_otSystem : otSystem.Initial :=
  ⟨⟨"coordinator", .written, by decide +kernel⟩, rfl, rfl, rfl, rfl⟩

/-- The effect is prepared at time 1. -/
def otPreparing : List (OtEnvironment × OtRequest) := [(calmAt 1 none, .prepare samplePrepare)]

/-- Its commit arrives twice at time 3; the device gives no acknowledgment. -/
def otCommitting : List (OtEnvironment × OtRequest) :=
  otPreparing ++ [(calmAt 3 none, .commit sampleCommit), (calmAt 3 none, .commit sampleCommit)]

/-- The prepared effect is queried, and the commit arrives after the answer. -/
def otQuerying : List (OtEnvironment × OtRequest) :=
  otPreparing ++ [(calmAt 3 none, .query sampleQuery)]

end AegisOt.Sample
