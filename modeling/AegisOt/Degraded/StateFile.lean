import AegisOt.Misc.Checks
import AegisOt.Misc.Interleaving

/-!
# The durable state file

`_DurableStateFile`: a directory that holds one state file, its stable lock and the temporary files
of the writes in progress. Every operation on the directory is an action of its own, and between two
of them the other processes act, or the process dies. The operations of the file system succeed;
only the lock may be refused. The model of the state is arbitrary.
-/

namespace AegisOt

/-- `model`: the bytes of a state, and how they are validated. -/
structure StateModel (State : Type) where
  /-- `_canonical_model_file_bytes`. -/
  fileBytes : State → ByteArray
  /-- `model_validate(_strict_json_loads(material))`. -/
  validate : ByteArray → Except String State
  validate_fileBytes : ∀ state, validate (fileBytes state) = .ok state
  size_pos : ∀ state, 1 ≤ (fileBytes state).size

/-- `MAX_STATE_BYTES`. -/
def maxDegradedStateBytes : Nat := 65536

/-- The argument of `mutate`. -/
abbrev Mutation (State Result : Type) := State → Except String (State × Result)

/-! ## The directory -/

/-- A temporary file: the token in its name, and what was written to it. -/
structure TemporaryFile where
  token : Nat
  content : ByteArray

/-- The directory with its lock, `_poisoned` of the instance that each process has, and the
    mutations whose states were put in place, oldest first. -/
structure StateDirectory (ι State Result : Type) where
  state : Option ByteArray
  lockFile : Bool
  temporaries : List TemporaryFile
  holder : Option ι
  instances : ι → Option Bool
  completed : List (Mutation State Result)

/-- An operation on the directory or on the instance. -/
inductive StateAct (State Result : Type) where
  | recallPoisoned
  | poison
  | createInstance
  | listEntries
  | openLock
  | acquireLock
  | readState
  | createTemporary
  | writeTemporary (token : Nat) (material : ByteArray)
  | replaceState (token : Nat) (mutation : Mutation State Result)
  | releaseLock

def StateAct.Reply {State Result : Type} : StateAct State Result → Type
  | .recallPoisoned => Option Bool
  | .listEntries => Bool
  | .openLock => Bool
  | .acquireLock => Bool
  | .readState => Option ByteArray
  | .createTemporary => Nat
  | _ => Unit

namespace StateDirectory

variable {ι State Result : Type}

/-- What `initialize` leaves. -/
def initialized (model : StateModel State) (initial : State) : StateDirectory ι State Result where
  state := some (model.fileBytes initial)
  lockFile := true
  temporaries := []
  holder := none
  instances _ := none
  completed := []

/-- The state file and the stable lock are the only entries. -/
def Expected (d : StateDirectory ι State Result) : Prop :=
  d.state.isSome = true ∧ d.lockFile = true ∧ d.temporaries.isEmpty = true

instance (d : StateDirectory ι State Result) : Decidable d.Expected := by
  unfold Expected; infer_instance

/-- A token that no temporary file has. -/
def freshToken : List TemporaryFile → Nat
  | [] => 0
  | file :: rest => max (file.token + 1) (freshToken rest)

theorem token_lt_freshToken {files : List TemporaryFile} {file : TemporaryFile}
    (h : file ∈ files) : file.token < freshToken files := by
  induction files with
  | nil => cases h
  | cons first rest ih =>
    unfold freshToken
    rcases List.mem_cons.mp h with rfl | hrest
    · omega
    · have := ih hrest
      omega

/-- The temporary file gets its content. -/
def written (d : StateDirectory ι State Result) (token : Nat) (material : ByteArray) :
    StateDirectory ι State Result :=
  { d with temporaries := d.temporaries.map (fun file =>
      if file.token = token then { file with content := material } else file) }

/-- `os.replace` of the temporary file over the state. -/
def replaced (d : StateDirectory ι State Result) (token : Nat)
    (mutation : Mutation State Result) : StateDirectory ι State Result :=
  match d.temporaries.find? (fun file => file.token = token) with
  | none => d
  | some file =>
      { d with
        state := some file.content
        temporaries := d.temporaries.filter (fun file => file.token ≠ token)
        completed := d.completed ++ [mutation] }

variable [DecidableEq ι]

/-- The lock of a process is released, if it holds it. -/
def released (d : StateDirectory ι State Result) (i : ι) : StateDirectory ι State Result :=
  if d.holder = some i then { d with holder := none } else d

/-- A process has an instance that is poisoned or not, or no instance. -/
def withInstance (d : StateDirectory ι State Result) (i : ι) (poisoned : Option Bool) :
    StateDirectory ι State Result :=
  { d with instances := Function.update d.instances i poisoned }

/-- What an operation of a process may answer and leave. -/
def Perform (i : ι) (d : StateDirectory ι State Result) :
    (action : StateAct State Result) → action.Reply → StateDirectory ι State Result → Prop
  | .recallPoisoned, reply, d' => d' = d ∧ reply = d.instances i
  | .poison, _, d' => d' = d.withInstance i (some true)
  | .createInstance, _, d' => d' = d.withInstance i (some false)
  | .listEntries, (expected : Bool), d' => d' = d ∧ (expected = true ↔ d.Expected)
  | .openLock, (opened : Bool), d' => d' = d ∧ opened = d.lockFile
  | .acquireLock, (acquired : Bool), d' =>
      acquired = true ∧ d.holder = none ∧ d' = { d with holder := some i } ∨
        acquired = false ∧ d' = d
  | .readState, reply, d' => d' = d ∧ reply = d.state
  | .createTemporary, (token : Nat), d' =>
      (∀ file ∈ d.temporaries, file.token ≠ token) ∧
        d' = { d with temporaries := ⟨token, .empty⟩ :: d.temporaries }
  | .writeTemporary token material, _, d' => d' = d.written token material
  | .replaceState token mutation, _, d' => d' = d.replaced token mutation
  | .releaseLock, _, d' => d' = d.released i

/-- A process dies: the system releases its lock, and its instance is gone. -/
def Crash (i : ι) (d d' : StateDirectory ι State Result) : Prop :=
  d' = (d.released i).withInstance i none

/-- What an operation answers when the lock is refused only while another process holds it. -/
def answer (i : ι) (d : StateDirectory ι State Result) :
    (action : StateAct State Result) → action.Reply × StateDirectory ι State Result
  | .recallPoisoned => (d.instances i, d)
  | .poison => ((), d.withInstance i (some true))
  | .createInstance => ((), d.withInstance i (some false))
  | .listEntries => (decide d.Expected, d)
  | .openLock => (d.lockFile, d)
  | .acquireLock =>
      if d.holder = none then (true, { d with holder := some i }) else (false, d)
  | .readState => (d.state, d)
  | .createTemporary =>
      (freshToken d.temporaries,
        { d with temporaries := ⟨freshToken d.temporaries, .empty⟩ :: d.temporaries })
  | .writeTemporary token material => ((), d.written token material)
  | .replaceState token mutation => ((), d.replaced token mutation)
  | .releaseLock => ((), d.released i)

theorem perform_answer (i : ι) (d : StateDirectory ι State Result)
    (action : StateAct State Result) :
    d.Perform i action (d.answer i action).1 (d.answer i action).2 := by
  cases action with
  | listEntries => exact ⟨rfl, decide_eq_true_iff⟩
  | acquireLock =>
    by_cases hfree : d.holder = none
    · have hanswer : d.answer i .acquireLock = (true, { d with holder := some i }) := if_pos hfree
      rw [hanswer]
      exact .inl ⟨rfl, hfree, rfl⟩
    · have hanswer : d.answer i .acquireLock = (false, d) := if_neg hfree
      rw [hanswer]
      exact .inr ⟨rfl, rfl⟩
  | createTemporary => exact ⟨fun file hfile => Nat.ne_of_lt (token_lt_freshToken hfile), rfl⟩
  | recallPoisoned => exact ⟨rfl, rfl⟩
  | openLock => exact ⟨rfl, rfl⟩
  | readState => exact ⟨rfl, rfl⟩
  | poison => rfl
  | createInstance => rfl
  | writeTemporary token material => rfl
  | replaceState token mutation => rfl
  | releaseLock => rfl

end StateDirectory

/-! ## The programs -/

/-- A call of an instance, as a process on its directory. -/
abbrev StateProgram (State Result α : Type) :=
  Program (StateAct State Result) StateAct.Reply String α

namespace StateProgram

variable {State Result : Type}

def recallPoisoned : StateProgram State Result (Option Bool) :=
  Program.call StateAct.recallPoisoned

/-- `self._poisoned = True`. -/
def poison : StateProgram State Result Unit := Program.call StateAct.poison

def createInstance : StateProgram State Result Unit := Program.call StateAct.createInstance

/-- `set(os.listdir(parent_fd)) == {self.path.name, self.lock_name}`. -/
def listEntries : StateProgram State Result Bool := Program.call StateAct.listEntries

/-- `_open_lock`. -/
def openLock : StateProgram State Result Bool := Program.call StateAct.openLock

/-- `_acquire`; `false` when the acquisition timed out. -/
def acquireLock : StateProgram State Result Bool := Program.call StateAct.acquireLock

def readState : StateProgram State Result (Option ByteArray) := Program.call StateAct.readState

def createTemporary : StateProgram State Result Nat := Program.call StateAct.createTemporary

def writeTemporary (token : Nat) (material : ByteArray) : StateProgram State Result Unit :=
  Program.call (StateAct.writeTemporary token material)

def replaceState (token : Nat) (mutation : Mutation State Result) :
    StateProgram State Result Unit :=
  Program.call (StateAct.replaceState token mutation)

def releaseLock : StateProgram State Result Unit := Program.call StateAct.releaseLock

/-- `self._poisoned = True; raise`. -/
def poisonAndRaise {α : Type} (error : String) : StateProgram State Result α := do
  poison
  Program.raise error

end StateProgram

namespace StateModel

open StateProgram

variable {State Result : Type} (model : StateModel State)

/-- The state fits into its file. -/
def Fits (state : State) : Prop := (model.fileBytes state).size ≤ maxDegradedStateBytes

instance (state : State) : Decidable (model.Fits state) := by
  unfold Fits; infer_instance

/-- `__init__`. -/
def construct : StateProgram State Result Unit := do
  let expected ← listEntries
  Program.require (expected = false)
    "degraded state and stable lock must be the only directory entries"
  createInstance

/-- `_read_locked`. -/
def readLocked : StateProgram State Result State := do
  let material ← readState
  match material with
  | none => poisonAndRaise "degraded state is missing or unavailable"
  | some material =>
      Program.require (¬ (1 ≤ material.size ∧ material.size ≤ maxDegradedStateBytes))
        "degraded state is outside its size limit"
      match model.validate material with
      | .error _ => poisonAndRaise "degraded state is invalid"
      | .ok state =>
          if material ≠ model.fileBytes state then
            poisonAndRaise "degraded state encoding is not canonical"
          else pure state

variable [DecidableEq State]

/-- `_write_locked`, for the mutation that led to the state. -/
def writeLocked (state : State) (mutation : Mutation State Result) :
    StateProgram State Result Unit := do
  Program.require (¬ model.Fits state) "degraded state exceeds its size limit"
  Program.catching
    (do
      let token ← createTemporary
      writeTemporary token (model.fileBytes state)
      replaceState token mutation
      let readback ← model.readLocked
      Program.require (readback ≠ state) "degraded state readback disagrees")
    poisonAndRaise

/-- What `mutate` does under the lock. -/
def mutateLocked (mutation : Mutation State Result) : StateProgram State Result Result := do
  let current ← model.readLocked
  let (updated, result) ← Program.result (mutation current)
  Program.runIf (updated ≠ current) (model.writeLocked updated mutation)
  pure result

/-- `mutate`. -/
def mutate (mutation : Mutation State Result) : StateProgram State Result Result := do
  let poisoned ← recallPoisoned
  Program.require (poisoned ≠ some false) "degraded state instance is poisoned"
  let expected ← listEntries
  if expected = false then poisonAndRaise "degraded state directory layout changed"
  else
    let opened ← openLock
    Program.require (opened = false) "degraded state stable lock is unavailable"
    let acquired ← acquireLock
    Program.require (acquired = false) "degraded state lock acquisition timed out"
    Program.ensuring (model.mutateLocked mutation) releaseLock

end StateModel

/-- What a process asks for: an instance, or a mutation by the one it has. -/
inductive StateRequest (State Result : Type) where
  | construct
  | mutate (mutation : Mutation State Result)

/-- The program of a request; a mutation returns its result. -/
def StateModel.program {State Result : Type} [DecidableEq State] (model : StateModel State) :
    StateRequest State Result → StateProgram State Result (Option Result)
  | .construct => do
      StateModel.construct
      pure none
  | .mutate mutation => do
      let result ← model.mutate mutation
      pure (some result)

end AegisOt
