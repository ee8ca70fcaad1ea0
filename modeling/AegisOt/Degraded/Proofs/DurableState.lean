import AegisOt.Degraded.StateFile
import Mathlib.Data.List.Infix

/-!
# Runs over the durable state file

Processes construct instances, mutate the state and die. While nobody lists the directory during a
write and nobody dies in one (`Undisturbed`), the state file always holds what the completed
mutations lead to one after another, no instance is poisoned, and whoever is left can go on. A
temporary file that is listed or left behind ends that.
-/

namespace AegisOt

open StateProgram

/-- The state that mutations lead to, one after another. -/
def replay {State Result : Type} (start : State) :
    List (Mutation State Result) → Except String State
  | [] => .ok start
  | mutation :: rest => do
      let (next, _) ← mutation start
      replay next rest

theorem replay_concat {State Result : Type} {start state updated : State} {result : Result}
    {mutation : Mutation State Result} {completed : List (Mutation State Result)}
    (h : replay start completed = .ok state) (hmutation : mutation state = .ok (updated, result)) :
    replay start (completed ++ [mutation]) = .ok updated := by
  induction completed generalizing start with
  | nil =>
    obtain rfl := Except.ok.inj h
    simp [replay, hmutation]
  | cons first rest ih =>
    unfold replay at h
    obtain ⟨⟨next, _⟩, hfirst, hrest⟩ := bind_eq_ok.mp h
    rw [List.cons_append, replay, hfirst]
    exact ih hrest

section

variable {ι State Result : Type}

namespace StateDirectory

/-- The state file holds what the completed mutations lead to, no instance is poisoned, and a
    temporary file belongs to the holder of the lock. -/
structure Intact (model : StateModel State) (initial : State)
    (d : StateDirectory ι State Result) : Prop where
  state : ∃ state, replay initial d.completed = .ok state ∧
    d.state = some (model.fileBytes state) ∧ model.Fits state
  lockFile : d.lockFile = true
  unpoisoned : ∀ i, d.instances i ≠ some true
  temporaries : d.holder = none → d.temporaries = []

theorem intact_initialized {model : StateModel State} {initial : State} (h : model.Fits initial) :
    (initialized model initial : StateDirectory ι State Result).Intact model initial where
  state := ⟨initial, rfl, rfl, h⟩
  lockFile := rfl
  unpoisoned := by nofun
  temporaries _ := rfl

/-- An intact directory without a temporary file has the expected entries. -/
theorem Intact.expected {model : StateModel State} {initial : State}
    {d : StateDirectory ι State Result} (h : d.Intact model initial) (hquiet : d.temporaries = []) :
    d.Expected := by
  obtain ⟨state, -, hstate, -⟩ := h.state
  exact ⟨by rw [hstate]; rfl, h.lockFile, by rw [hquiet]; rfl⟩

/-- What a process can count on: its lock, and everything else while it holds it. -/
structure Rely (i : ι) (d d' : StateDirectory ι State Result) : Prop where
  holder : d'.holder = some i ↔ d.holder = some i
  held : d.holder = some i →
    d'.state = d.state ∧ d'.temporaries = d.temporaries ∧ d'.completed = d.completed
  completed : d.completed <+: d'.completed

theorem Rely.refl (i : ι) (d : StateDirectory ι State Result) : d.Rely i d :=
  ⟨Iff.rfl, fun _ => ⟨rfl, rfl, rfl⟩, List.prefix_refl _⟩

theorem Rely.trans {i : ι} {d d₁ d₂ : StateDirectory ι State Result} (h : d.Rely i d₁)
    (h' : d₁.Rely i d₂) : d.Rely i d₂ where
  holder := h'.holder.trans h.holder
  held hheld := by
    obtain ⟨hstate, htemporaries, hcompleted⟩ := h.held hheld
    obtain ⟨hstate', htemporaries', hcompleted'⟩ := h'.held (h.holder.mpr hheld)
    exact ⟨hstate'.trans hstate, htemporaries'.trans htemporaries, hcompleted'.trans hcompleted⟩
  completed := h.completed.trans h'.completed

/-- The process holds the lock over these temporary files, completed mutations and state. -/
structure Holds (model : StateModel State) (i : ι) (files : List TemporaryFile)
    (completed : List (Mutation State Result)) (state : State)
    (d : StateDirectory ι State Result) : Prop where
  holder : d.holder = some i
  temporaries : d.temporaries = files
  completed : d.completed = completed
  state : d.state = some (model.fileBytes state)

theorem Holds.rely {model : StateModel State} {i : ι} {files : List TemporaryFile}
    {completed : List (Mutation State Result)} {state : State}
    {d d' : StateDirectory ι State Result} (h : d.Holds model i files completed state)
    (hrely : d.Rely i d') : d'.Holds model i files completed state := by
  obtain ⟨hstate, htemporaries, hcompleted⟩ := hrely.held h.holder
  exact ⟨hrely.holder.mpr h.holder, htemporaries.trans h.temporaries,
    hcompleted.trans h.completed, hstate.trans h.state⟩

/-- What a process may do: it writes under the lock, puts in place what its mutation leads to, and
    never poisons its instance. -/
def Allowed (model : StateModel State) (i : ι) (d : StateDirectory ι State Result) :
    StateAct State Result → Prop
  | .poison => False
  | .createTemporary => d.holder = some i
  | .writeTemporary _ _ => d.holder = some i
  | .replaceState token mutation => ∃ completed state updated result,
      d.Holds model i [⟨token, model.fileBytes updated⟩] completed state ∧
        mutation state = .ok (updated, result) ∧ model.Fits updated
  | .releaseLock => d.holder = some i ∧ d.temporaries = []
  | _ => True

/-- Nobody lists the directory while it has a temporary file. -/
def Undisturbed (d : StateDirectory ι State Result) : StateAct State Result → Prop
  | .listEntries => d.temporaries = []
  | _ => True

variable [DecidableEq ι]

/-! ## Steps -/

theorem released_holder (d : StateDirectory ι State Result) (i : ι) :
    (d.released i).holder ≠ some i := by
  unfold released
  split
  · nofun
  · rename_i hother
    exact hother

theorem Intact.released {model : StateModel State} {initial : State}
    {d : StateDirectory ι State Result} (h : d.Intact model initial) {i : ι}
    (hwritten : d.holder = some i → d.temporaries = []) : (d.released i).Intact model initial := by
  unfold StateDirectory.released
  split
  · rename_i hheld
    exact ⟨h.state, h.lockFile, h.unpoisoned, fun _ => hwritten hheld⟩
  · exact h

theorem released_completed (d : StateDirectory ι State Result) (i : ι) :
    (d.released i).completed = d.completed := by
  unfold released
  split <;> rfl

theorem rely_released (d : StateDirectory ι State Result) {i j : ι} (hj : j ≠ i) :
    d.Rely j (d.released i) := by
  unfold released
  split
  · rename_i hheld
    refine ⟨?_, ?_, List.prefix_refl _⟩
    · simp [hheld, Ne.symm hj]
    · intro hother
      exact absurd (Option.some.inj (hheld.symm.trans hother)).symm hj
  · exact .refl j d

omit [DecidableEq ι] in
/-- What the holder of the lock does is nothing that another process counts on. -/
theorem rely_of_holder {d d' : StateDirectory ι State Result} {i j : ι} (hj : j ≠ i)
    (hheld : d.holder = some i) (hholder : d'.holder = d.holder)
    (hcompleted : d.completed <+: d'.completed) : d.Rely j d' where
  holder := by rw [hholder]
  held hother := absurd (Option.some.inj (hheld.symm.trans hother)).symm hj
  completed := hcompleted

theorem Intact.withInstance {model : StateModel State} {initial : State}
    {d : StateDirectory ι State Result} (h : d.Intact model initial) (i : ι)
    {poisoned : Option Bool} (hpoisoned : poisoned ≠ some true) :
    (d.withInstance i poisoned).Intact model initial := by
  refine ⟨h.state, h.lockFile, ?_, h.temporaries⟩
  intro j
  by_cases hj : j = i
  · subst hj
    simpa [StateDirectory.withInstance] using hpoisoned
  · simpa [StateDirectory.withInstance, hj] using h.unpoisoned j

theorem rely_withInstance (d : StateDirectory ι State Result) (i j : ι)
    (poisoned : Option Bool) : d.Rely j (d.withInstance i poisoned) :=
  ⟨Iff.rfl, fun _ => ⟨rfl, rfl, rfl⟩, List.prefix_refl _⟩

omit [DecidableEq ι] in
/-- `os.replace` of the one temporary file. -/
theorem replaced_single {d : StateDirectory ι State Result} {token : Nat} {content : ByteArray}
    (h : d.temporaries = [⟨token, content⟩]) (mutation : Mutation State Result) :
    d.replaced token mutation =
      { d with
        state := some content
        temporaries := []
        completed := d.completed ++ [mutation] } := by
  simp [replaced, h]

/-- An allowed step keeps the directory intact, and the others can go on counting on it. -/
theorem Intact.act {model : StateModel State} {initial : State}
    {d d' : StateDirectory ι State Result} (h : d.Intact model initial) {i : ι}
    {action : StateAct State Result} {reply : action.Reply} (hallowed : d.Allowed model i action)
    (hperform : d.Perform i action reply d') :
    d'.Intact model initial ∧ d.completed <+: d'.completed ∧ ∀ j, j ≠ i → d.Rely j d' := by
  have hsame (hsame : d' = d) :
      d'.Intact model initial ∧ d.completed <+: d'.completed ∧ ∀ j, j ≠ i → d.Rely j d' := by
    rw [hsame]
    exact ⟨h, List.prefix_refl _, fun j _ => .refl j d⟩
  cases action with
  | recallPoisoned => exact hsame hperform.1
  | listEntries => exact hsame hperform.1
  | openLock => exact hsame hperform.1
  | readState => exact hsame hperform.1
  | poison => exact hallowed.elim
  | createInstance =>
    obtain rfl : d' = d.withInstance i (some false) := hperform
    exact ⟨h.withInstance i (by simp), List.prefix_refl _, fun j _ => rely_withInstance d i j _⟩
  | acquireLock =>
    rcases hperform with ⟨-, hfree, rfl⟩ | ⟨-, hsame'⟩
    · refine ⟨⟨h.state, h.lockFile, h.unpoisoned, by nofun⟩, List.prefix_refl _, ?_⟩
      intro j hj
      refine ⟨?_, ?_, List.prefix_refl _⟩
      · simp [hfree, Ne.symm hj]
      · intro hother
        rw [hfree] at hother
        cases hother
    · exact hsame hsame'
  | createTemporary =>
    obtain ⟨-, rfl⟩ := hperform
    have hheld : d.holder = some i := hallowed
    refine ⟨⟨h.state, h.lockFile, h.unpoisoned, ?_⟩, List.prefix_refl _, ?_⟩
    · intro hfree
      have hfree : d.holder = none := hfree
      rw [hheld] at hfree
      cases hfree
    · intro j hj
      exact rely_of_holder hj hheld rfl (List.prefix_refl _)
  | writeTemporary token material =>
    obtain rfl : d' = d.written token material := hperform
    have hheld : d.holder = some i := hallowed
    refine ⟨⟨h.state, h.lockFile, h.unpoisoned, ?_⟩, List.prefix_refl _, ?_⟩
    · intro hfree
      have hfree : d.holder = none := hfree
      rw [hheld] at hfree
      cases hfree
    · intro j hj
      exact rely_of_holder hj hheld rfl (List.prefix_refl _)
  | replaceState token mutation =>
    obtain rfl : d' = d.replaced token mutation := hperform
    obtain ⟨completed, state, updated, result, hholds, hmutation, hfits⟩ := hallowed
    rw [replaced_single hholds.temporaries]
    refine ⟨⟨?_, h.lockFile, h.unpoisoned, fun _ => rfl⟩, List.prefix_append _ _, ?_⟩
    · obtain ⟨state', hreplay, hstate, -⟩ := h.state
      have hsame : state' = state := by
        have hbytes := Option.some.inj (hstate.symm.trans hholds.state)
        have hvalid := model.validate_fileBytes state'
        rw [hbytes, model.validate_fileBytes] at hvalid
        exact (Except.ok.inj hvalid).symm
      rw [hsame] at hreplay
      exact ⟨updated, replay_concat hreplay hmutation, rfl, hfits⟩
    · intro j hj
      exact rely_of_holder hj hholds.holder rfl (List.prefix_append _ _)
  | releaseLock =>
    obtain rfl : d' = d.released i := hperform
    refine ⟨h.released (fun _ => hallowed.2), ?_, fun j hj => rely_released d hj⟩
    rw [released_completed]

end StateDirectory

open StateDirectory

/-! ## The processes -/

variable [DecidableEq ι] [DecidableEq State]

/-- Any number of processes, each with one instance at a time. -/
def stateProcesses (ι Result : Type) [DecidableEq ι] (model : StateModel State) :
    Interleaving.Processes ι (StateDirectory ι State Result) (StateAct State Result)
      StateAct.Reply (StateRequest State Result) String (Option Result) where
  program _ request := model.program request
  perform i d := d.Perform i
  crash i d d' := Crash i d d'

/-- The same processes, when nobody lists the directory during a write and nobody dies in one. -/
def undisturbedProcesses (ι Result : Type) [DecidableEq ι] (model : StateModel State) :
    Interleaving.Processes ι (StateDirectory ι State Result) (StateAct State Result)
      StateAct.Reply (StateRequest State Result) String (Option Result) where
  program _ request := model.program request
  perform i d action reply d' := d.Perform i action reply d' ∧ d.Undisturbed action
  crash i d d' := Crash i d d' ∧ (d.holder = some i → d.temporaries = [])

/-- A mutation returned this: it was applied to the state that a beginning of the completed
    mutations leads to, and left it as it was or was completed next. -/
def Serialized (initial : State) (mutation : Mutation State Result) (result : Result)
    (d : StateDirectory ι State Result) : Prop :=
  ∃ before state updated, replay initial before = .ok state ∧
    mutation state = .ok (updated, result) ∧ before <+: d.completed ∧
      (updated = state ∨ before ++ [mutation] <+: d.completed)

omit [DecidableEq ι] [DecidableEq State] in
theorem Serialized.mono {initial : State} {mutation : Mutation State Result} {result : Result}
    {d d' : StateDirectory ι State Result} (h : Serialized initial mutation result d)
    (hcompleted : d.completed <+: d'.completed) : Serialized initial mutation result d' := by
  obtain ⟨before, state, updated, hreplay, hmutation, hbefore, hupdated⟩ := h
  exact ⟨before, state, updated, hreplay, hmutation, hbefore.trans hcompleted,
    hupdated.imp_right (fun h => h.trans hcompleted)⟩

/-- What is promised for the processes. -/
def stateDiscipline (ι Result : Type) (model : StateModel State) (initial : State) :
    Interleaving.Discipline ι (StateDirectory ι State Result) (StateAct State Result)
      (StateRequest State Result) String (Option Result) where
  invariant d := d.Intact model initial
  advances d d' := d.completed <+: d'.completed
  rely i d d' := d.Rely i d'
  allowed i d action := d.Allowed model i action
  idle i d := d.holder ≠ some i
  post i request _ result d := d.holder ≠ some i ∧ ∀ mutation r, request = .mutate mutation →
    result = .ok (some r) → Serialized initial mutation r d

/-! ## Reading and writing under the lock -/

section Locked

variable {model : StateModel State} {initial : State} {i : ι} {files : List TemporaryFile}
  {completed : List (Mutation State Result)} {state updated : State} {result : Result}
  {mutation : Mutation State Result} {d : StateDirectory ι State Result}

/-- The contract of a process. -/
abbrev stateContract (ι Result : Type) [DecidableEq ι] (model : StateModel State) (initial : State)
    (i : ι) : Program.Contract (StateDirectory ι State Result) (StateAct State Result)
      StateAct.Reply :=
  (stateDiscipline ι Result model initial).contract (undisturbedProcesses ι Result model) i

theorem guarded_readLocked (hd : d.Holds model i files completed state)
    (hfits : model.Fits state) :
    (model.readLocked : StateProgram State Result State).Guarded
      (stateContract ι Result model initial i)
      (fun read d => read = .ok state ∧ d.Holds model i files completed state) d := by
  intro d₁ hrely _
  have hholds := hd.rely hrely
  refine ⟨trivial, ?_⟩
  rintro reply d' ⟨⟨rfl, hreply⟩, -⟩ _
  obtain rfl : reply = some (model.fileBytes state) := hreply.trans hholds.state
  have hsize : ¬ ¬ (1 ≤ (model.fileBytes state).size ∧
      (model.fileBytes state).size ≤ maxDegradedStateBytes) :=
    not_not.mpr ⟨model.size_pos state, hfits⟩
  change Program.Guarded _ _ (Program.require _ _ >>= fun _ => _) _
  rw [Program.require, if_neg hsize, Program.guarded_bind]
  rw [Program.guarded_pure, Program.Then, model.validate_fileBytes]
  dsimp only
  rw [if_neg (not_not.mpr rfl)]
  exact ⟨rfl, hholds⟩

/-- The state is put in place, and the mutation is completed. -/
theorem guarded_writeLocked (hd : d.Holds model i [] completed state)
    (hmutation : mutation state = .ok (updated, result)) :
    (model.writeLocked updated mutation).Guarded (stateContract ι Result model initial i)
      (fun written d => written = .ok () ∧ d.Holds model i [] (completed ++ [mutation]) updated ∨
        (∃ error, written = .error error) ∧ d.Holds model i [] completed state) d := by
  unfold StateModel.writeLocked
  by_cases hfits : model.Fits updated
  swap
  · rw [Program.require, if_pos hfits]
    exact .inr ⟨⟨_, rfl⟩, hd⟩
  rw [Program.require, if_neg (not_not.mpr hfits)]
  change Program.Guarded _ _ (Program.catching _ _) _
  rw [Program.guarded_catching]
  -- The temporary file is created, written and renamed over the state.
  intro d₁ hrely₁ _
  have hholds₁ := hd.rely hrely₁
  refine ⟨hholds₁.holder, ?_⟩
  rintro (token : Nat) d₂ ⟨⟨-, rfl⟩, -⟩ _
  have hholds₂ : Holds model i [⟨token, .empty⟩] completed state
      { d₁ with temporaries := ⟨token, .empty⟩ :: d₁.temporaries } :=
    ⟨hholds₁.holder, congrArg _ hholds₁.temporaries, hholds₁.completed, hholds₁.state⟩
  intro d₃ hrely₃ _
  have hholds₃ := hholds₂.rely hrely₃
  refine ⟨hholds₃.holder, ?_⟩
  rintro _ d₄ ⟨hwritten, -⟩ _
  have hholds₄ : Holds model i [⟨token, model.fileBytes updated⟩] completed state d₄ := by
    obtain rfl : d₄ = d₃.written token (model.fileBytes updated) := hwritten
    refine ⟨hholds₃.holder, ?_, hholds₃.completed, hholds₃.state⟩
    simp [written, hholds₃.temporaries]
  intro d₅ hrely₅ _
  have hholds₅ := hholds₄.rely hrely₅
  refine ⟨⟨completed, state, updated, result, hholds₅, hmutation, hfits⟩, ?_⟩
  rintro _ d₆ ⟨hreplaced, -⟩ _
  have hholds₆ : Holds model i [] (completed ++ [mutation]) updated d₆ := by
    obtain rfl : d₆ = d₅.replaced token mutation := hreplaced
    rw [replaced_single hholds₅.temporaries]
    exact ⟨hholds₅.holder, rfl, congrArg (fun log => log ++ [mutation]) hholds₅.completed, rfl⟩
  -- The state is read back.
  apply Program.guarded_seq (guarded_readLocked hholds₆ hfits)
  · rintro read d₇ ⟨hread, hholds₇⟩
    obtain rfl := Except.ok.inj hread
    rw [Program.require, if_neg (not_not.mpr rfl)]
    exact .inl ⟨rfl, hholds₇⟩
  · rintro error d₇ ⟨hread, -⟩
    cases hread

/-- What a mutation does under the lock. -/
theorem guarded_mutateLocked (hd : d.Holds model i [] completed state)
    (hreplay : replay initial completed = .ok state) (hfits : model.Fits state) :
    (model.mutateLocked mutation).Guarded (stateContract ι Result model initial i)
      (fun returned d => d.holder = some i ∧ d.temporaries = [] ∧
        ∀ result, returned = .ok result → Serialized initial mutation result d) d := by
  apply Program.guarded_seq (guarded_readLocked hd hfits)
  swap
  · rintro error d₁ ⟨hread, -⟩
    cases hread
  rintro read d₁ ⟨hread, hholds⟩
  obtain rfl := Except.ok.inj hread
  cases hmutation : mutation read with
  | error error => exact ⟨hholds.holder, hholds.temporaries, by nofun⟩
  | ok outcome =>
    obtain ⟨updated, result⟩ := outcome
    change Program.Guarded _ _ (Program.runIf (updated ≠ read) _ >>= fun _ => pure result) _
    by_cases hsame : updated = read
    · rw [Program.runIf, if_neg (not_not.mpr hsame)]
      refine ⟨hholds.holder, hholds.temporaries, ?_⟩
      rintro returned hreturned
      obtain rfl := Except.ok.inj hreturned
      exact ⟨completed, read, updated, hreplay, hmutation,
        by rw [hholds.completed], .inl hsame⟩
    · rw [Program.runIf, if_pos hsame]
      apply Program.guarded_seq (guarded_writeLocked hholds hmutation)
      · rintro _ d₂ (⟨-, hholds₂⟩ | ⟨⟨error, herror⟩, -⟩)
        · refine ⟨hholds₂.holder, hholds₂.temporaries, ?_⟩
          rintro returned hreturned
          obtain rfl := Except.ok.inj hreturned
          refine ⟨completed, read, updated, hreplay, hmutation, ?_, .inr ?_⟩
          · rw [hholds₂.completed]
            exact List.prefix_append _ _
          · rw [hholds₂.completed]
        · cases herror
      · rintro error d₂ (⟨hwritten, -⟩ | ⟨-, hholds₂⟩)
        · cases hwritten
        · exact ⟨hholds₂.holder, hholds₂.temporaries, by nofun⟩

/-! ## Calls -/

theorem guarded_construct (hd : d.holder ≠ some i) :
    (StateModel.construct : StateProgram State Result Unit).Guarded
      (stateContract ι Result model initial i) (fun _ d => d.holder ≠ some i) d := by
  intro d₁ hrely₁ _
  have hfree₁ : d₁.holder ≠ some i := fun h => hd (hrely₁.holder.mp h)
  refine ⟨trivial, ?_⟩
  rintro (expected : Bool) d₂ ⟨⟨rfl, -⟩, -⟩ _
  change Program.Guarded _ _ (Program.require _ _ >>= fun _ => createInstance) _
  by_cases hexpected : expected = false
  · rw [Program.require, if_pos hexpected]
    exact hfree₁
  · rw [Program.require, if_neg hexpected]
    intro d₃ hrely₃ _
    refine ⟨trivial, ?_⟩
    rintro _ d₄ ⟨hcreated, -⟩ _
    obtain rfl : d₄ = d₃.withInstance i (some false) := hcreated
    exact fun h => hfree₁ (hrely₃.holder.mp h)

theorem guarded_mutate (hd : d.holder ≠ some i) :
    (model.mutate mutation).Guarded (stateContract ι Result model initial i)
      (fun returned d => d.holder ≠ some i ∧
        ∀ result, returned = .ok result → Serialized initial mutation result d) d := by
  have hraised {error : String} {d : StateDirectory ι State Result} (hfree : d.holder ≠ some i) :
      d.holder ≠ some i ∧ ∀ result, (.error error : Except String Result) = .ok result →
        Serialized initial mutation result d := ⟨hfree, by nofun⟩
  -- The instance is not poisoned, and the directory is as expected.
  intro d₁ hrely₁ _
  have hfree₁ : d₁.holder ≠ some i := fun h => hd (hrely₁.holder.mp h)
  refine ⟨trivial, ?_⟩
  rintro (poisoned : Option Bool) d₂ ⟨⟨rfl, -⟩, -⟩ _
  change Program.Guarded _ _ (Program.require (poisoned ≠ some false) _ >>= fun _ => _) _
  rw [Program.require]
  split
  · exact hraised hfree₁
  intro d₃ hrely₃ hintact₃
  have hfree₃ : d₃.holder ≠ some i := fun h => hfree₁ (hrely₃.holder.mp h)
  refine ⟨trivial, ?_⟩
  rintro (expected : Bool) d₄ ⟨⟨rfl, hexpected⟩, hundisturbed⟩ _
  obtain rfl : expected = true := hexpected.mpr (Intact.expected hintact₃ hundisturbed)
  change Program.Guarded _ _ (openLock >>= fun _ => _) _
  -- The lock is opened and acquired.
  intro d₅ hrely₅ _
  have hfree₅ : d₅.holder ≠ some i := fun h => hfree₃ (hrely₅.holder.mp h)
  refine ⟨trivial, ?_⟩
  rintro (opened : Bool) d₆ ⟨⟨rfl, -⟩, -⟩ _
  change Program.Guarded _ _ (Program.require (opened = false) _ >>= fun _ => _) _
  rw [Program.require]
  split
  · exact hraised hfree₅
  intro d₇ hrely₇ hintact₇
  have hfree₇ : d₇.holder ≠ some i := fun h => hfree₅ (hrely₇.holder.mp h)
  refine ⟨trivial, ?_⟩
  rintro (acquired : Bool) d₈ ⟨hacquire, -⟩ _
  change Program.Guarded _ _ (Program.require (acquired = false) _ >>= fun _ => _) _
  rw [Program.require]
  obtain ⟨rfl, hfree, rfl⟩ | ⟨rfl, rfl⟩ := hacquire
  swap
  · rw [if_pos rfl]
    exact hraised hfree₇
  rw [if_neg Bool.true_eq_false.mp]
  obtain ⟨state, hreplay, hstate, hfits⟩ := hintact₇.state
  have hholds : Holds model i [] d₇.completed state { d₇ with holder := some i } :=
    ⟨rfl, hintact₇.temporaries hfree, rfl, hstate⟩
  change Program.Guarded _ _ (Program.ensuring (model.mutateLocked mutation) releaseLock) _
  rw [Program.guarded_ensuring]
  apply Program.guarded_mono ?_ (guarded_mutateLocked hholds hreplay hfits)
  -- The lock is released, however the mutation ended.
  rintro returned d₉ ⟨hholder, htemporaries, hserialized⟩
  intro d' hrely' _
  obtain ⟨-, htemporaries', -⟩ := hrely'.held hholder
  refine ⟨⟨hrely'.holder.mpr hholder, htemporaries'.trans htemporaries⟩, ?_⟩
  rintro _ d'' ⟨hreleased, -⟩ _
  obtain rfl : d'' = d'.released i := hreleased
  refine ⟨released_holder d' i, ?_⟩
  intro result hreturned
  refine (hserialized result hreturned).mono ?_
  rw [released_completed]
  exact hrely'.completed

end Locked

theorem sound_state {model : StateModel State} {initial : State} :
    Interleaving.Sound (undisturbedProcesses ι Result model)
      (stateDiscipline ι Result model initial) where
  advances_refl _ := List.prefix_refl _
  advances_trans h h' := h.trans h'
  rely_refl d := .refl _ d
  rely_trans h h' := h.trans h'
  act hintact hallowed hperform := hintact.act hallowed hperform.1
  crash := by
    intro i d d' hintact hcrash
    obtain ⟨rfl, hwritten⟩ := hcrash
    refine ⟨(hintact.released hwritten).withInstance i (by simp), ?_, released_holder d i, ?_⟩
    · change d.completed <+: (d.released i).completed
      rw [released_completed]
    · intro j hj
      exact (rely_released d hj).trans (rely_withInstance _ i j none)
  idle_stable hrely hidle := fun hheld => hidle (hrely.holder.mp hheld)
  post_stable := by
    rintro i request started result d d' hrely ⟨hidle, hserialized⟩
    refine ⟨fun hheld => hidle (hrely.holder.mp hheld), ?_⟩
    intro mutation r hrequest hresult
    exact (hserialized mutation r hrequest hresult).mono hrely.completed
  idle_of_post h := h.1
  begin := by
    intro i d request _ hidle
    cases request with
    | construct =>
      apply Program.guarded_seq (guarded_construct hidle)
      · intro _ d' hfree
        exact ⟨hfree, by nofun⟩
      · intro error d' hfree
        exact ⟨hfree, by nofun⟩
    | mutate mutation =>
      apply Program.guarded_seq (guarded_mutate hidle)
      · rintro result d' ⟨hfree, hserialized⟩
        refine ⟨hfree, ?_⟩
        rintro _ r ⟨⟩ hresult
        obtain rfl := Option.some.inj (Except.ok.inj hresult)
        exact hserialized result rfl
      · rintro error d' ⟨hfree, -⟩
        exact ⟨hfree, by nofun⟩

/-! ## Calls that run alone -/

section Alone

variable {model : StateModel State} {i : ι} {state updated : State} {result : Result}
  {mutation : Mutation State Result} {d : StateDirectory ι State Result}

omit [DecidableEq State] in
theorem exec_readLocked (hstate : d.state = some (model.fileBytes state))
    (hfits : model.Fits state) :
    Interleaving.exec (StateDirectory.answer i) (model.readLocked : StateProgram State Result State)
      d = (.ok state, d) := by
  have hsize : ¬ ¬ (1 ≤ (model.fileBytes state).size ∧
      (model.fileBytes state).size ≤ maxDegradedStateBytes) :=
    not_not.mpr ⟨model.size_pos state, hfits⟩
  have hread : Interleaving.exec (StateDirectory.answer i)
      (readState : StateProgram State Result (Option ByteArray)) d =
        (.ok (some (model.fileBytes state)), d) := by
    rw [← hstate]
    rfl
  unfold StateModel.readLocked
  rw [Interleaving.exec_bind, hread]
  dsimp only
  rw [Interleaving.exec_bind, Interleaving.exec_require, if_neg hsize, model.validate_fileBytes]
  dsimp only
  rw [if_neg (not_not.mpr rfl)]
  rfl

theorem exec_writeLocked (hquiet : d.temporaries = []) (hfits : model.Fits updated) :
    (Interleaving.exec (StateDirectory.answer i) (model.writeLocked updated mutation) d).1 =
      .ok () := by
  let token := freshToken d.temporaries
  let d₁ : StateDirectory ι State Result :=
    { d with temporaries := ⟨token, .empty⟩ :: d.temporaries }
  let d₂ := d₁.written token (model.fileBytes updated)
  have hcreate : Interleaving.exec (StateDirectory.answer i)
      (createTemporary : StateProgram State Result Nat) d = (.ok token, d₁) := rfl
  have hwrite : Interleaving.exec (StateDirectory.answer i)
      (writeTemporary token (model.fileBytes updated) : StateProgram State Result Unit) d₁ =
        (.ok (), d₂) := rfl
  have hwritten : d₂.temporaries = [⟨token, model.fileBytes updated⟩] := by
    simp [d₂, d₁, written, hquiet]
  have hreplace : Interleaving.exec (StateDirectory.answer i) (replaceState token mutation) d₂ =
      (.ok (), d₂.replaced token mutation) := rfl
  rw [replaced_single hwritten] at hreplace
  unfold StateModel.writeLocked
  rw [Interleaving.exec_bind, Interleaving.exec_require, if_neg (not_not.mpr hfits)]
  dsimp only
  rw [Interleaving.exec_catching, Interleaving.exec_bind, hcreate]
  dsimp only
  rw [Interleaving.exec_bind, hwrite]
  dsimp only
  rw [Interleaving.exec_bind, hreplace]
  dsimp only
  rw [Interleaving.exec_bind, exec_readLocked rfl hfits]
  dsimp only
  rw [Interleaving.exec_require, if_neg (not_not.mpr rfl)]

theorem exec_mutateLocked (hstate : d.state = some (model.fileBytes state))
    (hfits : model.Fits state) (hquiet : d.temporaries = [])
    (hmutation : mutation state = .ok (updated, result)) (hupdated : model.Fits updated) :
    (Interleaving.exec (StateDirectory.answer i) (model.mutateLocked mutation) d).1 =
      .ok result := by
  unfold StateModel.mutateLocked
  rw [Interleaving.exec_bind, exec_readLocked hstate hfits]
  dsimp only
  rw [Interleaving.exec_bind, Interleaving.exec_result, hmutation]
  dsimp only
  rw [Interleaving.exec_bind]
  by_cases hsame : updated = state
  · rw [Program.runIf, if_neg (not_not.mpr hsame)]
    rfl
  · rw [Program.runIf, if_pos hsame]
    have hwritten : (Interleaving.exec (StateDirectory.answer i)
        (model.writeLocked updated mutation) d).1 = .ok () := exec_writeLocked hquiet hupdated
    cases hexec : Interleaving.exec (StateDirectory.answer i)
        (model.writeLocked updated mutation) d with
    | mk written d' =>
      rw [hexec] at hwritten
      obtain rfl : written = .ok () := hwritten
      rfl

/-- A mutation of an instance that is not poisoned, in a directory nobody else works on. -/
theorem exec_mutate (hinstance : d.instances i = some false) (hexpected : d.Expected)
    (hfree : d.holder = none) (hstate : d.state = some (model.fileBytes state))
    (hfits : model.Fits state) (hmutation : mutation state = .ok (updated, result))
    (hupdated : model.Fits updated) :
    (Interleaving.exec (StateDirectory.answer i) (model.mutate mutation) d).1 = .ok result := by
  have hrecall : Interleaving.exec (StateDirectory.answer i)
      (recallPoisoned : StateProgram State Result (Option Bool)) d = (.ok (some false), d) := by
    rw [← hinstance]
    rfl
  have hlist : Interleaving.exec (StateDirectory.answer i)
      (listEntries : StateProgram State Result Bool) d = (.ok true, d) := by
    rw [← decide_eq_true hexpected]
    rfl
  have hopen : Interleaving.exec (StateDirectory.answer i)
      (openLock : StateProgram State Result Bool) d = (.ok true, d) := by
    rw [← hexpected.2.1]
    rfl
  have hacquire : Interleaving.exec (StateDirectory.answer i)
      (acquireLock : StateProgram State Result Bool) d =
        (.ok true, { d with holder := some i }) := by
    have hanswer : d.answer i .acquireLock = (true, { d with holder := some i }) := if_pos hfree
    change (Except.ok (d.answer i .acquireLock).1, (d.answer i .acquireLock).2) = _
    rw [hanswer]
    rfl
  unfold StateModel.mutate
  rw [Interleaving.exec_bind, hrecall]
  dsimp only
  rw [Interleaving.exec_bind, Interleaving.exec_require, if_neg (not_not.mpr rfl)]
  dsimp only
  rw [Interleaving.exec_bind, hlist]
  dsimp only
  rw [if_neg Bool.true_eq_false.mp, Interleaving.exec_bind, hopen]
  dsimp only
  rw [Interleaving.exec_bind, Interleaving.exec_require, if_neg Bool.true_eq_false.mp]
  dsimp only
  rw [Interleaving.exec_bind, hacquire]
  dsimp only
  rw [Interleaving.exec_bind, Interleaving.exec_require, if_neg Bool.true_eq_false.mp]
  dsimp only
  rw [Interleaving.exec_ensuring (fun _ => rfl)]
  exact exec_mutateLocked hstate hfits (List.isEmpty_iff.mp hexpected.2.2) hmutation hupdated

omit [DecidableEq State] in
theorem exec_construct (hexpected : d.Expected) :
    Interleaving.exec (StateDirectory.answer i)
      (StateModel.construct : StateProgram State Result Unit) d =
        (.ok (), d.withInstance i (some false)) := by
  have hlist : Interleaving.exec (StateDirectory.answer i)
      (listEntries : StateProgram State Result Bool) d = (.ok true, d) := by
    rw [← decide_eq_true hexpected]
    rfl
  unfold StateModel.construct
  rw [Interleaving.exec_bind, hlist]
  dsimp only
  rw [Interleaving.exec_bind, Interleaving.exec_require, if_neg Bool.true_eq_false.mp]
  rfl

omit [DecidableEq State] in
/-- From a directory with another entry nobody constructs an instance. -/
theorem exec_construct_refused (hunexpected : ¬ d.Expected) :
    (Interleaving.exec (StateDirectory.answer i)
      (StateModel.construct : StateProgram State Result Unit) d).1 =
        .error "degraded state and stable lock must be the only directory entries" := by
  have hlist : Interleaving.exec (StateDirectory.answer i)
      (listEntries : StateProgram State Result Bool) d = (.ok false, d) := by
    rw [← decide_eq_false hunexpected]
    rfl
  unfold StateModel.construct
  rw [Interleaving.exec_bind, hlist]
  dsimp only
  rw [Interleaving.exec_bind, Interleaving.exec_require, if_pos rfl]

end Alone

/-- Every mutation by the process succeeds on this state, unless it raises itself or leads to a
    state that does not fit; a read is such a mutation. -/
def Mutates (model : StateModel State) (i : ι) (state : State)
    (d : StateDirectory ι State Result) : Prop :=
  ∀ (mutation : Mutation State Result) (updated : State) (result : Result),
    mutation state = .ok (updated, result) → model.Fits updated →
      (Interleaving.exec (StateDirectory.answer i) (model.mutate mutation) d).1 = .ok result

end

/-- In every run in which nobody lists the directory during a write and nobody dies in one: no
    instance is poisoned, the state is what the completed mutations lead to one after another, a
    mutation returns what it gives in that order, and when nothing is in progress every instance
    mutates the state and a new one can be constructed. -/
theorem undisturbed_state_survives {ι State Result : Type} [DecidableEq ι] [DecidableEq State]
    {model : StateModel State} {initial : State} (hfits : model.Fits initial)
    {w : Interleaving.World ι (StateDirectory ι State Result) (StateAct State Result)
      StateAct.Reply (StateRequest State Result) String (Option Result)}
    (hrun : (undisturbedProcesses ι Result model).Steps (.quiet (.initialized model initial)) w) :
    (∀ i, w.shared.instances i ≠ some true) ∧
      (∀ i mutation started result, w.calls i =
        some ⟨.mutate mutation, started, .done (.ok (some result))⟩ →
          Serialized initial mutation result w.shared) ∧
      ∃ state, replay initial w.shared.completed = .ok state ∧
        w.shared.state = some (model.fileBytes state) ∧ model.Fits state ∧
        ((∀ i, w.calls i = none) → ∀ i,
          (w.shared.instances i = some false → Mutates model i state w.shared) ∧
          ∃ d, Interleaving.exec (StateDirectory.answer i) StateModel.construct w.shared =
            (.ok (), d) ∧ Mutates model i state d) := by
  have hstart : Interleaving.Governed (undisturbedProcesses ι Result model)
      (stateDiscipline ι Result model initial) (.quiet (.initialized model initial)) :=
    .quiet (StateDirectory.intact_initialized hfits) (fun _ => by nofun)
  obtain ⟨hgoverned, -⟩ := hstart.steps sound_state hrun
  have hintact : w.shared.Intact model initial := hgoverned.invariant
  obtain ⟨state, hreplay, hstate, hstateFits⟩ := hintact.state
  refine ⟨hintact.unpoisoned, ?_, state, hreplay, hstate, hstateFits, ?_⟩
  · intro i mutation started result hcall
    exact (hgoverned.ended hcall).2.2 mutation result rfl rfl
  · intro hidle
    have hfree : w.shared.holder = none := by
      rw [Option.eq_none_iff_forall_ne_some]
      intro i
      have hattends := hgoverned.attends i
      rw [hidle i] at hattends
      exact hattends
    have hexpected := hintact.expected (hintact.temporaries hfree)
    intro i
    refine ⟨?_, _, exec_construct hexpected, ?_⟩
    · intro hinstance mutation updated result hmutation hupdated
      exact exec_mutate hinstance hexpected hfree hstate hstateFits hmutation hupdated
    · intro mutation updated result hmutation hupdated
      exact exec_mutate (by simp [StateDirectory.withInstance]) hexpected hfree hstate hstateFits
        hmutation hupdated

/-! ## A listed and a forgotten temporary file -/

namespace StateSample

/-- A state of one bit in a file of one byte. -/
def bit : StateModel Bool where
  fileBytes state := ⟨#[if state then 1 else 0]⟩
  validate material :=
    if material = ⟨#[1]⟩ then .ok true
    else if material = ⟨#[0]⟩ then .ok false
    else .error "not a bit"
  validate_fileBytes state := by cases state <;> decide
  size_pos state := by cases state <;> decide

/-- A mutation that changes the bit and returns the one it found. -/
def toggle : Mutation Bool Bool := fun state => .ok (!state, state)

/-- A world of two processes. -/
abbrev BitWorld : Type :=
  Interleaving.World Bool (StateDirectory Bool Bool Bool) (StateAct Bool Bool) StateAct.Reply
    (StateRequest Bool Bool) String (Option Bool)

def quiet : BitWorld := .quiet (.initialized bit false)

/-- Turns in which every call that begins is this request. -/
def turns (request : StateRequest Bool Bool) (schedule : List Bool) (w : BitWorld) : BitWorld :=
  schedule.foldl (Interleaving.World.turn StateDirectory.answer (stateProcesses Bool Bool bit)
    (fun _ => request)) w

/-- Both processes construct an instance. -/
def constructed : BitWorld :=
  turns .construct [false, false, false, false, true, true, true, true] quiet

/-- The first one has created its temporary file. -/
def writing : BitWorld :=
  turns (.mutate toggle) [false, false, false, false, false, false, false] constructed

/-- The first process dies there. -/
def forgotten : BitWorld :=
  { writing with shared := (writing.shared.released false).withInstance false none }.assign false
    none

/-- The second process lists the directory there, and then both calls end. -/
def listed : BitWorld :=
  turns (.mutate toggle)
    [true, true, true, true, true, false, false, false, false, false] writing

/-- Both processes toggle the bit, the second one after the first one. -/
def toggled : BitWorld :=
  turns (.mutate toggle) (List.replicate 12 false ++ List.replicate 12 true) constructed

theorem steps_turns (request : StateRequest Bool Bool) (schedule : List Bool) (w : BitWorld) :
    (stateProcesses Bool Bool bit).Steps w (turns request schedule w) :=
  Interleaving.World.steps_turns StateDirectory.perform_answer _ schedule w

end StateSample

open StateSample in
/-- After a crash during a write no process constructs an instance, and without any crash a process
    that begins while another one writes is poisoned; the state file is valid in both runs. -/
theorem disturbed_state_wedges :
    ((stateProcesses Bool Bool bit).Steps quiet forgotten ∧
      (∀ i, (forgotten.calls i).isNone = true) ∧
      forgotten.shared.state = some (bit.fileBytes false) ∧
      ∀ i, (Interleaving.exec (StateDirectory.answer i)
        (StateModel.construct : StateProgram Bool Bool Unit) forgotten.shared).1 =
          .error "degraded state and stable lock must be the only directory entries") ∧
    ((stateProcesses Bool Bool bit).Steps quiet listed ∧
      (∀ i, (listed.calls i).isNone = true) ∧
      listed.shared.state = some (bit.fileBytes true) ∧
      listed.shared.instances true = some true) := by
  have hwriting : (stateProcesses Bool Bool bit).Steps quiet writing :=
    (steps_turns _ _ _).trans (steps_turns _ _ _)
  refine ⟨⟨hwriting.tail (.crash false rfl), by decide +kernel, by decide +kernel, ?_⟩,
    hwriting.trans (steps_turns _ _ _), by decide +kernel, by decide +kernel, by decide +kernel⟩
  intro i
  exact exec_construct_refused (by decide +kernel)

namespace StateSample

instance (d : StateDirectory Bool Bool Bool) (action : StateAct Bool Bool) :
    Decidable (d.Undisturbed action) := by
  unfold StateDirectory.Undisturbed
  split <;> infer_instance

theorem undisturbed_turns {request : StateRequest Bool Bool} {schedule : List Bool} {w : BitWorld}
    (h : Interleaving.World.passes StateDirectory.answer (stateProcesses Bool Bool bit)
      (fun _ => request) (fun d action => decide (d.Undisturbed action)) schedule w = true) :
    (undisturbedProcesses Bool Bool bit).Steps w (turns request schedule w) := by
  have hprogram : (undisturbedProcesses Bool Bool bit).program =
      (stateProcesses Bool Bool bit).program := rfl
  refine Interleaving.World.steps_of_passes hprogram ?_ _ schedule h
  intro i d action hcheck
  exact ⟨d.perform_answer i action, of_decide_eq_true hcheck⟩

end StateSample

open StateSample in
theorem undisturbed_state_survives_toggled :
    ∃ state, replay false toggled.shared.completed = .ok state ∧
      toggled.shared.state = some (bit.fileBytes state) ∧
      toggled.shared.instances true = some false ∧ Mutates bit true state toggled.shared := by
  have hrun : (undisturbedProcesses Bool Bool bit).Steps quiet toggled :=
    (undisturbed_turns (by decide +kernel)).trans (undisturbed_turns (by decide +kernel))
  obtain ⟨-, -, state, hreplay, hstate, -, hserves⟩ := undisturbed_state_survives (by decide) hrun
  have hinstance : toggled.shared.instances true = some false := by decide +kernel
  have hquiet : ∀ i, toggled.calls i = none := by
    have hnone : ∀ i, (toggled.calls i).isNone = true := by decide +kernel
    exact fun i => Option.isNone_iff_eq_none.mp (hnone i)
  exact ⟨state, hreplay, hstate, hinstance, (hserves hquiet true).1 hinstance⟩

end AegisOt
