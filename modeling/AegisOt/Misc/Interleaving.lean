import AegisOt.Misc.Program
import Mathlib.Logic.Function.Basic
import Mathlib.Logic.Relation

/-!
# Processes that interleave on a shared state

A family of processes shares one state. Each of them works on one call at a time; between any two
actions of a call the other processes act, begin, end and die. `Discipline` collects what the
rely-guarantee rules of `Program.Guarded` need of all of them together, and `Sound` says that the
actions of one process respect what the others rely on. The rule `Governed.steps` then makes every
call of every run guarded: the calls are proved one at a time.

Nothing here names a program: processes, requests, states, actions and exceptions are arbitrary.
-/

namespace AegisOt

namespace Interleaving

variable {ι σ Act : Type} {Reply : Act → Type} {κ ε α : Type}

/-- What the processes do. -/
structure Processes (ι σ Act : Type) (Reply : Act → Type) (κ ε α : Type) where
  /-- The program of one call. -/
  program : ι → κ → Program Act Reply ε α
  perform : ι → σ → (action : Act) → Reply action → σ → Prop
  /-- What may be left of the state when a process dies. -/
  crash : ι → σ → σ → Prop

/-- A call in progress: what was asked, the state it began in, and the rest of its program. -/
structure Call (σ Act : Type) (Reply : Act → Type) (κ ε α : Type) where
  request : κ
  started : σ
  rest : Program Act Reply ε α

structure World (ι σ Act : Type) (Reply : Act → Type) (κ ε α : Type) where
  shared : σ
  calls : ι → Option (Call σ Act Reply κ ε α)

namespace World

variable [DecidableEq ι]

def assign (w : World ι σ Act Reply κ ε α) (i : ι) (call : Option (Call σ Act Reply κ ε α)) :
    World ι σ Act Reply κ ε α :=
  { w with calls := Function.update w.calls i call }

@[simp] theorem assign_shared (w : World ι σ Act Reply κ ε α) (i : ι)
    (call : Option (Call σ Act Reply κ ε α)) : (w.assign i call).shared = w.shared := rfl

@[simp] theorem assign_calls_self (w : World ι σ Act Reply κ ε α) (i : ι)
    (call : Option (Call σ Act Reply κ ε α)) : (w.assign i call).calls i = call := by
  simp [assign]

theorem assign_calls_of_ne (w : World ι σ Act Reply κ ε α) {i j : ι} (h : j ≠ i)
    (call : Option (Call σ Act Reply κ ε α)) : (w.assign i call).calls j = w.calls j := by
  simp [assign, h]

end World

/-- Nothing runs. -/
def World.quiet (s : σ) : World ι σ Act Reply κ ε α := ⟨s, fun _ => none⟩

@[simp] theorem World.quiet_shared (s : σ) :
    (World.quiet s : World ι σ Act Reply κ ε α).shared = s := rfl

section

variable [DecidableEq ι]

/-- One step of one process. -/
inductive Processes.Step (ps : Processes ι σ Act Reply κ ε α) :
    World ι σ Act Reply κ ε α → World ι σ Act Reply κ ε α → Prop where
  | begin {w : World ι σ Act Reply κ ε α} (i : ι) (request : κ) (hfree : w.calls i = none) :
      ps.Step w (w.assign i (some ⟨request, w.shared, ps.program i request⟩))
  | act {w : World ι σ Act Reply κ ε α} (i : ι) {request : κ} {started shared : σ} {action : Act}
      {next : Reply action → Program Act Reply ε α} (reply : Reply action)
      (hcall : w.calls i = some ⟨request, started, .act action next⟩)
      (hperform : ps.perform i w.shared action reply shared) :
      ps.Step w ({ w with shared := shared }.assign i (some ⟨request, started, next reply⟩))
  | finish {w : World ι σ Act Reply κ ε α} (i : ι) {request : κ} {started : σ}
      {result : Except ε α} (hcall : w.calls i = some ⟨request, started, .done result⟩) :
      ps.Step w (w.assign i none)
  | crash {w : World ι σ Act Reply κ ε α} (i : ι) {shared : σ}
      (hcrash : ps.crash i w.shared shared) :
      ps.Step w ({ w with shared := shared }.assign i none)

/-- Any number of steps of any of the processes. -/
abbrev Processes.Steps (ps : Processes ι σ Act Reply κ ε α) :
    World ι σ Act Reply κ ε α → World ι σ Act Reply κ ε α → Prop :=
  Relation.ReflTransGen ps.Step

end

/-- What is promised for the processes. -/
structure Discipline (ι σ Act κ ε α : Type) where
  invariant : σ → Prop
  /-- How the state may go on, whoever acts. -/
  advances : σ → σ → Prop
  /-- What a process may count on while the others act. -/
  rely : ι → σ → σ → Prop
  allowed : ι → σ → Act → Prop
  /-- What holds of the state while a process works on no call. -/
  idle : ι → σ → Prop
  /-- How a call ends: its request, the state it began in, its result and the state then. -/
  post : ι → κ → σ → Except ε α → σ → Prop

variable {ps : Processes ι σ Act Reply κ ε α} {d : Discipline ι σ Act κ ε α}

/-- The contract of one process. -/
def Discipline.contract (d : Discipline ι σ Act κ ε α) (ps : Processes ι σ Act Reply κ ε α)
    (i : ι) : Program.Contract σ Act Reply where
  invariant := d.invariant
  rely := d.rely i
  perform := ps.perform i
  allowed := d.allowed i

/-- The promises fit together. -/
structure Sound (ps : Processes ι σ Act Reply κ ε α) (d : Discipline ι σ Act κ ε α) : Prop where
  advances_refl : ∀ s, d.advances s s
  advances_trans : ∀ {s s₁ s₂}, d.advances s s₁ → d.advances s₁ s₂ → d.advances s s₂
  rely_refl : ∀ {i} (s), d.rely i s s
  rely_trans : ∀ {i s s₁ s₂}, d.rely i s s₁ → d.rely i s₁ s₂ → d.rely i s s₂
  act : ∀ {i s action reply s'}, d.invariant s → d.allowed i s action →
    ps.perform i s action reply s' →
      d.invariant s' ∧ d.advances s s' ∧ ∀ j, j ≠ i → d.rely j s s'
  crash : ∀ {i s s'}, d.invariant s → ps.crash i s s' →
    d.invariant s' ∧ d.advances s s' ∧ d.idle i s' ∧ ∀ j, j ≠ i → d.rely j s s'
  idle_stable : ∀ {i s s'}, d.rely i s s' → d.idle i s → d.idle i s'
  post_stable : ∀ {i request started result s s'}, d.rely i s s' →
    d.post i request started result s → d.post i request started result s'
  idle_of_post : ∀ {i request started result s}, d.post i request started result s → d.idle i s
  /-- A call that begins is guarded. -/
  begin : ∀ {i s} (request), d.invariant s → d.idle i s →
    (ps.program i request).Guarded (d.contract ps i) (d.post i request s) s

/-- What holds for one process. -/
def Attends (ps : Processes ι σ Act Reply κ ε α) (d : Discipline ι σ Act κ ε α) (s : σ) (i : ι) :
    Option (Call σ Act Reply κ ε α) → Prop
  | none => d.idle i s
  | some call => d.advances call.started s ∧
      call.rest.Guarded (d.contract ps i) (d.post i call.request call.started) s

/-- Every call in progress is guarded. -/
structure Governed (ps : Processes ι σ Act Reply κ ε α) (d : Discipline ι σ Act κ ε α)
    (w : World ι σ Act Reply κ ε α) : Prop where
  invariant : d.invariant w.shared
  attends : ∀ i, Attends ps d w.shared i (w.calls i)

theorem Governed.quiet {s : σ} (hinvariant : d.invariant s) (hidle : ∀ i, d.idle i s) :
    Governed ps d (World.quiet s) := ⟨hinvariant, hidle⟩

/-- What another process does leaves a process attended. -/
theorem Attends.of_rely (hsound : Sound ps d) {s s' : σ} {i : ι}
    {call : Option (Call σ Act Reply κ ε α)} (h : Attends ps d s i call) (hrely : d.rely i s s')
    (hadvances : d.advances s s') : Attends ps d s' i call := by
  cases call with
  | none => exact hsound.idle_stable hrely h
  | some call =>
    obtain ⟨hstarted, hguarded⟩ := h
    refine ⟨hsound.advances_trans hstarted hadvances, ?_⟩
    apply Program.guarded_of_rely ?_ ?_ hguarded
    · intro s₂ hrely'
      exact hsound.rely_trans hrely hrely'
    · intro result
      exact hsound.post_stable hrely

section

variable [DecidableEq ι]

/-- One step keeps every call guarded, and the state goes on. -/
theorem Governed.step (hsound : Sound ps d) {w w' : World ι σ Act Reply κ ε α}
    (h : Governed ps d w) (hstep : ps.Step w w') :
    Governed ps d w' ∧ d.advances w.shared w'.shared := by
  cases hstep with
  | begin i request hfree =>
    have hidle : d.idle i w.shared := by
      have hattends := h.attends i
      rw [hfree] at hattends
      exact hattends
    refine ⟨⟨h.invariant, ?_⟩, hsound.advances_refl _⟩
    intro j
    by_cases hj : j = i
    · subst hj
      rw [World.assign_calls_self]
      exact ⟨hsound.advances_refl _, hsound.begin request h.invariant hidle⟩
    · rw [World.assign_calls_of_ne _ hj]
      exact h.attends j
  | act i reply hcall hperform =>
    rename_i request started shared action next
    have hattends := h.attends i
    rw [hcall] at hattends
    obtain ⟨hstarted, hguarded⟩ := hattends
    obtain ⟨hallowed, hnext⟩ := hguarded w.shared (hsound.rely_refl _) h.invariant
    obtain ⟨hinvariant, hadvances, hothers⟩ := hsound.act h.invariant hallowed hperform
    refine ⟨⟨hinvariant, ?_⟩, hadvances⟩
    intro j
    by_cases hj : j = i
    · subst hj
      rw [World.assign_calls_self]
      exact ⟨hsound.advances_trans hstarted hadvances, hnext reply shared hperform hinvariant⟩
    · rw [World.assign_calls_of_ne _ hj]
      exact (h.attends j).of_rely hsound (hothers j hj) hadvances
  | finish i hcall =>
    have hattends := h.attends i
    rw [hcall] at hattends
    refine ⟨⟨h.invariant, ?_⟩, hsound.advances_refl _⟩
    intro j
    by_cases hj : j = i
    · subst hj
      rw [World.assign_calls_self]
      exact hsound.idle_of_post hattends.2
    · rw [World.assign_calls_of_ne _ hj]
      exact h.attends j
  | crash i hcrash =>
    obtain ⟨hinvariant, hadvances, hidle, hothers⟩ := hsound.crash h.invariant hcrash
    refine ⟨⟨hinvariant, ?_⟩, hadvances⟩
    intro j
    by_cases hj : j = i
    · subst hj
      rw [World.assign_calls_self]
      exact hidle
    · rw [World.assign_calls_of_ne _ hj]
      exact (h.attends j).of_rely hsound (hothers j hj) hadvances

/-- So it is in every run. -/
theorem Governed.steps (hsound : Sound ps d) {w w' : World ι σ Act Reply κ ε α}
    (h : Governed ps d w) (hsteps : ps.Steps w w') :
    Governed ps d w' ∧ d.advances w.shared w'.shared := by
  induction hsteps with
  | refl => exact ⟨h, hsound.advances_refl _⟩
  | tail _ hstep ih =>
    obtain ⟨hgoverned, hadvances⟩ := ih
    obtain ⟨hgoverned', hadvances'⟩ := hgoverned.step hsound hstep
    exact ⟨hgoverned', hsound.advances_trans hadvances hadvances'⟩

end

/-- A call performs only what it may. -/
theorem Governed.allowed (hsound : Sound ps d) {w : World ι σ Act Reply κ ε α}
    (h : Governed ps d w) {i : ι} {request : κ} {started : σ} {action : Act}
    {next : Reply action → Program Act Reply ε α}
    (hcall : w.calls i = some ⟨request, started, .act action next⟩) :
    d.allowed i w.shared action := by
  have hattends := h.attends i
  rw [hcall] at hattends
  exact (hattends.2 w.shared (hsound.rely_refl _) h.invariant).1

/-- A call that ended did so as promised. -/
theorem Governed.ended {w : World ι σ Act Reply κ ε α} (h : Governed ps d w) {i : ι} {request : κ}
    {started : σ} {result : Except ε α}
    (hcall : w.calls i = some ⟨request, started, .done result⟩) :
    d.advances started w.shared ∧ d.post i request started result w.shared := by
  have hattends := h.attends i
  rw [hcall] at hattends
  exact hattends

/-! ## All processes die at once -/

section

variable [DecidableEq ι] {loss : σ → σ → Prop}

/-- One step of one process, or a loss of power that ends all of them. -/
inductive Processes.Life (ps : Processes ι σ Act Reply κ ε α) (loss : σ → σ → Prop) :
    World ι σ Act Reply κ ε α → World ι σ Act Reply κ ε α → Prop where
  | step {w w' : World ι σ Act Reply κ ε α} (hstep : ps.Step w w') : ps.Life loss w w'
  | loss {w : World ι σ Act Reply κ ε α} {shared : σ} (hloss : loss w.shared shared) :
      ps.Life loss w (World.quiet shared)

/-- Any number of steps and losses of power. -/
abbrev Processes.Lives (ps : Processes ι σ Act Reply κ ε α) (loss : σ → σ → Prop) :
    World ι σ Act Reply κ ε α → World ι σ Act Reply κ ε α → Prop :=
  Relation.ReflTransGen (ps.Life loss)

/-- What is promised survives a loss of power. -/
def Survives (d : Discipline ι σ Act κ ε α) (loss : σ → σ → Prop) : Prop :=
  ∀ {s s'}, d.invariant s → loss s s' → d.invariant s' ∧ d.advances s s' ∧ ∀ i, d.idle i s'

/-- Every call stays guarded in a run with losses of power. -/
theorem Governed.lives (hsound : Sound ps d) (hsurvives : Survives d loss)
    {w w' : World ι σ Act Reply κ ε α} (h : Governed ps d w) (hlives : ps.Lives loss w w') :
    Governed ps d w' ∧ d.advances w.shared w'.shared := by
  induction hlives with
  | refl => exact ⟨h, hsound.advances_refl _⟩
  | tail _ hlife ih =>
    obtain ⟨hgoverned, hadvances⟩ := ih
    cases hlife with
    | step hstep =>
      obtain ⟨hgoverned', hadvances'⟩ := hgoverned.step hsound hstep
      exact ⟨hgoverned', hsound.advances_trans hadvances hadvances'⟩
    | loss hloss =>
      obtain ⟨hinvariant, hadvances', hidle⟩ := hsurvives hgoverned.invariant hloss
      exact ⟨.quiet hinvariant hidle, hsound.advances_trans hadvances hadvances'⟩

end

/-! ## Calls that run alone -/

/-- Run a program against a deterministic state. -/
def exec (answer : σ → (action : Act) → Reply action × σ) :
    Program Act Reply ε α → σ → Except ε α × σ
  | .done result, s => (result, s)
  | .act action next, s => exec answer (next (answer s action).1) (answer s action).2

section Exec

variable {answer : σ → (action : Act) → Reply action × σ} {s : σ} {β : Type}

theorem exec_pure (a : α) :
    exec answer (pure a : Program Act Reply ε α) s = (.ok a, s) := rfl

theorem exec_raise (error : ε) :
    exec answer (Program.raise error : Program Act Reply ε α) s = (.error error, s) := rfl

theorem exec_result (x : Except ε α) :
    exec answer (Program.result x : Program Act Reply ε α) s = (x, s) := rfl

theorem exec_require (refused : Prop) [Decidable refused] (error : ε) :
    exec answer (Program.require refused error : Program Act Reply ε Unit) s =
      (if refused then .error error else .ok (), s) := by
  unfold Program.require
  split <;> rfl

theorem exec_bind (p : Program Act Reply ε α) (f : α → Program Act Reply ε β) :
    exec answer (p >>= f) s =
      match exec answer p s with
      | (.ok a, s') => exec answer (f a) s'
      | (.error error, s') => (.error error, s') := by
  induction p generalizing s with
  | done result => cases result <;> rfl
  | act action next ih => exact ih _

theorem exec_catching (p : Program Act Reply ε α) (handler : ε → Program Act Reply ε α) :
    exec answer (p.catching handler) s =
      match exec answer p s with
      | (.ok a, s') => (.ok a, s')
      | (.error error, s') => exec answer (handler error) s' := by
  induction p generalizing s with
  | done result => cases result <;> rfl
  | act action next ih => exact ih _

theorem exec_attempt (p : Program Act Reply ε α) :
    exec answer p.attempt s = (.ok (exec answer p s).1, (exec answer p s).2) := by
  induction p generalizing s with
  | done result => rfl
  | act action next ih => exact ih _

theorem exec_call (action : Act) :
    exec answer (Program.call action : Program Act Reply ε (Reply action)) s =
      (.ok (answer s action).1, (answer s action).2) := rfl

/-- A `finally` clause that cannot fail leaves the result as it is. -/
theorem exec_ensuring {p : Program Act Reply ε α} {cleanup : Program Act Reply ε Unit}
    (hcleanup : ∀ s, (exec answer cleanup s).1 = .ok ()) :
    (exec answer (p.ensuring cleanup) s).1 = (exec answer p s).1 := by
  unfold Program.ensuring
  rw [exec_bind, exec_attempt]
  dsimp only
  rw [exec_bind]
  have hdone := hcleanup (exec answer p s).2
  cases hexec : exec answer cleanup (exec answer p s).2 with
  | mk ended s' =>
    rw [hexec] at hdone
    cases ended with
    | ok _ => rfl
    | error error => cases hdone

end Exec

/-- What is left when one process begins a call and no other process acts. -/
def World.after [DecidableEq ι] (answer : σ → (action : Act) → Reply action × σ)
    (ps : Processes ι σ Act Reply κ ε α) (w : World ι σ Act Reply κ ε α) (i : ι) (request : κ) :
    World ι σ Act Reply κ ε α :=
  let ended := exec answer (ps.program i request) w.shared
  { w with shared := ended.2 }.assign i (some ⟨request, w.shared, .done ended.1⟩)

theorem World.shared_after [DecidableEq ι] (answer : σ → (action : Act) → Reply action × σ)
    (w : World ι σ Act Reply κ ε α) (i : ι) (request : κ) :
    (w.after answer ps i request).shared = (exec answer (ps.program i request) w.shared).2 := rfl

theorem World.steps_after [DecidableEq ι] {answer : σ → (action : Act) → Reply action × σ}
    {w : World ι σ Act Reply κ ε α} {i : ι}
    (hanswer : ∀ s action, ps.perform i s action (answer s action).1 (answer s action).2)
    (hfree : w.calls i = none) (request : κ) : ps.Steps w (w.after answer ps i request) := by
  have hrest : ∀ (p : Program Act Reply ε α) (s : σ),
      ps.Steps ({ w with shared := s }.assign i (some ⟨request, w.shared, p⟩))
        ({ w with shared := (exec answer p s).2 }.assign i
          (some ⟨request, w.shared, .done (exec answer p s).1⟩)) := by
    intro p
    induction p with
    | done result => intro s; exact .refl
    | act action next ih =>
      intro s
      refine .head ?_ (ih (answer s action).1 (answer s action).2)
      have hstep : ps.Step
          ({ w with shared := s }.assign i (some ⟨request, w.shared, .act action next⟩)) _ :=
        .act i (answer s action).1 (World.assign_calls_self _ _ _) (hanswer s action)
      simpa [World.assign] using hstep
  exact .head (.begin i request hfree) (hrest (ps.program i request) w.shared)

/-- The process that ended its call is free again. -/
theorem World.step_finish [DecidableEq ι] {answer : σ → (action : Act) → Reply action × σ}
    (w : World ι σ Act Reply κ ε α) (i : ι) (request : κ) :
    ps.Step (w.after answer ps i request) ((w.after answer ps i request).assign i none) :=
  .finish i (World.assign_calls_self _ _ _)

/-- One step of a process whose turn has come: it begins a call, performs its next action with
    the answer, or finishes. -/
def World.turn [DecidableEq ι] (answer : ι → σ → (action : Act) → Reply action × σ)
    (ps : Processes ι σ Act Reply κ ε α) (request : ι → κ) (w : World ι σ Act Reply κ ε α)
    (i : ι) : World ι σ Act Reply κ ε α :=
  match w.calls i with
  | none => w.assign i (some ⟨request i, w.shared, ps.program i (request i)⟩)
  | some ⟨_, _, .done _⟩ => w.assign i none
  | some ⟨asked, started, .act action next⟩ =>
      { w with shared := (answer i w.shared action).2 }.assign i
        (some ⟨asked, started, next (answer i w.shared action).1⟩)

theorem World.step_turn [DecidableEq ι] {answer : ι → σ → (action : Act) → Reply action × σ}
    (request : ι → κ) {w : World ι σ Act Reply κ ε α} {i : ι}
    (hanswer : ∀ asked started action next, w.calls i = some ⟨asked, started, .act action next⟩ →
      ps.perform i w.shared action (answer i w.shared action).1 (answer i w.shared action).2) :
    ps.Step w (w.turn answer ps request i) := by
  unfold World.turn
  split
  · rename_i hcall
    exact .begin i (request i) hcall
  · rename_i hcall
    exact .finish i hcall
  · rename_i hcall
    exact .act i _ hcall (hanswer _ _ _ _ hcall)

/-- The turns of a schedule make a run. -/
theorem World.steps_turns [DecidableEq ι] {answer : ι → σ → (action : Act) → Reply action × σ}
    (hanswer : ∀ i s action, ps.perform i s action (answer i s action).1 (answer i s action).2)
    (request : ι → κ) (schedule : List ι) (w : World ι σ Act Reply κ ε α) :
    ps.Steps w (schedule.foldl (World.turn answer ps request) w) := by
  induction schedule generalizing w with
  | nil => exact .refl
  | cons i rest ih => exact .head (step_turn request (fun _ _ _ _ _ => hanswer i _ _)) (ih _)

/-- Every action of the turns passes a check. -/
def World.passes [DecidableEq ι] (answer : ι → σ → (action : Act) → Reply action × σ)
    (ps : Processes ι σ Act Reply κ ε α) (request : ι → κ) (check : σ → Act → Bool) :
    List ι → World ι σ Act Reply κ ε α → Bool
  | [], _ => true
  | i :: rest, w =>
      (match w.calls i with
        | some ⟨_, _, .act action _⟩ => check w.shared action
        | _ => true) && World.passes answer ps request check rest (w.turn answer ps request i)

/-- The turns make a run of processes that perform only what passes the check. -/
theorem World.steps_of_passes [DecidableEq ι] {ps' : Processes ι σ Act Reply κ ε α}
    {answer : ι → σ → (action : Act) → Reply action × σ} {check : σ → Act → Bool}
    (hprogram : ps'.program = ps.program)
    (hanswer : ∀ i s action, check s action = true →
      ps'.perform i s action (answer i s action).1 (answer i s action).2)
    (request : ι → κ) (schedule : List ι) {w : World ι σ Act Reply κ ε α}
    (h : World.passes answer ps request check schedule w = true) :
    ps'.Steps w (schedule.foldl (World.turn answer ps request) w) := by
  have hturn (w : World ι σ Act Reply κ ε α) (i : ι) :
      w.turn answer ps request i = w.turn answer ps' request i := by
    unfold World.turn
    rw [hprogram]
  induction schedule generalizing w with
  | nil => exact .refl
  | cons i rest ih =>
    unfold World.passes at h
    obtain ⟨hcheck, hrest⟩ := (Bool.and_eq_true _ _).mp h
    refine .head ?_ (ih hrest)
    rw [hturn]
    refine step_turn request ?_
    intro asked started action next hcall
    rw [hcall] at hcheck
    exact hanswer i w.shared action hcheck

end Interleaving

end AegisOt
