import Mathlib.Logic.Basic
import Mathlib.Tactic.Common

/-!
# Processes that act on a shared state

A handler of a server is a sequence of actions (a journal operation, a clock reading, a message)
with pure computation between them. `Program` is its tree: after each action it continues with
the reply, and it ends by returning or by raising. Other processes, and crashes, fall between
two actions.

`Guarded` is a rely-guarantee judgement over these trees. A `Contract` says what an action can
do to the state, what others may do in between, and when an action may be performed; a guarded
program performs every action only when it may, whatever the replies are. The rules below
follow the program text. `Runs` is one execution with the trace of its actions, and `left` and
`right` put programs over different actions side by side. Nothing here names a program: actions,
replies, states and exceptions are arbitrary.
-/

namespace AegisOt

/-- A process that performs actions until it returns or raises. -/
inductive Program (Act : Type) (Reply : Act → Type) (ε α : Type) where
  | done (result : Except ε α)
  | act (action : Act) (next : Reply action → Program Act Reply ε α)

namespace Program

section

variable {Act : Type} {Reply : Act → Type} {ε α β : Type}

/-- Continue with the value returned. -/
def bind : Program Act Reply ε α → (α → Program Act Reply ε β) → Program Act Reply ε β
  | .done (.ok a), f => f a
  | .done (.error e), _ => .done (.error e)
  | .act action next, f => .act action (fun reply => (next reply).bind f)

/-- `try: … except …: handler`. -/
def catching : Program Act Reply ε α → (ε → Program Act Reply ε α) → Program Act Reply ε α
  | .done (.ok a), _ => .done (.ok a)
  | .done (.error e), handler => handler e
  | .act action next, handler => .act action (fun reply => (next reply).catching handler)

instance : Monad (Program Act Reply ε) where
  pure a := .done (.ok a)
  bind := bind

/-- `raise error`. -/
def raise (error : ε) : Program Act Reply ε α := .done (.error error)

/-- A pure computation that may raise. -/
def result (x : Except ε α) : Program Act Reply ε α := .done x

/-- `if refused: raise error`. -/
def require (refused : Prop) [Decidable refused] (error : ε) : Program Act Reply ε Unit :=
  if refused then raise error else pure ()

/-- `if condition: …` without an else branch. -/
def runIf (condition : Prop) [Decidable condition] (p : Program Act Reply ε Unit) :
    Program Act Reply ε Unit :=
  if condition then p else pure ()

/-- Perform one action. -/
def call (action : Act) : Program Act Reply ε (Reply action) :=
  .act action (fun reply => .done (.ok reply))

/-- Run a program to its end and go on with what it returned or raised. -/
def attempt : Program Act Reply ε α → Program Act Reply ε (Except ε α)
  | .done result => .done (.ok result)
  | .act action next => .act action (fun reply => (next reply).attempt)

/-- `try: … finally: cleanup`. -/
def ensuring (p : Program Act Reply ε α) (cleanup : Program Act Reply ε Unit) :
    Program Act Reply ε α := do
  let result ← p.attempt
  cleanup
  .done result

/-- Every action the program can perform satisfies `P`. -/
def Uses (P : Act → Prop) : Program Act Reply ε α → Prop
  | .done _ => True
  | .act action next => P action ∧ ∀ reply, (next reply).Uses P

variable {P : Act → Prop}

@[simp] theorem uses_done (result : Except ε α) :
    (.done result : Program Act Reply ε α).Uses P := trivial

@[simp] theorem uses_pure (a : α) : (pure a : Program Act Reply ε α).Uses P := trivial

@[simp] theorem uses_raise (error : ε) : (raise error : Program Act Reply ε α).Uses P := trivial

@[simp] theorem uses_result (x : Except ε α) :
    (result x : Program Act Reply ε α).Uses P := trivial

@[simp] theorem uses_require (refused : Prop) [Decidable refused] (error : ε) :
    (require refused error : Program Act Reply ε Unit).Uses P := by
  unfold require
  split <;> trivial

@[simp] theorem uses_call (action : Act) :
    (call action : Program Act Reply ε (Reply action)).Uses P ↔ P action := by
  simp [call, Uses]

theorem uses_runIf {condition : Prop} [Decidable condition] {p : Program Act Reply ε Unit}
    (hp : p.Uses P) : (runIf condition p).Uses P := by
  unfold runIf
  split
  · exact hp
  · trivial

theorem uses_bind {p : Program Act Reply ε α} {f : α → Program Act Reply ε β}
    (hp : p.Uses P) (hf : ∀ a, (f a).Uses P) : (p >>= f).Uses P := by
  induction p with
  | done result =>
    cases result with
    | ok a => exact hf a
    | error e => trivial
  | act action next ih => exact ⟨hp.1, fun reply => ih reply (hp.2 reply)⟩

theorem uses_catching {p : Program Act Reply ε α} {handler : ε → Program Act Reply ε α}
    (hp : p.Uses P) (hhandler : ∀ e, (handler e).Uses P) : (p.catching handler).Uses P := by
  induction p with
  | done result =>
    cases result with
    | ok a => trivial
    | error e => exact hhandler e
  | act action next ih => exact ⟨hp.1, fun reply => ih reply (hp.2 reply)⟩

theorem uses_mono {Q : Act → Prop} {p : Program Act Reply ε α} (h : ∀ a, P a → Q a)
    (hp : p.Uses P) : p.Uses Q := by
  induction p with
  | done result => trivial
  | act action next ih => exact ⟨h action hp.1, fun reply => ih reply (hp.2 reply)⟩

end

/-! ## Contracts -/

/-- What a program relies on while it runs, and what it must respect. -/
structure Contract (σ Act : Type) (Reply : Act → Type) where
  /-- Holds before and after every action. -/
  invariant : σ → Prop
  /-- What others may do between two actions. -/
  rely : σ → σ → Prop
  /-- What an action can do and reply. -/
  perform : σ → (action : Act) → Reply action → σ → Prop
  /-- When an action may be performed. -/
  allowed : σ → Act → Prop

variable {σ Act : Type} {Reply : Act → Type} {ε α β : Type}

/-- From this state the program performs only allowed actions, and ends in `post`. -/
def Guarded (c : Contract σ Act Reply) (post : Except ε α → σ → Prop) :
    Program Act Reply ε α → σ → Prop
  | .done result, s => post result s
  | .act action next, s => ∀ s₁, c.rely s s₁ → c.invariant s₁ →
      c.allowed s₁ action ∧ ∀ reply s', c.perform s₁ action reply s' → c.invariant s' →
        Guarded c post (next reply) s'

variable {c : Contract σ Act Reply}

/-- What the first part of a sequence must end in. -/
def Then (c : Contract σ Act Reply) (f : α → Program Act Reply ε β)
    (post : Except ε β → σ → Prop) : Except ε α → σ → Prop
  | .ok a, s => (f a).Guarded c post s
  | .error e, s => post (.error e) s

/-- What the body of a `try` statement must end in. -/
def Handled (c : Contract σ Act Reply) (handler : ε → Program Act Reply ε α)
    (post : Except ε α → σ → Prop) : Except ε α → σ → Prop
  | .ok a, s => post (.ok a) s
  | .error e, s => (handler e).Guarded c post s

section Rules

variable {post : Except ε α → σ → Prop} {s : σ}

@[simp] theorem guarded_done (result : Except ε α) :
    (.done result : Program Act Reply ε α).Guarded c post s ↔ post result s := Iff.rfl

@[simp] theorem guarded_pure (a : α) :
    (pure a : Program Act Reply ε α).Guarded c post s ↔ post (.ok a) s := Iff.rfl

@[simp] theorem guarded_raise (error : ε) :
    (raise error : Program Act Reply ε α).Guarded c post s ↔ post (.error error) s := Iff.rfl

@[simp] theorem guarded_result (x : Except ε α) :
    (result x : Program Act Reply ε α).Guarded c post s ↔ post x s := Iff.rfl

theorem guarded_require {refused : Prop} [Decidable refused] {error : ε}
    {post : Except ε Unit → σ → Prop} :
    (require refused error : Program Act Reply ε Unit).Guarded c post s ↔
      (refused → post (.error error) s) ∧ (¬ refused → post (.ok ()) s) := by
  by_cases h : refused
  · simp [require, h]
  · simp [require, h]

theorem guarded_call {action : Act} {post : Except ε (Reply action) → σ → Prop} :
    (call action : Program Act Reply ε (Reply action)).Guarded c post s ↔
      ∀ s₁, c.rely s s₁ → c.invariant s₁ →
        c.allowed s₁ action ∧ ∀ reply s', c.perform s₁ action reply s' → c.invariant s' →
          post (.ok reply) s' := Iff.rfl

/-- The rule of sequence. -/
theorem guarded_bind {p : Program Act Reply ε α} {f : α → Program Act Reply ε β}
    {post : Except ε β → σ → Prop} :
    (p >>= f).Guarded c post s ↔ p.Guarded c (Then c f post) s := by
  induction p generalizing s with
  | done result => cases result <;> rfl
  | act action next ih =>
    refine forall₃_congr fun s₁ _ _ => and_congr_right fun _ => ?_
    exact forall₄_congr fun reply s' _ _ => ih reply

theorem guarded_catching {p : Program Act Reply ε α} {handler : ε → Program Act Reply ε α} :
    (p.catching handler).Guarded c post s ↔ p.Guarded c (Handled c handler post) s := by
  induction p generalizing s with
  | done result => cases result <;> rfl
  | act action next ih =>
    refine forall₃_congr fun s₁ _ _ => and_congr_right fun _ => ?_
    exact forall₄_congr fun reply s' _ _ => ih reply

theorem guarded_attempt {p : Program Act Reply ε α} {post : Except ε (Except ε α) → σ → Prop} :
    p.attempt.Guarded c post s ↔ p.Guarded c (fun result => post (.ok result)) s := by
  induction p generalizing s with
  | done result => rfl
  | act action next ih =>
    refine forall₃_congr fun s₁ _ _ => and_congr_right fun _ => ?_
    exact forall₄_congr fun reply s' _ _ => ih reply

/-- The rule of consequence. -/
theorem guarded_mono {post' : Except ε α → σ → Prop} {p : Program Act Reply ε α}
    (h : ∀ result s, post result s → post' result s) (hp : p.Guarded c post s) :
    p.Guarded c post' s := by
  induction p generalizing s with
  | done result => exact h result s hp
  | act action next ih =>
    intro s₁ hrely hinvariant
    obtain ⟨hallowed, hnext⟩ := hp s₁ hrely hinvariant
    exact ⟨hallowed, fun reply s' hperform hkept => ih reply (hnext reply s' hperform hkept)⟩

/-- The rule of sequence from what the first part is known to end in. -/
theorem guarded_seq {p : Program Act Reply ε α} {f : α → Program Act Reply ε β}
    {Q : Except ε α → σ → Prop} {R : Except ε β → σ → Prop} (hp : p.Guarded c Q s)
    (hok : ∀ a s', Q (.ok a) s' → (f a).Guarded c R s')
    (herror : ∀ e s', Q (.error e) s' → R (.error e) s') : (p >>= f).Guarded c R s := by
  rw [guarded_bind]
  refine guarded_mono ?_ hp
  intro result s' hresult
  cases result with
  | ok a => exact hok a s' hresult
  | error e => exact herror e s' hresult

/-- The rule of sequence for a pure computation. -/
theorem guarded_result_seq {x : Except ε α} {f : α → Program Act Reply ε β}
    {R : Except ε β → σ → Prop} (hok : ∀ a, x = .ok a → (f a).Guarded c R s)
    (herror : ∀ e, R (.error e) s) : (result x >>= f).Guarded c R s := by
  cases x with
  | ok a => exact hok a rfl
  | error e => exact herror e

/-- What is done with the end of the first part. -/
theorem guarded_attempt_bind {p : Program Act Reply ε α} {f : Except ε α → Program Act Reply ε β}
    {R : Except ε β → σ → Prop} :
    (p.attempt >>= f).Guarded c R s ↔ p.Guarded c (fun result => (f result).Guarded c R) s := by
  rw [guarded_bind, guarded_attempt]
  rfl

/-- The rule of `finally`: what the body must end in. -/
theorem guarded_ensuring {p : Program Act Reply ε α} {cleanup : Program Act Reply ε Unit} :
    (p.ensuring cleanup).Guarded c post s ↔
      p.Guarded c (fun result => cleanup.Guarded c (Then c (fun _ => .done result) post)) s := by
  unfold ensuring
  rw [guarded_attempt_bind]
  constructor
  · intro h
    exact guarded_mono (fun _ _ hresult => guarded_bind.mp hresult) h
  · intro h
    exact guarded_mono (fun _ _ hresult => guarded_bind.mpr hresult) h

/-- A value was returned with `Q`, or an exception raised. -/
def Returns (Q : α → σ → Prop) : Except ε α → σ → Prop
  | .ok a, s => Q a s
  | .error _, _ => True

/-- The rule of sequence for what is returned. -/
theorem guarded_returns_bind {p : Program Act Reply ε α} {f : α → Program Act Reply ε β}
    {Q : α → σ → Prop} {R : β → σ → Prop} (hp : p.Guarded c (Returns Q) s)
    (hf : ∀ a s', Q a s' → (f a).Guarded c (Returns R) s') :
    (p >>= f).Guarded c (Returns R) s := by
  rw [guarded_bind]
  refine guarded_mono ?_ hp
  intro result s' hresult
  cases result with
  | ok a => exact hf a s' hresult
  | error e => trivial

theorem guarded_returns_require {refused : Prop} [Decidable refused] {error : ε}
    {Q : Unit → σ → Prop} (h : ¬ refused → Q () s) :
    (require refused error : Program Act Reply ε Unit).Guarded c (Returns Q) s :=
  guarded_require.mpr ⟨fun _ => trivial, h⟩

/-- A pure computation is judged for what it returns. -/
theorem guarded_result_bind {x : Except ε α} {f : α → Program Act Reply ε β} {R : β → σ → Prop}
    (h : ∀ a, x = .ok a → (f a).Guarded c (Returns R) s) :
    (result x >>= f).Guarded c (Returns R) s := by
  cases x with
  | ok a => exact h a rfl
  | error e => trivial

theorem guarded_require_bind {refused : Prop} [Decidable refused] {error : ε}
    {f : Unit → Program Act Reply ε β} {R : β → σ → Prop}
    (h : ¬ refused → (f ()).Guarded c (Returns R) s) :
    (require refused error >>= f).Guarded c (Returns R) s := by
  by_cases hrefused : refused
  · rw [require, if_pos hrefused]
    trivial
  · rw [require, if_neg hrefused]
    exact h hrefused

/-- `H` holds however the program ends, and `Q` of what it returns. -/
def Yields (H : σ → Prop) (Q : α → Prop) (result : Except ε α) (s : σ) : Prop :=
  H s ∧ ∀ a, result = .ok a → Q a

section

variable {H : σ → Prop} {Q : α → Prop} {R : β → Prop}

@[simp] theorem yields_ok {a : α} : Yields H Q (.ok a : Except ε α) s ↔ H s ∧ Q a := by
  simp [Yields]

@[simp] theorem yields_error {e : ε} : Yields H Q (.error e : Except ε α) s ↔ H s := by
  simp [Yields]

/-- The rule of sequence for what holds throughout. -/
theorem guarded_yields_seq {p : Program Act Reply ε α} {f : α → Program Act Reply ε β}
    {post : Except ε β → σ → Prop} (hp : p.Guarded c (Yields H Q) s)
    (herror : ∀ e s', H s' → post (.error e) s')
    (hf : ∀ a s', H s' → Q a → (f a).Guarded c post s') : (p >>= f).Guarded c post s := by
  apply guarded_seq hp
  · intro a s' h
    obtain ⟨hs', ha⟩ := yields_ok.mp h
    exact hf a s' hs' ha
  · intro e s' h
    exact herror e s' (yields_error.mp h)

theorem guarded_yields_bind {p : Program Act Reply ε α} {f : α → Program Act Reply ε β}
    (hp : p.Guarded c (Yields H Q) s)
    (hf : ∀ a s', H s' → Q a → (f a).Guarded c (Yields H R) s') :
    (p >>= f).Guarded c (Yields H R) s :=
  guarded_yields_seq hp (fun _ _ h => yields_error.mpr h) hf

/-- The rule of sequence for what the first part keeps. -/
theorem guarded_keeps_seq {p : Program Act Reply ε α} {f : α → Program Act Reply ε β}
    {post : Except ε β → σ → Prop} (hp : p.Guarded c (fun _ => H) s)
    (herror : ∀ e s', H s' → post (.error e) s')
    (hf : ∀ a s', H s' → (f a).Guarded c post s') : (p >>= f).Guarded c post s :=
  guarded_seq hp hf herror

theorem guarded_yields_result {x : Except ε α} (hs : H s) (h : ∀ a, x = .ok a → Q a) :
    (result x : Program Act Reply ε α).Guarded c (Yields H Q) s := ⟨hs, h⟩

theorem guarded_yields_require {refused : Prop} [Decidable refused] {error : ε} (hs : H s) :
    (require refused error : Program Act Reply ε Unit).Guarded c
      (Yields H fun _ => ¬ refused) s :=
  guarded_require.mpr ⟨fun _ => yields_error.mpr hs, fun h => yields_ok.mpr ⟨hs, h⟩⟩

theorem guarded_yields_pure {a : α} (hs : H s) (ha : Q a) :
    (pure a : Program Act Reply ε α).Guarded c (Yields H Q) s := yields_ok.mpr ⟨hs, ha⟩

end

/-- An action that may be performed whenever `P` holds, and keeps `P`. -/
def Contract.Keeps (c : Contract σ Act Reply) (P : σ → Prop) (action : Act) : Prop :=
  ∀ s, c.invariant s → P s → c.allowed s action ∧
    ∀ reply s', c.perform s action reply s' → c.invariant s' → P s'

/-- A program whose every action keeps `P` ends in `P`. -/
theorem guarded_of_keeps {P : σ → Prop} {p : Program Act Reply ε α}
    (hstable : ∀ s s₁, c.rely s s₁ → c.invariant s₁ → P s → P s₁) (hp : p.Uses (c.Keeps P))
    (hs : P s) : p.Guarded c (fun _ => P) s := by
  induction p generalizing s with
  | done result => exact hs
  | act action next ih =>
    intro s₁ hrely hinvariant
    obtain ⟨hallowed, hperform⟩ := hp.1 s₁ hinvariant (hstable s s₁ hrely hinvariant hs)
    exact ⟨hallowed, fun reply s' hreply hkept =>
      ih reply (hp.2 reply) (hperform reply s' hreply hkept)⟩

theorem guarded_keeps {P : σ → Prop} {p : Program Act Reply ε α}
    (hstable : ∀ s s₁, c.rely s s₁ → c.invariant s₁ → P s → P s₁) (hp : p.Uses (c.Keeps P))
    (hs : P s) : p.Guarded c (Returns fun _ => P) s := by
  refine guarded_mono ?_ (guarded_of_keeps hstable hp hs)
  intro result s' hP
  cases result with
  | ok a => exact hP
  | error e => trivial

/-- The rule of sequence for a first part whose every action keeps `P`. -/
theorem guarded_keeps_bind {P : σ → Prop} {p : Program Act Reply ε α}
    {f : α → Program Act Reply ε β} {R : β → σ → Prop}
    (hstable : ∀ s s₁, c.rely s s₁ → c.invariant s₁ → P s → P s₁) (hp : p.Uses (c.Keeps P))
    (hs : P s) (hf : ∀ a s', P s' → (f a).Guarded c (Returns R) s') :
    (p >>= f).Guarded c (Returns R) s :=
  guarded_returns_bind (guarded_keeps hstable hp hs) hf

/-- A guarded program stays guarded while others act. -/
theorem guarded_of_rely {p : Program Act Reply ε α} {s₁ : σ}
    (htrans : ∀ s₂, c.rely s₁ s₂ → c.rely s s₂)
    (hpost : ∀ result, post result s → post result s₁) (hp : p.Guarded c post s) :
    p.Guarded c post s₁ := by
  cases p with
  | done result => exact hpost result hp
  | act action next => exact fun s₂ hrely hinvariant => hp s₂ (htrans s₂ hrely) hinvariant

end Rules

/-! ## Two kinds of actions -/

section Kinds

variable {Act' : Type} {Reply' : Act' → Type} {σ : Type}

/-- The program, its actions being the first of two kinds. -/
def left : Program Act Reply ε α → Program (Act ⊕ Act') (Sum.elim Reply Reply') ε α
  | .done result => .done result
  | .act action next => .act (.inl action) (fun reply => (next reply).left)

/-- The program, its actions being the second of two kinds. -/
def right : Program Act' Reply' ε α → Program (Act ⊕ Act') (Sum.elim Reply Reply') ε α
  | .done result => .done result
  | .act action next => .act (.inr action) (fun reply => (next reply).right)

/-- What a contract says about the first kind. -/
def Contract.left (c : Contract σ (Act ⊕ Act') (Sum.elim Reply Reply')) :
    Contract σ Act Reply where
  invariant := c.invariant
  rely := c.rely
  perform s action reply s' := c.perform s (.inl action) reply s'
  allowed s action := c.allowed s (.inl action)

/-- What a contract says about the second kind. -/
def Contract.right (c : Contract σ (Act ⊕ Act') (Sum.elim Reply Reply')) :
    Contract σ Act' Reply' where
  invariant := c.invariant
  rely := c.rely
  perform s action reply s' := c.perform s (.inr action) reply s'
  allowed s action := c.allowed s (.inr action)

variable {c : Contract σ (Act ⊕ Act') (Sum.elim Reply Reply')} {post : Except ε α → σ → Prop}
  {s : σ}

theorem guarded_left {p : Program Act Reply ε α} :
    (p.left : Program (Act ⊕ Act') (Sum.elim Reply Reply') ε α).Guarded c post s ↔
      p.Guarded c.left post s := by
  induction p generalizing s with
  | done result => rfl
  | act action next ih =>
    refine forall₃_congr fun s₁ _ _ => and_congr_right fun _ => ?_
    exact forall₄_congr fun reply s' _ _ => ih reply

theorem guarded_right {p : Program Act' Reply' ε α} :
    (p.right : Program (Act ⊕ Act') (Sum.elim Reply Reply') ε α).Guarded c post s ↔
      p.Guarded c.right post s := by
  induction p generalizing s with
  | done result => rfl
  | act action next ih =>
    refine forall₃_congr fun s₁ _ _ => and_congr_right fun _ => ?_
    exact forall₄_congr fun reply s' _ _ => ih reply

end Kinds

/-! ## Traces -/

/-- An action that was performed, with its reply. -/
structure Event (Act : Type) (Reply : Act → Type) where
  action : Act
  reply : Reply action

/-- From one state the program performs these actions and ends in the other. -/
inductive Runs (perform : σ → (action : Act) → Reply action → σ → Prop) :
    Program Act Reply ε α → σ → List (Event Act Reply) → Except ε α → σ → Prop where
  | done (result : Except ε α) (s : σ) : Runs perform (.done result) s [] result s
  | act {action : Act} {next : Reply action → Program Act Reply ε α} {reply : Reply action}
      {s s₁ s' : σ} {trace : List (Event Act Reply)} {result : Except ε α}
      (hperform : perform s action reply s₁)
      (hnext : Runs perform (next reply) s₁ trace result s') :
      Runs perform (.act action next) s (⟨action, reply⟩ :: trace) result s'

section Traces

variable {perform : σ → (action : Act) → Reply action → σ → Prop} {s s' : σ}
  {trace : List (Event Act Reply)}

theorem runs_done {result result' : Except ε α}
    (h : (.done result : Program Act Reply ε α).Runs perform s trace result' s') :
    trace = [] ∧ result' = result ∧ s' = s := by
  cases h
  exact ⟨rfl, rfl, rfl⟩

/-- A sequence runs its first part, and then the rest unless that raised. -/
theorem runs_bind {p : Program Act Reply ε α} {f : α → Program Act Reply ε β}
    {result : Except ε β} (h : (p >>= f).Runs perform s trace result s') :
    (∃ before after a s₁, trace = before ++ after ∧ p.Runs perform s before (.ok a) s₁ ∧
      (f a).Runs perform s₁ after result s') ∨
    ∃ e, p.Runs perform s trace (.error e) s' ∧ result = .error e := by
  induction p generalizing s trace with
  | done first =>
    cases first with
    | ok a => exact .inl ⟨[], trace, a, s, rfl, .done _ _, h⟩
    | error e =>
      obtain ⟨rfl, rfl, rfl⟩ := runs_done h
      exact .inr ⟨e, .done _ _, rfl⟩
  | act action next ih =>
    cases h with
    | act hperform hnext =>
      rcases ih _ hnext with ⟨before, after, a, s₁, rfl, hfirst, hrest⟩ | ⟨e, hfirst, rfl⟩
      · exact .inl ⟨_ :: before, after, a, s₁, rfl, .act hperform hfirst, hrest⟩
      · exact .inr ⟨e, .act hperform hfirst, rfl⟩

/-- A run of the first part and one of the rest make a run of the sequence. -/
theorem Runs.bind {p : Program Act Reply ε α} {f : α → Program Act Reply ε β} {a : α} {s₁ : σ}
    {after : List (Event Act Reply)} {result : Except ε β}
    (h : p.Runs perform s trace (.ok a) s₁) (hf : (f a).Runs perform s₁ after result s') :
    (p >>= f).Runs perform s (trace ++ after) result s' := by
  generalize hfirst : Except.ok a = first at h
  induction h with
  | done first s =>
    subst hfirst
    exact hf
  | act hperform hnext ih => exact .act hperform (ih hf hfirst)

/-- A sequence that begins with one action. -/
theorem runs_call_bind {action : Act} {f : Reply action → Program Act Reply ε β}
    {result : Except ε β} (h : (call action >>= f).Runs perform s trace result s') :
    ∃ reply s₁ after, trace = ⟨action, reply⟩ :: after ∧ perform s action reply s₁ ∧
      (f reply).Runs perform s₁ after result s' := by
  cases h with
  | act hperform hnext => exact ⟨_, _, _, rfl, hperform, hnext⟩

/-- A sequence that begins with a computation. -/
theorem runs_result_bind {x : Except ε α} {f : α → Program Act Reply ε β} {ended : Except ε β}
    (h : (result x >>= f).Runs perform s trace ended s') :
    (∃ e, x = .error e ∧ trace = [] ∧ ended = .error e ∧ s' = s) ∨
      ∃ a, x = .ok a ∧ (f a).Runs perform s trace ended s' := by
  cases x with
  | ok a => exact .inr ⟨a, rfl, h⟩
  | error e =>
    obtain ⟨rfl, rfl, rfl⟩ := runs_done h
    exact .inl ⟨e, rfl, rfl, rfl, rfl⟩

/-- A sequence that begins with a check. -/
theorem runs_require_bind {refused : Prop} [Decidable refused] {error : ε}
    {f : Unit → Program Act Reply ε β} {ended : Except ε β}
    (h : (require refused error >>= f).Runs perform s trace ended s') :
    (refused ∧ trace = [] ∧ ended = .error error ∧ s' = s) ∨
      (¬ refused ∧ (f ()).Runs perform s trace ended s') := by
  by_cases hrefused : refused
  · rw [require, if_pos hrefused] at h
    obtain ⟨rfl, rfl, rfl⟩ := runs_done h
    exact .inl ⟨hrefused, rfl, rfl, rfl⟩
  · rw [require, if_neg hrefused] at h
    exact .inr ⟨hrefused, h⟩

/-- A `try` statement runs its body, and then the handler if that raised. -/
theorem runs_catching {p : Program Act Reply ε α} {handler : ε → Program Act Reply ε α}
    {ended : Except ε α} (h : (p.catching handler).Runs perform s trace ended s') :
    (∃ a, ended = .ok a ∧ p.Runs perform s trace (.ok a) s') ∨
      ∃ before after e s₁, trace = before ++ after ∧ p.Runs perform s before (.error e) s₁ ∧
        (handler e).Runs perform s₁ after ended s' := by
  induction p generalizing s trace with
  | done first =>
    cases first with
    | ok a =>
      obtain ⟨rfl, rfl, rfl⟩ := runs_done h
      exact .inl ⟨a, rfl, .done _ _⟩
    | error e => exact .inr ⟨[], trace, e, s, rfl, .done _ _, h⟩
  | act action next ih =>
    cases h with
    | act hperform hnext =>
      rcases ih _ hnext with ⟨a, rfl, hbody⟩ | ⟨before, after, e, s₁, rfl, hbody, hrest⟩
      · exact .inl ⟨a, rfl, .act hperform hbody⟩
      · exact .inr ⟨_ :: before, after, e, s₁, rfl, .act hperform hbody, hrest⟩

/-- The program ends by raising. -/
def Raising : Program Act Reply ε α → Prop
  | .done (.ok _) => False
  | .done (.error _) => True
  | .act _ next => ∀ reply, (next reply).Raising

theorem raising_raise (error : ε) : (raise error : Program Act Reply ε α).Raising := trivial

theorem raising_bind {p : Program Act Reply ε α} {f : α → Program Act Reply ε β}
    (hf : ∀ a, (f a).Raising) : (p >>= f).Raising := by
  induction p with
  | done first =>
    cases first with
    | ok a => exact hf a
    | error e => trivial
  | act action next ih => exact ih

theorem Raising.runs {p : Program Act Reply ε α} (hp : p.Raising) {ended : Except ε α}
    (h : p.Runs perform s trace ended s') : ∃ e, ended = .error e := by
  induction h with
  | done ended s =>
    cases ended with
    | ok a => exact hp.elim
    | error e => exact ⟨e, rfl⟩
  | act hperform hnext ih => exact ih (hp _)

/-- A `try` statement whose handler raises returned what its body returned. -/
theorem runs_catching_ok {p : Program Act Reply ε α} {handler : ε → Program Act Reply ε α}
    (hhandler : ∀ e, (handler e).Raising) {a : α}
    (h : (p.catching handler).Runs perform s trace (.ok a) s') :
    p.Runs perform s trace (.ok a) s' := by
  rcases runs_catching h with ⟨a', ha, hbody⟩ | ⟨before, after, e, s₁, -, -, hrest⟩
  · exact Except.ok.inj ha ▸ hbody
  · obtain ⟨e', he⟩ := (hhandler e).runs hrest
    cases he

/-- A trace holds only actions the program can perform. -/
theorem Runs.uses {P : Act → Prop} {p : Program Act Reply ε α} {result : Except ε α}
    (h : p.Runs perform s trace result s') (hp : p.Uses P) : ∀ event ∈ trace, P event.action := by
  induction h with
  | done result s => simp
  | act hperform hnext ih =>
    intro event hevent
    rcases List.mem_cons.mp hevent with rfl | hevent
    · exact hp.1
    · exact ih (hp.2 _) event hevent

/-- What every action of a program keeps holds at its end. -/
theorem Runs.keeps {P : Act → Prop} {Q : σ → Prop} {p : Program Act Reply ε α}
    {result : Except ε α} (h : p.Runs perform s trace result s') (hp : p.Uses P)
    (hkeeps : ∀ s action reply s', P action → perform s action reply s' → Q s → Q s')
    (hs : Q s) : Q s' := by
  induction h with
  | done result s => exact hs
  | act hperform hnext ih => exact ih (hp.2 _) (hkeeps _ _ _ _ hp.1 hperform hs)

theorem Runs.mono {perform' : σ → (action : Act) → Reply action → σ → Prop}
    {p : Program Act Reply ε α} {result : Except ε α} (h : p.Runs perform s trace result s')
    (hsub : ∀ s action reply s', perform s action reply s' → perform' s action reply s') :
    p.Runs perform' s trace result s' := by
  induction h with
  | done result s => exact .done result s
  | act hperform hnext ih => exact .act (hsub _ _ _ _ hperform) ih

end Traces

end Program

end AegisOt
