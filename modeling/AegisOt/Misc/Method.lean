import AegisOt.Misc.Checks

/-!
# Methods of an object

A Python method reads and assigns the fields of its object and may raise at any point; what it
assigned before it raised stays assigned. `Method` is such a body over an object state `σ`, and
`call` runs it: it gives the result or the exception together with the state that is left.
`Atomic` says that a body that raises leaves the state it found, and its rules follow the order
of the statements: everything that can raise has to come before the assignments.
-/

namespace AegisOt

/-- A method body over the object state `σ` that may raise `ε`. -/
abbrev Method (σ ε α : Type) := ExceptT ε (StateM σ) α

namespace Method

variable {σ ε α β : Type}

/-- Run a method on an object: its result or exception, and the object afterwards. -/
def call (body : Method σ ε α) (s : σ) : Except ε α × σ := StateT.run (ExceptT.run body) s

/-- A part of a method that only computes. -/
def check (x : Except ε α) : Method σ ε α := ExceptT.mk (pure x)

/-- Read the object. -/
def self : Method σ ε σ := get

/-- Assign fields of the object. -/
def assign (f : σ → σ) : Method σ ε Unit := modify f

/-- `try: … except …: handler`; what was assigned before the exception stays assigned. -/
def catching (body : Method σ ε α) (handler : ε → Method σ ε α) : Method σ ε α :=
  tryCatch body handler

@[simp] theorem call_pure (a : α) (s : σ) :
    call (pure a : Method σ ε α) s = (.ok a, s) := rfl

@[simp] theorem call_check (x : Except ε α) (s : σ) : call (check x) s = (x, s) := rfl

@[simp] theorem call_self (s : σ) : call (self : Method σ ε σ) s = (.ok s, s) := rfl

@[simp] theorem call_assign (f : σ → σ) (s : σ) :
    call (assign f : Method σ ε Unit) s = (.ok (), f s) := rfl

theorem call_bind (m : Method σ ε α) (f : α → Method σ ε β) (s : σ) :
    call (m >>= f) s =
      match call m s with
      | (.ok a, s') => call (f a) s'
      | (.error e, s') => (.error e, s') := by
  unfold call
  rw [ExceptT.run_bind, StateT.run_bind]
  rcases hm : StateT.run (ExceptT.run m) s with ⟨r, mid⟩
  cases r <;> rfl

theorem call_catching (body : Method σ ε α) (handler : ε → Method σ ε α) (s : σ) :
    call (body.catching handler) s =
      match call body s with
      | (.ok a, s') => (.ok a, s')
      | (.error e, s') => call (handler e) s' := by
  unfold catching call
  rw [ExceptT.run_tryCatch, StateT.run_bind]
  rcases hbody : StateT.run (ExceptT.run body) s with ⟨r, after⟩
  cases r <;> rfl

/-- A returning sequence returned from both parts. -/
theorem call_bind_eq_ok {m : Method σ ε α} {f : α → Method σ ε β} {s s' : σ} {b : β} :
    call (m >>= f) s = (.ok b, s') ↔
      ∃ a mid, call m s = (.ok a, mid) ∧ call (f a) mid = (.ok b, s') := by
  rw [call_bind]
  rcases call m s with ⟨r, mid⟩
  cases r with
  | ok a =>
    constructor
    · intro h
      exact ⟨a, mid, rfl, h⟩
    · rintro ⟨a', mid', ha, h⟩
      cases ha
      exact h
  | error e => simp

/-- A raising sequence raised in its first part or after it. -/
theorem call_bind_eq_error {m : Method σ ε α} {f : α → Method σ ε β} {s s' : σ} {e : ε} :
    call (m >>= f) s = (.error e, s') ↔
      call m s = (.error e, s') ∨
        ∃ a mid, call m s = (.ok a, mid) ∧ call (f a) mid = (.error e, s') := by
  rw [call_bind]
  rcases call m s with ⟨r, mid⟩
  cases r with
  | ok a =>
    constructor
    · intro h
      exact .inr ⟨a, mid, rfl, h⟩
    · rintro (ha | ⟨a', mid', ha, h⟩)
      · cases ha
      · cases ha
        exact h
  | error e' => simp

/-- A returning check is a computation that returned. -/
theorem call_check_bind_eq_ok {x : Except ε α} {f : α → Method σ ε β} {s s' : σ} {b : β} :
    call (check x >>= f) s = (.ok b, s') ↔ ∃ a, x = .ok a ∧ call (f a) s = (.ok b, s') := by
  rw [call_bind_eq_ok]
  constructor
  · rintro ⟨a, mid, ha, h⟩
    rw [call_check, Prod.mk.injEq] at ha
    obtain ⟨hx, rfl⟩ := ha
    exact ⟨a, hx, h⟩
  · rintro ⟨a, hx, h⟩
    exact ⟨a, s, by rw [call_check, hx], h⟩

@[simp] theorem call_self_bind (f : σ → Method σ ε β) (s : σ) :
    call (self >>= f) s = call (f s) s := by
  rw [call_bind]
  rfl

@[simp] theorem call_assign_bind (g : σ → σ) (f : Unit → Method σ ε β) (s : σ) :
    call (assign g >>= f) s = call (f ()) (g s) := by
  rw [call_bind]
  rfl

/-! ## Bodies that leave the object alone when they raise -/

/-- The body never assigns. -/
def Reads (body : Method σ ε α) : Prop := ∀ s, (call body s).2 = s

/-- The body never raises. -/
def Total (body : Method σ ε α) : Prop := ∀ s, ∃ a s', call body s = (.ok a, s')

/-- The object is as before when the body raised. -/
def Atomic (body : Method σ ε α) : Prop := ∀ s e s', call body s = (.error e, s') → s' = s

theorem reads_check (x : Except ε α) : Reads (check x : Method σ ε α) := fun _ => rfl

theorem reads_self : Reads (self : Method σ ε σ) := fun _ => rfl

theorem total_assign_pure (g : σ → σ) (a : α) :
    Total (assign g >>= fun _ => pure a : Method σ ε α) := by
  intro s
  exact ⟨a, g s, by rw [call_assign_bind, call_pure]⟩

/-- A first part that only reads ends the sequence or leaves the object to the rest. -/
theorem Reads.call_bind_cases {m : Method σ ε α} (hm : Reads m) (f : α → Method σ ε β) (s : σ) :
    (∃ e, call m s = (.error e, s) ∧ call (m >>= f) s = (.error e, s)) ∨
      ∃ a, call m s = (.ok a, s) ∧ call (m >>= f) s = call (f a) s := by
  have hs := hm s
  rw [call_bind]
  rcases hcall : call m s with ⟨result, after⟩
  rw [hcall] at hs
  obtain rfl : after = s := hs
  cases result with
  | error e => exact .inl ⟨e, rfl, rfl⟩
  | ok a => exact .inr ⟨a, rfl, rfl⟩

theorem Reads.bind {m : Method σ ε α} {f : α → Method σ ε β} (hm : Reads m)
    (hf : ∀ a, Reads (f a)) : Reads (m >>= f) := by
  intro s
  rcases hm.call_bind_cases f s with ⟨e, -, hcall⟩ | ⟨a, -, hcall⟩
  · rw [hcall]
  · rw [hcall]
    exact hf a s

theorem Total.atomic {body : Method σ ε α} (h : Total body) : Atomic body := by
  intro s e s' hraised
  obtain ⟨a, t, hok⟩ := h s
  rw [hok] at hraised
  cases hraised

theorem Reads.atomic {body : Method σ ε α} (h : Reads body) : Atomic body := by
  intro s e s' hraised
  have hs := h s
  rw [hraised] at hs
  exact hs

/-- Checks may come before an atomic rest. -/
theorem Reads.atomic_bind {m : Method σ ε α} {f : α → Method σ ε β} (hm : Reads m)
    (hf : ∀ a, Atomic (f a)) : Atomic (m >>= f) := by
  intro s e s' hraised
  rcases call_bind_eq_error.mp hraised with hfirst | ⟨a, mid, hfirst, hrest⟩
  · exact hm.atomic s e s' hfirst
  · have hmid : mid = s := by
      have hs := hm s
      rw [hfirst] at hs
      exact hs
    rw [hmid] at hrest
    exact hf a s e s' hrest

end Method

end AegisOt
