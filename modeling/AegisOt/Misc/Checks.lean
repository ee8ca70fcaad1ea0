import Mathlib.Data.List.Forall2
import Mathlib.Order.Basic
import Mathlib.Tactic.Common

/-!
# Guarded computations

A Python method that validates its input is a sequence of `if bad: raise error` statements
followed by a result. `refuseIf` is one such statement in the `Except` monad, and the lemmas
below read a successful run back as the conjunction of all the checks it passed, and bound
what a failing one raises (`Raises`). Nothing here names a program: the error type and the
guarded value are arbitrary.
-/

namespace AegisOt

/-- A bounded search goes through its list, also where the items are of a finite type. -/
instance (priority := 3000) decidableExistsMem {α : Type} (p : α → Prop) [DecidablePred p]
    (items : List α) : Decidable (∃ x, x ∈ items ∧ p x) := List.decidableBEx p items

/-- Files are compared byte by byte. -/
instance (priority := 3000) decidableEqByteArray : DecidableEq ByteArray :=
  ByteArray.instDecidableEq

/-- Membership in a list of texts is decided with this. -/
instance (priority := 3000) lawfulBEqText : LawfulBEq (List Char) := List.instLawfulBEq

/-- One guard of the source, `if refused: raise error`. -/
def refuseIf {ε : Type} (refused : Prop) [Decidable refused] (error : ε) : Except ε Unit :=
  if refused then .error error else .ok ()

/-- `if bad: reasons.append(reason)`. -/
def reasonIf (bad : Prop) [Decidable bad] (reason : String) : List String :=
  if bad then [reason] else []

@[simp] theorem reasonIf_eq_nil {bad : Prop} [Decidable bad] {reason : String} :
    reasonIf bad reason = [] ↔ ¬ bad := by
  unfold reasonIf
  split <;> simp_all

/-- Read an optional value or raise. -/
def orRaise {ε α : Type} (value : Option α) (error : ε) : Except ε α :=
  match value with
  | some a => .ok a
  | none => .error error

section

variable {ε α β : Type}

/-- The `Except` bind read backwards: a successful run ran both parts. -/
@[simp] theorem bind_eq_ok {x : Except ε α} {f : α → Except ε β} {b : β} :
    (x >>= f) = .ok b ↔ ∃ a, x = .ok a ∧ f a = .ok b := by
  cases x with
  | error e => simp [bind, Except.bind]
  | ok a => simp [bind, Except.bind]

@[simp] theorem ok_bind (a : α) (f : α → Except ε β) : (Except.ok a >>= f) = f a := rfl

@[simp] theorem error_bind (e : ε) (f : α → Except ε β) :
    ((Except.error e : Except ε α) >>= f) = .error e := rfl

/-- A statement has no result to bind. -/
@[simp high] theorem bind_unit_eq_ok {x : Except ε Unit} {f : Unit → Except ε β} {b : β} :
    (x >>= f) = .ok b ↔ x = .ok () ∧ f () = .ok b := by
  rw [bind_eq_ok]
  constructor
  · rintro ⟨⟨⟩, hx, hf⟩
    exact ⟨hx, hf⟩
  · rintro ⟨hx, hf⟩
    exact ⟨(), hx, hf⟩

theorem ite_eq_ok {c : Prop} [Decidable c] {x y : Except ε α} {a : α} :
    (if c then x else y) = .ok a ↔ (c → x = .ok a) ∧ (¬ c → y = .ok a) := by
  split <;> simp_all

/-- A failing run failed in its first part, or after it. -/
theorem map_eq_ok {x : Except ε α} {f : α → β} {b : β} :
    x.map f = .ok b ↔ ∃ a, x = .ok a ∧ f a = b := by
  cases x <;> simp [Except.map]

theorem toOption_eq_some {x : Except ε α} {a : α} : x.toOption = some a ↔ x = .ok a := by
  cases x <;> simp [Except.toOption]

@[simp] theorem mapError_eq_ok {ε' : Type} {x : Except ε α} {f : ε → ε'} {a : α} :
    x.mapError f = .ok a ↔ x = .ok a := by
  cases x <;> simp [Except.mapError]

theorem mapError_eq_error {ε' : Type} {x : Except ε α} {f : ε → ε'} {e : ε'} :
    x.mapError f = .error e ↔ ∃ cause, x = .error cause ∧ f cause = e := by
  cases x <;> simp [Except.mapError]

/-- A loop that raises nothing gives the result of every item. -/
theorem mapM_eq_ok {f : α → Except ε β} {items : List α} {results : List β} :
    items.mapM f = .ok results ↔ List.Forall₂ (fun item result => f item = .ok result) items
      results := by
  induction items generalizing results with
  | nil =>
    rw [List.mapM_nil, List.forall₂_nil_left_iff]
    exact ⟨fun h => (Except.ok.inj h).symm, fun h => congrArg _ h.symm⟩
  | cons item rest ih =>
    simp only [List.mapM_cons, bind_eq_ok, ih, List.forall₂_cons_left_iff]
    constructor
    · rintro ⟨result, hresult, results', hrest, hresults⟩
      exact ⟨result, results', hresult, hrest, (Except.ok.inj hresults).symm⟩
    · rintro ⟨result, results', hresult, hrest, rfl⟩
      exact ⟨result, hresult, results', hrest, rfl⟩

/-- A loop of checks passes if every item does. -/
theorem forM_eq_ok {f : α → Except ε Unit} {items : List α} :
    items.forM f = .ok () ↔ ∀ item ∈ items, f item = .ok () := by
  induction items with
  | nil => exact ⟨fun _ _ hitem => (List.not_mem_nil hitem).elim, fun _ => rfl⟩
  | cons item rest ih =>
    change (f item >>= fun _ => rest.forM f) = .ok () ↔ _
    rw [bind_unit_eq_ok, ih, List.forall_mem_cons]

/-- The rule of loops: what holds of the items so far holds of all of them behind the loop. -/
theorem foldlM_ok {f : β → α → Except ε β} {P : List α → β → Prop} {items : List α} {s : β}
    (hstart : P [] s)
    (hstep : ∀ done item rest s, items = done ++ item :: rest → P done s →
      ∃ s', f s item = .ok s' ∧ P (done ++ [item]) s') :
    ∃ s', items.foldlM f s = .ok s' ∧ P items s' := by
  have hfrom (rest : List α) : ∀ done s, items = done ++ rest → P done s →
      ∃ s', rest.foldlM f s = .ok s' ∧ P items s' := by
    induction rest with
    | nil =>
      intro done s hitems hdone
      rw [hitems, List.append_nil]
      exact ⟨s, rfl, hdone⟩
    | cons item rest ih =>
      intro done s hitems hdone
      obtain ⟨s₁, hitem, hdone₁⟩ := hstep done item rest s hitems hdone
      obtain ⟨s', hrest, hall⟩ := ih (done ++ [item]) s₁ (by simp [hitems]) hdone₁
      exact ⟨s', by rw [List.foldlM_cons, hitem]; exact hrest, hall⟩
  exact hfrom items [] s rfl hstart

/-- A loop whose passes raise nothing is a fold, with an invariant that says why they do not. -/
theorem foldlM_eq_ok {f : β → α → Except ε β} {g : β → α → β} {I : β → Prop} {items : List α}
    {s : β} (hs : I s)
    (h : ∀ item ∈ items, ∀ s, I s → f s item = .ok (g s item) ∧ I (g s item)) :
    items.foldlM f s = .ok (items.foldl g s) ∧ I (items.foldl g s) := by
  induction items generalizing s with
  | nil => exact ⟨rfl, hs⟩
  | cons item rest ih =>
    obtain ⟨hitem, hinvariant⟩ := h item List.mem_cons_self s hs
    rw [List.foldlM_cons, hitem, ok_bind, List.foldl_cons]
    exact ih hinvariant fun other hother => h other (List.mem_cons_of_mem _ hother)

/-- A loop that raises nothing went through every item. -/
theorem of_foldlM_eq_ok {f : β → α → Except ε β} {items : List α} {s s' : β}
    (h : items.foldlM f s = .ok s') :
    ∀ item ∈ items, ∃ before after, f before item = .ok after := by
  induction items generalizing s with
  | nil => simp
  | cons item rest ih =>
    rw [List.foldlM_cons] at h
    obtain ⟨s₁, hitem, hrest⟩ := bind_eq_ok.mp h
    intro other hother
    rcases List.mem_cons.mp hother with rfl | hother
    · exact ⟨s, s₁, hitem⟩
    · exact ih hrest other hother

/-- What stands on the right of such lists has a partner on the left. -/
theorem exists_mem_of_forall₂ {R : α → β → Prop} {left : List α} {right : List β}
    (h : List.Forall₂ R left right) {b : β} (hb : b ∈ right) : ∃ a ∈ left, R a b := by
  induction h with
  | nil => cases hb
  | cons hr _ ih =>
    rcases List.mem_cons.mp hb with rfl | hb
    · exact ⟨_, List.mem_cons_self, hr⟩
    · obtain ⟨a, ha, hrelated⟩ := ih hb
      exact ⟨a, List.mem_cons_of_mem _ ha, hrelated⟩

theorem bind_eq_error {x : Except ε α} {f : α → Except ε β} {e : ε} :
    (x >>= f) = .error e ↔ x = .error e ∨ ∃ a, x = .ok a ∧ f a = .error e := by
  cases x with
  | error e' => simp [bind, Except.bind]
  | ok a => simp [bind, Except.bind]

@[simp] theorem pure_eq_ok (a : α) : (pure a : Except ε α) = .ok a := rfl

@[simp] theorem throw_eq_error (e : ε) : (throw e : Except ε α) = .error e := rfl

@[simp] theorem refuseIf_eq_ok {c : Prop} [Decidable c] {e : ε} {u : Unit} :
    refuseIf c e = .ok u ↔ ¬ c := by
  unfold refuseIf
  split <;> simp_all

@[simp] theorem refuseIf_eq_error {c : Prop} [Decidable c] {e e' : ε} :
    refuseIf c e = .error e' ↔ c ∧ e = e' := by
  unfold refuseIf
  split <;> simp_all

theorem refuseIf_neg {c : Prop} [Decidable c] {e : ε} (h : ¬ c) : refuseIf c e = .ok () := by
  simp [h]

theorem refuseIf_pos {c : Prop} [Decidable c] {e : ε} (h : c) : refuseIf c e = .error e := by
  simp [h]

@[simp] theorem orRaise_eq_ok {v : Option α} {e : ε} {a : α} :
    orRaise v e = .ok a ↔ v = some a := by
  cases v <;> simp [orRaise]

@[simp] theorem orRaise_eq_error {v : Option α} {e e' : ε} :
    orRaise v e = .error e' ↔ v = none ∧ e = e' := by
  cases v <;> simp [orRaise]

/-! ## What a computation may raise -/

/-- Every exception of the computation satisfies `P`. -/
def Raises (P : ε → Prop) (x : Except ε α) : Prop := ∀ e, x = .error e → P e

variable {P : ε → Prop}

@[simp] theorem raises_ok (a : α) : Raises P (.ok a) := by
  intro e h
  cases h

@[simp] theorem raises_pure (a : α) : Raises P (pure a) := raises_ok a

@[simp] theorem raises_error {e : ε} : Raises P (.error e : Except ε α) ↔ P e := by
  constructor
  · intro h
    exact h e rfl
  · intro h e' he'
    rw [← Except.error.inj he']
    exact h

@[simp] theorem raises_throw {e : ε} : Raises P (throw e : Except ε α) ↔ P e := raises_error

@[simp] theorem raises_bind {x : Except ε α} {f : α → Except ε β} :
    Raises P (x >>= f) ↔ Raises P x ∧ ∀ a, x = .ok a → Raises P (f a) := by
  cases x with
  | error e => simp
  | ok a => simp

@[simp] theorem raises_refuseIf {c : Prop} [Decidable c] {e : ε} :
    Raises P (refuseIf c e) ↔ (c → P e) := by
  by_cases hc : c
  · simp [refuseIf, hc]
  · simp [refuseIf, hc]

@[simp] theorem raises_orRaise {v : Option α} {e : ε} :
    Raises P (orRaise v e) ↔ (v = none → P e) := by
  cases v <;> simp [orRaise]

theorem raises_map {x : Except ε α} (h : Raises P x) (f : α → β) : Raises P (x.map f) := by
  cases x with
  | error e => exact raises_error.mpr (h e rfl)
  | ok a => exact raises_ok _

end

end AegisOt
