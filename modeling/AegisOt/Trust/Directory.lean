import AegisOt.Trust.TrustStore
import Mathlib.Data.List.Infix
import Mathlib.Logic.Function.Basic

/-!
# The shared trust directory

What the actions of a verifier do to the directory, and the discipline they keep: only the holder of
the stable lock replaces the checkpoint, only by a newer one, and only the bundle of the checkpoint
is admitted. `Perform.kept` says what that comes to for everyone else. A process that dies releases
its lock and loses its attributes, and leaves everything else where it was.
-/

namespace AegisOt

/-! ## The shared directory -/

/-- The directory, the attributes of the verifiers that use it, and the bundles that were admitted,
    oldest first. -/
structure TrustDirectory (ι : Type) where
  checkpoint : Option ByteArray
  lockPresent : Bool
  temporaries : Nat
  /-- Who holds the stable lock. -/
  holder : Option ι
  memory : ι → VerifierMemory
  admitted : List (ℤ × String)

namespace TrustDirectory

section

variable {ι : Type}

/-- A directory that new verifiers find. -/
def found (checkpoint : Option ByteArray) (lockPresent : Bool) (temporaries : Nat) :
    TrustDirectory ι :=
  ⟨checkpoint, lockPresent, temporaries, none, fun _ => .initial, []⟩

/-- `os.listdir`. -/
def entries (d : TrustDirectory ι) : DirectoryEntries :=
  ⟨d.checkpoint.isSome, d.lockPresent, decide (d.temporaries ≠ 0)⟩

/-- What a verifier can count on: its lock, and the checkpoint while it holds it. -/
structure Rely (i : ι) (d d' : TrustDirectory ι) : Prop where
  holder : d'.holder = some i ↔ d.holder = some i
  checkpoint : d.holder = some i → d'.checkpoint = d.checkpoint
  admitted : d.admitted <+: d'.admitted

theorem Rely.refl (i : ι) (d : TrustDirectory ι) : d.Rely i d :=
  ⟨Iff.rfl, fun _ => rfl, List.prefix_refl _⟩

theorem Rely.trans {i : ι} {d d₁ d₂ : TrustDirectory ι} (h : d.Rely i d₁) (h' : d₁.Rely i d₂) :
    d.Rely i d₂ where
  holder := h'.holder.trans h.holder
  checkpoint hheld := (h'.checkpoint (h.holder.mpr hheld)).trans (h.checkpoint hheld)
  admitted := h.admitted.trans h'.admitted

/-- Nothing but the lock, the lock file, the temporary files and the attributes changes. -/
structure Quiet (i : ι) (d d' : TrustDirectory ι) : Prop where
  checkpoint : d'.checkpoint = d.checkpoint
  admitted : d'.admitted = d.admitted
  holder : ∀ j, j ≠ i → (d'.holder = some j ↔ d.holder = some j)

theorem Quiet.refl (i : ι) (d : TrustDirectory ι) : Quiet i d d := ⟨rfl, rfl, fun _ _ => Iff.rfl⟩

/-- Admissions never go back, and one sequence is admitted with one digest. -/
def Ordered (a b : ℤ × String) : Prop := a.1 ≤ b.1 ∧ (a.1 = b.1 → a.2 = b.2)

end

/-! ## What holds of every step -/

section

variable [TrustStatePrimitives] {ι : Type}

/-- The checkpoint holds this state. -/
def Stores (d : TrustDirectory ι) (state : WorkloadTrustSequenceState) : Prop :=
  ∃ bytes, d.checkpoint = some bytes ∧ WorkloadTrustSequenceState.parse bytes = .ok state

/-- One stored state is older than another one. -/
def Older (bytes bytes' : ByteArray) : Prop :=
  ∃ state state', WorkloadTrustSequenceState.parse bytes = .ok state ∧
    WorkloadTrustSequenceState.parse bytes' = .ok state' ∧
      state.highestSequence < state'.highestSequence

/-- How the directory may go on: a checkpoint is only replaced by a newer one. -/
structure Advances (d d' : TrustDirectory ι) : Prop where
  checkpoint : ∀ bytes, d.checkpoint = some bytes →
    ∃ bytes', d'.checkpoint = some bytes' ∧ (bytes' = bytes ∨ Older bytes bytes')
  admitted : d.admitted <+: d'.admitted

theorem Advances.refl (d : TrustDirectory ι) : d.Advances d :=
  ⟨fun bytes h => ⟨bytes, h, .inl rfl⟩, List.prefix_refl _⟩

theorem Advances.trans {d d₁ d₂ : TrustDirectory ι} (h : d.Advances d₁) (h' : d₁.Advances d₂) :
    d.Advances d₂ := by
  refine ⟨?_, h.admitted.trans h'.admitted⟩
  intro bytes hbytes
  obtain ⟨bytes₁, hbytes₁, hfirst⟩ := h.checkpoint bytes hbytes
  obtain ⟨bytes₂, hbytes₂, hsecond⟩ := h'.checkpoint bytes₁ hbytes₁
  refine ⟨bytes₂, hbytes₂, ?_⟩
  rcases hfirst with rfl | ⟨state, state₁, hstate, hstate₁, hlt⟩
  · exact hsecond
  · rcases hsecond with rfl | ⟨state₁', state₂, hstate₁', hstate₂, hlt'⟩
    · exact .inr ⟨state, state₁, hstate, hstate₁, hlt⟩
    · obtain rfl := Except.ok.inj (hstate₁.symm.trans hstate₁')
      exact .inr ⟨state, state₂, hstate, hstate₂, hlt.trans hlt'⟩

/-- The checkpoint has seen everything that was admitted. -/
structure Consistent (d : TrustDirectory ι) : Prop where
  seen : ∀ p ∈ d.admitted, ∃ state, d.Stores state ∧
    Ordered p (state.highestSequence, state.highestBundleSha256)
  ordered : d.admitted.Pairwise Ordered

theorem consistent_found (checkpoint : Option ByteArray) (lockPresent : Bool) (temporaries : Nat) :
    (found checkpoint lockPresent temporaries : TrustDirectory ι).Consistent :=
  ⟨by nofun, List.Pairwise.nil⟩

/-- What a verifier may do: it replaces the checkpoint only under the lock and only by a newer one,
    and admits only what the checkpoint holds. -/
def Allowed (i : ι) (d : TrustDirectory ι) : TrustAct → Prop
  | .operate (.replaceCheckpoint material) => d.holder = some i ∧
      ∃ state, WorkloadTrustSequenceState.parse material = .ok state ∧
        ∀ bytes, d.checkpoint = some bytes → Older bytes material
  | .admitBundle sequence bundleSha256 => d.holder = some i ∧
      ∃ state, d.Stores state ∧ state.highestSequence = sequence ∧
        state.highestBundleSha256 = bundleSha256
  | _ => True

/-- What every step of one verifier comes to for the others. -/
def Kept (i : ι) (d d' : TrustDirectory ι) : Prop :=
  d'.Consistent ∧ d.Advances d' ∧ ∀ j, j ≠ i → d.Rely j d'

theorem Quiet.kept {i : ι} {d d' : TrustDirectory ι} (h : Quiet i d d') (hd : d.Consistent) :
    Kept i d d' := by
  have hadmitted : d.admitted <+: d'.admitted := by
    rw [h.admitted]
  refine ⟨⟨?_, ?_⟩, ⟨?_, hadmitted⟩, ?_⟩
  · intro p hp
    rw [h.admitted] at hp
    obtain ⟨state, ⟨bytes, hbytes, hstate⟩, hordered⟩ := hd.seen p hp
    exact ⟨state, ⟨bytes, h.checkpoint.trans hbytes, hstate⟩, hordered⟩
  · rw [h.admitted]
    exact hd.ordered
  · intro bytes hbytes
    exact ⟨bytes, h.checkpoint.trans hbytes, .inl rfl⟩
  · intro j hj
    exact ⟨h.holder j hj, fun _ => h.checkpoint, hadmitted⟩

omit [TrustStatePrimitives] in
/-- The lock excludes the others from the checkpoint. -/
theorem not_held {i j : ι} {d : TrustDirectory ι} (hheld : d.holder = some i) (hj : j ≠ i) :
    d.holder ≠ some j := by
  rw [hheld]
  simp [Ne.symm hj]

/-- The checkpoint is replaced by a newer one. -/
theorem kept_replace {i : ι} {d : TrustDirectory ι} {material : ByteArray} (hd : d.Consistent)
    (hallowed : d.Allowed i (.operate (.replaceCheckpoint material))) (temporaries : Nat) :
    Kept i d { d with checkpoint := some material, temporaries := temporaries } := by
  obtain ⟨hheld, state, hstate, holder⟩ := hallowed
  refine ⟨⟨?_, hd.ordered⟩, ⟨?_, List.prefix_refl _⟩, ?_⟩
  · intro p hp
    obtain ⟨old, ⟨bytes, hbytes, hold⟩, hle, -⟩ := hd.seen p hp
    obtain ⟨old', state', hold', hstate', hlt⟩ := holder bytes hbytes
    obtain rfl := Except.ok.inj (hold.symm.trans hold')
    obtain rfl := Except.ok.inj (hstate.symm.trans hstate')
    refine ⟨state, ⟨material, rfl, hstate⟩, (hle.trans_lt hlt).le, ?_⟩
    intro hsame
    exact absurd hsame (hle.trans_lt hlt).ne
  · intro bytes hbytes
    exact ⟨material, rfl, .inr (holder bytes hbytes)⟩
  · intro j hj
    refine ⟨Iff.rfl, ?_, List.prefix_refl _⟩
    intro hother
    exact absurd hother (not_held hheld hj)

/-- The bundle of the checkpoint is admitted. -/
theorem kept_admitBundle {i : ι} {d : TrustDirectory ι} {sequence : ℤ} {bundleSha256 : String}
    (hd : d.Consistent) (hallowed : d.Allowed i (.admitBundle sequence bundleSha256)) :
    Kept i d { d with admitted := d.admitted ++ [(sequence, bundleSha256)] } := by
  obtain ⟨-, state, hstores, rfl, rfl⟩ := hallowed
  have hlast (p : ℤ × String) (hp : p ∈ d.admitted) :
      Ordered p (state.highestSequence, state.highestBundleSha256) := by
    obtain ⟨state', ⟨bytes', hbytes', hstate'⟩, hordered⟩ := hd.seen p hp
    obtain ⟨bytes, hbytes, hstate⟩ := hstores
    obtain rfl := Option.some.inj (hbytes.symm.trans hbytes')
    obtain rfl := Except.ok.inj (hstate.symm.trans hstate')
    exact hordered
  refine ⟨⟨?_, ?_⟩, ⟨?_, List.prefix_append _ _⟩, ?_⟩
  · intro p hp
    refine ⟨state, hstores, ?_⟩
    rcases List.mem_append.mp hp with hold | hnew
    · exact hlast p hold
    · rw [List.mem_singleton.mp hnew]
      exact ⟨le_refl _, fun _ => rfl⟩
  · apply List.pairwise_append.mpr
    refine ⟨hd.ordered, List.pairwise_singleton _ _, ?_⟩
    intro p hp q hq
    rw [List.mem_singleton.mp hq]
    exact hlast p hp
  · intro bytes hbytes
    exact ⟨bytes, hbytes, .inl rfl⟩
  · intro j _
    exact ⟨Iff.rfl, fun _ => rfl, List.prefix_append _ _⟩

end

/-! ## Actions -/

section

variable {ι : Type} [DecidableEq ι]

/-- The lock of a verifier is released, if it holds it. -/
def released (d : TrustDirectory ι) (i : ι) : TrustDirectory ι :=
  if d.holder = some i then { d with holder := none } else d

theorem quiet_released (d : TrustDirectory ι) (i : ι) : Quiet i d (d.released i) := by
  unfold released
  split
  · rename_i hheld
    refine ⟨rfl, rfl, ?_⟩
    intro j hj
    rw [hheld]
    simp [Ne.symm hj]
  · exact Quiet.refl i d

theorem holder_released (d : TrustDirectory ι) (i : ι) : (d.released i).holder ≠ some i := by
  unfold released
  split
  · nofun
  · rename_i hother
    exact hother

/-- One operation of a verifier: what it may answer and leave. -/
def Operate (i : ι) (d : TrustDirectory ι) :
    DirectoryOperation → Except TrustError Unit → TrustDirectory ι → Prop
  | .openLock true, .ok _, d' => d.lockPresent = false ∧ d' = { d with lockPresent := true }
  | .openLock true, .error _, d' =>
      d' = d ∨ d.lockPresent = false ∧ d' = { d with lockPresent := true }
  | .openLock false, .ok _, d' => d.lockPresent = true ∧ d' = d
  | .acquireLock, .ok _, d' => d.holder = none ∧ d' = { d with holder := some i }
  | .createTemporary, .ok _, d' => d' = { d with temporaries := d.temporaries + 1 }
  | .replaceCheckpoint material, .ok _, d' =>
      d' = { d with checkpoint := some material, temporaries := d.temporaries - 1 }
  | .unlinkTemporary, .ok _, d' => d' = { d with temporaries := d.temporaries - 1 } ∨ d' = d
  | .closeLock, _, d' => d' = d.released i
  | _, _, d' => d' = d

/-- One action of a verifier. -/
def Perform (i : ι) (d : TrustDirectory ι) :
    (action : TrustAct) → action.Reply → TrustDirectory ι → Prop
  | .operate operation, reply, d' => d.Operate i operation reply d'
  | .listEntries, reply, d' => d' = d ∧ ∀ found, reply = Except.ok found → found = d.entries
  | .readCheckpoint, reply, d' => d' = d ∧ ∀ bytes, reply = Except.ok bytes →
      d.checkpoint = some bytes
  | .unlock, (succeeded : Bool), d' => d' = if succeeded then d.released i else d
  | .recollect, reply, d' => d' = d ∧ reply = d.memory i
  | .remember memory, _, d' => d' = { d with memory := Function.update d.memory i memory }
  | .admitBundle sequence bundleSha256, _, d' =>
      d' = { d with admitted := d.admitted ++ [(sequence, bundleSha256)] }

/-- A process ends, and may start again with a new verifier. -/
def Crash (i : ι) (d d' : TrustDirectory ι) : Prop :=
  d' = { d.released i with memory := Function.update d.memory i .initial }

/-- The actions that change neither the checkpoint, nor the lock, nor the admissions. -/
def Steady : TrustAct → Prop
  | .operate (.replaceCheckpoint _) => False
  | .operate .acquireLock => False
  | .operate .closeLock => False
  | .unlock => False
  | .admitBundle _ _ => False
  | _ => True

/-- The two directories differ only in what nobody counts on. -/
structure Same (d d' : TrustDirectory ι) : Prop where
  checkpoint : d'.checkpoint = d.checkpoint
  holder : d'.holder = d.holder
  admitted : d'.admitted = d.admitted

theorem Perform.same {i : ι} {d d' : TrustDirectory ι} {action : TrustAct} {reply : action.Reply}
    (hsteady : Steady action) (h : d.Perform i action reply d') : Same d d' := by
  have hsame (hsame : d' = d) : Same d d' := hsame ▸ ⟨rfl, rfl, rfl⟩
  cases action with
  | operate operation =>
    cases operation with
    | openLock bootstrap =>
      cases bootstrap <;> cases reply
      · exact hsame h
      · exact hsame h.2
      · rcases h with h | ⟨-, rfl⟩
        · exact hsame h
        · exact ⟨rfl, rfl, rfl⟩
      · obtain ⟨-, rfl⟩ := h
        exact ⟨rfl, rfl, rfl⟩
    | createTemporary =>
      cases reply with
      | error error => exact hsame h
      | ok _ =>
        obtain rfl := h
        exact ⟨rfl, rfl, rfl⟩
    | unlinkTemporary =>
      cases reply with
      | error error => exact hsame h
      | ok _ =>
        rcases h with rfl | h
        · exact ⟨rfl, rfl, rfl⟩
        · exact hsame h
    | replaceCheckpoint material => exact hsteady.elim
    | acquireLock => exact hsteady.elim
    | closeLock => exact hsteady.elim
    | openParent => exact hsame h
    | requireStableLock => exact hsame h
    | writeTemporary => exact hsame h
    | syncParent => exact hsame h
    | closeParent => exact hsame h
  | listEntries => exact hsame h.1
  | readCheckpoint => exact hsame h.1
  | unlock => exact hsteady.elim
  | recollect => exact hsame h.1
  | remember memory =>
    obtain rfl := h
    exact ⟨rfl, rfl, rfl⟩
  | admitBundle sequence bundleSha256 => exact hsteady.elim

theorem quiet_crash {i : ι} {d d' : TrustDirectory ι} (h : Crash i d d') :
    Quiet i d d' ∧ d'.holder ≠ some i := by
  obtain rfl := h
  obtain ⟨hcheckpoint, hadmitted, hholder⟩ := quiet_released d i
  exact ⟨⟨hcheckpoint, hadmitted, hholder⟩, holder_released d i⟩

omit [DecidableEq ι] in
theorem Same.quiet {d d' : TrustDirectory ι} (h : Same d d') (i : ι) : Quiet i d d' :=
  ⟨h.checkpoint, h.admitted, fun _ _ => by rw [h.holder]⟩

variable [TrustStatePrimitives]

/-- Every allowed action is one that everyone can count on. -/
theorem Perform.kept {i : ι} {d d' : TrustDirectory ι} {action : TrustAct} {reply : action.Reply}
    (hd : d.Consistent) (hallowed : d.Allowed i action) (h : d.Perform i action reply d') :
    Kept i d d' := by
  by_cases hsteady : Steady action
  · exact ((h.same hsteady).quiet i).kept hd
  · cases action with
    | operate operation =>
      cases operation with
      | replaceCheckpoint material =>
        cases reply with
        | error error =>
          obtain rfl : d' = d := h
          exact (Quiet.refl i d').kept hd
        | ok _ =>
          obtain rfl := h
          exact kept_replace hd hallowed _
      | acquireLock =>
        cases reply with
        | error error =>
          obtain rfl : d' = d := h
          exact (Quiet.refl i d').kept hd
        | ok _ =>
          obtain ⟨hfree, rfl⟩ := h
          refine Quiet.kept ⟨rfl, rfl, ?_⟩ hd
          intro j hj
          simp [hfree, Ne.symm hj]
      | closeLock =>
        obtain rfl := h
        exact (quiet_released d i).kept hd
      | openLock bootstrap => exact absurd trivial hsteady
      | createTemporary => exact absurd trivial hsteady
      | unlinkTemporary => exact absurd trivial hsteady
      | openParent => exact absurd trivial hsteady
      | requireStableLock => exact absurd trivial hsteady
      | writeTemporary => exact absurd trivial hsteady
      | syncParent => exact absurd trivial hsteady
      | closeParent => exact absurd trivial hsteady
    | unlock =>
      obtain rfl := h
      split
      · exact (quiet_released d i).kept hd
      · exact (Quiet.refl i d).kept hd
    | admitBundle sequence bundleSha256 =>
      obtain rfl := h
      exact kept_admitBundle hd hallowed
    | listEntries => exact absurd trivial hsteady
    | readCheckpoint => exact absurd trivial hsteady
    | recollect => exact absurd trivial hsteady
    | remember memory => exact absurd trivial hsteady

end

end TrustDirectory

end AegisOt
