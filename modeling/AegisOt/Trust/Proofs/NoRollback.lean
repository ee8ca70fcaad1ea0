import AegisOt.Coordination.Sample
import AegisOt.Trust.Proofs.Bootstrap
import Mathlib.Data.List.Pairwise

/-!
# Trust bundles never roll back

Any number of verifiers share one directory. Each call is proved alone against what the others can
do to the directory (`Rely`): the checkpoint that is read under the lock is the one that is
replaced, so what is admitted is what the checkpoint holds. `Interleaving` carries that to every
run.
-/

namespace AegisOt

open FileWorkloadTrustSequenceStateStore

namespace TrustDirectory

section

variable [TrustStatePrimitives] {ι : Type} [DecidableEq ι]

/-- One verifier among the others. -/
def contract (i : ι) : Program.Contract (TrustDirectory ι) TrustAct TrustAct.Reply where
  invariant := Consistent
  rely := Rely i
  perform := Perform i
  allowed := Allowed i

/-- A property of the checkpoint, the own lock and the admissions that the others keep. -/
structure Lasting (i : ι) (P : TrustDirectory ι → Prop) : Prop where
  same : ∀ d d', Same d d' → P d → P d'
  rely : ∀ d d', Rely i d d' → P d → P d'

/-- The verifier holds the lock over this checkpoint. -/
def Held (i : ι) (checkpoint : Option ByteArray) (d : TrustDirectory ι) : Prop :=
  d.holder = some i ∧ d.checkpoint = checkpoint

/-- The verifier holds the lock, and these were admitted. -/
def HeldAfter (i : ι) (admitted : List (ℤ × String)) (d : TrustDirectory ι) : Prop :=
  d.holder = some i ∧ ∀ p ∈ admitted, p ∈ d.admitted

/-- The verifier does not hold the lock, and these were admitted. -/
def FreeAfter (i : ι) (admitted : List (ℤ × String)) (d : TrustDirectory ι) : Prop :=
  d.holder ≠ some i ∧ ∀ p ∈ admitted, p ∈ d.admitted

variable {i : ι} {d : TrustDirectory ι}

omit [TrustStatePrimitives] [DecidableEq ι] in
theorem lasting_held (checkpoint : Option ByteArray) :
    Lasting i (Held i checkpoint : TrustDirectory ι → Prop) where
  same d d' hsame := by
    rintro ⟨hheld, rfl⟩
    exact ⟨hsame.holder.trans hheld, hsame.checkpoint⟩
  rely d d' hrely := by
    rintro ⟨hheld, rfl⟩
    exact ⟨hrely.holder.mpr hheld, hrely.checkpoint hheld⟩

omit [TrustStatePrimitives] [DecidableEq ι] in
theorem lasting_heldAfter (admitted : List (ℤ × String)) :
    Lasting i (HeldAfter i admitted : TrustDirectory ι → Prop) where
  same d d' hsame := by
    rintro ⟨hheld, hadmitted⟩
    refine ⟨hsame.holder.trans hheld, ?_⟩
    rw [hsame.admitted]
    exact hadmitted
  rely d d' hrely := by
    rintro ⟨hheld, hadmitted⟩
    exact ⟨hrely.holder.mpr hheld, fun p hp => hrely.admitted.subset (hadmitted p hp)⟩

omit [TrustStatePrimitives] [DecidableEq ι] in
theorem lasting_freeAfter (admitted : List (ℤ × String)) :
    Lasting i (FreeAfter i admitted : TrustDirectory ι → Prop) where
  same d d' hsame := by
    rintro ⟨hfree, hadmitted⟩
    refine ⟨hsame.holder ▸ hfree, ?_⟩
    rw [hsame.admitted]
    exact hadmitted
  rely d d' hrely := by
    rintro ⟨hfree, hadmitted⟩
    refine ⟨?_, fun p hp => hrely.admitted.subset (hadmitted p hp)⟩
    intro hheld
    exact hfree (hrely.holder.mp hheld)

/-! ## Steady programs -/

/-- A steady program keeps every lasting property. -/
theorem guarded_steady {α : Type} {P : TrustDirectory ι → Prop} (hP : Lasting i P)
    {p : TrustProgram α} (hp : p.Uses Steady) (hd : P d) :
    p.Guarded (contract i) (fun _ => P) d := by
  apply Program.guarded_of_keeps (fun d d' hrely _ => hP.rely d d' hrely) _ hd
  apply Program.uses_mono _ hp
  intro action hsteady d _ hd
  refine ⟨?_, ?_⟩
  · cases action with
    | operate operation =>
      cases operation with
      | replaceCheckpoint material => exact hsteady.elim
      | _ => trivial
    | admitBundle sequence bundleSha256 => exact hsteady.elim
    | _ => trivial
  · intro reply d' hperform _
    exact hP.same d d' (hperform.same hsteady) hd

omit [TrustStatePrimitives] in
theorem uses_operate (operation : DirectoryOperation) (h : Steady (.operate operation)) :
    (operate operation).Uses Steady :=
  Program.uses_bind ((Program.uses_call _).mpr h) (fun _ => Program.uses_result _)

omit [TrustStatePrimitives] in
theorem uses_listEntries : listEntries.Uses Steady :=
  Program.uses_bind ((Program.uses_call _).mpr trivial) (fun _ => Program.uses_result _)

omit [TrustStatePrimitives] in
theorem uses_recollect : recollect.Uses Steady := (Program.uses_call _).mpr trivial

omit [TrustStatePrimitives] in
theorem uses_remember (memory : VerifierMemory) : (remember memory).Uses Steady :=
  (Program.uses_call _).mpr trivial

omit [TrustStatePrimitives] in
theorem uses_poison : poison.Uses Steady :=
  Program.uses_bind uses_recollect (fun _ => uses_remember _)

omit [TrustStatePrimitives] in
theorem uses_classifyLayout : classifyLayout.Uses Steady := by
  apply Program.uses_bind uses_listEntries
  intro entries
  split
  · exact Program.uses_bind (Program.uses_require _ _) (fun _ => Program.uses_pure _)
  · exact Program.uses_bind (Program.uses_require _ _) (fun _ => Program.uses_pure _)

/-! ## Under the lock -/

variable {checkpoint : Option ByteArray}

theorem guarded_listEntries (hd : Held i checkpoint d) :
    listEntries.Guarded (contract i) (Program.Yields (Held i checkpoint) fun entries =>
      entries.state = checkpoint.isSome) d := by
  intro d₁ hrely _
  refine ⟨trivial, ?_⟩
  rintro reply d' ⟨rfl, hreply⟩ _
  have hheld := (lasting_held checkpoint).rely d _ hrely hd
  refine Program.guarded_yields_result hheld ?_
  intro entries hentries
  rw [hreply entries hentries, ← hheld.2]
  rfl

theorem guarded_readCheckpoint (hd : Held i checkpoint d) :
    readCheckpoint.Guarded (contract i) (Program.Yields (Held i checkpoint) fun bytes =>
      checkpoint = some bytes) d := by
  intro d₁ hrely _
  refine ⟨trivial, ?_⟩
  rintro reply d' ⟨rfl, hreply⟩ _
  have hheld := (lasting_held checkpoint).rely d _ hrely hd
  refine Program.guarded_yields_result hheld ?_
  intro bytes hbytes
  exact hheld.2.symm.trans (hreply bytes hbytes)

/-- The entries say whether there is a checkpoint. -/
theorem guarded_requireEntries (hd : Held i checkpoint d) (expected : DirectoryEntries) :
    (requireEntries expected).Guarded (contract i) (Program.Yields (Held i checkpoint) fun _ =>
      expected.state = checkpoint.isSome) d := by
  apply Program.guarded_yields_bind (guarded_listEntries hd)
  intro entries d' hheld hentries
  refine Program.guarded_mono ?_ (Program.guarded_yields_require hheld)
  rintro result d'' ⟨hheld, hresult⟩
  refine ⟨hheld, ?_⟩
  intro _ hreturned
  rw [← not_not.mp (hresult _ hreturned)]
  exact hentries

variable {store : FileWorkloadTrustSequenceStateStore}

/-- The checkpoint holds the state. -/
def Encodes (checkpoint : Option ByteArray) (state : WorkloadTrustSequenceState) : Prop :=
  ∃ bytes, checkpoint = some bytes ∧ WorkloadTrustSequenceState.parse bytes = .ok state

/-- What is loaded is what the checkpoint holds. -/
theorem guarded_loadLocked (hd : Held i checkpoint d) :
    store.loadLocked.Guarded (contract i)
      (Program.Yields (Held i checkpoint) (Encodes checkpoint)) d := by
  apply Program.guarded_yields_bind (guarded_readCheckpoint hd)
  intro bytes d₁ hheld hbytes
  apply Program.guarded_yields_bind (Q := fun state =>
    WorkloadTrustSequenceState.parse bytes = .ok state) (Program.guarded_yields_result hheld _)
  · intro state d₂ hheld hparse
    apply Program.guarded_yields_bind (Program.guarded_yields_require hheld)
    intro _ d₃ hheld _
    exact Program.guarded_yields_pure hheld ⟨bytes, hbytes, hparse⟩
  · intro state hstate
    exact mapError_eq_ok.mp hstate

/-- What `transaction` compares with: the state of the checkpoint, or that there is none. -/
def Current (checkpoint : Option ByteArray) : Option WorkloadTrustSequenceState → Prop
  | none => checkpoint = none
  | some state => Encodes checkpoint state

theorem guarded_currentState (hd : Held i checkpoint d) (bootstrap : Bool) :
    (store.currentState bootstrap).Guarded (contract i)
      (Program.Yields (Held i checkpoint) (Current checkpoint)) d := by
  cases bootstrap with
  | true =>
    apply Program.guarded_yields_bind (guarded_requireEntries hd _)
    intro _ d' hheld hentries
    refine Program.guarded_yields_pure hheld ?_
    exact Option.not_isSome_iff_eq_none.mp (by rw [← hentries]; nofun)
  | false =>
    apply Program.guarded_yields_bind (guarded_requireEntries hd _)
    intro _ d' hheld _
    apply Program.guarded_yields_bind (Q := Encodes checkpoint)
    · rw [Program.guarded_catching]
      refine Program.guarded_mono ?_ (guarded_loadLocked hheld)
      rintro result d₁ ⟨hheld, hstate⟩
      cases result with
      | ok state => exact ⟨hheld, hstate⟩
      | error error =>
        cases error with
        | state message =>
          apply Program.guarded_seq (guarded_steady (lasting_held checkpoint) uses_poison hheld)
          · intro _ d₂ hheld
            exact Program.yields_error.mpr hheld
          · intro _ d₂ hheld
            exact Program.yields_error.mpr hheld
        | identity error => exact Program.yields_error.mpr hheld
        | os description => exact Program.yields_error.mpr hheld
    · intro state d₁ hheld hstate
      exact Program.guarded_yields_pure hheld hstate

/-! ## Replacing the checkpoint -/

/-- The verifier holds the lock. -/
abbrev Holding (i : ι) : TrustDirectory ι → Prop := HeldAfter i []

omit [TrustStatePrimitives] [DecidableEq ι] in
theorem Held.holding (h : Held i checkpoint d) : Holding i d := ⟨h.1, by nofun⟩

/-- How a replacement of the checkpoint ends. -/
def Replaced (i : ι) (state : WorkloadTrustSequenceState) :
    Except TrustError Unit → TrustDirectory ι → Prop
  | .ok _, d => Held i (some state.material) d
  | .error _, d => Holding i d

/-- `os.replace` by a newer state. -/
theorem guarded_replace (hd : Held i checkpoint d) {state : WorkloadTrustSequenceState}
    (hparse : WorkloadTrustSequenceState.parse state.material = .ok state)
    (holder : ∀ bytes, checkpoint = some bytes → Older bytes state.material) :
    (operate (.replaceCheckpoint state.material)).Guarded (contract i) (Replaced i state) d := by
  intro d₁ hrely _
  obtain ⟨hheld, hcheckpoint⟩ := (lasting_held checkpoint).rely d d₁ hrely hd
  refine ⟨⟨hheld, state, hparse, ?_⟩, ?_⟩
  · intro bytes hbytes
    exact holder bytes (hcheckpoint.symm.trans hbytes)
  · intro reply d' hperform _
    cases reply with
    | error error =>
      obtain rfl : d' = d₁ := hperform
      exact ⟨hheld, by nofun⟩
    | ok _ =>
      obtain rfl := hperform
      exact ⟨hheld, rfl⟩

/-- `_write_locked` up to `os.replace`. -/
theorem guarded_prepare (hd : Held i checkpoint d) {state : WorkloadTrustSequenceState}
    (hparse : WorkloadTrustSequenceState.parse state.material = .ok state)
    (holder : ∀ bytes, checkpoint = some bytes → Older bytes state.material) :
    Program.Guarded (contract i) (Replaced i state) (do
      operate .createTemporary
      operate .writeTemporary
      operate (.replaceCheckpoint state.material)) d := by
  apply Program.guarded_seq
    (guarded_steady (lasting_held checkpoint) (uses_operate .createTemporary trivial) hd)
  · intro _ d₁ hheld
    apply Program.guarded_seq
      (guarded_steady (lasting_held checkpoint) (uses_operate .writeTemporary trivial) hheld)
    · intro _ d₂ hheld
      exact guarded_replace hheld hparse holder
    · intro _ d₂ hheld
      exact hheld.holding
  · intro _ d₁ hheld
    exact hheld.holding

/-- `_write_locked` after `os.replace`. -/
theorem guarded_confirm {state : WorkloadTrustSequenceState}
    (hd : Held i (some state.material) d) :
    Program.Guarded (contract i) (Replaced i state) (Program.catching (do
        operate .syncParent
        let readback ← store.loadLocked
        Program.require (readback ≠ state)
          (.state "workload trust-sequence checkpoint readback disagrees"))
        (fun error => do
          poison
          Program.raise (updateFailed error))) d := by
  rw [Program.guarded_catching]
  have hraised (error : TrustError) {d : TrustDirectory ι}
      (hheld : Held i (some state.material) d) :
      Program.Guarded (contract i) (Replaced i state) (do
        poison
        Program.raise (updateFailed error)) d := by
    apply Program.guarded_seq (guarded_steady (lasting_held _) uses_poison hheld)
    · intro _ d₁ hheld
      exact hheld.holding
    · intro _ d₁ hheld
      exact hheld.holding
  apply Program.guarded_seq
    (guarded_steady (lasting_held _) (uses_operate .syncParent trivial) hd)
  · intro _ d₁ hheld
    apply Program.guarded_seq (guarded_loadLocked hheld)
    · rintro readback d₂ ⟨hheld, -⟩
      apply Program.guarded_require.mpr
      exact ⟨fun _ => hraised _ hheld, fun _ => hheld⟩
    · rintro error d₂ ⟨hheld, -⟩
      exact hraised error hheld
  · intro error d₁ hheld
    exact hraised error hheld

theorem guarded_replaceState (hd : Held i checkpoint d) {state : WorkloadTrustSequenceState}
    (hparse : WorkloadTrustSequenceState.parse state.material = .ok state)
    (holder : ∀ bytes, checkpoint = some bytes → Older bytes state.material) :
    (store.replaceState state).Guarded (contract i) (Replaced i state) d := by
  unfold replaceState
  rw [Program.guarded_attempt_bind]
  refine Program.guarded_mono ?_ (guarded_prepare hd hparse holder)
  intro replaced d₁ hreplaced
  cases replaced with
  | ok _ => exact guarded_confirm hreplaced
  | error error =>
    have hholding : Lasting i (Holding i : TrustDirectory ι → Prop) := lasting_heldAfter []
    apply Program.guarded_seq (guarded_steady hholding uses_poison hreplaced)
    · intro _ d₂ hheld
      apply Program.guarded_seq
        (guarded_steady hholding (uses_operate .unlinkTemporary trivial) hheld)
      · intro _ d₃ hheld
        exact hheld
      · intro _ d₃ hheld
        exact hheld
    · intro _ d₂ hheld
      exact hheld

/-- A candidate that is newer than the checkpoint becomes the checkpoint. -/
theorem guarded_writeLocked (hd : Held i checkpoint d) {state : WorkloadTrustSequenceState}
    (hvalid : state.Valid)
    (holder : WorkloadTrustSequenceState.parse state.material = .ok state →
      ∀ bytes, checkpoint = some bytes → Older bytes state.material) :
    (store.writeLocked state).Guarded (contract i) (fun result d' => Replaced i state result d' ∧
      (result = .ok () → WorkloadTrustSequenceState.parse state.material = .ok state)) d := by
  unfold writeLocked
  rw [Program.guarded_bind, Program.guarded_require]
  constructor
  · intro _
    exact ⟨hd.holding, by nofun⟩
  · intro hsize
    have hparse := WorkloadTrustSequenceState.parse_eq_ok.mpr ⟨rfl, hvalid, not_lt.mp hsize⟩
    refine Program.guarded_mono ?_ (guarded_replaceState hd hparse (holder hparse))
    intro result d' hresult
    exact ⟨hresult, fun _ => hparse⟩

/-! ## Transactions -/

omit [TrustStatePrimitives] in
/-- What the comparisons leave: the bundle is the stored one or a newer one. -/
theorem checkSequence_eq_ok {current : Option WorkloadTrustSequenceState}
    {memory : VerifierMemory} {sequence : ℤ} {bundleSha256 : String}
    (h : checkSequence current memory sequence bundleSha256 = .ok ())
    {state : WorkloadTrustSequenceState} (hstate : current = some state) :
    state.highestSequence ≤ sequence ∧
      (sequence = state.highestSequence → bundleSha256 = state.highestBundleSha256) := by
  rw [checkSequence, bind_unit_eq_ok, refuseIf_eq_ok, bind_unit_eq_ok, refuseIf_eq_ok] at h
  obtain ⟨hrolledBack, hequivocated, -⟩ := h
  refine ⟨?_, ?_⟩
  · by_contra hlt
    exact hrolledBack ⟨state, hstate, not_le.mp hlt⟩
  · intro hsame
    by_contra hother
    exact hequivocated ⟨state, hstate, hsame, hother⟩

/-- The checkpoint holds this bundle. -/
def HoldsBundle (sequence : ℤ) (bundleSha256 : String) (checkpoint : Option ByteArray) : Prop :=
  ∃ state, Encodes checkpoint state ∧ state.highestSequence = sequence ∧
    state.highestBundleSha256 = bundleSha256

/-- How the part under the lock ends that makes the checkpoint hold the bundle. -/
def Stored (i : ι) (sequence : ℤ) (bundleSha256 : String) :
    Except TrustError Unit → TrustDirectory ι → Prop
  | .ok _, d => ∃ checkpoint, Held i checkpoint d ∧ HoldsBundle sequence bundleSha256 checkpoint
  | .error _, d => Holding i d

/-- How the part under the lock ends. -/
def Admitted {α : Type} (i : ι) (sequence : ℤ) (bundleSha256 : String) :
    Except TrustError α → TrustDirectory ι → Prop
  | .ok _, d => HeldAfter i [(sequence, bundleSha256)] d
  | .error _, d => Holding i d

variable {sequence : ℤ} {bundleSha256 : String}

theorem guarded_store (hd : Held i checkpoint d) (hsequence : 1 ≤ sequence)
    (hdigest : isHexDigest bundleSha256 = true) {current : Option WorkloadTrustSequenceState}
    (hcurrent : Current checkpoint current) {memory : VerifierMemory}
    (hchecked : checkSequence current memory sequence bundleSha256 = .ok ()) :
    (Program.runIf (∀ state ∈ current, state.highestSequence < sequence) (do
      store.writeLocked (.create store.trustDomain store.authorityKeyId
        store.authorityPublicKeySha256 sequence bundleSha256)
      requireEntries ⟨true, true, false⟩)).Guarded (contract i)
        (Stored i sequence bundleSha256) d := by
  unfold Program.runIf
  split
  · rename_i hnewer
    have hvalid := WorkloadTrustSequenceState.valid_create store.trustDomainValid
      store.authorityKeyIdValid store.authorityPublicKeyValid hsequence hdigest
    have hcandidate : (WorkloadTrustSequenceState.create store.trustDomain store.authorityKeyId
        store.authorityPublicKeySha256 sequence bundleSha256).highestSequence = sequence ∧
        (WorkloadTrustSequenceState.create store.trustDomain store.authorityKeyId
          store.authorityPublicKeySha256 sequence bundleSha256).highestBundleSha256 =
            bundleSha256 := ⟨rfl, rfl⟩
    generalize WorkloadTrustSequenceState.create store.trustDomain store.authorityKeyId
      store.authorityPublicKeySha256 sequence bundleSha256 = candidate at hvalid hcandidate ⊢
    have holder (hparse : WorkloadTrustSequenceState.parse candidate.material = .ok candidate)
        (bytes : ByteArray) (hbytes : checkpoint = some bytes) :
        Older bytes candidate.material := by
      cases current with
      | none => exact absurd (hbytes.symm.trans hcurrent) (by nofun)
      | some state =>
        obtain ⟨bytes', hbytes', hstate⟩ := hcurrent
        obtain rfl := Option.some.inj (hbytes.symm.trans hbytes')
        exact ⟨state, candidate, hstate, hparse, hcandidate.1 ▸ hnewer state rfl⟩
    rw [Program.guarded_bind]
    refine Program.guarded_mono ?_ (guarded_writeLocked hd hvalid holder)
    intro result d₁ hwritten
    cases result with
    | error error => exact hwritten.1
    | ok _ =>
      have hheld : Held i (some candidate.material) d₁ := hwritten.1
      have hencodes : Encodes (some candidate.material) candidate := ⟨_, rfl, hwritten.2 rfl⟩
      refine Program.guarded_mono ?_ (guarded_requireEntries hheld _)
      rintro result d₂ ⟨hheld, -⟩
      cases result with
      | ok _ => exact ⟨_, hheld, candidate, hencodes, hcandidate⟩
      | error error => exact hheld.holding
  · rename_i hsame
    refine ⟨checkpoint, hd, ?_⟩
    obtain ⟨state, hstate, hle⟩ : ∃ state, current = some state ∧
        ¬ state.highestSequence < sequence := by
      by_contra hnone
      apply hsame
      intro state hstate
      by_contra hle
      exact hnone ⟨state, hstate, hle⟩
    obtain ⟨hle', hdigests⟩ := checkSequence_eq_ok hchecked hstate
    have hsequences : state.highestSequence = sequence := le_antisymm hle' (not_lt.mp hle)
    subst hstate
    exact ⟨state, hcurrent, hsequences, (hdigests hsequences.symm).symm⟩

/-- The bundle that the checkpoint holds is admitted. -/
theorem guarded_admitBundle (hd : Held i checkpoint d)
    (hbundle : HoldsBundle sequence bundleSha256 checkpoint) :
    (admitBundle sequence bundleSha256).Guarded (contract i) (Admitted i sequence bundleSha256)
      d := by
  intro d₁ hrely _
  obtain ⟨hheld, rfl⟩ := (lasting_held checkpoint).rely d d₁ hrely hd
  obtain ⟨state, hstate, hsequence, hdigest⟩ := hbundle
  refine ⟨⟨hheld, state, hstate, hsequence, hdigest⟩, ?_⟩
  rintro reply d' rfl _
  refine ⟨hheld, ?_⟩
  intro p hp
  exact List.mem_append_right _ hp

theorem guarded_underLock {α : Type} (hd : Held i checkpoint d) (hsequence : 1 ≤ sequence)
    (hdigest : isHexDigest bundleSha256 = true) (bootstrap : Bool) {body : TrustProgram α}
    (hbody : body.Uses Steady) :
    (store.underLock bootstrap sequence bundleSha256 body).Guarded (contract i)
      (Admitted i sequence bundleSha256) d := by
  unfold underLock
  refine Program.guarded_keeps_seq (guarded_steady (lasting_held checkpoint)
    (uses_operate .requireStableLock trivial) hd) (fun _ _ h => h.holding) ?_
  intro _ d₁ hheld
  refine Program.guarded_yields_seq (guarded_currentState hheld bootstrap)
    (fun _ _ h => h.holding) ?_
  intro current d₂ hheld hcurrent
  refine Program.guarded_keeps_seq (guarded_steady (lasting_held checkpoint) uses_recollect hheld)
    (fun _ _ h => h.holding) ?_
  intro memory d₃ hheld
  refine Program.guarded_yields_seq (Program.guarded_yields_result hheld (fun _ h => h))
    (fun _ _ h => h.holding) ?_
  intro _ d₄ hheld hchecked
  refine Program.guarded_seq (guarded_store hheld hsequence hdigest hcurrent hchecked) ?_
    (fun _ _ h => h)
  rintro _ d₅ ⟨checkpoint', hheld, hbundle⟩
  refine Program.guarded_keeps_seq (guarded_steady (lasting_held checkpoint') uses_recollect hheld)
    (fun _ _ h => h.holding) ?_
  intro memory d₆ hheld
  refine Program.guarded_keeps_seq (guarded_steady (lasting_held checkpoint') (uses_remember _)
    hheld) (fun _ _ h => h.holding) ?_
  intro _ d₇ hheld
  refine Program.guarded_seq (guarded_admitBundle hheld hbundle) ?_ (fun _ _ h => h)
  intro _ d₈ hadmitted
  refine Program.guarded_mono ?_ (guarded_steady (lasting_heldAfter _) hbody hadmitted)
  intro result d₉ hadmitted
  cases result with
  | ok a => exact hadmitted
  | error error => exact ⟨hadmitted.1, by nofun⟩

/-! ## Locking and unlocking -/

/-- These were admitted. -/
def Includes (admitted : List (ℤ × String)) (d : TrustDirectory ι) : Prop :=
  ∀ p ∈ admitted, p ∈ d.admitted

omit [TrustStatePrimitives] [DecidableEq ι] in
theorem lasting_includes (admitted : List (ℤ × String)) :
    Lasting i (Includes admitted : TrustDirectory ι → Prop) where
  same d d' hsame h := by
    intro p hp
    rw [hsame.admitted]
    exact h p hp
  rely d d' hrely h := by
    intro p hp
    exact hrely.admitted.subset (h p hp)

/-- Closing the lock releases it. -/
theorem guarded_closeLock {admitted : List (ℤ × String)} (hd : Includes admitted d) :
    (operate .closeLock).Guarded (contract i) (fun _ => FreeAfter i admitted) d := by
  intro d₁ hrely _
  refine ⟨trivial, ?_⟩
  rintro reply d' rfl _
  refine ⟨holder_released d₁ i, ?_⟩
  rw [(quiet_released d₁ i).admitted]
  exact (lasting_includes admitted).rely d d₁ hrely hd

/-- Then the directory is closed. -/
theorem guarded_close {admitted : List (ℤ × String)} (hd : Includes admitted d) :
    Program.Guarded (contract i) (fun _ => FreeAfter i admitted) (do
      operate .closeLock
      operate .closeParent) d := by
  refine Program.guarded_keeps_seq (guarded_closeLock hd) (fun _ _ h => h) ?_
  intro _ d₁ hfree
  exact guarded_steady (lasting_freeAfter admitted) (uses_operate .closeParent trivial) hfree

/-- Poisoning the store never raises. -/
theorem guarded_poison {P : TrustDirectory ι → Prop} (hP : Lasting i P) (hd : P d) :
    poison.Guarded (contract i) (fun result d' => result = .ok () ∧ P d') d := by
  intro d₁ hrely _
  refine ⟨trivial, ?_⟩
  rintro memory _ ⟨rfl, -⟩ _
  intro d₂ hrely' _
  refine ⟨trivial, ?_⟩
  intro reply d' hperform _
  have hsame : Same d₂ d' := by
    obtain rfl := hperform
    exact ⟨rfl, rfl, rfl⟩
  exact ⟨rfl, hP.same _ _ hsame (hP.rely _ _ hrely' (hP.rely _ _ hrely hd))⟩

/-- Whether unlocking succeeds or not, the lock is released. -/
theorem guarded_releaseLock {admitted : List (ℤ × String)} (hd : Includes admitted d) :
    releaseLock.Guarded (contract i) (fun _ => FreeAfter i admitted) d := by
  intro d₁ hrely _
  have hd₁ := (lasting_includes admitted).rely d d₁ hrely hd
  refine ⟨trivial, ?_⟩
  intro reply d' hperform _
  cases reply with
  | false =>
    obtain rfl : d' = d₁ := hperform
    apply Program.guarded_seq (guarded_poison (lasting_includes admitted) hd₁)
    · rintro _ d₂ ⟨-, hd₂⟩
      exact guarded_close hd₂
    · rintro _ _ ⟨hraised, -⟩
      cases hraised
  | true =>
    obtain rfl : d' = d₁.released i := hperform
    apply guarded_close
    intro p hp
    rw [(quiet_released d₁ i).admitted]
    exact hd₁ p hp

/-! ## Transactions -/

/-- How a transaction ends: the lock is released, and what it returns was admitted. -/
def Transacted {α : Type} (i : ι) (sequence : ℤ) (bundleSha256 : String) :
    Except TrustError α → TrustDirectory ι → Prop
  | .ok _, d => FreeAfter i [(sequence, bundleSha256)] d
  | .error _, d => FreeAfter i [] d

/-- The verifier does not hold the lock. -/
abbrev Free (i : ι) : TrustDirectory ι → Prop := FreeAfter i []

theorem guarded_underLock_ensuring {α : Type} (hd : Held i checkpoint d) (hsequence : 1 ≤ sequence)
    (hdigest : isHexDigest bundleSha256 = true) (bootstrap : Bool) {body : TrustProgram α}
    (hbody : body.Uses Steady) :
    (Program.ensuring (store.underLock bootstrap sequence bundleSha256 body)
      releaseLock).Guarded (contract i) (Transacted i sequence bundleSha256) d := by
  rw [Program.guarded_ensuring]
  refine Program.guarded_mono ?_ (guarded_underLock hd hsequence hdigest bootstrap hbody)
  intro result d₁ hended
  cases result with
  | ok a =>
    refine Program.guarded_mono ?_ (guarded_releaseLock hended.2)
    intro released d₂ hfree
    cases released with
    | ok _ => exact hfree
    | error error => exact ⟨hfree.1, by nofun⟩
  | error error =>
    have hnone : Includes [] d₁ := by nofun
    refine Program.guarded_mono ?_ (guarded_releaseLock hnone)
    intro released d₂ hfree
    cases released with
    | ok _ => exact hfree
    | error error => exact hfree

/-- Acquiring the lock. -/
theorem guarded_acquireLock (hd : Free i d) :
    (operate .acquireLock).Guarded (contract i) (fun result d' =>
      match result with
      | .ok _ => Held i d'.checkpoint d'
      | .error _ => Free i d') d := by
  intro d₁ hrely _
  refine ⟨trivial, ?_⟩
  intro reply d' hperform _
  cases reply with
  | ok _ =>
    obtain ⟨-, rfl⟩ := hperform
    exact ⟨rfl, rfl⟩
  | error error =>
    obtain rfl : d' = d₁ := hperform
    exact (lasting_freeAfter []).rely d d' hrely hd

theorem guarded_transaction {α : Type} (hd : Free i d) {body : TrustProgram α}
    (hbody : body.Uses Steady) :
    (store.transaction sequence bundleSha256 body).Guarded (contract i)
      (Transacted i sequence bundleSha256) d := by
  have hsteady {β : Type} {p : TrustProgram β} (hp : p.Uses Steady) {d : TrustDirectory ι}
      (hd : Free i d) : p.Guarded (contract i) (fun _ => Free i) d :=
    guarded_steady (lasting_freeAfter []) hp hd
  unfold transaction
  refine Program.guarded_yields_seq (Program.guarded_yields_require hd) (fun _ _ h => h) ?_
  intro _ d₁ hfree hdigest
  refine Program.guarded_yields_seq (Program.guarded_yields_require hfree) (fun _ _ h => h) ?_
  intro _ d₂ hfree hsequence
  refine Program.guarded_keeps_seq (hsteady uses_recollect hfree) (fun _ _ h => h) ?_
  intro memory d₃ hfree
  refine Program.guarded_yields_seq (Program.guarded_yields_require hfree) (fun _ _ h => h) ?_
  intro _ d₄ hfree _
  refine Program.guarded_keeps_seq (hsteady (uses_operate .openParent trivial) hfree)
    (fun _ _ h => h) ?_
  intro _ d₅ hfree
  rw [Program.guarded_attempt_bind]
  have hopening : Program.Uses Steady (do
      let bootstrap ← classifyLayout
      operate (.openLock bootstrap)
      pure bootstrap) := by
    apply Program.uses_bind uses_classifyLayout
    intro bootstrap
    exact Program.uses_bind (uses_operate _ trivial) (fun _ => Program.uses_pure _)
  refine Program.guarded_mono ?_ (hsteady hopening hfree)
  intro opened d₆ hfree
  cases opened with
  | error error =>
    exact Program.guarded_keeps_seq (hsteady (uses_operate .closeParent trivial) hfree)
      (fun _ _ h => h) (fun _ _ h => h)
  | ok bootstrap =>
    refine Program.guarded_attempt_bind.mpr (Program.guarded_mono ?_ (guarded_acquireLock hfree))
    intro acquired d₇ hacquired
    cases acquired with
    | error error =>
      refine Program.guarded_keeps_seq (guarded_closeLock hacquired.2) (fun _ _ h => h) ?_
      intro _ d₈ hfree
      exact Program.guarded_keeps_seq (hsteady (uses_operate .closeParent trivial) hfree)
        (fun _ _ h => h) (fun _ _ h => h)
    | ok _ =>
      have hvalid : isHexDigest bundleSha256 = true := by simpa using hdigest
      have hpositive : 1 ≤ sequence := not_lt.mp hsequence
      exact guarded_underLock_ensuring hacquired hpositive hvalid bootstrap hbody

/-! ## Verifications -/

variable [TrustBundlePrimitives] [Primitives]

/-- The bundle that a verification loaded was admitted. -/
def LoadedAdmitted (loaded : Except WorkloadIdentityError SignedWorkloadTrustBundle)
    (d : TrustDirectory ι) : Prop :=
  ∃ bundle, loaded = .ok bundle ∧ ((bundle.sequence : ℤ), bundle.sha256) ∈ d.admitted

/-- How a verification ends: without the lock, and only with an admitted bundle. -/
def Verified {α : Type} (i : ι)
    (loaded : Except WorkloadIdentityError SignedWorkloadTrustBundle) (result : Except TrustError α)
    (d : TrustDirectory ι) : Prop :=
  Free i d ∧ ∀ a, result = .ok a → LoadedAdmitted loaded d

omit [TrustStatePrimitives] [DecidableEq ι] [Primitives] in
theorem Verified.of_error {α : Type}
    {loaded : Except WorkloadIdentityError SignedWorkloadTrustBundle} {error : TrustError}
    (h : Free i d) : Verified i loaded (.error error : Except TrustError α) d := ⟨h, by nofun⟩

omit [TrustStatePrimitives] [Primitives] in
theorem trustedBundle_eq_ok {v : WorkloadTrustVerifier} {now : Time}
    {loaded : Except WorkloadIdentityError SignedWorkloadTrustBundle}
    {bundle : SignedWorkloadTrustBundle} (h : v.trustedBundle now loaded = .ok bundle) :
    loaded = .ok bundle := by
  obtain ⟨bundle', hloaded, h⟩ := bind_eq_ok.mp h
  simp only [bind_unit_eq_ok, refuseIf_eq_ok] at h
  obtain ⟨-, -, -, h⟩ := h
  rw [hloaded, Except.ok.inj h]

omit [Primitives] in
theorem guarded_trustedBundleTransaction {α : Type} (hd : Free i d) (v : WorkloadTrustVerifier)
    (now : Time) (loaded : Except WorkloadIdentityError SignedWorkloadTrustBundle)
    {body : SignedWorkloadTrustBundle → TrustProgram α}
    (hbody : ∀ bundle, (body bundle).Uses Steady) :
    (v.trustedBundleTransaction now loaded body).Guarded (contract i) (Verified i loaded) d := by
  unfold WorkloadTrustVerifier.trustedBundleTransaction
  refine Program.guarded_yields_seq (Program.guarded_yields_result hd (fun _ h => h))
    (fun _ _ h => .of_error h) ?_
  intro bundle d₁ hfree hbundle
  have hloaded := trustedBundle_eq_ok (mapError_eq_ok.mp hbundle)
  refine Program.guarded_keeps_seq (guarded_steady (lasting_freeAfter []) uses_recollect hfree)
    (fun _ _ h => .of_error h) ?_
  intro memory d₂ hfree
  refine Program.guarded_yields_seq (Program.guarded_yields_require hfree)
    (fun _ _ h => .of_error h) ?_
  intro _ d₃ hfree _
  refine Program.guarded_yields_seq (Program.guarded_yields_require hfree)
    (fun _ _ h => .of_error h) ?_
  intro _ d₄ hfree _
  have hadmission : Program.Uses Steady (do
      let memory ← recollect
      remember { memory with
        highestSequence := bundle.sequence
        highestSequenceDigest := bundle.sha256 }
      body bundle) :=
    Program.uses_bind uses_recollect (fun _ =>
      Program.uses_bind (uses_remember _) (fun _ => hbody bundle))
  rw [Program.guarded_catching]
  refine Program.guarded_mono ?_ (guarded_transaction hfree hadmission)
  intro result d₅ hended
  cases result with
  | ok a => exact ⟨⟨hended.1, by nofun⟩, fun _ _ => ⟨bundle, hloaded, hended.2 _ (by simp)⟩⟩
  | error error => exact .of_error hended

theorem guarded_program (hd : Free i d) (v : WorkloadTrustVerifier) (request : TrustRequest) :
    (request.program v).Guarded (contract i) (Verified i request.loaded) d := by
  cases request with
  | credential loaded signed expectedRole expectedAudience expectedSubject expectedActorId now =>
    cases now with
    | naive => exact .of_error hd
    | aware evaluatedAt =>
      exact guarded_trustedBundleTransaction hd v evaluatedAt loaded
        (fun _ => Program.uses_result _)
  | historical loaded signed expectedRole expectedAudience expectedSubject expectedActorId
      authenticatedAt now maximumFutureSkew =>
    cases now with
    | naive => exact .of_error hd
    | aware evaluatedAt =>
      cases authenticatedAt with
      | naive => exact .of_error hd
      | aware authenticated =>
        refine Program.guarded_yields_seq (Program.guarded_yields_require hd)
          (fun _ _ h => .of_error h) ?_
        intro _ d₁ hfree _
        refine Program.guarded_yields_seq (Program.guarded_yields_require hfree)
          (fun _ _ h => .of_error h) ?_
        intro _ d₂ hfree _
        exact guarded_trustedBundleTransaction hfree v evaluatedAt loaded
          (fun _ => Program.uses_result _)

/-! ## Verifiers that share a directory -/

/-- Verifiers that share one directory. -/
def trustVerifiers (verifiers : ι → WorkloadTrustVerifier) :
    Interleaving.Processes ι (TrustDirectory ι) TrustAct TrustAct.Reply TrustRequest TrustError
      PublicKey where
  program i request := request.program (verifiers i)
  perform := Perform
  crash := Crash

def trustDiscipline (ι : Type) : Interleaving.Discipline ι (TrustDirectory ι) TrustAct TrustRequest
    TrustError PublicKey where
  invariant := Consistent
  advances := Advances
  rely := Rely
  allowed := Allowed
  idle := Free
  post i request _ := Verified i request.loaded

theorem trust_sound (verifiers : ι → WorkloadTrustVerifier) :
    Interleaving.Sound (trustVerifiers verifiers) (trustDiscipline ι) where
  advances_refl := Advances.refl
  advances_trans := Advances.trans
  rely_refl := Rely.refl _
  rely_trans := Rely.trans
  act hconsistent hallowed hperform := Perform.kept hconsistent hallowed hperform
  crash {i d d'} hconsistent hcrash := by
    obtain ⟨hquiet, hreleased⟩ := quiet_crash hcrash
    obtain ⟨hconsistent', hadvances, hothers⟩ := hquiet.kept hconsistent
    exact ⟨hconsistent', hadvances, ⟨hreleased, by nofun⟩, hothers⟩
  idle_stable hrely hidle := (lasting_freeAfter []).rely _ _ hrely hidle
  post_stable hrely hpost := by
    obtain ⟨hfree, hadmitted⟩ := hpost
    refine ⟨(lasting_freeAfter []).rely _ _ hrely hfree, ?_⟩
    intro a hreturned
    obtain ⟨bundle, hloaded, hmem⟩ := hadmitted a hreturned
    exact ⟨bundle, hloaded, hrely.admitted.subset hmem⟩
  idle_of_post hpost := hpost.1
  begin request _ hidle := guarded_program hidle _ request

/-- What holds of the directory after any steps, and how it goes on from there. -/
theorem governed_found (verifiers : ι → WorkloadTrustVerifier) (checkpoint : Option ByteArray)
    (lockPresent : Bool) (temporaries : Nat) :
    Interleaving.Governed (trustVerifiers verifiers) (trustDiscipline ι)
      (.quiet (.found checkpoint lockPresent temporaries)) :=
  Interleaving.Governed.quiet (consistent_found _ _ _) (fun _ => ⟨by nofun, by nofun⟩)

end

end TrustDirectory

section

variable [TrustStatePrimitives] [TrustBundlePrimitives] [Primitives] {ι : Type} [DecidableEq ι]

open TrustDirectory in
/-- Whatever the verifiers of one directory do, and whenever their processes end and start again:
    admissions never go back, one sequence is admitted with one digest, and the checkpoint is only
    replaced by a newer one. A verification that returns admitted its bundle. -/
theorem WorkloadTrustVerifier.never_roll_back (verifiers : ι → WorkloadTrustVerifier)
    (checkpoint : Option ByteArray) (lockPresent : Bool) (temporaries : Nat)
    {w w' : Interleaving.World ι (TrustDirectory ι) TrustAct TrustAct.Reply TrustRequest TrustError
      PublicKey}
    (hreached : (trustVerifiers verifiers).Steps
      (.quiet (.found checkpoint lockPresent temporaries)) w)
    (hlater : (trustVerifiers verifiers).Steps w w') :
    (w'.shared.admitted.map Prod.fst).Pairwise (· ≤ ·) ∧
      (∀ a ∈ w'.shared.admitted, ∀ b ∈ w'.shared.admitted, a.1 = b.1 → a.2 = b.2) ∧
      w.shared.Advances w'.shared ∧
      ∀ i request started key, w'.calls i = some ⟨request, started, .done (.ok key)⟩ →
        LoadedAdmitted request.loaded w'.shared := by
  obtain ⟨hgoverned, -⟩ :=
    (governed_found verifiers checkpoint lockPresent temporaries).steps (trust_sound verifiers)
      hreached
  obtain ⟨hgoverned', hadvances⟩ := hgoverned.steps (trust_sound verifiers) hlater
  have hordered : w'.shared.admitted.Pairwise Ordered := hgoverned'.invariant.ordered
  refine ⟨?_, ?_, hadvances, ?_⟩
  · apply List.pairwise_map.mpr
    exact hordered.imp (fun h => h.1)
  · intro a ha b hb
    have hsymm : Std.Symm (fun a b : ℤ × String => a.1 = b.1 → a.2 = b.2) :=
      ⟨fun _ _ h hsame => (h hsame.symm).symm⟩
    exact List.Pairwise.forall_of_forall (fun _ _ _ => rfl) (hordered.imp (fun h => h.2)) ha hb
  · intro i request started key hcall
    obtain ⟨-, hpost⟩ := hgoverned'.ended hcall
    exact hpost.2 key rfl

end

namespace Sample

open TrustDirectory

/-- One integrity digest, and digests that tell the sample bundles apart. -/
scoped instance sampleTrustStatePrimitives : TrustStatePrimitives where
  stateIntegritySha256 _ := 4000

scoped instance sampleTrustBundlePrimitives : TrustBundlePrimitives where
  publicKeyBase64 key := key
  publicKeySha256 key := Fin.ofNat (2 ^ 256) key.length
  bundleSha256 bundle := Fin.ofNat (2 ^ 256) bundle.sequence
  verifyBundle _ bundle := decide (bundle.signature = signature)

/-- A verifier of the sample authority. -/
def trustVerifier : WorkloadTrustVerifier where
  identity := verifier
  maximumBundleLifetime := 3600 * second
  store :=
    { trustDomain := "aegis-ot"
      authorityKeyId := "authority-key"
      authorityPublicKeySha256 :=
        hexdigest (TrustBundlePrimitives.publicKeySha256 verifier.trustRootPublicKey)
      trustDomainValid := by decide
      authorityKeyIdValid := by decide
      authorityPublicKeyValid := isHexDigest_hexdigest _ }
  storeTrustDomain := rfl
  storeAuthorityKeyId := rfl
  storeAuthorityPublicKey := rfl

/-- A bundle of the sample authority. -/
def trustBundle (sequence : Nat) : SignedWorkloadTrustBundle where
  sequence := sequence
  revocations := []
  bundleId := "bundle-1"
  trustDomain := "aegis-ot"
  authorityKeyId := "authority-key"
  authorityPublicKeyB64 := "authority-key"
  issuedAt := 0
  expiresAt := 60 * second
  signature := signature

/-- The verification of a coordinator under this bundle. -/
def verifying (sequence : Nat) : TrustRequest :=
  .credential (.ok (trustBundle sequence)) coordinatorCredential .otAdapter
    gatewayCoordinationAudience none none (.aware second)

/-- The first of two verifiers of an unused directory. -/
def firstWorld : Interleaving.World Nat (TrustDirectory Nat) TrustAct TrustAct.Reply TrustRequest
    TrustError PublicKey :=
  (Interleaving.World.quiet (.found none false 0)).after (answer 0)
    (trustVerifiers fun _ => trustVerifier) 0 (verifying 1)

/-- The second one comes with the next bundle. -/
def secondWorld : Interleaving.World Nat (TrustDirectory Nat) TrustAct TrustAct.Reply TrustRequest
    TrustError PublicKey :=
  firstWorld.after (answer 1) (trustVerifiers fun _ => trustVerifier) 1 (verifying 2)

theorem size_stateOf : (stateOf trustVerifier (trustBundle 1)).material.size ≤ maxStateBytes := by
  have hlength :
      (Json.write (.obj (stateOf trustVerifier (trustBundle 1)).members)).length ≤ 1000 := by
    decide +kernel
  unfold WorkloadTrustSequenceState.material
  exact (Json.size_fileBytes_le _).trans (by unfold maxStateBytes; omega)

theorem program_verifying (sequence : Nat) :
    (trustVerifiers fun _ : Nat => trustVerifier).program 0 (verifying sequence) =
      trustVerifier.trustedBundleTransaction second (.ok (trustBundle sequence)) (fun bundle =>
        Program.result (((trustVerifier.yielding bundle).verifyCredential coordinatorCredential
          .otAdapter gatewayCoordinationAudience "coordinator" none second).mapError
            .identity)) := by
  simp only [trustVerifiers, verifying, TrustRequest.program,
    WorkloadTrustVerifier.verifyCredential]
  rfl

theorem firstWorld_admitted : firstWorld.shared.admitted = [(1, hexdigest 1)] := by
  rw [firstWorld, Interleaving.World.shared_after, Interleaving.World.quiet_shared,
    program_verifying, exec_first _ rfl (by decide) size_stateOf]
  rfl

/-- What the first verifier admitted stays admitted, and the checkpoint only advances. -/
theorem never_roll_back_second :
    firstWorld.shared.Advances secondWorld.shared ∧
      (secondWorld.shared.admitted.map Prod.fst).Pairwise (· ≤ ·) ∧
      (1, hexdigest 1) ∈ secondWorld.shared.admitted := by
  have hfirst : (trustVerifiers fun _ => trustVerifier).Steps (.quiet (.found none false 0))
      firstWorld := Interleaving.World.steps_after (perform_answer 0) rfl _
  have hsecond : (trustVerifiers fun _ => trustVerifier).Steps firstWorld secondWorld :=
    Interleaving.World.steps_after (perform_answer 1) rfl _
  obtain ⟨hordered, -, hadvances, -⟩ :=
    WorkloadTrustVerifier.never_roll_back (fun _ => trustVerifier) none false 0 hfirst hsecond
  refine ⟨hadvances, hordered, hadvances.admitted.subset ?_⟩
  rw [firstWorld_admitted]
  exact List.mem_singleton_self _

end Sample

end AegisOt
