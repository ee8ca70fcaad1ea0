import AegisOt.Traceability.Ingestion
import AegisOt.Traceability.Proofs.ReplayHistory

/-!
# Attestations are consumed once

Any number of processes ingest attestations over one directory. Each call is proved alone against
what the others can do to the directory (`Rely`): the state that is read under the lock is the one
that is replaced, so what was consumed before is consumed in the new state, and what is accepted
was not. `Interleaving` carries that to every run, with crashes and losses of power.
-/

namespace AegisOt

open Program ReplayProgram

/-- The exceptions that say that an attestation was turned away: not an `OSError`, and not the
    failure of a commit. -/
def IngestError.isRejection : IngestError → Bool
  | .traceability message => decide (message ≠ commitFailure)
  | .os _ => false
  | _ => true

namespace ReplayDirectory

section

variable [TraceabilityPrimitives] {ι : Type}

/-- The content of the state file records this as consumed. -/
def Records (keyId : String) (entry : ConsumedEntry) (bytes : ByteArray) : Prop :=
  ∃ state, ReplayState.parse bytes = .ok state ∧ entry ∈ state.history keyId

/-- Of two acceptances for one key the first precedes the second. -/
def Ordered (a b : Acceptance ι) : Prop := a.keyId = b.keyId → a.entry.Precedes b.entry

/-- The state file can be read, and nothing that was accepted can be lost or accepted again. -/
structure Consistent (d : ReplayDirectory ι) : Prop where
  readable : ∀ bytes ∈ d.file.contents, ∃ state, ReplayState.parse bytes = .ok state
  recorded : ∀ a ∈ d.accepted, d.file.Durably (Records a.keyId a.entry)
  ordered : d.accepted.Pairwise Ordered

/-- What a process can count on: its lock, the state file while it holds the lock, and its own
    count of replacements. -/
structure Rely (i : ι) (d d' : ReplayDirectory ι) : Prop where
  holder : d'.holder = some i ↔ d.holder = some i
  locked : d'.locked i = d.locked i
  file : d.holder = some i → d'.file = d.file
  unaccepted : d.holder = some i → d'.accepted = d.accepted
  accepted : d.accepted <+: d'.accepted
  written : d'.written i = d.written i

omit [TraceabilityPrimitives] in
theorem Rely.refl (i : ι) (d : ReplayDirectory ι) : d.Rely i d :=
  ⟨Iff.rfl, rfl, fun _ => rfl, fun _ => rfl, List.prefix_refl _, rfl⟩

omit [TraceabilityPrimitives] in
theorem Rely.trans {i : ι} {d d₁ d₂ : ReplayDirectory ι} (h : d.Rely i d₁) (h' : d₁.Rely i d₂) :
    d.Rely i d₂ where
  holder := h'.holder.trans h.holder
  locked := h'.locked.trans h.locked
  file hheld := (h'.file (h.holder.mpr hheld)).trans (h.file hheld)
  unaccepted hheld := (h'.unaccepted (h.holder.mpr hheld)).trans (h.unaccepted hheld)
  accepted := h.accepted.trans h'.accepted
  written := h'.written.trans h.written

/-- How the directory goes on. -/
def Advances (d d' : ReplayDirectory ι) : Prop := d.accepted <+: d'.accepted

/-- What a process may do: it changes the state file only under the lock and only to one that
    records as much, and accepts only what is recorded for good and was not accepted before. -/
def Allowed (i : ι) (d : ReplayDirectory ι) : ReplayAct → Prop
  | .operate (.replaceState material) => d.holder = some i ∧
      (∃ state, ReplayState.parse material = .ok state) ∧
      ∀ keyId entry bytes, d.file.visible = some bytes → Records keyId entry bytes →
        Records keyId entry material
  | .operate .syncParent => d.holder = some i
  | .accept keyId entry => d.holder = some i ∧ d.file.Durably (Records keyId entry) ∧
      ∀ a ∈ d.accepted, a.keyId = keyId → a.entry.Precedes entry
  | _ => True

/-- What every step of one process comes to. -/
def Kept (i : ι) (d d' : ReplayDirectory ι) : Prop :=
  d'.Consistent ∧ d.Advances d' ∧ ∀ j, j ≠ i → d.Rely j d'

/-- Only locks change, and not those of the others. -/
structure Quiet (i : ι) (d d' : ReplayDirectory ι) : Prop where
  file : d'.file = d.file
  accepted : d'.accepted = d.accepted
  written : d'.written = d.written
  holder : ∀ j, j ≠ i → (d'.holder = some j ↔ d.holder = some j)
  locked : ∀ j, j ≠ i → d'.locked j = d.locked j

omit [TraceabilityPrimitives] in
theorem Quiet.refl (i : ι) (d : ReplayDirectory ι) : Quiet i d d :=
  ⟨rfl, rfl, rfl, fun _ _ => Iff.rfl, fun _ _ => rfl⟩

theorem Quiet.kept {i : ι} {d d' : ReplayDirectory ι} (h : Quiet i d d') (hd : d.Consistent) :
    Kept i d d' := by
  have hadvances : d.accepted <+: d'.accepted := h.accepted ▸ List.prefix_refl _
  refine ⟨⟨?_, ?_, ?_⟩, hadvances, ?_⟩
  · rw [h.file]
    exact hd.readable
  · rw [h.file, h.accepted]
    exact hd.recorded
  · rw [h.accepted]
    exact hd.ordered
  · intro j hj
    exact ⟨h.holder j hj, h.locked j hj, fun _ => h.file, fun _ => h.accepted, hadvances,
      congrFun h.written j⟩

omit [TraceabilityPrimitives] in
/-- The lock excludes the others. -/
theorem not_held {i j : ι} {d : ReplayDirectory ι} (hheld : d.holder = some i) (hj : j ≠ i) :
    d.holder ≠ some j := by
  rw [hheld]
  simp [Ne.symm hj]

variable [DecidableEq ι]

omit [TraceabilityPrimitives] [DecidableEq ι] in
/-- What is done under the lock leaves the others alone. -/
theorem rely_of_held {i j : ι} {d d' : ReplayDirectory ι} (hheld : d.holder = some i) (hj : j ≠ i)
    (hholder : d'.holder = d.holder) (hlocked : d'.locked = d.locked)
    (haccepted : d.accepted <+: d'.accepted) (hwritten : d'.written j = d.written j) :
    d.Rely j d' where
  holder := by rw [hholder]
  locked := congrFun hlocked j
  file hother := absurd hother (not_held hheld hj)
  unaccepted hother := absurd hother (not_held hheld hj)
  accepted := haccepted
  written := hwritten

/-- The state file is replaced by one that records as much. -/
theorem kept_replace {i : ι} {d : ReplayDirectory ι} {material : ByteArray} (hd : d.Consistent)
    (hallowed : d.Allowed i (.operate (.replaceState material))) :
    Kept i d { d with
      file := d.file.replace material
      written := Function.update d.written i (d.written i + 1) } := by
  obtain ⟨hheld, hreadable, hrecords⟩ := hallowed
  refine ⟨⟨?_, ?_, hd.ordered⟩, List.prefix_refl _, ?_⟩
  · intro bytes hbytes
    rw [AtomicFile.contents_replace] at hbytes
    rcases List.mem_append.mp hbytes with hold | hnew
    · exact hd.readable bytes hold
    · rw [List.mem_singleton.mp hnew]
      exact hreadable
  · intro a ha
    have hdurably := hd.recorded a ha
    obtain ⟨bytes, hvisible, hrecorded⟩ := hdurably.visible
    exact hdurably.replace (hrecords _ _ bytes hvisible hrecorded)
  · intro j hj
    exact rely_of_held hheld hj rfl rfl (List.prefix_refl _) (Function.update_of_ne hj _ _)

omit [DecidableEq ι] in
theorem kept_sync {i : ι} {d : ReplayDirectory ι} (hd : d.Consistent) (hheld : d.holder = some i) :
    Kept i d { d with file := d.file.sync } := by
  refine ⟨⟨?_, ?_, hd.ordered⟩, List.prefix_refl _, ?_⟩
  · rw [AtomicFile.contents_sync]
    exact hd.readable
  · intro a ha
    exact (hd.recorded a ha).sync
  · intro j hj
    exact rely_of_held hheld hj rfl rfl (List.prefix_refl _) rfl

omit [DecidableEq ι] in
/-- An attestation is accepted that is recorded for good. -/
theorem kept_accept {i : ι} {d : ReplayDirectory ι} {keyId : String} {entry : ConsumedEntry}
    (hd : d.Consistent) (hallowed : d.Allowed i (.accept keyId entry)) :
    Kept i d { d with accepted := d.accepted ++ [⟨i, keyId, entry⟩] } := by
  obtain ⟨hheld, hdurably, hprecedes⟩ := hallowed
  refine ⟨⟨hd.readable, ?_, ?_⟩, List.prefix_append _ _, ?_⟩
  · intro a ha
    rcases List.mem_append.mp ha with hold | hnew
    · exact hd.recorded a hold
    · rw [List.mem_singleton.mp hnew]
      exact hdurably
  · refine List.pairwise_append.mpr ⟨hd.ordered, List.pairwise_singleton _ _, ?_⟩
    intro a ha b hb
    rw [List.mem_singleton.mp hb]
    exact hprecedes a ha
  · intro j hj
    exact rely_of_held hheld hj rfl rfl (List.prefix_append _ _) rfl

omit [TraceabilityPrimitives] in
theorem quiet_released (d : ReplayDirectory ι) (i : ι) : Quiet i d (d.released i) := by
  unfold released
  split
  · rename_i hheld
    refine ⟨rfl, rfl, rfl, ?_, fun j hj => Function.update_of_ne hj _ _⟩
    intro j hj
    rw [hheld.1]
    simp [Ne.symm hj]
  · exact Quiet.refl i d

omit [TraceabilityPrimitives] in
theorem quiet_crash {i : ι} {d d' : ReplayDirectory ι} (h : Crash i d d') : Quiet i d d' := by
  obtain rfl := h
  refine ⟨rfl, rfl, rfl, ?_, fun j hj => Function.update_of_ne hj _ _⟩
  intro j hj
  dsimp only
  split
  · rename_i hheld
    rw [hheld]
    simp [Ne.symm hj]
  · rfl

/-- The operations that change nothing, or give up the lock. -/
def Harmless : ReplayOperation → Prop
  | .acquireLock | .replaceState _ | .syncParent => False
  | _ => True

omit [TraceabilityPrimitives] in
theorem eq_or_released {i : ι} {d d' : ReplayDirectory ι} {operation : ReplayOperation}
    {reply : Except String Unit} (hharmless : Harmless operation)
    (h : d.Operate i operation reply d') : d' = d ∨ d' = d.released i := by
  cases operation with
  | acquireLock | replaceState | syncParent => exact hharmless.elim
  | unlock =>
    cases reply with
    | ok _ => exact .inr h
    | error _ => exact .inl h
  | closeLock => exact .inr h
  | createTemporary | writeTemporary | dropTemporary | closeParent => exact .inl h

/-- Every allowed action is one that everyone can count on. -/
theorem Perform.kept {i : ι} {d d' : ReplayDirectory ι} {action : ReplayAct}
    {reply : action.Reply} (hd : d.Consistent) (hallowed : d.Allowed i action)
    (h : d.Perform i action reply d') : Kept i d d' := by
  have hsame (hsame : d' = d) : Kept i d d' := hsame ▸ (Quiet.refl i d).kept hd
  cases action with
  | openParent => exact hsame h
  | readState => exact hsame h.1
  | openLock =>
    cases reply with
    | error _ => exact hsame h
    | ok _ =>
      obtain rfl := h
      exact Quiet.kept ⟨rfl, rfl, rfl, fun _ _ => Iff.rfl,
        fun j hj => Function.update_of_ne hj _ _⟩ hd
  | accept keyId entry =>
    obtain rfl := h
    exact kept_accept hd hallowed
  | operate operation =>
    by_cases hharmless : Harmless operation
    · rcases eq_or_released hharmless h with rfl | rfl
      · exact (Quiet.refl i d').kept hd
      · exact (quiet_released d i).kept hd
    cases operation with
    | acquireLock =>
      cases reply with
      | error _ => exact hsame h
      | ok _ =>
        obtain ⟨hfree, rfl⟩ := h
        refine Quiet.kept ⟨rfl, rfl, rfl, ?_, fun j hj => Function.update_of_ne hj _ _⟩ hd
        intro j hj
        simp [hfree, Ne.symm hj]
    | replaceState material =>
      cases reply with
      | error _ => exact hsame h
      | ok _ =>
        obtain rfl := h
        exact kept_replace hd hallowed
    | syncParent =>
      cases reply with
      | error _ => exact hsame h
      | ok _ =>
        obtain rfl := h
        exact kept_sync hd hallowed
    | createTemporary | writeTemporary | dropTemporary | unlock | closeLock | closeParent =>
      exact absurd trivial hharmless

omit [DecidableEq ι] in
/-- A loss of power takes nothing away that was accepted. -/
theorem consistent_powerLoss {d d' : ReplayDirectory ι} (hd : d.Consistent) (h : d.PowerLoss d') :
    d'.Consistent ∧ d.Advances d' := by
  obtain ⟨count, rfl⟩ := h
  refine ⟨⟨?_, ?_, hd.ordered⟩, List.prefix_refl _⟩
  · intro bytes hbytes
    exact hd.readable bytes ((AtomicFile.contents_powerLoss _ count).subset hbytes)
  · intro a ha
    exact (hd.recorded a ha).powerLoss count

/-! ## One call -/

/-- One process among the others. -/
def contract (i : ι) : Contract (ReplayDirectory ι) ReplayAct ReplayAct.Reply where
  invariant := Consistent
  rely := Rely i
  perform := Perform i
  allowed := Allowed i

/-- A property that the others keep, and giving up the lock too. -/
structure Lasting (i : ι) (P : ReplayDirectory ι → Prop) : Prop where
  rely : ∀ d d', Rely i d d' → P d → P d'
  released : ∀ d, P d → P (d.released i)

/-- How a call that began after so many acceptances and replacements ends. -/
def Ended {α : Type} (i : ι) (keyId : String) (entry : ConsumedEntry) (count written : Nat) :
    Except IngestError α → ReplayDirectory ι → Prop
  | .ok _, d => ∃ index, count ≤ index ∧ d.accepted[index]? = some ⟨i, keyId, entry⟩
  | .error error, d => error.isRejection = true → d.written i = written

variable {i : ι} {keyId : String} {entry : ConsumedEntry} {count written : Nat}
  {d : ReplayDirectory ι} {α β : Type}

omit [TraceabilityPrimitives] in
theorem lasting_ended (result : Except IngestError α) :
    Lasting i (Ended i keyId entry count written result) where
  rely d d' hrely h := by
    cases result with
    | ok _ =>
      obtain ⟨index, hindex, hfound⟩ := h
      obtain ⟨rest, hrest⟩ := hrely.accepted
      have hlength : index < d.accepted.length := (List.getElem?_eq_some_iff.mp hfound).1
      refine ⟨index, hindex, ?_⟩
      rw [← hrest, List.getElem?_append_left hlength]
      exact hfound
    | error error =>
      intro hrejection
      exact hrely.written.trans (h hrejection)
  released d h := by
    have hquiet := quiet_released d i
    cases result with
    | ok _ =>
      obtain ⟨index, hindex, hfound⟩ := h
      exact ⟨index, hindex, hquiet.accepted ▸ hfound⟩
    | error error =>
      intro hrejection
      exact (congrFun hquiet.written i).trans (h hrejection)

/-- The rule of one operation. -/
theorem guarded_operate {operation : ReplayOperation} {P : ReplayDirectory ι → Prop}
    {post : Except IngestError Unit → ReplayDirectory ι → Prop}
    (hstable : ∀ d d', Rely i d d' → P d → P d') (hd : P d)
    (hallowed : ∀ d, P d → d.Allowed i (.operate operation))
    (hpost : ∀ reply d d', P d → d.Operate i operation reply d' →
      post (reply.mapError .os) d') : (operate operation).Guarded (contract i) post d := by
  intro d₁ hrely _
  have hd₁ := hstable _ _ hrely hd
  refine ⟨hallowed d₁ hd₁, ?_⟩
  intro reply d' hperform _
  exact hpost reply d₁ d' hd₁ hperform

/-- The rule of one operation and what follows it. -/
theorem guarded_operate_bind {operation : ReplayOperation} {f : Unit → ReplayProgram α}
    {P : ReplayDirectory ι → Prop} {post : Except IngestError α → ReplayDirectory ι → Prop}
    (hstable : ∀ d d', Rely i d d' → P d → P d') (hd : P d)
    (hallowed : ∀ d, P d → d.Allowed i (.operate operation))
    (hok : ∀ d d', P d → d.Operate i operation (.ok ()) d' → (f ()).Guarded (contract i) post d')
    (herror : ∀ cause d d', P d → d.Operate i operation (.error cause) d' →
      post (.error (.os cause)) d') :
    (operate operation >>= f).Guarded (contract i) post d := by
  rw [guarded_bind]
  apply guarded_operate hstable hd hallowed
  intro reply d d' hd hperform
  cases reply with
  | ok _ => exact hok d d' hd hperform
  | error cause => exact herror cause d d' hd hperform

omit [DecidableEq ι] in
theorem allowed_of_harmless {operation : ReplayOperation} (hharmless : Harmless operation)
    (d : ReplayDirectory ι) : d.Allowed i (.operate operation) := by
  cases operation with
  | acquireLock | replaceState | syncParent => exact hharmless.elim
  | createTemporary | writeTemporary | dropTemporary | unlock | closeLock | closeParent =>
    trivial

/-- `P` still holds, and nothing was turned away. -/
def Undisturbed (P : ReplayDirectory ι → Prop) (result : Except IngestError Unit)
    (d : ReplayDirectory ι) : Prop :=
  P d ∧ ∀ error, result = .error error → error.isRejection = false

/-- What is harmless leaves a lasting property undisturbed. -/
theorem guarded_harmless {operation : ReplayOperation} (hharmless : Harmless operation)
    {P : ReplayDirectory ι → Prop} (hP : Lasting i P) (hd : P d) :
    (operate operation).Guarded (contract i) (Undisturbed P) d := by
  apply guarded_operate hP.rely hd
  · intro d _
    exact allowed_of_harmless hharmless d
  · intro reply d d' hd h
    refine ⟨?_, ?_⟩
    · rcases eq_or_released hharmless h with rfl | rfl
      · exact hd
      · exact hP.released d hd
    · intro error herror
      cases reply with
      | ok _ => cases herror
      | error cause =>
        obtain rfl := Except.error.inj herror
        rfl

/-- The rule of a `finally` clause that only does what is harmless. -/
theorem guarded_finally {p : ReplayProgram α} {cleanup : ReplayProgram Unit}
    (hcleanup : ∀ (P : ReplayDirectory ι → Prop) (d : ReplayDirectory ι), Lasting i P → P d →
      cleanup.Guarded (contract i) (Undisturbed P) d)
    (hp : p.Guarded (contract i) (Ended i keyId entry count written) d) :
    (p.ensuring cleanup).Guarded (contract i) (Ended i keyId entry count written) d := by
  rw [guarded_ensuring]
  refine guarded_mono ?_ hp
  intro result d' hended
  refine guarded_mono ?_ (hcleanup _ d' (lasting_ended result) hended)
  rintro ended d'' ⟨hstill, hdisturbed⟩
  cases ended with
  | ok _ => exact hstill
  | error error =>
    intro hrejection
    rw [hdisturbed error rfl] at hrejection
    cases hrejection

/-! ### The commit -/

/-- A process holds the lock, and this is what it can count on. -/
structure Held (i : ι) (file : AtomicFile ByteArray) (accepted : List (Acceptance ι))
    (written : Nat) (d : ReplayDirectory ι) : Prop where
  holder : d.holder = some i
  file : d.file = file
  accepted : d.accepted = accepted
  written : d.written i = written

variable {file : AtomicFile ByteArray} {accepted : List (Acceptance ι)}

omit [TraceabilityPrimitives] [DecidableEq ι] in
theorem Held.rely (d d' : ReplayDirectory ι) (hrely : d.Rely i d')
    (h : Held i file accepted written d) : Held i file accepted written d' where
  holder := hrely.holder.mpr h.holder
  file := (hrely.file h.holder).trans h.file
  accepted := (hrely.unaccepted h.holder).trans h.accepted
  written := hrely.written.trans h.written

omit [TraceabilityPrimitives] [DecidableEq ι] in
/-- No `OSError` and no failure of a commit says that an attestation was turned away. -/
theorem ended_of_not_rejection {error : IngestError} (h : error.isRejection = false) :
    Ended i keyId entry count written (.error error : Except IngestError α) d := by
  intro hrejection
  exact absurd (h.symm.trans hrejection) Bool.false_ne_true

theorem handled_os (cause : String) (d : ReplayDirectory ι) :
    Handled (contract i) (fun error => raise (commitFailed error))
      (Ended i keyId entry count written : Except IngestError Unit → _) (.error (.os cause)) d := by
  have hcommit : (commitFailed (.os cause)).isRejection = false := by
    simp [commitFailed, IngestError.isRejection]
  intro hrejection
  exact absurd (hcommit.symm.trans hrejection) Bool.false_ne_true

/-- What may be committed over a file: a state that records as much and this attestation, which
    every accepted one precedes. -/
structure Committable (file : AtomicFile ByteArray) (accepted : List (Acceptance ι))
    (keyId : String) (entry : ConsumedEntry) (material : ByteArray) : Prop where
  readable : ∃ state, ReplayState.parse material = .ok state
  kept : ∀ keyId entry bytes, file.visible = some bytes → Records keyId entry bytes →
    Records keyId entry material
  recorded : Records keyId entry material
  precedes : ∀ a ∈ accepted, a.keyId = keyId → a.entry.Precedes entry

/-- A commit under the lock. -/
theorem guarded_commitReplayState {material : ByteArray} (hcount : count ≤ accepted.length)
    (hcommittable : Committable file accepted keyId entry material)
    (hd : Held i file accepted written d) :
    (commitReplayState material keyId entry).Guarded (contract i)
      (Ended i keyId entry count written) d := by
  refine guarded_finally ?_ ?_
  · intro P d hP hd
    refine guarded_harmless ?_ hP hd
    trivial
  rw [guarded_catching]
  refine guarded_operate_bind Held.rely hd (fun _ _ => trivial) ?_
    (fun cause _ d' _ _ => handled_os cause d')
  rintro d _ hd rfl
  refine guarded_operate_bind Held.rely hd (fun _ _ => trivial) ?_
    (fun cause _ d' _ _ => handled_os cause d')
  rintro d _ hd rfl
  refine guarded_operate_bind Held.rely hd ?_ ?_ (fun cause _ d' _ _ => handled_os cause d')
  · intro d hd
    refine ⟨hd.holder, hcommittable.readable, ?_⟩
    rw [hd.file]
    exact hcommittable.kept
  rintro d _ hd rfl
  have hreplaced : Held i (file.replace material) accepted (written + 1)
      { d with
        file := d.file.replace material
        written := Function.update d.written i (d.written i + 1) } :=
    ⟨hd.holder, congrArg (AtomicFile.replace · material) hd.file, hd.accepted,
      (Function.update_self i _ _).trans (congrArg (· + 1) hd.written)⟩
  refine guarded_operate_bind Held.rely hreplaced (fun _ hd => hd.holder) ?_
    (fun cause _ d' _ _ => handled_os cause d')
  rintro d _ hd rfl
  -- the replacement is on the medium before anything is said to be accepted
  have hsynced : Held i (file.replace material).sync accepted (written + 1)
      { d with file := d.file.sync } :=
    ⟨hd.holder, congrArg AtomicFile.sync hd.file, hd.accepted, hd.written⟩
  intro d hrely _
  have hd := Held.rely _ _ hrely hsynced
  refine ⟨⟨hd.holder, ?_, ?_⟩, ?_⟩
  · rw [hd.file]
    exact AtomicFile.durably_sync (AtomicFile.visible_replace file material) hcommittable.recorded
  · rw [hd.accepted]
    exact hcommittable.precedes
  · rintro _ _ rfl -
    refine ⟨d.accepted.length, hd.accepted ▸ hcount, ?_⟩
    simp

/-! ### The whole call -/

omit [DecidableEq ι] in
theorem records_iff {bytes : ByteArray} {state : ReplayState}
    (h : ReplayState.parse bytes = .ok state) :
    Records keyId entry bytes ↔ entry ∈ state.history keyId := by
  simp [Records, h]

omit [DecidableEq ι] in
/-- What is staged for a file that shows `found` may be committed over it. -/
theorem committable_of_stage {authority : TrustedAttestationAuthority}
    {verified : VerifiedAttestation} {state next : ReplayState} {material : ByteArray}
    (hd : d.Consistent) (hverified : verified.consumed.WellFormed ∧ IsNarrow verified.sequence)
    (hstate : ReplayState.ofFile d.file.visible = .ok state)
    (hnext : state.consume authority verified = .ok next) (hmaterial : next.stage = .ok material) :
    Committable d.file d.accepted authority.keyId verified.consumed material := by
  have hvalid : state.Valid ∧ state.Narrow := by
    cases hvisible : d.file.visible with
    | none =>
      rw [hvisible] at hstate
      obtain rfl := Except.ok.inj hstate
      exact ⟨ReplayState.valid_initial, ReplayState.narrow_initial⟩
    | some bytes =>
      rw [hvisible] at hstate
      exact ReplayState.valid_of_parse hstate
  obtain ⟨hentries, hextends, hnarrow⟩ :=
    ReplayState.consume_eq_ok hnext hvalid.1 hverified.1
  obtain ⟨rfl, hauthorities, hsize⟩ := ReplayState.stage_eq_ok hmaterial
  have hparsed : ReplayState.parse next.material = .ok next :=
    ReplayState.parse_material ⟨hauthorities, hentries⟩ (hnarrow hvalid.2 hverified.2) hsize
  refine ⟨⟨next, hparsed⟩, ?_, ?_, ?_⟩
  · intro keyId entry bytes hvisible hrecords
    rw [hvisible] at hstate
    rw [records_iff hstate] at hrecords
    rw [records_iff hparsed]
    by_cases hkey : keyId = authority.keyId
    · rw [hkey] at hrecords ⊢
      rw [hextends.history]
      exact List.mem_append_left _ hrecords
    · rw [hextends.others keyId hkey]
      exact hrecords
  · rw [records_iff hparsed, hextends.history]
    exact List.mem_append_right _ (List.mem_singleton_self _)
  · intro a ha hkey
    obtain ⟨bytes, hvisible, hrecords⟩ := (hd.recorded a ha).visible
    rw [hvisible] at hstate
    rw [records_iff hstate, hkey] at hrecords
    exact hextends.precedes _ hrecords

/-- A call is still on its way: it replaced nothing. -/
structure Underway (i : ι) (count written : Nat) (d : ReplayDirectory ι) : Prop where
  count : count ≤ d.accepted.length
  written : d.written i = written

omit [TraceabilityPrimitives] in
theorem lasting_underway : Lasting i (Underway i count written) where
  rely d d' hrely h := ⟨h.count.trans hrely.accepted.length_le, hrely.written.trans h.written⟩
  released d h := by
    have hquiet := quiet_released d i
    exact ⟨hquiet.accepted ▸ h.count, (congrFun hquiet.written i).trans h.written⟩

omit [TraceabilityPrimitives] [DecidableEq ι] in
theorem Underway.ended (h : Underway i count written d) (error : IngestError) :
    Ended i keyId entry count written (.error error : Except IngestError α) d :=
  fun _ => h.written

theorem guarded_ingestUnderLock {authority : TrustedAttestationAuthority}
    {verified : VerifiedAttestation}
    (hverified : verified.consumed.WellFormed ∧ IsNarrow verified.sequence)
    (hd : Underway i count written d) :
    (ingestUnderLock authority verified).Guarded (contract i)
      (Ended i authority.keyId verified.consumed count written) d := by
  refine guarded_operate_bind lasting_underway.rely hd (fun _ _ => trivial) ?_ ?_
  · rintro d _ hd ⟨-, rfl⟩
    have hheld : Held i d.file d.accepted written
        { d with holder := some i, locked := Function.update d.locked i true } :=
      ⟨rfl, rfl, rfl, hd.written⟩
    intro d' hrely hconsistent
    have hheld := Held.rely _ _ hrely hheld
    refine ⟨trivial, ?_⟩
    rintro reply d' ⟨rfl, hvisible⟩ -
    have hunderway : Underway i count written d' := ⟨hheld.accepted ▸ hd.count, hheld.written⟩
    refine guarded_result_seq ?_ hunderway.ended
    intro found hfound
    obtain rfl := hvisible found hfound
    refine guarded_result_seq ?_ hunderway.ended
    intro state hstate
    refine guarded_result_seq ?_ hunderway.ended
    intro next hnext
    refine guarded_result_seq ?_ hunderway.ended
    intro material hmaterial
    exact guarded_commitReplayState hunderway.count
      (committable_of_stage hconsistent hverified hstate hnext hmaterial)
      ⟨hheld.holder, rfl, rfl, hunderway.written⟩
  · rintro cause d _ hd rfl
    exact hd.ended _

theorem guarded_releaseReplayLock {P : ReplayDirectory ι → Prop} (hP : Lasting i P) (hd : P d) :
    releaseReplayLock.Guarded (contract i) (Undisturbed P) d := by
  have herror (error : IngestError) (d' : ReplayDirectory ι)
      (h : Undisturbed P (.error error) d') : Undisturbed P (.error error) d' := h
  refine guarded_seq (guarded_harmless ?_ hP hd) ?_ herror
  · trivial
  rintro _ d ⟨hd, -⟩
  refine guarded_seq (guarded_harmless ?_ hP hd) ?_ herror
  · trivial
  rintro _ d ⟨hd, -⟩
  refine guarded_harmless ?_ hP hd
  trivial

/-- How a call ends that began in some state of the directory. -/
def Ends (i : ι) (request : IngestRequest) (started : ReplayDirectory ι) :
    Except IngestError VerifiedAttestation → ReplayDirectory ι → Prop
  | .ok verified, d => ∃ index, started.accepted.length ≤ index ∧
      d.accepted[index]? = some ⟨i, request.authority.keyId, verified.consumed⟩
  | .error error, d => error.isRejection = true → d.written i = started.written i

theorem guarded_openParent (hd : Underway i count written d) :
    openParent.Guarded (contract i) (fun _ => Underway i count written) d := by
  intro d hrely _
  refine ⟨trivial, ?_⟩
  rintro reply _ rfl -
  exact lasting_underway.rely _ _ hrely hd

theorem guarded_openLock (hd : Underway i count written d) :
    openLock.Guarded (contract i) (fun _ => Underway i count written) d := by
  intro d hrely _
  have hd := lasting_underway.rely _ _ hrely hd
  refine ⟨trivial, ?_⟩
  intro reply d' hperform _
  cases reply with
  | error error =>
    obtain rfl : d' = d := hperform
    exact hd
  | ok _ =>
    obtain rfl : d' = { d with locked := Function.update d.locked i false } := hperform
    exact ⟨hd.count, hd.written⟩

theorem guarded_ingestExternalAttestation (request : IngestRequest) (started : ReplayDirectory ι) :
    (ingestExternalAttestation request).Guarded (contract i) (Ends i request started) started := by
  have hstarted : Underway i started.accepted.length (started.written i) started :=
    ⟨le_refl _, rfl⟩
  have hended (error : IngestError) (d : ReplayDirectory ι)
      (hd : Underway i started.accepted.length (started.written i) d) :
      Ends i request started (.error error) d := fun _ => hd.written
  refine guarded_result_seq ?_ (fun error => hended error _ hstarted)
  intro verified hverify
  obtain ⟨hwellFormed, hnarrow, -⟩ := consumed_of_verify hverify
  refine guarded_keeps_seq (guarded_openParent hstarted) hended ?_
  intro _ d hd
  refine guarded_attempt_bind.mpr (guarded_mono ?_ (guarded_openLock hd))
  intro opened d hd
  cases opened with
  | error error =>
    refine guarded_seq (guarded_harmless ?_ lasting_underway hd) ?_ ?_
    · trivial
    · intro _ d hd
      exact hended error d hd.1
    · intro error d hd
      exact hended error d hd.1
  | ok _ =>
    refine guarded_seq (guarded_finally (fun _ _ => guarded_releaseReplayLock)
      (guarded_ingestUnderLock ⟨hwellFormed, hnarrow⟩ hd)) ?_ ?_
    · intro _ d hd
      exact hd
    · intro error d hd
      exact hd

end

end ReplayDirectory

/-! ## Every run -/

section

variable [TraceabilityPrimitives] {ι : Type} [DecidableEq ι]

open Interleaving ReplayDirectory

/-- What is promised for the processes that ingest. -/
def ingestDiscipline (ι : Type) : Discipline ι (ReplayDirectory ι) ReplayAct IngestRequest
    IngestError VerifiedAttestation where
  invariant := Consistent
  advances := ReplayDirectory.Advances
  rely := Rely
  allowed := Allowed
  idle _ _ := True
  post := Ends

theorem Ends.rely {i : ι} {request : IngestRequest} {started d d' : ReplayDirectory ι}
    {result : Except IngestError VerifiedAttestation} (hrely : d.Rely i d')
    (h : Ends i request started result d) : Ends i request started result d' := by
  cases result with
  | ok verified =>
    have hlasting : Lasting i (Ended i request.authority.keyId verified.consumed
        started.accepted.length (started.written i) (.ok verified)) := lasting_ended _
    exact hlasting.rely d d' hrely h
  | error error => exact fun hrejection => hrely.written.trans (h hrejection)

theorem sound_ingesting : Sound (ingesting ι) (ingestDiscipline ι) where
  advances_refl d := List.prefix_refl _
  advances_trans h h' := h.trans h'
  rely_refl d := Rely.refl _ d
  rely_trans := Rely.trans
  act := Perform.kept
  crash hd h := by
    obtain ⟨hconsistent, hadvances, hothers⟩ := (quiet_crash h).kept hd
    exact ⟨hconsistent, hadvances, trivial, hothers⟩
  idle_stable _ h := h
  post_stable := Ends.rely
  idle_of_post _ := trivial
  begin request _ _ := guarded_ingestExternalAttestation request _

omit [DecidableEq ι] in
theorem survives_powerLoss : Survives (ingestDiscipline ι) PowerLoss := by
  intro d d' hd h
  obtain ⟨hconsistent, hadvances⟩ := consistent_powerLoss hd h
  exact ⟨hconsistent, hadvances, fun _ => trivial⟩

omit [TraceabilityPrimitives] in
/-- A process changes the state file only by replacing it, which is counted. -/
theorem replaces_or_keeps {i : ι} {d d' : ReplayDirectory ι} {action : ReplayAct}
    {reply : action.Reply} (h : d.Perform i action reply d') :
    (d'.file.visible = d.file.visible ∧ d'.written = d.written) ∨
      d'.written = Function.update d.written i (d.written i + 1) := by
  cases action with
  | openParent => exact .inl (h ▸ ⟨rfl, rfl⟩)
  | readState => exact .inl (h.1 ▸ ⟨rfl, rfl⟩)
  | accept keyId entry => exact .inl (h ▸ ⟨rfl, rfl⟩)
  | openLock =>
    cases reply with
    | error _ => exact .inl (h ▸ ⟨rfl, rfl⟩)
    | ok _ => exact .inl (h ▸ ⟨rfl, rfl⟩)
  | operate operation =>
    by_cases hharmless : Harmless operation
    · rcases eq_or_released hharmless h with rfl | rfl
      · exact .inl ⟨rfl, rfl⟩
      · have hquiet := quiet_released d i
        exact .inl ⟨congrArg AtomicFile.visible hquiet.file, hquiet.written⟩
    cases reply with
    | error _ =>
      have hsame : d' = d := by
        cases operation with
        | acquireLock | replaceState | syncParent => exact h
        | createTemporary | writeTemporary | dropTemporary | unlock | closeLock | closeParent =>
          exact absurd trivial hharmless
      exact .inl (hsame ▸ ⟨rfl, rfl⟩)
    | ok _ =>
      cases operation with
      | acquireLock => exact .inl (h.2 ▸ ⟨rfl, rfl⟩)
      | replaceState material => exact .inr (h ▸ rfl)
      | syncParent => exact .inl (h ▸ ⟨AtomicFile.visible_sync _, rfl⟩)
      | createTemporary | writeTemporary | dropTemporary | unlock | closeLock | closeParent =>
        exact absurd trivial hharmless

/-- What the directory and the calls that ended look like. -/
structure OnceOnly (w : World ι (ReplayDirectory ι) ReplayAct ReplayAct.Reply IngestRequest
    IngestError VerifiedAttestation) : Prop where
  /-- What was accepted differs, and its sequences increase. -/
  ordered : w.shared.accepted.Pairwise Ordered
  /-- If there is a state file, it can be read, and so it is in the file. -/
  readable : ∀ bytes, w.shared.file.visible = some bytes → ∃ state,
    ReplayState.parse bytes = .ok state ∧
      ∀ keyId, (state.history keyId).Pairwise ConsumedEntry.Precedes
  recorded : ∀ a ∈ w.shared.accepted, ∃ bytes, w.shared.file.visible = some bytes ∧
    Records a.keyId a.entry bytes
  /-- Every success stands for an acceptance of its own. -/
  success : ∀ i request started verified,
    w.calls i = some ⟨request, started, .done (.ok verified)⟩ →
      ∃ index, started.accepted.length ≤ index ∧
        w.shared.accepted[index]? = some ⟨i, request.authority.keyId, verified.consumed⟩
  /-- What was turned away replaced nothing. -/
  rejected : ∀ i request started error,
    w.calls i = some ⟨request, started, .done (.error error)⟩ → error.isRejection = true →
      w.shared.written i = started.written i

theorem onceOnly_of_governed {w : World ι (ReplayDirectory ι) ReplayAct ReplayAct.Reply
    IngestRequest IngestError VerifiedAttestation}
    (h : Governed (ingesting ι) (ingestDiscipline ι) w) : OnceOnly w := by
  refine ⟨h.invariant.ordered, ?_, ?_, ?_, ?_⟩
  · intro bytes hvisible
    obtain ⟨state, hstate⟩ := h.invariant.readable bytes (List.mem_of_getLast? hvisible)
    exact ⟨state, hstate, (ReplayState.valid_of_parse hstate).1.history⟩
  · intro a ha
    exact (h.invariant.recorded a ha).visible
  · intro i request started verified hcall
    exact (h.ended hcall).2
  · intro i request started error hcall
    exact (h.ended hcall).2

end

/-! ## A first call -/

namespace Sample

scoped instance sampleTraceabilityPrimitives : TraceabilityPrimitives where
  sha256 _ := 0
  publicBytesRaw key := key.toUTF8
  verify _ _ _ := true

def attestationAuthority : TrustedAttestationAuthority where
  authorityId := "independent-validation"
  publicKey := "authority-key"
  allowedRequirementIds := ["AOT-SAF-001"]
  maximumAge := 600 * second
  maximumValidity := 600 * second
  futureSkew := 0
  authorityIdCanonical := by decide +kernel
  scopeValid := by decide +kernel
  limitsValid := by decide

def attestationContext : AttestationContext where
  requirementsSourceSha256 := "requirements"
  gitCommit := "commit"
  gitTree := "tree"
  mappingSha256 := "mapping"
  traceabilityContentSha256 := "traceability"
  purpose := "acceptance"
  audience := "aegis-ot"
  challengeNonce := "challenge-0001"
  artifactsByRequirement := .empty

def ingestRequest : IngestRequest :=
  ⟨ByteArray.empty, attestationAuthority, attestationContext, .aware 0⟩

/-- One of two processes has begun a call, and there is no state file yet. -/
def begun : Interleaving.World Bool (ReplayDirectory Bool) ReplayAct ReplayAct.Reply IngestRequest
    IngestError VerifiedAttestation :=
  (Interleaving.World.quiet (ReplayDirectory.found .missing)).assign true
    (some ⟨ingestRequest, ReplayDirectory.found .missing, ingestExternalAttestation ingestRequest⟩)

end Sample

section

open Sample

end

end AegisOt
