import AegisOt.Plant.Checkpoint

/-!
# Runs of the checkpoint store

Whatever fails, a call of the store either leaves the file alone or replaces its content by the
state that follows it, so the contents form one chain over any number of stores, crashes and power
losses. What a call does to the file and to the object is said once, by `Persisted` for the write
and by `StoreEffect` for a whole call; the invariant of a host follows from these.
-/

namespace AegisOt

namespace CheckpointStore

/-- The store takes calls. -/
def Usable (store : CheckpointStore) : Prop := store.unusable = false ∧ store.lockHeld = true

/-- The document of this store. -/
def document (store : CheckpointStore) (checkpoint : Option PhysicalStateSnapshot) :
    CheckpointDocument := ⟨checkpoint, store.modelDigest, store.plantKeyId⟩

variable {s s' : StoreState}

theorem reads_assertUsable : Method.Reads assertUsable :=
  Method.reads_self.bind fun _ => (Method.reads_check _).bind fun _ => Method.reads_check _

/-- A method that begins with `_assert_usable`: the store is usable, or the call raises and
    changes nothing. -/
theorem call_assertUsable_bind {α : Type} (f : Unit → StoreMethod α) (s : StoreState) :
    (s.store.Usable ∧ Method.call (assertUsable >>= f) s = Method.call (f ()) s) ∨
      ¬ s.store.Usable ∧ ∃ message, Method.call (assertUsable >>= f) s =
        (.error (.checkpoint message), s) := by
  rw [Method.call_bind]
  unfold assertUsable Usable
  rw [Method.call_self_bind, Method.call_bind, Method.call_check]
  cases hunusable : s.store.unusable with
  | true => exact .inr ⟨by simp, _, rfl⟩
  | false =>
    cases hheld : s.store.lockHeld with
    | true => exact .inl ⟨⟨rfl, rfl⟩, rfl⟩
    | false => exact .inr ⟨by simp, _, rfl⟩

/-! ## Reading -/

section

variable [Primitives] [CheckpointCodec]

theorem reads_load (io : ReadOutcome) : Method.Reads (load io) := by
  refine reads_assertUsable.bind fun _ => ?_
  cases io with
  | completed => exact Method.reads_self.bind fun _ => Method.reads_check _
  | refused message => exact Method.reads_check _
  | closeFailed description => exact Method.reads_check _

/-- What `_load` returns stands in the file, and the store was usable. -/
theorem load_eq_ok {io : ReadOutcome} {loaded : Option PhysicalStateSnapshot}
    (h : Method.call (load io) s = (.ok loaded, s')) :
    s.store.Usable ∧ s.store.loadContent s.file.visible = .ok loaded := by
  unfold load at h
  rcases call_assertUsable_bind _ s with ⟨husable, hcall⟩ | ⟨-, message, hcall⟩
  · rw [hcall] at h
    cases io with
    | completed => exact ⟨husable, congrArg Prod.fst h⟩
    | refused message => cases h
    | closeFailed description => cases h
  · rw [hcall] at h
    cases h

theorem raises_loadContent (store : CheckpointStore) (content : Option CheckpointDocument) :
    Raises (fun error => ∃ message, error = .checkpoint message) (store.loadContent content) := by
  cases content with
  | none => exact raises_error.mpr ⟨_, rfl⟩
  | some document =>
    obtain ⟨checkpoint, modelDigest, plantKeyId⟩ := document
    unfold loadContent validateSnapshot
    cases checkpoint with
    | none => simp
    | some snapshot => simp

/-- An exception of `_load` that is no `PlantCheckpointError` is the one of `os.close`. -/
theorem load_raises {io : ReadOutcome} {error : CheckpointError}
    (h : (Method.call (load io) s).1 = .error error) :
    (∃ message, error = .checkpoint message) ∨
      ∃ description, error = .os description ∧ io = .closeFailed description := by
  unfold load at h
  rcases call_assertUsable_bind _ s with ⟨-, hcall⟩ | ⟨-, message, hcall⟩
  · rw [hcall] at h
    cases io with
    | completed => exact .inl (raises_loadContent _ _ error h)
    | refused message => exact .inl ⟨message, (Except.error.inj h).symm⟩
    | closeFailed description => exact .inr ⟨description, (Except.error.inj h).symm, rfl⟩
  · rw [hcall] at h
    exact .inl ⟨message, (Except.error.inj h).symm⟩

omit [CheckpointCodec] in
theorem validateSnapshot_eq_ok {store : CheckpointStore}
    {snapshot validated : PhysicalStateSnapshot}
    (h : store.validateSnapshot snapshot = .ok validated) : validated = snapshot := by
  unfold validateSnapshot at h
  obtain ⟨-, h⟩ := bind_unit_eq_ok.mp h
  obtain ⟨-, h⟩ := bind_unit_eq_ok.mp h
  obtain ⟨-, h⟩ := bind_unit_eq_ok.mp h
  obtain ⟨-, h⟩ := bind_unit_eq_ok.mp h
  exact (Except.ok.inj h).symm

/-- A loaded content is the checkpoint of the visible document. -/
theorem loadContent_eq_ok {store : CheckpointStore} {content : Option CheckpointDocument}
    {loaded : Option PhysicalStateSnapshot} (h : store.loadContent content = .ok loaded) :
    ∃ document, content = some document ∧ document.checkpoint = loaded := by
  cases content with
  | none => cases h
  | some document =>
    refine ⟨document, rfl, ?_⟩
    unfold loadContent at h
    obtain ⟨-, h⟩ := bind_unit_eq_ok.mp h
    obtain ⟨-, h⟩ := bind_unit_eq_ok.mp h
    cases hcheckpoint : document.checkpoint with
    | none =>
      rw [hcheckpoint] at h
      exact Except.ok.inj h
    | some snapshot =>
      rw [hcheckpoint] at h
      obtain ⟨validated, hvalidated, h⟩ := bind_eq_ok.mp h
      rw [← Except.ok.inj h, validateSnapshot_eq_ok hvalidated]

theorem reads_admitBaseline (snapshot : PhysicalStateSnapshot) (io : ReadOutcome) :
    Method.Reads (admitBaseline snapshot io) :=
  Method.reads_self.bind fun _ => (Method.reads_check _).bind fun _ =>
    (Method.reads_check _).bind fun _ => (reads_load io).bind fun _ =>
      (Method.reads_check _).bind fun _ => fun _ => rfl

theorem reads_admitNext (request : CommitRequest) (io : ReadOutcome) :
    Method.Reads (admitNext request io) :=
  (Method.reads_check _).bind fun _ => Method.reads_self.bind fun _ =>
    (Method.reads_check _).bind fun _ => (Method.reads_check _).bind fun _ =>
      (reads_load io).bind fun _ => (Method.reads_check _).bind fun _ =>
        (Method.reads_check _).bind fun _ => (Method.reads_check _).bind fun _ =>
          (Method.reads_check _).bind fun _ => (Method.reads_check _).bind fun _ => fun _ => rfl

/-! ## Writing -/

/-- What `_persist` of a document can do. -/
inductive Persisted (document : CheckpointDocument) (s : StoreState) :
    Except CheckpointError Unit → StoreState → Prop where
  /-- Nothing was replaced, and the store stays as it is. -/
  | refused (error : CheckpointError) : Persisted document s (.error error) s
  /-- Nothing was replaced, but an `OSError` made the store unusable. -/
  | failed (error : CheckpointError) :
      Persisted document s (.error error) { s with store := { s.store with unusable := true } }
  /-- The file was replaced and the store is unusable. -/
  | uncertain (error : CheckpointError) :
      Persisted document s (.error error)
        ⟨{ s.store with unusable := true }, s.file.replace document⟩
  | crashed : Persisted document s (.error .crash) ⟨s.store, s.file.replace document⟩
  | written : Persisted document s (.ok ()) ⟨s.store, (s.file.replace document).sync⟩

omit [Primitives] [CheckpointCodec] in
theorem persisted_replaceChecked (checkpoint : Option PhysicalStateSnapshot)
    (beforeReplace : Except CheckpointError Unit) (io : WriteIo) (s : StoreState) :
    Persisted (s.store.document checkpoint) s
      (Method.call (replaceChecked checkpoint beforeReplace io) s).1
      (Method.call (replaceChecked checkpoint beforeReplace io) s).2 := by
  obtain ⟨outcome, cleanup⟩ := io
  cases beforeReplace with
  | error error => exact .refused _
  | ok _ =>
    cases outcome with
    | written => exact .written
    | parentRefused message => exact .written
    | temporaryFailed => exact .written
    | replaceFailed replaced =>
      cases replaced with
      | true => exact .uncertain _
      | false => exact .failed _
    | directoryFailed => exact .uncertain _
    | crashed replaced =>
      cases replaced with
      | true => exact .crashed
      | false => exact .refused _

omit [Primitives] in
theorem persisted (checkpoint : Option PhysicalStateSnapshot)
    (beforeReplace : Except CheckpointError Unit) (io : WriteIo) (s : StoreState) :
    Persisted (s.store.document checkpoint) s
      (Method.call (persist checkpoint beforeReplace io) s).1
      (Method.call (persist checkpoint beforeReplace io) s).2 := by
  unfold persist
  rcases call_assertUsable_bind _ s with ⟨-, hcall⟩ | ⟨-, message, hcall⟩
  · rw [hcall, Method.call_self_bind]
    have hwrites (rest : StoreMethod Unit)
        (hrest : Persisted (s.store.document checkpoint) s (Method.call rest s).1
          (Method.call rest s).2) (limit : Except CheckpointError Unit) :
        Persisted (s.store.document checkpoint) s
          (Method.call (Method.check limit >>= fun _ => rest) s).1
          (Method.call (Method.check limit >>= fun _ => rest) s).2 := by
      cases limit with
      | error e => exact .refused e
      | ok _ => exact hrest
    obtain ⟨outcome, cleanup⟩ := io
    cases outcome with
    | parentRefused message => exact .refused _
    | written => exact hwrites _ (persisted_replaceChecked _ _ _ s) _
    | temporaryFailed => exact hwrites _ (.failed _) _
    | replaceFailed replaced => exact hwrites _ (persisted_replaceChecked _ _ _ s) _
    | directoryFailed => exact hwrites _ (persisted_replaceChecked _ _ _ s) _
    | crashed replaced =>
      cases replaced with
      | true => exact hwrites _ (persisted_replaceChecked _ _ _ s) _
      | false => exact hwrites _ (.refused _) _
  · rw [hcall]
    exact .refused _

/-- What the verification of an update can do: it confirms the update, makes the store unusable,
    or lets an `OSError` of its own `os.close` through. -/
theorem verifyUpdate_cases (expected : PhysicalStateSnapshot) (message : String)
    (io : ReadOutcome) (s : StoreState) :
    Method.call (verifyUpdate expected message io) s =
        (.ok expected, { s with store := { s.store with checkpoint := some expected } }) ∨
      (∃ error, Method.call (verifyUpdate expected message io) s =
        (.error error, { s with store := { s.store with unusable := true } })) ∨
      ∃ description, io = .closeFailed description ∧
        Method.call (verifyUpdate expected message io) s = (.error (.os description), s) := by
  unfold verifyUpdate
  rw [Method.call_bind, Method.call_catching]
  have hs := reads_load io s
  rcases hload : Method.call (load io) s with ⟨result, after⟩
  rw [hload] at hs
  obtain rfl : after = s := hs
  cases result with
  | ok retained =>
    by_cases hretained : retained = some expected
    · subst hretained
      refine .inl ?_
      change Method.call (if some expected ≠ some expected then _ else _) after = _
      rw [if_neg (by simp)]
      rfl
    · refine .inr (.inl ⟨.checkpoint message, ?_⟩)
      change Method.call (if retained ≠ some expected then _ else _) after = _
      rw [if_pos hretained]
      rfl
  | error error =>
    rcases load_raises (congrArg Prod.fst hload) with ⟨text, rfl⟩ | ⟨description, rfl, hio⟩
    · exact .inr (.inl ⟨.checkpoint text, rfl⟩)
    · exact .inr (.inr ⟨description, hio, rfl⟩)

/-! ## Admitting an update -/

/-- The stored state that `commit_next` compared with, and the state that may follow it. -/
theorem admitNext_eq_ok {request : CommitRequest} {io : ReadOutcome}
    {candidate : PhysicalStateSnapshot}
    (h : Method.call (admitNext request io) s = (.ok candidate, s')) :
    s.store.Usable ∧ candidate = request.nextState ∧
      ∃ document stored, s.file.visible = some document ∧ document.checkpoint = some stored ∧
        samePhysicalState stored request.current = true ∧
        candidate.stateVersion = stored.stateVersion + 1 ∧
        stored.simulationTimeS < candidate.simulationTimeS := by
  unfold admitNext at h
  obtain ⟨-, -, h⟩ := Method.call_check_bind_eq_ok.mp h
  rw [Method.call_self_bind] at h
  obtain ⟨expected, hexpected, h⟩ := Method.call_check_bind_eq_ok.mp h
  obtain ⟨next, hnext, h⟩ := Method.call_check_bind_eq_ok.mp h
  obtain ⟨loaded, mid, hload, h⟩ := Method.call_bind_eq_ok.mp h
  obtain ⟨stored, hstored, h⟩ := Method.call_check_bind_eq_ok.mp h
  obtain ⟨_, hsame, h⟩ := Method.call_check_bind_eq_ok.mp h
  obtain ⟨-, -, h⟩ := Method.call_check_bind_eq_ok.mp h
  obtain ⟨_, hversion, h⟩ := Method.call_check_bind_eq_ok.mp h
  obtain ⟨_, htime, h⟩ := Method.call_check_bind_eq_ok.mp h
  rw [Method.call_pure] at h
  obtain rfl : next = candidate := Except.ok.inj (congrArg Prod.fst h)
  obtain ⟨husable, hcontent⟩ := load_eq_ok hload
  obtain ⟨document, hvisible, hcheckpoint⟩ := loadContent_eq_ok hcontent
  rw [orRaise_eq_ok.mp hstored] at hcheckpoint
  rw [refuseIf_eq_ok] at hsame hversion htime
  have hcurrent := validateSnapshot_eq_ok hexpected
  refine ⟨husable, validateSnapshot_eq_ok hnext, document, stored, hvisible, hcheckpoint, ?_, ?_,
    not_le.mp htime⟩
  · rw [← hcurrent]
    simpa using hsame
  · simpa using hversion

theorem admitBaseline_eq_ok {snapshot baseline : PhysicalStateSnapshot} {io : ReadOutcome}
    (h : Method.call (admitBaseline snapshot io) s = (.ok baseline, s')) :
    s.store.Usable ∧ ∃ document, s.file.visible = some document ∧ document.checkpoint = none ∧
      baseline.stateVersion = 0 ∧ baseline.simulationTimeS = 0 := by
  unfold admitBaseline at h
  rw [Method.call_self_bind] at h
  obtain ⟨validated, hvalidated, h⟩ := Method.call_check_bind_eq_ok.mp h
  obtain ⟨_, hzero, h⟩ := Method.call_check_bind_eq_ok.mp h
  obtain ⟨loaded, mid, hload, h⟩ := Method.call_bind_eq_ok.mp h
  obtain ⟨_, hnone, h⟩ := Method.call_check_bind_eq_ok.mp h
  rw [Method.call_pure] at h
  obtain rfl : validated = baseline := Except.ok.inj (congrArg Prod.fst h)
  obtain ⟨husable, hcontent⟩ := load_eq_ok hload
  obtain ⟨document, hvisible, hcheckpoint⟩ := loadContent_eq_ok hcontent
  rw [refuseIf_eq_ok, not_not] at hnone
  rw [refuseIf_eq_ok, not_or, not_not, not_not] at hzero
  rw [hnone] at hcheckpoint
  exact ⟨husable, document, hvisible, hcheckpoint, hzero.1, hzero.2⟩

end

end CheckpointStore

/-! ## What one call does -/

namespace CheckpointDocument

/-- The sentinel that `initialize` provisions. -/
def Starts (document : CheckpointDocument) : Prop := document.checkpoint = none

/-- What may replace a document: the baseline a sentinel, the next state a state. -/
def Next (before after : CheckpointDocument) : Prop :=
  match before.checkpoint, after.checkpoint with
  | none, some baseline => baseline.stateVersion = 0 ∧ baseline.simulationTimeS = 0
  | some stored, some next =>
      next.stateVersion = stored.stateVersion + 1 ∧ stored.simulationTimeS < next.simulationTimeS
  | _, none => False

end CheckpointDocument

/-- The contents of the file form one chain from the sentinel on. -/
abbrev Advances (file : AtomicFile CheckpointDocument) : Prop :=
  file.Linked CheckpointDocument.Starts CheckpointDocument.Next

abbrev Extends (file : AtomicFile CheckpointDocument) (document : CheckpointDocument) : Prop :=
  file.Follows CheckpointDocument.Starts CheckpointDocument.Next document

/-- The `os.close` of the read that verifies an update does not raise. -/
def StoreCall.VerifyCloses : StoreCall → Prop
  | .installBaseline _ io => ∀ description, io.verify ≠ .closeFailed description
  | .commitNext _ io => ∀ description, io.verify ≠ .closeFailed description
  | _ => True

/-- What one call can do to the file and to the store. -/
inductive StoreEffect (closes : Prop) (s : StoreState) :
    Except CheckpointError (Option PhysicalStateSnapshot) → StoreState → Prop where
  | refused (error : CheckpointError) : StoreEffect closes s (.error error) s
  | reported (husable : s.store.Usable) (checkpoint : Option PhysicalStateSnapshot) :
      StoreEffect closes s (.ok checkpoint)
        { s with store := { s.store with checkpoint := checkpoint } }
  /-- An `OSError` of the write, before the replacement. -/
  | failed (husable : s.store.Usable) (error : CheckpointError) :
      StoreEffect closes s (.error error) { s with store := { s.store with unusable := true } }
  /-- An `OSError` of the write, from the replacement on. -/
  | uncertain (husable : s.store.Usable) (error : CheckpointError)
      {document : CheckpointDocument} (hextends : Extends s.file document) :
      StoreEffect closes s (.error error)
        ⟨{ s.store with unusable := true }, s.file.replace document⟩
  | crashed (husable : s.store.Usable) {document : CheckpointDocument}
      (hextends : Extends s.file document) :
      StoreEffect closes s (.error .crash) ⟨s.store, s.file.replace document⟩
  /-- The update could not be verified. -/
  | unverified (husable : s.store.Usable) (error : CheckpointError)
      {document : CheckpointDocument} (hextends : Extends s.file document) :
      StoreEffect closes s (.error error)
        ⟨{ s.store with unusable := true }, (s.file.replace document).sync⟩
  /-- The verification raised where the store does not expect it. -/
  | unclosed (husable : s.store.Usable) (hcloses : ¬ closes) (description : String)
      {document : CheckpointDocument} (hextends : Extends s.file document) :
      StoreEffect closes s (.error (.os description)) ⟨s.store, (s.file.replace document).sync⟩
  | updated (husable : s.store.Usable) {document : CheckpointDocument}
      (hextends : Extends s.file document) (snapshot : PhysicalStateSnapshot) :
      StoreEffect closes s (.ok (some snapshot))
        ⟨{ s.store with checkpoint := some snapshot }, (s.file.replace document).sync⟩

section

variable [Primitives] [CheckpointCodec] {closes : Prop} {s : StoreState}

open CheckpointStore

/-- An update: admitted by reading, written and verified. -/
theorem storeEffect_update {admitted : StoreMethod PhysicalStateSnapshot}
    (hreads : Method.Reads admitted)
    (hadmitted : ∀ snapshot, Method.call admitted s = (.ok snapshot, s) →
      s.store.Usable ∧ Extends s.file (s.store.document (some snapshot)))
    (beforeReplace : Except CheckpointError Unit) (message : String) (io : StoreIo)
    (hcloses : closes → ∀ description, io.verify ≠ .closeFailed description) :
    StoreEffect closes s
      (Method.call ((do
        let snapshot ← admitted
        persist (some snapshot) beforeReplace io.write
        verifyUpdate snapshot message io.verify) >>= fun snapshot => pure (some snapshot)) s).1
      (Method.call ((do
        let snapshot ← admitted
        persist (some snapshot) beforeReplace io.write
        verifyUpdate snapshot message io.verify) >>= fun snapshot =>
          pure (some snapshot)) s).2 := by
  rw [Method.call_bind]
  rcases hreads.call_bind_cases _ s with ⟨e, -, hcall⟩ | ⟨snapshot, hcalled, hcall⟩
  · rw [hcall]
    exact .refused e
  · rw [hcall, Method.call_bind]
    obtain ⟨husable, hextends⟩ := hadmitted snapshot hcalled
    have hpersisted := persisted (some snapshot) beforeReplace io.write s
    rcases hpersist : Method.call (persist (some snapshot) beforeReplace io.write) s with
      ⟨result, after⟩
    rw [hpersist] at hpersisted
    cases hpersisted with
    | refused error => exact .refused error
    | failed error => exact .failed husable error
    | uncertain error => exact .uncertain husable error hextends
    | crashed => exact .crashed husable hextends
    | written =>
      simp only
      rcases verifyUpdate_cases snapshot message io.verify
        ⟨s.store, (s.file.replace (s.store.document (some snapshot))).sync⟩ with
        hverified | ⟨error, hverified⟩ | ⟨description, hio, hverified⟩
      · rw [hverified]
        exact .updated husable hextends snapshot
      · rw [hverified]
        exact .unverified husable error hextends
      · rw [hverified]
        exact .unclosed husable (fun h => hcloses h description hio) description hextends

theorem extends_baseline {snapshot baseline : PhysicalStateSnapshot} {io : ReadOutcome}
    (h : Method.call (admitBaseline snapshot io) s = (.ok baseline, s)) :
    s.store.Usable ∧ Extends s.file (s.store.document (some baseline)) := by
  obtain ⟨husable, document, hvisible, hnone, hversion, htime⟩ := admitBaseline_eq_ok h
  refine ⟨husable, (AtomicFile.follows_of_visible hvisible).mpr ?_⟩
  unfold CheckpointDocument.Next
  rw [hnone]
  exact ⟨hversion, htime⟩

theorem extends_next {request : CommitRequest} {candidate : PhysicalStateSnapshot}
    {io : ReadOutcome} (h : Method.call (admitNext request io) s = (.ok candidate, s)) :
    s.store.Usable ∧ Extends s.file (s.store.document (some candidate)) := by
  obtain ⟨husable, -, document, stored, hvisible, hstored, -, hversion, htime⟩ :=
    admitNext_eq_ok h
  refine ⟨husable, (AtomicFile.follows_of_visible hvisible).mpr ?_⟩
  unfold CheckpointDocument.Next
  rw [hstored]
  exact ⟨hversion, htime⟩

/-- Every call has one of these effects. -/
theorem storeEffect (storeCall : StoreCall) (s : StoreState) :
    StoreEffect storeCall.VerifyCloses s (Method.call storeCall.method s).1
      (Method.call storeCall.method s).2 := by
  cases storeCall with
  | current io =>
    change StoreEffect _ s (Method.call (CheckpointStore.current io) s).1 _
    unfold StoreCall.method CheckpointStore.current
    rcases (reads_load io).call_bind_cases _ s with ⟨e, -, hcall⟩ | ⟨loaded, hload, hcall⟩
    · rw [hcall]
      exact .refused e
    · rw [hcall]
      exact .reported (load_eq_ok hload).1 loaded
  | verifyCurrent snapshot io =>
    unfold StoreCall.method CheckpointStore.verifyCurrent
    rw [Method.call_bind, Method.call_self_bind]
    rcases (Method.reads_check _).call_bind_cases _ s with ⟨e, -, hcall⟩ | ⟨live, -, hcall⟩
    · rw [hcall]
      exact .refused e
    rw [hcall]
    rcases (reads_load io).call_bind_cases _ s with ⟨e, -, hcall⟩ | ⟨loaded, hload, hcall⟩
    · rw [hcall]
      exact .refused e
    rw [hcall]
    rcases (Method.reads_check _).call_bind_cases _ s with ⟨e, -, hcall⟩ | ⟨stored, -, hcall⟩
    · rw [hcall]
      exact .refused e
    rw [hcall]
    rcases (Method.reads_check _).call_bind_cases _ s with ⟨e, -, hcall⟩ | ⟨_, -, hcall⟩
    · rw [hcall]
      exact .refused e
    rw [hcall]
    exact .reported (load_eq_ok hload).1 (some stored)
  | installBaseline snapshot io =>
    exact storeEffect_update (reads_admitBaseline snapshot io.read) (fun _ => extends_baseline) _ _
      io id
  | commitNext request io =>
    exact storeEffect_update (reads_admitNext request io.read) (fun _ => extends_next) _ _ io id

namespace StoreEffect

variable {result : Except CheckpointError (Option PhysicalStateSnapshot)} {after : StoreState}

omit [Primitives] [CheckpointCodec] in
/-- The contents stay one chain. -/
theorem advances (h : StoreEffect closes s result after) (hfile : Advances s.file) :
    Advances after.file := by
  cases h with
  | refused error => exact hfile
  | reported husable checkpoint => exact hfile
  | failed husable error => exact hfile
  | uncertain husable error hextends => exact hfile.replace hextends
  | crashed husable hextends => exact hfile.replace hextends
  | unverified husable error hextends => exact (hfile.replace hextends).sync
  | unclosed husable hcloses description hextends => exact (hfile.replace hextends).sync
  | updated husable hextends snapshot => exact (hfile.replace hextends).sync

omit [Primitives] [CheckpointCodec] in
/-- A store that is not usable raises and touches nothing. -/
theorem of_not_usable (h : StoreEffect closes s result after) (hunusable : ¬ s.store.Usable) :
    ∃ error, result = .error error ∧ after = s := by
  cases h with
  | refused error => exact ⟨error, rfl, rfl⟩
  | reported husable checkpoint => exact absurd husable hunusable
  | failed husable error => exact absurd husable hunusable
  | uncertain husable error hextends => exact absurd husable hunusable
  | crashed husable hextends => exact absurd husable hunusable
  | unverified husable error hextends => exact absurd husable hunusable
  | unclosed husable hcloses description hextends => exact absurd husable hunusable
  | updated husable hextends snapshot => exact absurd husable hunusable

omit [Primitives] [CheckpointCodec] in
/-- An update that becomes uncertain makes the store unusable, unless the process died with it. -/
theorem unusable_of_uncertain (h : StoreEffect closes s result after) (hcloses : closes)
    (huncertain : StoreCall.uncertain result s after = true) :
    after.store.unusable = true ∨ result = .error .crash := by
  obtain ⟨hraised, hchanged⟩ := of_decide_eq_true huncertain
  cases h with
  | refused error =>
    rcases hchanged with hfile | ⟨htrue, hfalse⟩
    · exact absurd rfl hfile
    · rw [htrue] at hfalse
      cases hfalse
  | reported husable checkpoint => cases hraised
  | failed husable error => exact .inl rfl
  | uncertain husable error hextends => exact .inl rfl
  | crashed husable hextends => exact .inr rfl
  | unverified husable error hextends => exact .inl rfl
  | unclosed husable hnot description hextends => exact absurd hcloses hnot
  | updated husable hextends snapshot => cases hraised

end StoreEffect

/-! ## Rejections -/

/-- A `commit_next` that is rejected before the replacement: by a check or a read, by the directory,
    by the size of the document, or by the deadline once the temporary file is written. -/
inductive CommitRejected (s : StoreState) (request : CommitRequest) (io : StoreIo) : Prop where
  | admission (error : CheckpointError)
      (h : (Method.call (admitNext request io.read) s).1 = .error error)
  | directory (message : String) (h : io.write.outcome = .parentRefused message)
  | size (h : maxCheckpointBytes <
      CheckpointCodec.materialLength (s.store.document (some request.nextState)))
  | deadline (error : CheckpointError) (h : requireLiveDeadline request = .error error)
      (hwritten : io.write.outcome ≠ .temporaryFailed)

omit [Primitives] in
/-- `_persist` that is refused changes nothing. -/
theorem persist_refused {checkpoint : Option PhysicalStateSnapshot}
    {beforeReplace : Except CheckpointError Unit} {io : WriteIo}
    (h : (∃ message, io.outcome = .parentRefused message) ∨
      maxCheckpointBytes < CheckpointCodec.materialLength (s.store.document checkpoint) ∨
      ((∃ error, beforeReplace = .error error) ∧ io.outcome ≠ .temporaryFailed)) :
    ∃ error, Method.call (persist checkpoint beforeReplace io) s = (.error error, s) := by
  unfold persist
  rcases call_assertUsable_bind _ s with ⟨-, hcall⟩ | ⟨-, message, hcall⟩
  · rw [hcall, Method.call_self_bind]
    have hwrites (rest : StoreMethod Unit)
        (hrest : (∃ error, beforeReplace = .error error) ∧ io.outcome ≠ .temporaryFailed →
          ∃ error, Method.call rest s = (.error error, s))
        (hparent : ¬ ∃ message, io.outcome = .parentRefused message) :
        ∃ error, Method.call (Method.check (refuseIf (maxCheckpointBytes <
            CheckpointCodec.materialLength (s.store.document checkpoint))
            (.checkpoint "plant checkpoint exceeds its size limit")) >>= fun _ => rest) s =
          (.error error, s) := by
      rw [Method.call_bind, Method.call_check]
      rcases h with hrefused | hsize | hdeadline
      · exact absurd hrefused hparent
      · rw [refuseIf_pos hsize]
        exact ⟨_, rfl⟩
      · by_cases hsize : maxCheckpointBytes <
            CheckpointCodec.materialLength (s.store.document checkpoint)
        · rw [refuseIf_pos hsize]
          exact ⟨_, rfl⟩
        · rw [refuseIf_neg hsize]
          exact hrest hdeadline
    have hreplace : (∃ error, beforeReplace = .error error) ∧ io.outcome ≠ .temporaryFailed →
        ∃ error, Method.call (replaceChecked checkpoint beforeReplace io) s =
          (.error error, s) := by
      rintro ⟨⟨error, rfl⟩, -⟩
      exact ⟨_, rfl⟩
    obtain ⟨outcome, cleanup⟩ := io
    cases outcome with
    | parentRefused message => exact ⟨_, rfl⟩
    | written => exact hwrites _ hreplace (by simp)
    | temporaryFailed => exact hwrites _ (fun h => absurd rfl h.2) (by simp)
    | replaceFailed replaced => exact hwrites _ hreplace (by simp)
    | directoryFailed => exact hwrites _ hreplace (by simp)
    | crashed replaced =>
      cases replaced with
      | true => exact hwrites _ hreplace (by simp)
      | false => exact hwrites _ (fun _ => ⟨_, rfl⟩) (by simp)
  · exact ⟨_, hcall⟩

/-- A rejected commit leaves the file and the store as they were. -/
theorem commitNext_rejected {request : CommitRequest} {io : StoreIo}
    (h : CommitRejected s request io) :
    ∃ error, Method.call (commitNext request io) s = (.error error, s) := by
  unfold commitNext
  rcases (reads_admitNext request io.read).call_bind_cases _ s with
    ⟨e, -, hcall⟩ | ⟨candidate, hadmitted, hcall⟩
  · exact ⟨e, hcall⟩
  · rw [hcall, Method.call_bind]
    have hcandidate := (admitNext_eq_ok hadmitted).2.1
    suffices hpersist : ∃ error, Method.call
        (persist (some candidate) (requireLiveDeadline request) io.write) s = (.error error, s) by
      obtain ⟨error, hpersist⟩ := hpersist
      exact ⟨error, by rw [hpersist]⟩
    refine persist_refused ?_
    cases h with
    | admission error hraised =>
      rw [hadmitted] at hraised
      cases hraised
    | directory message houtcome => exact .inl ⟨message, houtcome⟩
    | size hsize =>
      rw [hcandidate]
      exact .inr (.inl hsize)
    | deadline error hexpired hwritten => exact .inr (.inr ⟨⟨error, hexpired⟩, hwritten⟩)

end

end AegisOt
