import AegisOt.Runtime.Proofs.OtExecution

/-!
# One pending effect at a time

The OT journal never holds two nonterminal records, and the device is called only for the one
that is pending, on a plant that was last read at its authorized pre-state. The exclusion is
enforced away from where it is needed: by the recovery verdict and the pending scan before a
prepare creates a record, and by the live-commit marker before a commit. `ObservedStep` is a
step of the OT process that remembers the last plant reading.
-/

namespace AegisOt

open Program

section

variable [Primitives] {role : JournalRole}

/-! ## Pending records of a map -/

namespace RecordMap

/-- At most one record is nonterminal. -/
def SinglePending (m : RecordMap role) : Prop :=
  ∀ k k' e e', m.find? k = some e → m.find? k' = some e' → e.record.state.terminal = false →
    e'.record.state.terminal = false → k = k'

/-- No record but the one of this effect is nonterminal. -/
def PendingOnly (m : RecordMap role) (k : EffectId) : Prop :=
  ∀ k' e, m.find? k' = some e → e.record.state.terminal = false → k' = k

theorem PendingOnly.single {m : RecordMap role} {k : EffectId} (h : PendingOnly m k) :
    SinglePending m := by
  intro k₁ k₂ e₁ e₂ h₁ h₂ hopen₁ hopen₂
  rw [h k₁ e₁ h₁ hopen₁, h k₂ e₂ h₂ hopen₂]

theorem SinglePending.only {m : RecordMap role} (h : SinglePending m) {k : EffectId}
    {e : JournalEntry role} (he : m.find? k = some e) (hopen : e.record.state.terminal = false) :
    PendingOnly m k :=
  fun k' e' he' hopen' => h k' k e' e he' he hopen' hopen

end RecordMap

namespace RecordsGrow

open CoordinationJournalRecord

variable {changes : Changes} {m m' : RecordMap role}

/-- A pending record was pending before, or it was created. -/
theorem pending (h : RecordsGrow changes m m') {k : EffectId} {e' : JournalEntry role}
    (he' : m'.find? k = some e') (hopen : e'.record.state.terminal = false) :
    changes.create k ∨ ∃ e, m.find? k = some e ∧ e.record.state.terminal = false := by
  cases hfound : m.find? k with
  | none => exact .inl (h.created k e' he' hfound).1
  | some e =>
    obtain ⟨f, hf, hext⟩ := h.kept k e hfound
    obtain rfl : f = e' := Option.some.inj (hf.symm.trans he')
    refine .inr ⟨e, rfl, ?_⟩
    cases hterminal : e.record.state.terminal with
    | false => rfl
    | true =>
      rw [hext.state_eq hterminal, hterminal] at hopen
      cases hopen

theorem singlePending (h : RecordsGrow changes m m') (hcreate : ∀ k, ¬ changes.create k)
    (hm : RecordMap.SinglePending m) : RecordMap.SinglePending m' := by
  intro k₁ k₂ e₁ e₂ h₁ h₂ hopen₁ hopen₂
  rcases h.pending h₁ hopen₁ with hnew | ⟨f₁, hf₁, hopen₁⟩
  · exact absurd hnew (hcreate k₁)
  · rcases h.pending h₂ hopen₂ with hnew | ⟨f₂, hf₂, hopen₂⟩
    · exact absurd hnew (hcreate k₂)
    · exact hm k₁ k₂ f₁ f₂ hf₁ hf₂ hopen₁ hopen₂

theorem pendingOnly (h : RecordsGrow changes m m') {k : EffectId}
    (hcreate : ∀ k', changes.create k' → k' = k) (hm : RecordMap.PendingOnly m k) :
    RecordMap.PendingOnly m' k := by
  intro k' e' he' hopen
  rcases h.pending he' hopen with hnew | ⟨e, he, hopen⟩
  · exact hcreate k' hnew
  · exact hm k' e he hopen

end RecordsGrow

/-! ## What the recovery verdict says about pending records -/

omit [Primitives] in
theorem pendingPosition_atPreState {effect : EffectIdentity} {plant : PlantHealthMetadata}
    (h : (pendingPosition effect plant).2 = .pendingEffectAtPreState) :
    plant.AtPreState effect := by
  unfold pendingPosition at h
  split at h
  · assumption
  · split at h
    · cases h
    · split at h
      · cases h
      · split at h
        · cases h
        · cases h

variable {records : List CoordinationJournalRecord} {plant : PlantHealthMetadata}
  {applied : List AppliedLink} {pending : Option CoordinationJournalRecord}

omit [Primitives] in
theorem appliedPosition_ne_atPreState :
    (appliedPosition applied plant).2 ≠ .pendingEffectAtPreState := by
  unfold appliedPosition
  repeat' split
  all_goals simp

theorem validateChain_aligned (h : (validateChain records plant applied pending).1 = .aligned) :
    pending = none := by
  rcases validateChain_cases records plant applied pending with ⟨hrefused, -⟩ | hposition
  · rw [h] at hrefused
    simp at hrefused
  · cases pending with
    | none => rfl
    | some r =>
      rw [hposition] at h
      exact absurd h pendingPosition_not_aligned

theorem validateChain_atPreState
    (h : (validateChain records plant applied pending).2 = .pendingEffectAtPreState) :
    ∃ r, pending = some r ∧ plant.AtPreState r.effect := by
  rcases validateChain_cases records plant applied pending with ⟨-, hne⟩ | hposition
  · exact absurd h hne
  · rw [hposition] at h
    cases pending with
    | none => exact absurd h appliedPosition_ne_atPreState
    | some r => exact ⟨r, rfl, pendingPosition_atPreState h⟩

/-- With more than one pending record, or a failed check on the way, nothing is said. -/
theorem validateCoordinationRecovery_cases
    (h : (validateCoordinationRecovery records plant).status ≠ .unavailable) :
    ∃ applied, validateCoordinationRecovery records plant =
      recoveryResult records plant
        (validateChain records plant applied (records.filter (fun r => !r.state.terminal)).head?).1
        (validateChain records plant applied (records.filter (fun r => !r.state.terminal)).head?).2
        applied (records.filter (fun r => !r.state.terminal)).head? := by
  unfold validateCoordinationRecovery at h ⊢
  by_cases hlimit : maxRecoveryRecords < records.length
  · rw [if_pos hlimit] at h
    exact absurd rfl h
  rw [if_neg hlimit] at h ⊢
  dsimp only at h ⊢
  by_cases hmultiple : 1 < (records.filter (fun r => !r.state.terminal)).length
  · rw [if_pos hmultiple] at h
    exact absurd rfl h
  rw [if_neg hmultiple] at h ⊢
  by_cases hduplicate : ¬ (records.map (fun r => r.effect.effectId)).Nodup
  · rw [if_pos hduplicate] at h
    exact absurd rfl h
  rw [if_neg hduplicate] at h ⊢
  split at h
  · exact absurd rfl h
  · exact ⟨_, rfl⟩

/-- An aligned journal has no pending record. -/
theorem validateCoordinationRecovery_aligned
    (h : (validateCoordinationRecovery records plant).status = .aligned) :
    ∀ r ∈ records, r.state.terminal = true := by
  obtain ⟨applied, hresult⟩ := validateCoordinationRecovery_cases (by rw [h]; simp)
  rw [hresult] at h
  have hnone := List.head?_eq_none_iff.mp (validateChain_aligned h)
  intro r hr
  simpa using List.filter_eq_nil_iff.mp hnone r hr

/-- The effect that keeps a marker alive is pending, and the plant is at its pre-state. -/
theorem pendingAtPreState_validateCoordinationRecovery {marker : LiveCommitMarker}
    (h : OtProgram.pendingAtPreState (validateCoordinationRecovery records plant) marker = true) :
    ∃ r ∈ records, r.state.terminal = false ∧ r.effect.effectId = marker.effectId ∧
      plant.AtPreState r.effect := by
  simp only [OtProgram.pendingAtPreState, decide_eq_true_eq] at h
  obtain ⟨hstatus, hreason, hid⟩ := h
  obtain ⟨applied, hresult⟩ := validateCoordinationRecovery_cases (by rw [hstatus]; simp)
  rw [hresult] at hreason hid
  obtain ⟨r, hr, hpre⟩ := validateChain_atPreState hreason
  have hmem := List.mem_filter.mp (List.mem_of_head? hr)
  rw [hr] at hid
  exact ⟨r, hmem.1, by simpa using hmem.2, Option.some.inj hid, hpre⟩

end

/-! ## Runs with the last plant reading -/

section

variable [Primitives]

/-- The last plant reading after an action; a reading that failed leaves the one before. -/
def OtAct.observe : (action : OtAct) → action.Reply → Option PlantHealthMetadata →
    Option PlantHealthMetadata
  | .plant, reply, last => Option.or reply last
  | _, _, last => last

/-- An OT process and the plant reading it made last. -/
structure ObservedOt where
  system : OtSystem
  plant : Option PlantHealthMetadata

variable [RecordCodec]

/-- The events of `OtStep`, with the plant readings noted. -/
inductive ObservedStep : ObservedOt → ObservedOt → Prop where
  | start (config : OtConfig) (s : OtState) (request : OtRequest)
      (plant : Option PlantHealthMetadata) :
      ObservedStep ⟨⟨config, s, none⟩, plant⟩ ⟨⟨config, s, some (request.handle config)⟩, plant⟩
  | act (config : OtConfig) (s s' : OtState) (action : OtAct)
      (next : action.Reply → OtProgram OtReply) (reply : action.Reply)
      (plant : Option PlantHealthMetadata) (hperform : s.perform action reply s') :
      ObservedStep ⟨⟨config, s, some (.act action next)⟩, plant⟩
        ⟨⟨config, s', some (next reply)⟩, action.observe reply plant⟩
  | finish (config : OtConfig) (s : OtState) (result : Except RuntimeError OtReply)
      (plant : Option PlantHealthMetadata) :
      ObservedStep ⟨⟨config, s, some (.done result)⟩, plant⟩
        ⟨⟨config, s.answer result, none⟩, plant⟩
  | restart (sys : OtSystem) (config : OtConfig) (plant : Option PlantHealthMetadata) :
      ObservedStep ⟨sys, plant⟩ ⟨⟨config, sys.state.restart, none⟩, plant⟩

/-- Any sequence of observed events. -/
abbrev ObservedRun : ObservedOt → ObservedOt → Prop := Relation.ReflTransGen ObservedStep

/-- Observation does not restrict a run. -/
theorem OtRun.observed {sys sys' : OtSystem} (h : OtRun sys sys')
    (plant : Option PlantHealthMetadata) : ∃ plant', ObservedRun ⟨sys, plant⟩ ⟨sys', plant'⟩ := by
  induction h with
  | refl => exact ⟨plant, .refl⟩
  | tail _ hstep ih =>
    obtain ⟨last, hrun⟩ := ih
    cases hstep with
    | start config s request => exact ⟨last, hrun.tail (.start config s request last)⟩
    | act config s s' action next reply hperform =>
      exact ⟨_, hrun.tail (.act config s s' action next reply last hperform)⟩
    | finish config s result => exact ⟨last, hrun.tail (.finish config s result last)⟩
    | restart _ config => exact ⟨last, hrun.tail (.restart _ config last)⟩

/-- The OT state with the plant reading made last. -/
structure Observed where
  state : OtState
  plant : Option PlantHealthMetadata

namespace Observed

/-- The journal of the state. -/
def journal (s : Observed) : Journal .effectCoordinator := s.state.journal

/-- The invariant: one pending record in memory and one in the file. -/
structure Exclusive (s : Observed) : Prop where
  consistent : s.journal.Consistent
  records : RecordMap.SinglePending s.journal.records
  file : RecordMap.SinglePending s.journal.file

/-- Only this effect is pending, in memory and in the file. -/
def PendingOnly (s : Observed) (k : EffectId) : Prop :=
  RecordMap.PendingOnly s.journal.records k ∧ RecordMap.PendingOnly s.journal.file k

/-- The effect is pending, alone, and the plant was last read at its pre-state. -/
structure Ready (s : Observed) (effect : EffectIdentity) : Prop where
  pending : s.journal.Holds effect.effectId
    (fun r => r.effect = effect ∧ r.state.terminal = false)
  alone : s.PendingOnly effect.effectId
  plant : ∃ plant, s.plant = some plant ∧ plant.AtPreState effect

end Observed

/-- The device may be called for a ready effect, and a record created while no other effect is
    pending. -/
def pendingContract : Contract Observed OtAct OtAct.Reply where
  invariant := Observed.Exclusive
  rely := Eq
  perform s action reply s' :=
    s.state.perform action reply s'.state ∧ s'.plant = action.observe reply s.plant
  allowed s
    | .execute request => s.Ready request.effect
    | .journal (.prepareEffect request _ _) => s.PendingOnly request.effect.effectId
    | _ => True

/-- Every action that needs no permission. -/
def OtAct.Free : OtAct → Prop
  | .execute _ | .journal (.prepareEffect ..) => False
  | _ => True

variable {s s' : Observed}

/-- An operation that may be performed keeps the pending records exclusive. -/
theorem EffectOp.run_exclusive {op : EffectOp} (hs : s.Exclusive)
    (hallowed : pendingContract.allowed s (.journal op)) (env : OpEnv)
    (plant : Option PlantHealthMetadata) :
    (⟨{ s.state with journal := (op.run s.journal env).2 }, plant⟩ : Observed).Exclusive := by
  have hstepped := op.run_stepped env hs.consistent
  cases op with
  | prepareEffect request issue recordedAt =>
    have hcreate : ∀ k', (EffectOp.prepareEffect request issue recordedAt).changes.create k' →
      k' = request.effect.effectId := fun _ h => h
    exact ⟨hstepped.consistent, (hstepped.records.pendingOnly hcreate hallowed.1).single,
      (hstepped.file.pendingOnly hcreate hallowed.2).single⟩
  | beginCommit | finishCommit | markCommitUnknown | retainQueryOutcome | answerQuery =>
    exact ⟨hstepped.consistent, hstepped.records.singlePending (fun _ h => h) hs.records,
      hstepped.file.singlePending (fun _ h => h) hs.file⟩

/-- An action that may be performed keeps the invariant. -/
theorem Observed.exclusive_perform {action : OtAct} {reply : action.Reply} (hs : s.Exclusive)
    (hallowed : pendingContract.allowed s action)
    (h : pendingContract.perform s action reply s') : s'.Exclusive := by
  obtain ⟨state', plant'⟩ := s'
  obtain ⟨h, -⟩ := h
  cases action with
  | journal op =>
    obtain ⟨env, -, rfl⟩ := h
    exact EffectOp.run_exclusive hs hallowed env plant'
  | clock | trust | admission | plant | terminalHook =>
    obtain rfl : state' = s.state := h
    exact ⟨hs.consistent, hs.records, hs.file⟩
  | marker | records | pending | get =>
    obtain ⟨-, rfl⟩ := h
    exact ⟨hs.consistent, hs.records, hs.file⟩
  | setMarker marker =>
    obtain rfl : state' = { s.state with marker := marker } := h
    exact ⟨hs.consistent, hs.records, hs.file⟩
  | execute request =>
    obtain rfl : state' = { s.state with executed := request :: s.state.executed } := h
    exact ⟨hs.consistent, hs.records, hs.file⟩

/-! ## Handlers -/

theorem Observed.allowed_of_free {action : OtAct} (h : action.Free) :
    pendingContract.allowed s action := by
  cases action with
  | execute request => exact h.elim
  | journal op =>
    cases op with
    | prepareEffect request issue recordedAt => exact h.elim
    | _ => trivial
  | _ => trivial

omit [Primitives] [RecordCodec] in
theorem OtAct.Passive.free {action : OtAct} (h : action.Passive) : action.Free := by
  cases action with
  | execute request => exact h.elim
  | journal op => exact h.elim
  | _ => trivial

namespace OtProgram

omit [RecordCodec] in
theorem free_of_passive {α : Type} {p : OtProgram α} (h : p.Uses OtAct.Passive) :
    p.Uses OtAct.Free :=
  uses_mono (fun _ => OtAct.Passive.free) h

/-- A program that needs no permission. -/
theorem guarded_free {α : Type} {p : OtProgram α} (hp : p.Uses OtAct.Free) :
    p.Guarded pendingContract (Returns fun _ _ => True) s := by
  refine guarded_keeps (fun _ _ _ _ h => h) ?_ trivial
  refine uses_mono ?_ hp
  intro action hfree s _ _
  exact ⟨Observed.allowed_of_free hfree, fun _ _ _ _ => trivial⟩

theorem guarded_passive_bind {α β : Type} {p : OtProgram α} {f : α → OtProgram β}
    {Q : β → Observed → Prop} (hp : p.Uses OtAct.Passive)
    (hf : ∀ a s', (f a).Guarded pendingContract (Returns Q) s') :
    (p >>= f).Guarded pendingContract (Returns Q) s :=
  guarded_returns_bind (guarded_free (free_of_passive hp)) (fun a s' _ => hf a s')

/-- One passive action leaves the journal alone, and if it is no plant reading the last reading
    too. -/
theorem guarded_quiet_bind {β : Type} (action : OtAct) (hquiet : action.Passive)
    (hplant : ∀ reply last, action.observe reply last = last)
    {f : action.Reply → OtProgram β} {Q : β → Observed → Prop}
    (hf : s.Exclusive → ∀ reply s', s.state.perform action reply s'.state →
      s'.journal = s.journal → s'.plant = s.plant →
        (f reply).Guarded pendingContract (Returns Q) s') :
    (perform action >>= f).Guarded pendingContract (Returns Q) s := by
  rintro s₁ rfl hexclusive
  refine ⟨Observed.allowed_of_free hquiet.free, ?_⟩
  rintro reply s' ⟨hperform, hobserved⟩ _
  rw [hplant] at hobserved
  refine hf hexclusive reply s' hperform ?_ hobserved
  show s'.state.journal = s.state.journal
  cases action with
  | execute request => exact hquiet.elim
  | journal op => exact hquiet.elim
  | clock | trust | admission | plant | terminalHook => rw [show s'.state = s.state from hperform]
  | marker | records | pending | get => rw [show s'.state = s.state from hperform.2]
  | setMarker marker => rw [show s'.state = { s.state with marker := marker } from hperform]

/-- What `_refresh_coordination_recovery_locked` looked at. -/
def Refreshed (result : CoordinationRecoveryResult) (s : Observed) : Prop :=
  ∃ current, s.plant = some current ∧
    result = validateCoordinationRecovery (RecordMap.list s.journal.records) current

omit [RecordCodec] in
theorem Refreshed.congr {result : CoordinationRecoveryResult} (h : Refreshed result s)
    (hjournal : s'.journal = s.journal) (hplant : s'.plant = s.plant) : Refreshed result s' := by
  obtain ⟨current, hcurrent, hresult⟩ := h
  exact ⟨current, hplant.trans hcurrent, by rw [hjournal]; exact hresult⟩

theorem refreshCoordinationRecovery_guarded (cfg : OtConfig) :
    (refreshCoordinationRecovery cfg).Guarded pendingContract (Returns Refreshed) s := by
  refine guarded_returns_bind (Q := fun loaded s => ∀ plant, loaded = some plant →
    s.plant = some plant) ?_ ?_
  · rintro s₁ rfl _
    refine ⟨trivial, ?_⟩
    rintro reply s' ⟨-, hplant⟩ _ plant rfl
    exact hplant
  intro loaded s hloaded
  refine guarded_result_bind (fun plant hplant => guarded_require_bind (fun _ => ?_))
  have hread := hloaded plant (orRaise_eq_ok.mp hplant)
  refine guarded_quiet_bind .records trivial (fun _ _ => rfl)
    (fun _ listed s' hlisted hjournal hsame => ?_)
  refine guarded_result_bind (fun records hrecords => ?_)
  have hlist : records = RecordMap.list s'.journal.records := by
    have hok : s.journal.listRecords = .ok records :=
      hlisted.1.symm.trans (mapError_eq_ok.mp hrecords)
    simp only [Journal.listRecords, bind_unit_eq_ok, pure_eq_ok, Except.ok.injEq] at hok
    rw [hjournal]
    exact hok.2.symm
  have hrefreshed : Refreshed (validateCoordinationRecovery records plant) s' :=
    ⟨plant, hsame.trans hread, by rw [hlist]⟩
  refine guarded_quiet_bind .marker trivial (fun _ _ => rfl)
    (fun _ marker s₂ _ hjournal hsame => ?_)
  replace hrefreshed := hrefreshed.congr hjournal hsame
  -- The marker is cleared or not; the verdict is the same.
  have hlast : ∀ s₃, Refreshed (validateCoordinationRecovery records plant) s₃ →
      (do
        require ((validateCoordinationRecovery records plant).status = .inconsistent ∨
          (validateCoordinationRecovery records plant).status = .unavailable) recoveryUnavailable
        pure (validateCoordinationRecovery records plant) : OtProgram _).Guarded
          pendingContract (Returns Refreshed) s₃ :=
    fun _ h => guarded_require_bind (fun _ => h)
  unfold runIf
  split
  · exact guarded_quiet_bind (.setMarker none) trivial (fun _ _ => rfl)
      (fun _ _ s₃ _ hjournal hsame => hlast s₃ (hrefreshed.congr hjournal hsame))
  · exact hlast s₂ hrefreshed

/-- A commit finds no effect pending, or its own with the plant at its pre-state. -/
def CommitAligned (request : SignedEffectCommitRequest) (s : Observed) : Prop :=
  (∀ k e, s.journal.records.find? k = some e → e.record.state.terminal = true) ∨
    ∃ plant e, s.plant = some plant ∧
      s.journal.records.find? request.effect.effectId = some e ∧ plant.AtPreState e.record.effect

theorem requireCoordinationAlignment_commit (cfg : OtConfig)
    (request : SignedEffectCommitRequest) :
    (requireCoordinationAlignment cfg (.commit request)).Guarded pendingContract
      (Returns fun _ => CommitAligned request) s := by
  refine guarded_returns_bind (refreshCoordinationRecovery_guarded cfg) ?_
  rintro result s ⟨plant, hplant, rfl⟩
  by_cases haligned : (validateCoordinationRecovery (RecordMap.list s.journal.records)
    plant).status = .aligned
  · rw [if_pos haligned]
    refine .inl (fun k e he => ?_)
    exact validateCoordinationRecovery_aligned haligned _ (RecordMap.mem_list.mpr ⟨k, e, he, rfl⟩)
  rw [if_neg haligned]
  refine guarded_quiet_bind .marker trivial (fun _ _ => rfl)
    (fun hexclusive marker s' _ hjournal hsame => ?_)
  refine guarded_returns_require (fun hmatches => .inr ?_)
  rw [Bool.not_eq_false] at hmatches
  obtain ⟨m, -, hboth⟩ := (Option.any_eq_true _ _).mp hmatches
  obtain ⟨hpending, hmatches⟩ := Bool.and_eq_true_iff.mp hboth
  obtain ⟨r, hr, -, hid, hpre⟩ := pendingAtPreState_validateCoordinationRecovery hpending
  obtain ⟨k, e, he, rfl⟩ := RecordMap.mem_list.mp hr
  have hkey : k = request.effect.effectId := by
    simp only [AlignmentFor.matchesMarker, LiveCommitMarker.matchesCommit,
      decide_eq_true_eq] at hmatches
    rw [← hexclusive.consistent.recordsKeyed k e he, hid, hmatches.1]
  refine ⟨plant, e, hsame.trans hplant, ?_, hpre⟩
  rw [hjournal, ← hkey]
  exact he

/-- A new admission leaves the effect pending, alone, on the plant that was read. -/
theorem beginCommit_ready (request : SignedEffectCommitRequest) (issue : CommitAcceptanceIssuer)
    (time : Time) (haligned : CommitAligned request s) :
    (journalBeginCommit request issue time).Guarded pendingContract
      (Returns fun reply s => ∀ admission, reply = .ok admission → admission.status = .new →
        s.Ready request.effect) s := by
  rintro s₁ rfl hexclusive
  refine ⟨trivial, ?_⟩
  rintro reply ⟨state', plant'⟩ ⟨⟨env, hreply, rfl⟩, rfl⟩ hkept admission rfl hnew
  obtain ⟨admission', hok, hsame⟩ := map_eq_ok.mp hreply
  obtain rfl : admission' = admission := EffectReply.admission.inj hsame
  obtain ⟨entry, created, -, -, hcreated, hbegun⟩ := Journal.beginCommit_begun hok
  obtain rfl := hcreated hnew
  obtain ⟨hfound, heffect, -⟩ := hbegun.found
  cases hbegun with
  | created old _ acceptance at_ _ hold holdEffect hfresh hstate hissued hrecord hstored =>
    have hopen : old.record.state.terminal = false := by
      rw [hstate]
      rfl
    have hentry := terminal_committedRecord hrecord hopen
    have husable := EffectOp.usable_of_ok _ hreply
    have hholds := hkept.consistent.holds husable hfound
      (P := fun r => r.effect = request.effect ∧ r.state.terminal = false) ⟨heffect, hentry⟩
    refine ⟨hholds, ⟨hkept.records.only hfound hentry, ?_⟩, ?_⟩
    · obtain ⟨-, f, hf, -, hfopen⟩ := hholds
      exact hkept.file.only hf hfopen
    · rcases haligned with hterminal | ⟨plant, e, hplant, he, hpre⟩
      · rw [hterminal _ _ hold] at hopen
        cases hopen
      · obtain rfl : e = old := Option.some.inj (he.symm.trans hold)
        rw [holdEffect] at hpre
        exact ⟨plant, hplant, hpre⟩

omit [RecordCodec] in
theorem free_retainUnknownCommitOutcome (request : SignedEffectCommitRequest)
    (acceptance : DurableCommitAcceptance) (context : Context) :
    (retainUnknownCommitOutcome request acceptance context).Uses OtAct.Free := by
  refine uses_bind (uses_perform trivial) (fun signedAt => ?_)
  split
  · refine uses_bind (uses_perform trivial) (fun marked => ?_)
    split
    · trivial
    · trivial
  · exact uses_bind (uses_perform trivial)
      (fun _ => uses_bind (uses_result _) (fun _ => uses_pure _))

theorem executeCommit_pending (cfg : OtConfig) {request : SignedEffectCommitRequest}
    (acceptance : DurableCommitAcceptance) (context : Context) (hready : s.Ready request.effect) :
    (executeCommit cfg request acceptance context).Guarded pendingContract
      (Returns fun _ _ => True) s := by
  refine guarded_returns_bind (Q := fun _ _ => True) ?_ (fun acknowledgment s _ => ?_)
  · rintro s₁ rfl _
    exact ⟨hready, fun _ _ _ _ => trivial⟩
  refine guarded_free (uses_bind ?_ (fun issued => ?_))
  · cases acknowledgment with
    | none => trivial
    | some acknowledgment => exact uses_bind (uses_perform trivial) (fun _ => uses_pure _)
  · cases issued with
    | none => exact free_retainUnknownCommitOutcome request acceptance context
    | some o =>
      refine uses_bind (uses_perform trivial) (fun _ => uses_bind (uses_result _) (fun _ => ?_))
      refine uses_bind (uses_runIf (uses_bind ?_ (fun _ => ?_))) (fun _ => uses_pure _)
      · exact free_of_passive (passive_refreshCoordinationRecovery cfg)
      · exact uses_bind (uses_perform trivial) (fun _ => uses_require _ _)

theorem commitEffect_pending (cfg : OtConfig) (request : SignedEffectCommitRequest) :
    (commitEffect cfg request).Guarded pendingContract (Returns fun _ _ => True) s := by
  refine guarded_passive_bind (uses_perform trivial) (fun evaluatedAt s => ?_)
  refine guarded_passive_bind (passive_coordinationContext cfg _) (fun context s => ?_)
  refine guarded_require_bind (fun _ => ?_)
  refine guarded_passive_bind (passive_requireAnchorAdmission cfg _ _ _ _) (fun _ s => ?_)
  refine guarded_returns_bind (requireCoordinationAlignment_commit cfg request) ?_
  intro _ s haligned
  refine guarded_returns_bind (beginCommit_ready request _ evaluatedAt haligned) ?_
  intro begun s hbegun
  refine guarded_quiet_bind (.setMarker none) trivial (fun _ _ => rfl)
    (fun _ _ s' _ hjournal hplant => ?_)
  refine guarded_orFail_bind (fun admission hok => guarded_require_bind (fun _ => ?_))
  cases hstatus : admission.status with
  | terminal =>
    refine guarded_result_bind (fun _ _ => guarded_require_bind (fun _ => ?_))
    exact guarded_passive_bind (passive_refreshCoordinationRecovery cfg) (fun _ _ => trivial)
  | indeterminate => trivial
  | new =>
    have hready : s'.Ready request.effect := by
      obtain ⟨hpending, halone, hread⟩ := hbegun admission hok hstatus
      refine ⟨hjournal ▸ hpending, ?_, hplant ▸ hread⟩
      rw [Observed.PendingOnly, hjournal]
      exact halone
    exact executeCommit_pending cfg admission.acceptance context hready

theorem prepareEffect_pending (cfg : OtConfig) (request : SignedEffectPrepareRequest) :
    (prepareEffect cfg request).Guarded pendingContract (Returns fun _ _ => True) s := by
  refine guarded_passive_bind (uses_perform trivial) (fun evaluatedAt s => ?_)
  refine guarded_passive_bind (passive_coordinationContext cfg _) (fun context s => ?_)
  refine guarded_require_bind (fun _ => ?_)
  refine guarded_passive_bind (passive_requireAnchorAdmission cfg _ _ _ _) (fun _ s => ?_)
  refine guarded_passive_bind (passive_requireCoordinationAlignment cfg _) (fun _ s => ?_)
  refine guarded_quiet_bind .pending trivial (fun _ _ => rfl)
    (fun hexclusive listed s₁ hlisted hjournal _ => ?_)
  refine guarded_orFail_bind (fun pending hpending => guarded_require_bind (fun honly => ?_))
  -- Every pending record is of the request's own effect, in memory and so in the file.
  have halone : s₁.PendingOnly request.effect.effectId := by
    have hok : s.journal.pending = .ok pending := hlisted.1.symm.trans hpending
    simp only [Journal.pending, Journal.listRecords, bind_eq_ok, pure_eq_ok,
      Except.ok.injEq] at hok
    obtain ⟨_, ⟨⟨⟩, hwriter, rfl⟩, rfl⟩ := hok
    have hrecords : RecordMap.PendingOnly s.journal.records request.effect.effectId := by
      intro k e he hopen
      by_contra hne
      refine honly ⟨e.record, List.mem_filter.mpr ⟨RecordMap.mem_list.mpr ⟨k, e, he, rfl⟩, ?_⟩, ?_⟩
      · rw [hopen]
        rfl
      · intro hsame
        exact hne (by rw [← hexclusive.consistent.recordsKeyed k e he, hsame])
    have hfile := hexclusive.consistent.usable (Journal.usable_of_assertWriter hwriter)
    rw [Observed.PendingOnly, hjournal, hfile]
    exact ⟨hrecords, hrecords⟩
  refine guarded_quiet_bind (.get request.effect) trivial (fun _ _ => rfl)
    (fun _ existing s₂ _ hjournal _ => guarded_orFail_bind (fun _ _ => ?_))
  refine guarded_returns_bind (Q := fun _ _ => True) ?_ ?_
  · rintro s₃ rfl _
    refine ⟨?_, fun _ _ _ _ => trivial⟩
    show s₂.PendingOnly request.effect.effectId
    rw [Observed.PendingOnly, hjournal]
    exact halone
  · intro receipt s _
    refine guarded_orFail_bind (fun _ _ => guarded_require_bind (fun _ => ?_))
    exact guarded_passive_bind (uses_runIf (uses_perform trivial)) (fun _ _ => trivial)

omit [RecordCodec] in
theorem free_queryEffect (cfg : OtConfig) (request : SignedEffectQueryRequest) :
    (queryEffect cfg request).Uses OtAct.Free := by
  refine uses_bind (uses_perform trivial) (fun _ => ?_)
  refine uses_bind (free_of_passive (passive_coordinationContext cfg _)) (fun _ => ?_)
  refine uses_bind (uses_require _ _) (fun _ => ?_)
  refine uses_bind (free_of_passive (passive_requireCoordinationAlignment cfg _)) (fun _ => ?_)
  refine uses_bind (uses_perform trivial) (fun _ => uses_bind (uses_result _) (fun _ => ?_))
  refine uses_bind (uses_perform trivial) (fun _ => uses_bind (uses_result _) (fun _ => ?_))
  refine uses_bind (uses_require _ _) (fun _ => ?_)
  refine uses_bind (uses_perform trivial) (fun _ => uses_bind (uses_result _) (fun _ => ?_))
  refine uses_bind (uses_result _) (fun _ => ?_)
  refine uses_bind (uses_runIf ?_) (fun _ => uses_pure _)
  exact free_of_passive (passive_clearAnsweredMarker cfg request)

end OtProgram

open OtProgram in
theorem OtRequest.handle_pending (cfg : OtConfig) (request : OtRequest) :
    (request.handle cfg).Guarded pendingContract (Returns fun _ _ => True) s := by
  cases request with
  | prepare request =>
    exact guarded_returns_bind (prepareEffect_pending cfg request) (fun _ _ _ => trivial)
  | commit request =>
    exact guarded_returns_bind (commitEffect_pending cfg request) (fun _ _ _ => trivial)
  | query request =>
    exact guarded_returns_bind (guarded_free (free_queryEffect cfg request)) (fun _ _ _ => trivial)

/-! ## Runs -/

/-- The state of an observed process. -/
def ObservedOt.observed (o : ObservedOt) : Observed := ⟨o.system.state, o.plant⟩

/-- The invariant of an observed process: one record is pending, and the running handler, if
    any, keeps it so. -/
structure ObservedOt.Safe (o : ObservedOt) : Prop where
  exclusive : o.observed.Exclusive
  running : ∀ p, o.system.running = some p →
    p.Guarded pendingContract (Returns fun _ _ => True) o.observed

theorem ObservedStep.safe {o o' : ObservedOt} (h : ObservedStep o o') (hsafe : o.Safe) :
    o'.Safe := by
  cases h with
  | start config s request plant =>
    refine ⟨hsafe.exclusive, ?_⟩
    rintro p ⟨⟩
    exact request.handle_pending config
  | act config s s' action next reply plant hperform =>
    obtain ⟨hallowed, hnext⟩ := hsafe.running _ rfl _ rfl hsafe.exclusive
    have hperformed : pendingContract.perform ⟨s, plant⟩ action reply
      ⟨s', action.observe reply plant⟩ := ⟨hperform, rfl⟩
    have hexclusive := Observed.exclusive_perform hsafe.exclusive hallowed hperformed
    refine ⟨hexclusive, ?_⟩
    rintro p ⟨⟩
    exact hnext reply _ hperformed hexclusive
  | finish config s result plant =>
    refine ⟨?_, by simp⟩
    rcases result with error | receipt | outcome
    · exact hsafe.exclusive
    · exact hsafe.exclusive
    · exact ⟨hsafe.exclusive.consistent, hsafe.exclusive.records, hsafe.exclusive.file⟩
  | restart sys config plant =>
    exact ⟨⟨Journal.consistent_restart hsafe.exclusive.consistent, hsafe.exclusive.file,
      hsafe.exclusive.file⟩, by simp⟩

theorem ObservedRun.safe {o o' : ObservedOt} (h : ObservedRun o o') (hsafe : o.Safe) : o'.Safe := by
  induction h with
  | refl => exact hsafe
  | tail _ hstep ih => exact hstep.safe ih

theorem OtSystem.Initial.observedSafe {sys : OtSystem} (h : sys.Initial)
    (plant : Option PlantHealthMetadata) : ObservedOt.Safe ⟨sys, plant⟩ := by
  obtain ⟨⟨owner, write, hinit⟩, -, -, -, hrunning⟩ := h
  obtain ⟨hconsistent, hrecords, hfile⟩ := Journal.consistent_initialized hinit
  have hempty : RecordMap.SinglePending (SortedMap.empty : RecordMap .effectCoordinator) := by
    intro k k' e e' he
    simp at he
  refine ⟨⟨hconsistent, ?_, ?_⟩, by simp [hrunning]⟩
  · show RecordMap.SinglePending sys.state.journal.records
    rw [hrecords]
    exact hempty
  · show RecordMap.SinglePending sys.state.journal.file
    rw [hfile]
    exact hempty

/-- At every point of every run at most one record is nonterminal; and when the device is about
    to be called its effect is that one, and the plant was last read at the effect's authorized
    pre-state. -/
theorem ObservedRun.single_pending_effect {init : OtSystem} {o : ObservedOt}
    (hinit : init.Initial) (hrun : ObservedRun ⟨init, none⟩ o) :
    (RecordMap.SinglePending o.system.state.journal.records ∧
      RecordMap.SinglePending o.system.state.journal.file) ∧
    ∀ request next, o.system.running = some (.act (.execute request) next) →
      (⟨o.system.state, o.plant⟩ : Observed).Ready request.effect := by
  have hsafe := ObservedRun.safe hrun (hinit.observedSafe none)
  refine ⟨⟨hsafe.exclusive.records, hsafe.exclusive.file⟩, ?_⟩
  intro request next hrunning
  exact (hsafe.running _ hrunning _ rfl hsafe.exclusive).1

end

section

open Sample

/-- The sample commit just before the device is called. -/
def Sample.committingSystem : OtSystem :=
  (otSystem.serveAll otPreparing).serveFor (calmAt 3 none) 8 (.commit sampleCommit)

set_option maxRecDepth 10000 in
theorem single_pending_effect_committing :
    ∃ plant, committingSystem.executing = some sampleCommit ∧
      (⟨committingSystem.state, plant⟩ : Observed).Ready sampleCommit.effect := by
  have hexecuting : committingSystem.executing = some sampleCommit := by decide +kernel
  obtain ⟨next, hrunning⟩ := OtSystem.running_of_executing hexecuting
  have hprepared := @OtSystem.run_serveAll _ _ otSystem otPreparing rfl
  have hstarted := @OtSystem.run_serveFor _ _ (calmAt 3 none) 8 (otSystem.serveAll otPreparing)
    (.commit sampleCommit) rfl
  obtain ⟨plant, hrun⟩ := OtRun.observed (hprepared.trans hstarted) none
  exact ⟨plant, hexecuting,
    (ObservedRun.single_pending_effect initial_otSystem hrun).2 sampleCommit next hrunning⟩

end

end AegisOt
