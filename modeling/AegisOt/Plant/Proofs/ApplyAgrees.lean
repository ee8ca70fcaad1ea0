import AegisOt.Plant.Proofs.Restore

/-!
# Applying agrees with simulating

`simulate_candidate` and `apply_authorized_command` edit a copy of the network each. Whatever the
command, the two copies are equal, and so is all that is measured on them; only the observation
envelope of the committed state is new, because the plant reads its clock again. Nothing is
assigned before every check and the durable commit have passed.
-/

namespace AegisOt

section

variable [Primitives] [PlantPrimitives] [Pandapower] [Binary64]

namespace PhysicalStateSnapshot

/-- The same state under another observation. -/
def reobserved (s : PhysicalStateSnapshot) (observedAt : Time) (observationSequence : Nat) :
    PhysicalStateSnapshot :=
  { s with observedAt := observedAt, observationSequence := observationSequence }.withDigests

end PhysicalStateSnapshot

open PhysicalStateSnapshot

/-- Two snapshots of one network under one version and time differ by the observation. -/
theorem snapshotOf_reobserved {configuration : PlantConfiguration} {modelDigest : Sha256}
    {net : SolvedNetwork} {labels labels' : SnapshotLabels} {converged : Bool}
    {s t : PhysicalStateSnapshot}
    (hs : snapshotOf configuration modelDigest net labels converged = .ok s)
    (ht : snapshotOf configuration modelDigest net labels' converged = .ok t)
    (hversion : labels.stateVersion = labels'.stateVersion)
    (htime : labels.simulationTimeS = labels'.simulationTimeS) :
    t = s.reobserved labels'.observedAt labels'.observationSequence := by
  obtain ⟨m, hm, -, rfl⟩ := snapshotOf_eq_ok hs
  obtain ⟨m', hm', -, rfl⟩ := snapshotOf_eq_ok ht
  obtain rfl : m = m' := Except.ok.inj (hm.symm.trans hm')
  obtain ⟨version, time, observedAt, sequence⟩ := labels
  obtain ⟨version', time', observedAt', sequence'⟩ := labels'
  obtain rfl : version = version' := hversion
  obtain rfl : time = time' := htime
  rfl

namespace PandapowerCigreMvPlant

variable {p q after : PandapowerCigreMvPlant}

/-! ## Nothing is assigned early -/

theorem applyAuthorizedCommand_atomic (request : ApplyRequest)
    (observed effectClock : ClockReading) (durableCommit : Option (Except PlantError Unit)) :
    Method.Atomic (applyAuthorizedCommand request observed effectClock durableCommit) := by
  refine Method.Reads.atomic_bind Method.reads_self fun plant => ?_
  refine Method.Reads.atomic_bind (Method.reads_check _) fun effect => ?_
  cases durableCommit with
  | none => exact (Method.total_assign_pure _ _).atomic
  | some outcome =>
    refine Method.Reads.atomic_bind (Method.reads_check _) fun _ => ?_
    exact (Method.total_assign_pure _ _).atomic

theorem applyAuthorizedCommandWithin_atomic (request : ApplyRequest)
    (deadline : Option EffectDeadline) (observed : ClockReading) (clock : Option ClockReading)
    (durableCommit : Option (Except PlantError Unit)) :
    Method.Atomic (applyAuthorizedCommandWithin request deadline observed clock durableCommit) := by
  refine Method.Reads.atomic_bind (Method.reads_check _) fun _ => ?_
  exact applyAuthorizedCommand_atomic _ _ _ _

/-! ## The candidate -/

/-- What `simulate_candidate` put in an assessment. -/
theorem of_simulateCandidate {command : PhysicalControlCommand} {id : String}
    {assessment : CandidateAssessment} (h : p.simulateCandidate command id = .ok assessment) :
    ∃ tables, applyToNetwork p.configuration p.net.tables command = .ok tables ∧
      p.readState = .ok assessment.preState ∧
      p.snapshot (solve tables)
        { stateVersion := p.stateVersion + 1
          simulationTimeS := Binary64.add p.simulationTimeS p.configuration.stepSeconds
          observedAt := p.observedAt + Binary64.timedelta p.configuration.stepSeconds
          observationSequence := p.observationSequence + 1 }
        (solve tables).solution.isSome = .ok assessment.postState := by
  unfold simulateCandidate at h
  obtain ⟨-, h⟩ := bind_unit_eq_ok.mp h
  obtain ⟨preState, hpre, h⟩ := bind_eq_ok.mp h
  obtain ⟨tables, htables, h⟩ := bind_eq_ok.mp h
  obtain ⟨postState, hpost, h⟩ := bind_eq_ok.mp h
  obtain ⟨-, h⟩ := bind_unit_eq_ok.mp h
  obtain rfl := Except.ok.inj h
  exact ⟨tables, htables, hpre, hpost⟩

omit [Primitives] [Binary64] in
/-- A command leaves the material of the model as it is. -/
theorem modelMaterialDigest_applyToNetwork {configuration : PlantConfiguration}
    {tables edited : Network} {command : PhysicalControlCommand}
    (h : applyToNetwork configuration tables command = .ok edited) :
    modelMaterialDigest configuration edited = modelMaterialDigest configuration tables := by
  have hunedited : EditsBound configuration tables tables :=
    ⟨rfl, fun _ _ => rfl, fun _ _ => rfl⟩
  have hedits := edits_applyToNetwork [] h hunedited fun _ => rfl
  exact modelMaterialDigest_edits hedits.1

/-! ## What is committed -/

/-- `snapshot` is what a command committed that the assessment was made for. -/
structure Commits (assessment : CandidateAssessment) (plant : PandapowerCigreMvPlant)
    (observed : ClockReading) (snapshot : PhysicalStateSnapshot)
    (after : PandapowerCigreMvPlant) : Prop where
  read : after.readState = .ok snapshot
  postState : snapshot =
    { assessment.postState with
      observedAt := after.observedAt
      observationSequence := after.observationSequence
      observationDigest := snapshot.observationDigest }
  same : snapshot = assessment.postState ↔ after.observedAt = assessment.postState.observedAt ∧
    after.observationSequence = assessment.postState.observationSequence
  observed : observed = .ok after.observedAt
  observationSequence : after.observationSequence = plant.observationSequence + 1
  stateVersion : after.stateVersion = plant.stateVersion + 1
  assessed : snapshot.stateVersion = assessment.preState.stateVersion + 1

/-- A command that succeeds commits the state that was assessed on a plant in the same physical
    state. -/
theorem Same.commits (h : p.Same q) {request : ApplyRequest} {command : PhysicalControlCommand}
    (hcommand : request.command = command) {id : String}
    {assessment : CandidateAssessment} {observed effectClock : ClockReading}
    {durableCommit : Option (Except PlantError Unit)} {snapshot : PhysicalStateSnapshot}
    (hcandidate : p.simulateCandidate command id = .ok assessment)
    (happly : Method.call (applyAuthorizedCommand request observed effectClock durableCommit) q =
      (.ok snapshot, after)) :
    Commits assessment q observed snapshot after := by
  subst hcommand
  obtain ⟨tables, htables, hpre, hpost⟩ := of_simulateCandidate hcandidate
  obtain ⟨effect, hprepare, rfl, rfl⟩ := apply_eq_ok happly
  obtain ⟨edited, hprepared⟩ := prepared_of_prepareEffect hprepare
  -- both edits start from the same network
  obtain rfl : tables = edited := by
    have hedited := hprepared.applied
    rw [← h.configuration, ← h.net, htables] at hedited
    exact Except.ok.inj hedited
  have hconverged : (solve tables).solution.isSome = true :=
    Option.isSome_iff_ne_none.mpr hprepared.converged
  have hsnapshot := hprepared.snapshot
  unfold PandapowerCigreMvPlant.snapshot at hsnapshot hpost
  rw [h.configuration, h.modelDigest, hconverged] at hpost
  have hreobserved : effect.snapshot = assessment.postState.reobserved effect.labels.observedAt
      effect.labels.observationSequence := by
    refine snapshotOf_reobserved hpost hsnapshot ?_ ?_
    · rw [hprepared.stateVersion, ← h.stateVersion]
    · rw [hprepared.simulationTimeS, ← h.simulationTimeS]
  obtain ⟨m, -, -, hassessed⟩ := snapshotOf_eq_ok hpost
  have hintegrity : (q.swap effect).assertModelIntegrity = .ok () := by
    have hbefore := hprepared.integrity
    unfold PandapowerCigreMvPlant.assertModelIntegrity at hbefore ⊢
    rw [refuseIf_eq_ok] at hbefore ⊢
    change ¬ modelMaterialDigest q.configuration effect.net.tables ≠ q.modelDigest
    rw [hprepared.net]
    exact (modelMaterialDigest_applyToNetwork hprepared.applied).symm ▸ hbefore
  have hversion : effect.snapshot.stateVersion = assessment.postState.stateVersion := by
    rw [hreobserved]
    rfl
  refine ⟨readState_swap hintegrity hprepared.net hprepared.converged hprepared.snapshot, ?_, ?_,
    hprepared.observed, hprepared.observationSequence, hprepared.stateVersion, ?_⟩
  · rw [hreobserved, hassessed]
    rfl
  · change effect.snapshot = _ ↔ effect.labels.observedAt = _ ∧
      effect.labels.observationSequence = _
    constructor
    · intro hsame
      rw [← hsame, hreobserved]
      exact ⟨rfl, rfl⟩
    · rintro ⟨hat, hsequence⟩
      rw [hreobserved, hat, hsequence, hassessed]
      rfl
  · obtain ⟨-, -, hpreVersion, -⟩ := of_readState hpre
    rw [hversion, hpreVersion, hassessed]
    rw [h.stateVersion]
    rfl

/-- A command that raises leaves the plant as it is. One that succeeds on the state a candidate was
    assessed on commits the state of the candidate, one version later, under a new observation. -/
theorem apply_atomic_and_agrees_with_candidate :
    (∀ plant request deadline observed clock durableCommit error after,
      Method.call (applyAuthorizedCommandWithin request deadline observed clock durableCommit)
        plant = (.error error, after) → after = plant) ∧
    ∀ p q : PandapowerCigreMvPlant, p.Same q →
      ∀ request id assessment, p.simulateCandidate request.command id = .ok assessment →
        ∀ deadline observed clock durableCommit snapshot after,
          Method.call
              (applyAuthorizedCommandWithin request deadline observed clock durableCommit) q =
            (.ok snapshot, after) →
          Commits assessment q observed snapshot after := by
  constructor
  · intro plant request deadline observed clock durableCommit error after hraised
    exact applyAuthorizedCommandWithin_atomic request deadline observed clock durableCommit
      plant error after hraised
  · intro p q hsame request id assessment hcandidate deadline observed clock durableCommit
      snapshot after happly
    unfold applyAuthorizedCommandWithin at happly
    obtain ⟨_, -, happly⟩ := Method.call_check_bind_eq_ok.mp happly
    refine hsame.commits ?_ hcandidate happly
    rfl

end PandapowerCigreMvPlant

end

/-! ## A clock that does not keep to the step -/

namespace Sample

/-- The sample command is tried on the sample plant. -/
def assessedDispatch : Except PlantError CandidateAssessment :=
  (freshPlant 0).simulateCandidate (batteryCommand "battery-1" (1 / 4)) "assessment-1"

/-- The sample command with everything pinned that the assessment found. -/
def pinnedDispatch (assessment : CandidateAssessment) : PandapowerCigreMvPlant.ApplyRequest :=
  { command := batteryCommand "battery-1" (1 / 4)
    expectedPreStateVersion := some assessment.preState.stateVersion
    expectedPreStateDigest := some assessment.preState.stateDigest
    expectedPreObservationDigest := some assessment.preState.observationDigest
    expectedPostStateDigest := some assessment.postState.stateDigest
    expectedPostTopologyDigest := some assessment.postState.topologyDigest
    effectDeadline := none }

/-- The pinned command is applied, with this reading of the observation clock. -/
def applyPinned (assessment : CandidateAssessment) (observed : ClockReading) :
    Except PlantError PhysicalStateSnapshot × PandapowerCigreMvPlant :=
  Method.call (PandapowerCigreMvPlant.applyAuthorizedCommandWithin (pinnedDispatch assessment) none
    observed none none) (freshPlant 0)

theorem assessedDispatch_applies : ∃ assessment snapshot, assessedDispatch = .ok assessment ∧
    (applyPinned assessment (.ok 5)).1 = .ok snapshot ∧
    snapshot.observedAt ≠ assessment.postState.observedAt := by
  have hruns : (assessedDispatch.toOption.bind fun assessment =>
      (applyPinned assessment (.ok 5)).1.toOption.map fun snapshot =>
        decide (snapshot.observedAt ≠ assessment.postState.observedAt)) = some true := by
    decide +kernel
  obtain ⟨assessment, hassessment, hruns⟩ := Option.bind_eq_some_iff.mp hruns
  obtain ⟨snapshot, hsnapshot, hdiffers⟩ := Option.map_eq_some_iff.mp hruns
  exact ⟨assessment, snapshot, toOption_eq_some.mp hassessment, toOption_eq_some.mp hsnapshot,
    of_decide_eq_true hdiffers⟩

end Sample

namespace PandapowerCigreMvPlant

open Sample

/-- The expected digests hold and the committed snapshot is another one than the assessed one. -/
theorem committed_snapshot_not_assessed : ∃ assessment snapshot after,
    (freshPlant 0).simulateCandidate (batteryCommand "battery-1" (1 / 4)) "assessment-1" =
      .ok assessment ∧
    Method.call (applyAuthorizedCommandWithin (pinnedDispatch assessment) none (.ok 5) none none)
      (freshPlant 0) = (.ok snapshot, after) ∧
    snapshot ≠ assessment.postState := by
  obtain ⟨assessment, snapshot, hassessed, happlied, hdiffers⟩ := assessedDispatch_applies
  refine ⟨assessment, snapshot, _, hassessed, Prod.ext happlied rfl, ?_⟩
  exact fun hsame => hdiffers (congrArg PhysicalStateSnapshot.observedAt hsame)

/-- The pinned command commits the assessed state, and leaves no trace if the clock raises. -/
theorem pinned_dispatch_commits : ∃ assessment snapshot after,
    assessedDispatch = .ok assessment ∧ applyPinned assessment (.ok 5) = (.ok snapshot, after) ∧
    Commits assessment (freshPlant 0) (.ok 5) snapshot after ∧
    ∃ error, (applyPinned assessment (.error "clock is unavailable")).1 = .error error ∧
      (applyPinned assessment (.error "clock is unavailable")).2 = freshPlant 0 := by
  obtain ⟨assessment, snapshot, hassessed, happlied, -⟩ := assessedDispatch_applies
  refine ⟨assessment, snapshot, _, hassessed, Prod.ext happlied rfl, ?_, ?_⟩
  · exact apply_atomic_and_agrees_with_candidate.2 _ _ ⟨rfl, rfl, rfl, rfl, rfl⟩
      (pinnedDispatch assessment) _ _ hassessed _ _ _ _ _ _ (Prod.ext happlied rfl)
  · have hraises : (assessedDispatch.toOption.map fun assessment =>
        (applyPinned assessment (.error "clock is unavailable")).1.toOption.isNone) =
          some true := by decide +kernel
    rw [hassessed] at hraises
    have hnone : (applyPinned assessment (.error "clock is unavailable")).1.toOption.isNone =
      true := Option.some.inj hraises
    cases hcall : (applyPinned assessment (.error "clock is unavailable")).1 with
    | ok _ =>
      rw [hcall] at hnone
      cases hnone
    | error error =>
      exact ⟨error, rfl, apply_atomic_and_agrees_with_candidate.1 _ (pinnedDispatch assessment)
        none _ none none error _ (Prod.ext hcall rfl)⟩

end PandapowerCigreMvPlant

end AegisOt
