import AegisOt.Misc.Agreement
import AegisOt.Plant.Pandapower

/-!
# Plants in the same physical state

Two plants of one configuration with the same network, version and simulation time differ only in
their observation envelopes. They answer every later command alike: `agreesFor_of_same` follows the
program text of `simulate_candidate` and `apply_authorized_command` on both, and the states they
are left in are again the same.
-/

namespace AegisOt

namespace PhysicalStateSnapshot

/-- Two snapshots that differ only in their observation envelope. -/
structure SamePhysical (s t : PhysicalStateSnapshot) : Prop where
  material : s.digestMaterial = t.digestMaterial
  stateDigest : s.stateDigest = t.stateDigest

namespace SamePhysical

variable {s t : PhysicalStateSnapshot}

/-- A field outside the observation envelope is the same. -/
theorem field {α : Type} {f : PhysicalStateSnapshot → α} (h : s.SamePhysical t)
    (hf : ∀ u : PhysicalStateSnapshot, f u.digestMaterial = f u) : f s = f t := by
  rw [← hf s, h.material, hf t]

theorem modelDigest (h : s.SamePhysical t) : s.modelDigest = t.modelDigest :=
  h.field fun _ => rfl

theorem inputDigest (h : s.SamePhysical t) : s.inputDigest = t.inputDigest :=
  h.field fun _ => rfl

theorem topologyDigest (h : s.SamePhysical t) : s.topologyDigest = t.topologyDigest :=
  h.field fun _ => rfl

theorem stateVersion (h : s.SamePhysical t) : s.stateVersion = t.stateVersion :=
  h.field fun _ => rfl

theorem simulationTimeS (h : s.SamePhysical t) : s.simulationTimeS = t.simulationTimeS :=
  h.field fun _ => rfl

theorem unsafeState (h : s.SamePhysical t) : s.unsafeState = t.unsafeState :=
  h.field fun _ => rfl

theorem totalLoadServedPct (h : s.SamePhysical t) : s.totalLoadServedPct = t.totalLoadServedPct :=
  h.field fun _ => rfl

theorem priorityLoadServedPct (h : s.SamePhysical t) :
    s.priorityLoadServedPct = t.priorityLoadServedPct :=
  h.field fun _ => rfl

theorem voltageViolationCount (h : s.SamePhysical t) :
    s.voltageViolationCount = t.voltageViolationCount :=
  h.field fun _ => rfl

theorem thermalViolationCount (h : s.SamePhysical t) :
    s.thermalViolationCount = t.thermalViolationCount :=
  h.field fun _ => rfl

end SamePhysical

@[simp] theorem verifyDigest_withDigests [Primitives] (s : PhysicalStateSnapshot) :
    s.withDigests.verifyDigest = true :=
  decide_eq_true ⟨rfl, rfl⟩

end PhysicalStateSnapshot

open PhysicalStateSnapshot

/-- Two assessments of one candidate, up to their identifiers and observation envelopes. -/
structure CandidateAssessment.SamePhysical (a b : CandidateAssessment) : Prop where
  commandDigest : a.commandDigest = b.commandDigest
  preState : a.preState.SamePhysical b.preState
  postState : a.postState.SamePhysical b.postState
  safe : a.safe = b.safe
  reasons : a.reasons = b.reasons

variable [Primitives] [PlantPrimitives] [Pandapower] [Binary64]

/-! ## Snapshots -/

section

variable {configuration : PlantConfiguration} {modelDigest : Sha256} {net : SolvedNetwork}
  {labels labels' : SnapshotLabels} {converged : Bool} {s : PhysicalStateSnapshot}

/-- What `_snapshot` returns. -/
theorem snapshotOf_eq_ok (h : snapshotOf configuration modelDigest net labels converged = .ok s) :
    ∃ m, measure configuration net converged = .ok m ∧
      (provisionalSnapshot configuration modelDigest net.tables labels converged m).fieldsValid =
        true ∧
      s = (provisionalSnapshot configuration modelDigest net.tables labels converged
        m).withDigests := by
  obtain ⟨m, hm, hrest⟩ := bind_eq_ok.mp h
  obtain ⟨hvalid, hs⟩ := bind_unit_eq_ok.mp hrest
  refine ⟨m, hm, ?_, (Except.ok.inj hs).symm⟩
  simpa using hvalid

/-- The observation envelope has no part in the physical result. -/
theorem agree_snapshotOf (hversion : labels.stateVersion = labels'.stateVersion)
    (htime : labels.simulationTimeS = labels'.simulationTimeS) :
    Agree SamePhysical (snapshotOf configuration modelDigest net labels converged)
      (snapshotOf configuration modelDigest net labels' converged) := by
  obtain ⟨version, time, observedAt, sequence⟩ := labels
  obtain ⟨version', time', observedAt', sequence'⟩ := labels'
  obtain rfl : version = version' := hversion
  obtain rfl : time = time' := htime
  refine agree_bind_same _ fun m _ => ?_
  exact agree_refuseIf_bind Iff.rfl fun _ => ⟨rfl, rfl⟩

end

namespace PandapowerCigreMvPlant

/-- The same plant up to the observation envelope. -/
structure Same (p q : PandapowerCigreMvPlant) : Prop where
  configuration : p.configuration = q.configuration
  modelDigest : p.modelDigest = q.modelDigest
  net : p.net = q.net
  stateVersion : p.stateVersion = q.stateVersion
  simulationTimeS : p.simulationTimeS = q.simulationTimeS

variable {p q : PandapowerCigreMvPlant}

omit [Primitives] [Binary64] in
theorem Same.assertModelIntegrity (h : p.Same q) :
    p.assertModelIntegrity = q.assertModelIntegrity := by
  unfold PandapowerCigreMvPlant.assertModelIntegrity
  rw [h.configuration, h.net, h.modelDigest]

theorem Same.agree_snapshot (h : p.Same q) (net : SolvedNetwork) {labels labels' : SnapshotLabels}
    (converged : Bool) (hversion : labels.stateVersion = labels'.stateVersion)
    (htime : labels.simulationTimeS = labels'.simulationTimeS) :
    Agree SamePhysical (p.snapshot net labels converged) (q.snapshot net labels' converged) := by
  unfold snapshot
  rw [h.configuration, h.modelDigest]
  exact agree_snapshotOf hversion htime

theorem Same.agree_readState (h : p.Same q) : Agree SamePhysical p.readState q.readState := by
  unfold readState
  rw [h.assertModelIntegrity, h.net]
  exact agree_bind_same _ fun _ _ => h.agree_snapshot _ _ h.stateVersion h.simulationTimeS

/-! ## Candidates -/

omit [Primitives] [PlantPrimitives] [Pandapower] [Binary64] in
theorem candidateReasons_congr {s t : PhysicalStateSnapshot} (h : s.SamePhysical t)
    (limits : PhysicalLimits) (converged : Bool) :
    candidateReasons limits converged s = candidateReasons limits converged t := by
  unfold candidateReasons
  rw [h.totalLoadServedPct, h.priorityLoadServedPct, h.voltageViolationCount,
    h.thermalViolationCount]

/-- A snapshot of the plant verifies and carries the labels it was given. -/
theorem of_snapshot {net : SolvedNetwork} {labels : SnapshotLabels} {converged : Bool}
    {s : PhysicalStateSnapshot} (h : p.snapshot net labels converged = .ok s) :
    s.verifyDigest = true ∧ s.observedAt = labels.observedAt ∧
      s.stateVersion = labels.stateVersion ∧ s.simulationTimeS = labels.simulationTimeS := by
  obtain ⟨m, -, -, rfl⟩ := snapshotOf_eq_ok h
  exact ⟨verifyDigest_withDigests _, rfl, rfl, rfl⟩

theorem of_readState {s : PhysicalStateSnapshot} (h : p.readState = .ok s) :
    s.verifyDigest = true ∧ s.observedAt = p.observedAt ∧
      s.stateVersion = p.stateVersion ∧ s.simulationTimeS = p.simulationTimeS := by
  obtain ⟨-, hsnapshot⟩ := bind_unit_eq_ok.mp h
  exact of_snapshot hsnapshot

omit [PlantPrimitives] [Pandapower] [Binary64] in
/-- Assessments of the same change pass their validation alike: each advances the observation
    time by the same step. -/
theorem agree_validate {a b : CandidateAssessment} (h : a.SamePhysical b)
    (ha : a.preState.verifyDigest = true ∧ a.postState.verifyDigest = true)
    (hb : b.preState.verifyDigest = true ∧ b.postState.verifyDigest = true)
    (hobserved : a.postState.observedAt ≤ a.preState.observedAt ↔
      b.postState.observedAt ≤ b.preState.observedAt) :
    Agree (fun _ _ => True) a.validate b.validate := by
  unfold CandidateAssessment.validate
  rw [h.preState.modelDigest, h.postState.modelDigest, h.postState.stateVersion,
    h.preState.stateVersion, h.postState.simulationTimeS, h.preState.simulationTimeS, h.safe,
    h.reasons, h.postState.unsafeState, ha.1, ha.2, hb.1, hb.2]
  refine agree_bind_same _ fun _ _ => agree_bind_same _ fun _ _ => agree_bind_same _ fun _ _ =>
    agree_bind_same _ fun _ _ => agree_refuseIf_bind hobserved fun _ => ?_
  exact agree_bind_same _ fun _ _ => agree_bind_same _ fun _ _ => agree_refuseIf Iff.rfl trivial

theorem Same.agree_simulateCandidate (h : p.Same q) (command : PhysicalControlCommand)
    (id id' : String) :
    Agree CandidateAssessment.SamePhysical (p.simulateCandidate command id)
      (q.simulateCandidate command id') := by
  unfold simulateCandidate
  rw [h.assertModelIntegrity, h.configuration, h.net]
  refine agree_bind_same _ fun _ _ => h.agree_readState.bind fun pre pre' hpre hpre' hsame => ?_
  refine agree_bind_same _ fun tables _ => ?_
  refine (h.agree_snapshot (solve tables) (solve tables).solution.isSome
    (congrArg (· + 1) h.stateVersion)
    (congrArg (Binary64.add · q.configuration.stepSeconds) h.simulationTimeS)).bind
      fun post post' hpost hpost' hposts => ?_
  have hreasons := candidateReasons_congr hposts q.configuration.limits
    (solve tables).solution.isSome
  obtain ⟨hpreValid, hpreAt, -⟩ := of_readState hpre
  obtain ⟨hpreValid', hpreAt', -⟩ := of_readState hpre'
  obtain ⟨hpostValid, hpostAt, -⟩ := of_snapshot hpost
  obtain ⟨hpostValid', hpostAt', -⟩ := of_snapshot hpost'
  have hassessments : CandidateAssessment.SamePhysical
      ⟨id, command.digest, pre, post,
        decide (candidateReasons q.configuration.limits (solve tables).solution.isSome post = []),
        candidateReasons q.configuration.limits (solve tables).solution.isSome post⟩
      ⟨id', command.digest, pre', post',
        decide (candidateReasons q.configuration.limits (solve tables).solution.isSome post' = []),
        candidateReasons q.configuration.limits (solve tables).solution.isSome post'⟩ :=
    ⟨rfl, hsame, hposts, by rw [hreasons], hreasons⟩
  refine Agree.bind (Agree.mapError (agree_validate hassessments ⟨hpreValid, hpostValid⟩
    ⟨hpreValid', hpostValid'⟩ ?_) PlantError.other) fun _ _ _ _ _ => ?_
  · change post.observedAt ≤ pre.observedAt ↔ post'.observedAt ≤ pre'.observedAt
    rw [hpreAt, hpreAt', hpostAt, hpostAt']
    constructor
    · intro hle
      have hstep := le_of_add_le_add_left (hle.trans_eq (add_zero _).symm)
      exact (add_le_add_right hstep _).trans_eq (add_zero _)
    · intro hle
      have hstep := le_of_add_le_add_left (hle.trans_eq (add_zero _).symm)
      exact (add_le_add_right hstep _).trans_eq (add_zero _)
  · exact hassessments

/-! ## Effects -/

/-- Everything `apply_authorized_command` has checked when it reaches its durable commit. -/
structure Prepared (plant : PandapowerCigreMvPlant) (request : ApplyRequest)
    (observed : ClockReading) (effect : PendingEffect) (tables : Network) : Prop where
  integrity : plant.assertModelIntegrity = .ok ()
  current : plant.readState = .ok effect.current
  applied : applyToNetwork plant.configuration plant.net.tables request.command = .ok tables
  net : effect.net = solve tables
  converged : (solve tables).solution ≠ none
  snapshot : plant.snapshot (solve tables) effect.labels true = .ok effect.snapshot
  safe : effect.snapshot.unsafeState = false
  stateVersion : effect.labels.stateVersion = plant.stateVersion + 1
  simulationTimeS : effect.labels.simulationTimeS =
    Binary64.add plant.simulationTimeS plant.configuration.stepSeconds
  observationSequence : effect.labels.observationSequence = plant.observationSequence + 1
  observed : observed = .ok effect.labels.observedAt

theorem prepared_of_prepareEffect {request : ApplyRequest} {observed effectClock : ClockReading}
    {effect : PendingEffect} (h : p.prepareEffect request observed effectClock = .ok effect) :
    ∃ tables, Prepared p request observed effect tables := by
  unfold prepareEffect at h
  obtain ⟨hintegrity, h⟩ := bind_unit_eq_ok.mp h
  obtain ⟨current, hcurrent, h⟩ := bind_eq_ok.mp h
  obtain ⟨-, h⟩ := bind_unit_eq_ok.mp h
  obtain ⟨-, h⟩ := bind_unit_eq_ok.mp h
  obtain ⟨-, h⟩ := bind_unit_eq_ok.mp h
  obtain ⟨tables, htables, h⟩ := bind_eq_ok.mp h
  obtain ⟨hconverged, h⟩ := bind_unit_eq_ok.mp h
  obtain ⟨observedAt, hobserved, h⟩ := bind_eq_ok.mp h
  obtain ⟨post, hpost, h⟩ := bind_eq_ok.mp h
  obtain ⟨hsafe, h⟩ := bind_unit_eq_ok.mp h
  obtain ⟨-, h⟩ := bind_unit_eq_ok.mp h
  obtain ⟨-, h⟩ := bind_unit_eq_ok.mp h
  rw [refuseIf_eq_ok] at hconverged hsafe
  have heffect : effect = ⟨current, post, solve tables,
      ⟨p.stateVersion + 1, Binary64.add p.simulationTimeS p.configuration.stepSeconds, observedAt,
        p.observationSequence + 1⟩⟩ := by
    cases hdeadline : request.effectDeadline with
    | none =>
      rw [hdeadline] at h
      exact (Except.ok.inj h).symm
    | some deadline =>
      rw [hdeadline] at h
      obtain ⟨now, -, h⟩ := bind_eq_ok.mp h
      obtain ⟨-, h⟩ := bind_unit_eq_ok.mp h
      exact (Except.ok.inj h).symm
  subst heffect
  exact ⟨tables, hintegrity, hcurrent, htables, rfl, hconverged, hpost, by simpa using hsafe, rfl,
    rfl, rfl, mapError_eq_ok.mp hobserved⟩

/-- Two pending effects that swap in the same physical state. -/
structure PendingEffect.Same (effect effect' : PendingEffect) : Prop where
  current : effect.current.SamePhysical effect'.current
  snapshot : effect.snapshot.SamePhysical effect'.snapshot
  net : effect.net = effect'.net
  stateVersion : effect.labels.stateVersion = effect'.labels.stateVersion
  simulationTimeS : effect.labels.simulationTimeS = effect'.labels.simulationTimeS

/-- The same call to two plants: an observation that the one call pins is present in the one plant
    exactly if the observation that the other call pins is present in the other. -/
structure SameRequest (p q : PandapowerCigreMvPlant) (request request' : ApplyRequest) :
    Prop where
  command : request.command = request'.command
  preStateVersion : request.expectedPreStateVersion = request'.expectedPreStateVersion
  preStateDigest : request.expectedPreStateDigest = request'.expectedPreStateDigest
  postStateDigest : request.expectedPostStateDigest = request'.expectedPostStateDigest
  postTopologyDigest : request.expectedPostTopologyDigest = request'.expectedPostTopologyDigest
  effectDeadline : request.effectDeadline = request'.effectDeadline
  observation : ∀ s t, p.readState = .ok s → q.readState = .ok t →
    (differs request.expectedPreObservationDigest s.observationDigest ↔
      differs request'.expectedPreObservationDigest t.observationDigest)

theorem Same.agree_prepareEffect (h : p.Same q) {request request' : ApplyRequest}
    (hrequest : SameRequest p q request request') {observed observed' : ClockReading}
    (hobserved : Agree (fun _ _ => True) observed observed') (effectClock : ClockReading) :
    Agree PendingEffect.Same (p.prepareEffect request observed effectClock)
      (q.prepareEffect request' observed' effectClock) := by
  unfold prepareEffect
  rw [h.assertModelIntegrity, h.configuration, h.net, hrequest.command, hrequest.preStateVersion,
    hrequest.preStateDigest, hrequest.postStateDigest, hrequest.postTopologyDigest,
    hrequest.effectDeadline]
  refine agree_bind_same _ fun _ _ => h.agree_readState.bind fun current current' hcurrent
    hcurrent' hsame => ?_
  rw [hsame.stateVersion, hsame.stateDigest]
  refine agree_bind_same _ fun _ _ => agree_bind_same _ fun _ _ =>
    agree_refuseIf_bind (hrequest.observation current current' hcurrent hcurrent') fun _ =>
    agree_bind_same _ fun tables _ => agree_bind_same _ fun _ _ => ?_
  refine Agree.bind (hobserved.mapError PlantError.other) fun at₁ at₂ _ _ _ => ?_
  have hversion : p.stateVersion + 1 = q.stateVersion + 1 := congrArg (· + 1) h.stateVersion
  have htime := congrArg (Binary64.add · q.configuration.stepSeconds) h.simulationTimeS
  refine (h.agree_snapshot (solve tables) true hversion htime).bind fun post post' _ _ hpost => ?_
  rw [hpost.unsafeState, hpost.stateDigest, hpost.topologyDigest]
  refine agree_bind_same _ fun _ _ => agree_bind_same _ fun _ _ => agree_bind_same _ fun _ _ => ?_
  cases request'.effectDeadline with
  | none => exact ⟨hsame, hpost, rfl, hversion, htime⟩
  | some deadline =>
    exact agree_bind_same _ fun _ _ => agree_bind_same _ fun _ _ =>
      ⟨hsame, hpost, rfl, hversion, htime⟩

omit [Primitives] [PlantPrimitives] [Pandapower] [Binary64] in
theorem Same.swap (h : p.Same q) {effect effect' : PendingEffect} (heffect : effect.Same effect') :
    (p.swap effect).Same (q.swap effect') :=
  ⟨h.configuration, h.modelDigest, heffect.net, heffect.stateVersion, heffect.simulationTimeS⟩

/-- What `apply_authorized_command` does is decided by `prepareEffect` and the durable commit. -/
theorem call_applyAuthorizedCommand (request : ApplyRequest) (observed effectClock : ClockReading)
    (durableCommit : Option (Except PlantError Unit)) (plant : PandapowerCigreMvPlant) :
    Method.call (applyAuthorizedCommand request observed effectClock durableCommit) plant =
      match plant.prepareEffect request observed effectClock,
          (durableCommit.getD (.ok ())).mapError relabelCommit with
      | .error e, _ => (.error e, plant)
      | .ok _, .error e => (.error e, plant)
      | .ok effect, .ok () => (.ok effect.snapshot, plant.swap effect) := by
  unfold applyAuthorizedCommand
  rw [Method.call_self_bind, Method.call_bind, Method.call_check]
  cases plant.prepareEffect request observed effectClock with
  | error e => rfl
  | ok effect =>
    cases durableCommit with
    | none => rfl
    | some outcome =>
      cases outcome with
      | error e => rfl
      | ok _ => rfl

/-- One command brings two plants in the same state to the same state, with the same result. -/
theorem Same.agree_apply (h : p.Same q) {request request' : ApplyRequest}
    (hrequest : SameRequest p q request request') {observed observed' : ClockReading}
    (hobserved : Agree (fun _ _ => True) observed observed') (effectClock : ClockReading)
    (durableCommit : Option (Except PlantError Unit)) :
    Agree SamePhysical
        (Method.call (applyAuthorizedCommand request observed effectClock durableCommit) p).1
        (Method.call (applyAuthorizedCommand request' observed' effectClock durableCommit) q).1 ∧
      (Method.call (applyAuthorizedCommand request observed effectClock durableCommit) p).2.Same
        (Method.call (applyAuthorizedCommand request' observed' effectClock durableCommit)
          q).2 := by
  rw [call_applyAuthorizedCommand, call_applyAuthorizedCommand]
  have heffect := h.agree_prepareEffect hrequest hobserved effectClock
  revert heffect
  cases p.prepareEffect request observed effectClock with
  | error e =>
    cases q.prepareEffect request' observed' effectClock with
    | error e' =>
      intro heffect
      exact ⟨heffect, h⟩
    | ok effect' =>
      intro heffect
      exact heffect.elim
  | ok effect =>
    cases q.prepareEffect request' observed' effectClock with
    | error e' =>
      intro heffect
      exact heffect.elim
    | ok effect' =>
      intro heffect
      cases (durableCommit.getD (.ok ())).mapError relabelCommit with
      | error e => exact ⟨rfl, h⟩
      | ok _ => exact ⟨heffect.snapshot, h.swap heffect⟩

/-! ## Later calls -/

/-- The next `n` calls give equal physical results on both plants, whichever calls they are. Each
    plant has its own observation clock. -/
def AgreesFor : Nat → PandapowerCigreMvPlant → PandapowerCigreMvPlant → Prop
  | 0, _, _ => True
  | n + 1, p, q =>
      (∀ command id id', Agree CandidateAssessment.SamePhysical (p.simulateCandidate command id)
        (q.simulateCandidate command id')) ∧
      ∀ request request' observed observed' effectClock durableCommit,
        SameRequest p q request request' → Agree (fun _ _ => True) observed observed' →
          Agree SamePhysical
              (Method.call (applyAuthorizedCommand request observed effectClock durableCommit)
                p).1
              (Method.call (applyAuthorizedCommand request' observed' effectClock durableCommit)
                q).1 ∧
            AgreesFor n
              (Method.call (applyAuthorizedCommand request observed effectClock durableCommit)
                p).2
              (Method.call (applyAuthorizedCommand request' observed' effectClock durableCommit)
                q).2

/-- Plants in the same physical state answer every sequence of calls alike. -/
theorem Same.agreesFor (h : p.Same q) (n : Nat) : AgreesFor n p q := by
  induction n generalizing p q with
  | zero => trivial
  | succ n ih =>
    refine ⟨h.agree_simulateCandidate, ?_⟩
    intro request request' observed observed' effectClock durableCommit hrequest hobserved
    obtain ⟨hresult, hafter⟩ := h.agree_apply hrequest hobserved effectClock durableCommit
    exact ⟨hresult, ih hafter⟩

end PandapowerCigreMvPlant

end AegisOt
