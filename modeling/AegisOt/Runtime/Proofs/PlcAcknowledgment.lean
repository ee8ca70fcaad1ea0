import AegisOt.Coordination.Proofs.Issuing
import AegisOt.Runtime.Proofs.PlcAdmission

/-!
# What the verifier makes of an acknowledgment

The PLC and `PlcCommandAcknowledgment.verify_for_transaction` encode the same protocol separately:
the reasons of a rejection, the state it shows, and the window its time has to lie in. Here every
disposition of a correctly issued dispatch is read through the verifier, and the circumstances in
which the verifier knows what the PLC said are stated exactly.
-/

namespace AegisOt

section

variable [Primitives]

open CapabilityVirtualPlc

/-! ## Circumstances -/

namespace PlcEnvironment

/-- The readings of the clock during one `execute`, in their order. -/
def ClockNondecreasing (env : PlcEnvironment) : Prop :=
  env.evaluatedAt ≤ env.commitTime ∧ env.commitTime ≤ env.finalDispatchTime ∧
    env.finalDispatchTime ≤ env.acknowledgedAt

omit [Primitives] in
theorem ClockNondecreasing.later {env : PlcEnvironment} (h : env.ClockNondecreasing) :
    env.evaluatedAt ≤ env.acknowledgedAt :=
  h.1.trans (h.2.1.trans h.2.2)

variable (env : PlcEnvironment) (dispatch : SegmentedCapabilityDispatch)

/-- The ledger read first holds none of the four values. -/
def Unreplayed : Prop :=
  ∃ ledger, env.ledger = .ok ledger ∧ ledger.replayReason (replayKey dispatch) = none

/-- The checks pass: the permit's window is open and the plant is in the observed state. -/
structure ReachesCandidate : Prop where
  unreplayed : env.Unreplayed dispatch
  current : env.current = .ok dispatch.preObservation.snapshot
  issued : dispatch.permit.basePermit.issuedAt ≤ env.evaluatedAt
  unexpired : env.evaluatedAt < dispatch.permit.basePermit.expiresAt

/-- The candidate is attested again, in time. -/
structure ReachesReservation : Prop extends ReachesCandidate env dispatch where
  attested : ∃ fresh, env.simulateCandidate dispatch.permit.basePermit.command = .ok fresh ∧
    attestationMismatch fresh dispatch.assessment = false
  commit : env.commitTime < dispatch.permit.basePermit.expiresAt

/-- The transaction is reserved, in time. -/
structure ReachesPlant : Prop extends ReachesReservation env dispatch where
  reserved : ∃ ledger, ReplayReservations.reserve env.reservedLedger env.persist
    (replayKey dispatch) = .ok ledger
  final : env.finalDispatchTime < dispatch.permit.basePermit.expiresAt

/-- What the plant answers to the command. -/
def applied : Except PlantError PhysicalStateSnapshot :=
  env.applyAuthorizedCommand (authorizedCommand dispatch.permit.basePermit env.carriesDeadline)

end PlcEnvironment

/-- The window that the verifier asks of a rejection with this text. -/
def timelyRejection (base : ExecutionPermit) (reason : String) (acknowledgedAt : Time) : Prop :=
  if reason = "permit_not_yet_valid" then acknowledgedAt < base.issuedAt
  else if reason ∈ expiryReasons then base.expiresAt ≤ acknowledgedAt
  else acknowledgedAt < base.expiresAt

/-- The state shows the change that a compare-and-swap text asserts, and none that the PLC would
    have noticed before. -/
def showsChange (base : ExecutionPermit) (reason : String) (state : PhysicalStateSnapshot) :
    Prop :=
  let sameModel := state.modelDigest = base.modelDigest
  let sameTopology := sameModel ∧ state.topologyDigest = base.topologyDigest
  let sameVersion := sameTopology ∧ state.stateVersion = base.stateVersion
  let sameDigest := sameVersion ∧ state.stateDigest = base.stateDigest
  (reason = "model_digest_changed" ∧ ¬ sameModel) ∨
    (reason = "topology_digest_changed" ∧ sameModel ∧
      state.topologyDigest ≠ base.topologyDigest) ∨
    (reason = "precommit_state_version_changed" ∧ sameTopology ∧
      state.stateVersion ≠ base.stateVersion) ∨
    (reason = "precommit_state_digest_changed" ∧ sameVersion ∧
      state.stateDigest ≠ base.stateDigest) ∨
    (reason = "precommit_observation_changed" ∧ sameDigest ∧
      state.observationDigest ≠ base.observationDigest)

/-- The circumstances of one `execute` in which the verifier knows what the PLC will say. -/
structure PlcEnvironment.Confirmable (env : PlcEnvironment)
    (dispatch : SegmentedCapabilityDispatch) : Prop where
  /-- A replay is not noticed before the permit is issued. -/
  replayed : ∀ ledger reason, env.ledger = .ok ledger →
    ledger.replayReason (replayKey dispatch) = some reason →
      dispatch.permit.basePermit.issuedAt ≤ env.evaluatedAt
  /-- A permit outside its window is noticed while the plant is in the observed state. -/
  outsideWindow : env.Unreplayed dispatch →
    (env.evaluatedAt < dispatch.permit.basePermit.issuedAt ∨
      dispatch.permit.basePermit.expiresAt ≤ env.evaluatedAt) →
    ∀ current, env.current = .ok current → current = dispatch.preObservation.snapshot
  /-- A candidate is found changed before the permit expires. -/
  mismatch : env.ReachesCandidate dispatch → ∀ fresh,
    env.simulateCandidate dispatch.permit.basePermit.command = .ok fresh →
    attestationMismatch fresh dispatch.assessment = true →
      env.acknowledgedAt < dispatch.permit.basePermit.expiresAt
  /-- A failed reservation is acknowledged at a time that fits its text. -/
  reservation : env.ReachesReservation dispatch → ∀ reason,
    ReplayReservations.reserve env.reservedLedger env.persist (replayKey dispatch) =
      .error (.value reason) → reason ∉ replayReasons →
      timelyRejection dispatch.permit.basePermit reason env.acknowledgedAt ∧
        reason ∉ PlcCommandAcknowledgment.casReasons
  /-- A refusal of the plant is acknowledged at a time that fits its text, ... -/
  refusal : env.ReachesPlant dispatch → ∀ reason,
    env.applied dispatch = .error (.simulation reason) →
      timelyRejection dispatch.permit.basePermit reason env.acknowledgedAt
  /-- ... and a compare-and-swap refusal with a state that shows the change. -/
  changed : env.ReachesPlant dispatch → ∀ reason state,
    env.applied dispatch = .error (.simulation reason) →
    reason ∈ PlcCommandAcknowledgment.casReasons → env.reread = .ok state →
      showsChange dispatch.permit.basePermit reason state
  /-- An effect is acknowledged before the permit expires, with the setpoint commanded. -/
  effect : env.ReachesPlant dispatch → ∀ postState, env.applied dispatch = .ok postState →
    diverges postState dispatch.permit.basePermit = false →
      env.acknowledgedAt < dispatch.permit.basePermit.expiresAt ∧
        actuatorSetpoint postState dispatch.permit.basePermit.command =
          dispatch.permit.basePermit.command.setpoint

/-! ## The first failed check -/

namespace CapabilityVirtualPlc

omit [Primitives] in
/-- Checks that pass do not count. -/
theorem firstFailure_filter {checks : List (Bool × String)} {reasons : List String}
    (h : ∀ check ∈ checks, check.1 = false → check.2 ∈ reasons) :
    firstFailure checks = firstFailure (checks.filter (fun check => check.2 ∈ reasons)) := by
  induction checks with
  | nil => rfl
  | cons check rest ih =>
    have hrest := ih (fun other hother => h other (List.mem_cons_of_mem check hother))
    unfold firstFailure at hrest ⊢
    cases hpassed : check.1 with
    | true =>
      rw [List.find?_cons_of_neg (by simp [hpassed]), hrest]
      by_cases hreason : check.2 ∈ reasons
      · rw [List.filter_cons_of_pos (by simpa using hreason),
          List.find?_cons_of_neg (by simp [hpassed])]
      · rw [List.filter_cons_of_neg (by simpa using hreason)]
    | false =>
      have hreason := h check List.mem_cons_self hpassed
      rw [List.filter_cons_of_pos (by simpa using hreason),
        List.find?_cons_of_pos (by simp [hpassed]), List.find?_cons_of_pos (by simp [hpassed])]

variable {plc : CapabilityVirtualPlc} {cfg : OtConfig} {dispatch : SegmentedCapabilityDispatch}
  {env : PlcEnvironment} {current : PhysicalStateSnapshot} {d : Disposition}
  {a : PlcCommandAcknowledgment}

theorem checks_circumstances (plc : CapabilityVirtualPlc) (dispatch : SegmentedCapabilityDispatch)
    (evaluatedAt : Time) (current : PhysicalStateSnapshot) :
    (plc.checks dispatch evaluatedAt current).filter (fun check => check.2 ∈ circumstanceReasons) =
      [(decide (dispatch.permit.basePermit.issuedAt ≤ evaluatedAt), "permit_not_yet_valid"),
        (decide (evaluatedAt < dispatch.permit.basePermit.expiresAt), "permit_expired"),
        (current.verifyDigest, "current_state_digest_invalid"),
        (decide (dispatch.permit.basePermit.modelDigest = current.modelDigest),
          "model_digest_changed"),
        (decide (dispatch.permit.basePermit.topologyDigest = current.topologyDigest),
          "topology_digest_changed"),
        (decide (dispatch.permit.basePermit.stateVersion = current.stateVersion),
          "precommit_state_version_changed"),
        (decide (dispatch.permit.basePermit.stateDigest = current.stateDigest),
          "precommit_state_digest_changed"),
        (decide (dispatch.permit.basePermit.observationDigest = current.observationDigest),
          "precommit_observation_changed")] := by
  simp [checks, circumstanceReasons, currentPlantStateReasons]

/-- The first check that fails on a correctly issued dispatch. -/
theorem firstFailure_issued (hpinned : plc.PinnedBy cfg) {admittedAt : Time}
    (hcomplete : OtProgram.dispatchCompleteForOt cfg dispatch admittedAt = true)
    (evaluatedAt : Time) (current : PhysicalStateSnapshot) :
    firstFailure (plc.checks dispatch evaluatedAt current) =
      if ¬ dispatch.permit.basePermit.issuedAt ≤ evaluatedAt then some "permit_not_yet_valid"
      else if ¬ evaluatedAt < dispatch.permit.basePermit.expiresAt then some "permit_expired"
      else if current.verifyDigest = false then some "current_state_digest_invalid"
      else if dispatch.permit.basePermit.modelDigest ≠ current.modelDigest then
        some "model_digest_changed"
      else if dispatch.permit.basePermit.topologyDigest ≠ current.topologyDigest then
        some "topology_digest_changed"
      else if dispatch.permit.basePermit.stateVersion ≠ current.stateVersion then
        some "precommit_state_version_changed"
      else if dispatch.permit.basePermit.stateDigest ≠ current.stateDigest then
        some "precommit_state_digest_changed"
      else if dispatch.permit.basePermit.observationDigest ≠ current.observationDigest then
        some "precommit_observation_changed"
      else none := by
  rw [firstFailure_filter (checks_admitted hpinned hcomplete evaluatedAt current),
    checks_circumstances]
  unfold firstFailure
  repeat' split
  all_goals simp_all

/-! ## The acknowledgment of a disposition -/

/-- The verifier, with the PLC's own identity as the expected one. -/
def verifies (plc : CapabilityVirtualPlc) (dispatch : SegmentedCapabilityDispatch)
    (a : PlcCommandAcknowledgment) : Bool :=
  a.verifyForTransaction (Primitives.publicKeyOf plc.acknowledgmentPrivateKey) dispatch.request
    dispatch.permit dispatch.preObservation plc.plcId plc.acknowledgmentKeyId plc.bootEpoch

/-- What an acknowledgment says of its disposition. -/
structure Acknowledges (plc : CapabilityVirtualPlc) (dispatch : SegmentedCapabilityDispatch)
    (d : Disposition) (a : PlcCommandAcknowledgment) : Prop where
  identifiers : a.identifiersMatch dispatch.request dispatch.permit dispatch.preObservation
    plc.plcId plc.acknowledgmentKeyId plc.bootEpoch = true
  signed : a.verify (Primitives.publicKeyOf plc.acknowledgmentPrivateKey) = true
  status : a.status = d.status
  phase : a.dispatchPhase = d.phase
  reason : a.reason = d.reason
  time : a.acknowledgedAt = d.acknowledgedAt
  preState : a.preState = d.preState
  preDigest : a.preStateDigest = d.preState.stateDigest
  preVersion : a.preStateVersion = d.preState.stateVersion
  preSetpoint : a.preActuatorSetpoint =
    actuatorSetpoint d.preState dispatch.permit.basePermit.command
  postDigest : a.postStateDigest = d.postState.map (fun s => s.stateDigest)
  postVersion : a.postStateVersion = d.postState.map (fun s => s.stateVersion)
  postTopology : a.postTopologyDigest = d.postState.map (fun s => s.topologyDigest)
  postSetpoint : a.postActuatorSetpoint =
    match d.postState with
    | some s => some (actuatorSetpoint s dispatch.permit.basePermit.command)
    | none =>
        if d.status = .rejected then
          some (actuatorSetpoint d.preState dispatch.permit.basePermit.command)
        else none
  valid : a.preState.verifyDigest = true

theorem Acknowledges.preState_valid (h : Acknowledges plc dispatch d a) :
    d.preState.verifyDigest = true := by
  rw [← h.preState]
  exact h.valid

/-- What the bindings of a correctly issued dispatch give the verifier. -/
structure BindsFor (plc : CapabilityVirtualPlc) (dispatch : SegmentedCapabilityDispatch) :
    Prop where
  request : dispatch.permit.requestDigest = dispatch.request.digest
  envelope : dispatch.permit.observationEnvelopeDigest = dispatch.preObservation.envelopeDigest
  proposal : dispatch.permit.basePermit.proposalId = dispatch.request.proposal.proposalId
  target : dispatch.permit.targetPlcId = plc.plcId
  targetKey : dispatch.permit.targetPlcKeyId = plc.acknowledgmentKeyId
  targetBoot : dispatch.permit.targetPlcBootEpoch = plc.bootEpoch
  stateVersion : dispatch.permit.basePermit.stateVersion =
    dispatch.preObservation.snapshot.stateVersion
  stateDigest : dispatch.permit.basePermit.stateDigest =
    dispatch.preObservation.snapshot.stateDigest
  observationDigest : dispatch.permit.basePermit.observationDigest =
    dispatch.preObservation.snapshot.observationDigest
  topologyDigest : dispatch.permit.basePermit.topologyDigest =
    dispatch.preObservation.snapshot.topologyDigest
  modelDigest : dispatch.permit.basePermit.modelDigest =
    dispatch.preObservation.snapshot.modelDigest
  window : dispatch.permit.basePermit.issuedAt < dispatch.permit.basePermit.expiresAt

theorem BindsFor.of_complete (hpinned : plc.PinnedBy cfg) {admittedAt : Time}
    (hcomplete : OtProgram.dispatchCompleteForOt cfg dispatch admittedAt = true) :
    BindsFor plc dispatch := by
  simp only [OtProgram.dispatchCompleteForOt, verifyInnerDispatch, OtProgram.currentIdentities,
    SegmentedCapabilityDispatch.bindingsMatch, Bool.and_eq_true, decide_eq_true_eq,
    validAt] at hcomplete
  obtain ⟨⟨⟨⟨⟨hbindings, -⟩, -⟩, hpermit⟩, hwindow⟩, -⟩ := hcomplete
  obtain ⟨hplcId, hkeyId, hbootEpoch, -, -, -⟩ := hpinned
  constructor
  all_goals grind

theorem acknowledges (hsigned : SignaturesVerify) (hbinds : BindsFor plc dispatch)
    {acknowledgmentId : String} (h : plc.acknowledge acknowledgmentId dispatch d = .ok a) :
    Acknowledges plc dispatch d a := by
  simp only [acknowledge, bind_unit_eq_ok, pure_eq_ok, Except.ok.injEq, mapError_eq_ok] at h
  obtain ⟨hvalid, rfl⟩ := h
  have hdigest : d.preState.verifyDigest = true := by
    unfold PlcCommandAcknowledgment.validate at hvalid
    simp only [bind_unit_eq_ok, refuseIf_eq_ok, Bool.not_eq_false] at hvalid
    exact hvalid.2.1
  refine ⟨?_, ?_, rfl, rfl, rfl, rfl, rfl, rfl, rfl, rfl, rfl, rfl, rfl, rfl, hdigest⟩
  · simp only [PlcCommandAcknowledgment.identifiersMatch, decide_eq_true_eq, true_and]
    exact ⟨hbinds.request.symm, hbinds.envelope, hbinds.envelope.symm, hbinds.proposal,
      hbinds.target⟩
  · simp only [PlcCommandAcknowledgment.verify, verifySigned, Bool.and_eq_true, decide_eq_true_eq]
    exact ⟨hsigned.nonempty _ _, hsigned.verifies _ _⟩

/-- The verifier on an acknowledgment, as far as it depends on the disposition. -/
theorem Acknowledges.verifies_iff (hbinds : BindsFor plc dispatch)
    (h : Acknowledges plc dispatch d a) :
    plc.verifies dispatch a = true ↔
    match d.status with
    | .applied =>
        (dispatch.permit.basePermit.issuedAt ≤ d.acknowledgedAt ∧
          d.acknowledgedAt < dispatch.permit.basePermit.expiresAt) ∧
        d.preState = dispatch.preObservation.snapshot ∧
        a.postStateDigest = some dispatch.permit.basePermit.expectedPostStateDigest ∧
        a.postStateVersion = some dispatch.permit.basePermit.expectedPostStateVersion ∧
        a.postTopologyDigest = some dispatch.permit.basePermit.expectedPostTopologyDigest ∧
        a.postActuatorSetpoint = some dispatch.permit.basePermit.command.setpoint
    | .rejected =>
        a.rejectionTimeValid dispatch.permit.basePermit = true ∧
        ((d.preState = dispatch.preObservation.snapshot ∧
            d.reason ∉ PlcCommandAcknowledgment.casReasons) ∨
          a.replayRejection = true ∨
          a.casRejection dispatch.permit.basePermit = true) ∧
        a.postActuatorSetpoint = some a.preActuatorSetpoint
    | .unknownEffect =>
        (d.phase = .effectUnknown ∧
          dispatch.permit.basePermit.issuedAt ≤ d.acknowledgedAt) ∧
        d.preState = dispatch.preObservation.snapshot := by
  have hauthorized : a.authorizedPreStateMatches dispatch.permit dispatch.preObservation = true ↔
      d.preState = dispatch.preObservation.snapshot := by
    unfold PlcCommandAcknowledgment.authorizedPreStateMatches
    rw [decide_eq_true_eq, h.preState, h.preDigest, h.preVersion]
    constructor
    · intro hmatches
      exact hmatches.1
    · intro hsame
      rw [hsame]
      exact ⟨rfl, rfl, hbinds.stateDigest.symm, rfl, hbinds.stateVersion.symm, rfl,
        hbinds.observationDigest.symm, rfl, hbinds.topologyDigest.symm, rfl,
        hbinds.modelDigest.symm⟩
  have hsetpoint : PlcCommandAcknowledgment.impliedSetpoint dispatch.permit.basePermit.command
      d.preState = a.preActuatorSetpoint := by
    rw [h.preSetpoint]
    rfl
  have hvalid := h.preState_valid
  unfold verifies PlcCommandAcknowledgment.verifyForTransaction
  simp only [h.identifiers, h.signed, hvalid, hbinds.targetKey, hbinds.targetBoot, hsetpoint,
    h.preDigest, h.preVersion, h.preState, and_self, decide_true, Bool.true_or, Bool.true_and]
  rw [h.status]
  cases hstatus : d.status with
  | applied =>
    simp only [Bool.and_eq_true, decide_eq_true_eq, hauthorized, h.time, and_assoc]
  | rejected =>
    simp only [Bool.and_eq_true, Bool.or_eq_true, decide_eq_true_eq, hauthorized, h.reason,
      or_assoc, and_assoc]
  | unknownEffect =>
    simp only [Bool.and_eq_true, decide_eq_true_eq, hauthorized, h.time, h.phase, and_assoc]

omit [Primitives] in
/-- The replay texts are none of those with a window or a state of their own. -/
theorem of_mem_replayReasons {reason : String} (h : reason ∈ replayReasons) :
    reason ≠ "permit_not_yet_valid" ∧ reason ∉ expiryReasons ∧
      reason ∉ PlcCommandAcknowledgment.casReasons := by
  simp only [replayReasons, List.mem_cons, List.not_mem_nil, or_false] at h
  rcases h with rfl | rfl | rfl | rfl <;> decide

omit [Primitives] in
theorem rejectionTimeValid_eq (a : PlcCommandAcknowledgment) (base : ExecutionPermit) :
    a.rejectionTimeValid base =
      if a.reason = "permit_not_yet_valid" then decide (a.acknowledgedAt < base.issuedAt)
      else if a.reason ∈ expiryReasons then decide (base.expiresAt ≤ a.acknowledgedAt)
      else if a.replayRejection then decide (base.issuedAt ≤ a.acknowledgedAt)
      else decide (base.issuedAt ≤ a.acknowledgedAt ∧ a.acknowledgedAt < base.expiresAt) := rfl

theorem Acknowledges.rejected_setpoint (h : Acknowledges plc dispatch d a)
    (hstatus : d.status = .rejected) (hpost : d.postState = none) :
    a.postActuatorSetpoint = some a.preActuatorSetpoint := by
  rw [h.postSetpoint, h.preSetpoint, hpost]
  exact if_pos hstatus

/-- A replay is verified from the issue of the permit on. -/
theorem Acknowledges.verifies_replay (hbinds : BindsFor plc dispatch) {reason : String}
    {time : Time} (h : Acknowledges plc dispatch (preDispatch reason time current) a)
    (hreason : reason ∈ replayReasons) :
    plc.verifies dispatch a = true ↔ dispatch.permit.basePermit.issuedAt ≤ time := by
  have hreplay : a.replayRejection = true := by
    unfold PlcCommandAcknowledgment.replayRejection
    rw [decide_eq_true_eq, h.status, h.phase, h.reason]
    exact ⟨rfl, rfl, hreason⟩
  obtain ⟨hearly, hexpired, -⟩ := of_mem_replayReasons hreason
  have htime : a.rejectionTimeValid dispatch.permit.basePermit = true ↔
      dispatch.permit.basePermit.issuedAt ≤ time := by
    rw [rejectionTimeValid_eq, h.reason,
      if_neg (show (preDispatch reason time current).reason ≠ _ from hearly),
      if_neg (show (preDispatch reason time current).reason ∉ _ from hexpired), if_pos hreplay,
      h.time, decide_eq_true_eq]
    rfl
  rw [h.verifies_iff hbinds]
  dsimp only [preDispatch]
  rw [htime]
  simp only [hreplay, true_or, or_true, true_and, and_iff_left_iff_imp]
  intro _
  exact h.rejected_setpoint rfl rfl

/-- Any other rejection is verified when its time fits its text and the state it shows is the
    observed one, or shows the change it names. -/
theorem Acknowledges.verifies_rejected (hbinds : BindsFor plc dispatch)
    (h : Acknowledges plc dispatch d a) (hstatus : d.status = .rejected)
    (hpost : d.postState = none) (hphase : d.phase = .preDispatch ∨ d.phase = .knownNoEffect)
    (hreplay : ¬ (d.phase = .preDispatch ∧ d.reason ∈ replayReasons))
    (hissued : d.reason ≠ "permit_not_yet_valid" → d.reason ∉ expiryReasons →
      dispatch.permit.basePermit.issuedAt ≤ d.acknowledgedAt) :
    plc.verifies dispatch a = true ↔
      timelyRejection dispatch.permit.basePermit d.reason d.acknowledgedAt ∧
        ((d.preState = dispatch.preObservation.snapshot ∧
            d.reason ∉ PlcCommandAcknowledgment.casReasons) ∨
          showsChange dispatch.permit.basePermit d.reason d.preState) := by
  have hnot : a.replayRejection = false := by
    unfold PlcCommandAcknowledgment.replayRejection
    rw [decide_eq_false_iff_not, h.status, h.phase, h.reason]
    intro hasserted
    exact hreplay ⟨hasserted.2.1, hasserted.2.2⟩
  have htime : a.rejectionTimeValid dispatch.permit.basePermit = true ↔
      timelyRejection dispatch.permit.basePermit d.reason d.acknowledgedAt := by
    unfold timelyRejection
    rw [rejectionTimeValid_eq, h.reason, h.time, hnot]
    by_cases hearly : d.reason = "permit_not_yet_valid"
    · rw [if_pos hearly, if_pos hearly, decide_eq_true_eq]
    by_cases hexpired : d.reason ∈ expiryReasons
    · rw [if_neg hearly, if_neg hearly, if_pos hexpired, if_pos hexpired, decide_eq_true_eq]
    · rw [if_neg hearly, if_neg hearly, if_neg hexpired, if_neg hexpired, if_neg (by simp),
        decide_eq_true_eq]
      exact ⟨fun hinside => hinside.2, fun hinside => ⟨hissued hearly hexpired, hinside⟩⟩
  have hchange : a.casRejection dispatch.permit.basePermit = true ↔
      showsChange dispatch.permit.basePermit d.reason d.preState := by
    unfold PlcCommandAcknowledgment.casRejection showsChange
    rw [decide_eq_true_eq, h.status, h.phase, h.reason, h.preState, h.preDigest, h.preVersion]
    exact ⟨fun hchanged => hchanged.2.2, fun hchanged => ⟨hstatus, hphase, hchanged⟩⟩
  rw [h.verifies_iff hbinds, hstatus]
  dsimp only
  rw [htime, hnot, hchange]
  simp only [Bool.false_eq_true, false_or, h.rejected_setpoint hstatus hpost, and_true]

/-- An unknown effect is always verified. -/
theorem Acknowledges.verifies_unknown (hbinds : BindsFor plc dispatch)
    (h : Acknowledges plc dispatch d a) (hstatus : d.status = .unknownEffect)
    (hphase : d.phase = .effectUnknown)
    (hissued : dispatch.permit.basePermit.issuedAt ≤ d.acknowledgedAt)
    (hstate : d.preState = dispatch.preObservation.snapshot) :
    plc.verifies dispatch a = true := by
  rw [h.verifies_iff hbinds, hstatus]
  exact ⟨⟨hphase, hissued⟩, hstate⟩

/-- A known effect is verified before the permit expires, with the setpoint commanded. -/
theorem Acknowledges.verifies_applied (hbinds : BindsFor plc dispatch)
    (h : Acknowledges plc dispatch d a) (hstatus : d.status = .applied)
    {postState : PhysicalStateSnapshot} (hpost : d.postState = some postState)
    (hconverges : diverges postState dispatch.permit.basePermit = false)
    (hissued : dispatch.permit.basePermit.issuedAt ≤ d.acknowledgedAt)
    (hstate : d.preState = dispatch.preObservation.snapshot) :
    plc.verifies dispatch a = true ↔
      d.acknowledgedAt < dispatch.permit.basePermit.expiresAt ∧
        actuatorSetpoint postState dispatch.permit.basePermit.command =
          dispatch.permit.basePermit.command.setpoint := by
  unfold diverges at hconverges
  rw [decide_eq_false_iff_not, not_or, not_or, not_or, ne_eq, ne_eq, ne_eq, not_not, not_not,
    not_not] at hconverges
  obtain ⟨hdigest, hversion, htopology, -⟩ := hconverges
  rw [h.verifies_iff hbinds, hstatus]
  dsimp only
  rw [h.postDigest, h.postVersion, h.postTopology, h.postSetpoint, hpost]
  simp [hissued, hstate, hdigest, hversion, htopology]

/-! ## Where a run of `_execute_locked` ends -/

theorem disposition_replayed {ledger : ReplayReservations} {reason : String}
    (hledger : env.ledger = .ok ledger)
    (hreplay : ledger.replayReason (replayKey dispatch) = some reason)
    (h : plc.disposition env dispatch = .ok d) :
    ∃ current, env.current = .ok current ∧ d = preDispatch reason env.evaluatedAt current := by
  unfold disposition at h
  obtain ⟨current, hcurrent, h⟩ := bind_eq_ok.mp h
  rw [mapError_eq_ok] at hcurrent
  refine ⟨current, hcurrent, ?_⟩
  rw [hledger] at h
  simp only [Except.mapError, ok_bind, hreplay, pure_eq_ok, Except.ok.injEq] at h
  exact h.symm

theorem disposition_unreplayed (hunreplayed : env.Unreplayed dispatch)
    (h : plc.disposition env dispatch = .ok d) :
    ∃ current, env.current = .ok current ∧
      match firstFailure (plc.checks dispatch env.evaluatedAt current) with
      | some reason => d = preDispatch reason env.evaluatedAt current
      | none => dispatchCandidate env dispatch current = .ok d := by
  obtain ⟨ledger, hledger, hnone⟩ := hunreplayed
  unfold disposition at h
  obtain ⟨current, hcurrent, h⟩ := bind_eq_ok.mp h
  rw [mapError_eq_ok] at hcurrent
  refine ⟨current, hcurrent, ?_⟩
  rw [hledger] at h
  simp only [Except.mapError, ok_bind, hnone] at h
  cases hfailed : firstFailure (plc.checks dispatch env.evaluatedAt current) with
  | some reason =>
    rw [hfailed] at h
    exact (Except.ok.inj h).symm
  | none =>
    rw [hfailed] at h
    exact h

section

variable (hpinned : plc.PinnedBy cfg) {admittedAt : Time}
  (hcomplete : OtProgram.dispatchCompleteForOt cfg dispatch admittedAt = true)

include hpinned hcomplete

theorem disposition_outsideWindow (hunreplayed : env.Unreplayed dispatch)
    (hclosed : env.evaluatedAt < dispatch.permit.basePermit.issuedAt ∨
      dispatch.permit.basePermit.expiresAt ≤ env.evaluatedAt)
    (h : plc.disposition env dispatch = .ok d) :
    ∃ current reason, env.current = .ok current ∧
      d = preDispatch reason env.evaluatedAt current ∧
      ((reason = "permit_not_yet_valid" ∧
          env.evaluatedAt < dispatch.permit.basePermit.issuedAt) ∨
        (reason = "permit_expired" ∧
          dispatch.permit.basePermit.expiresAt ≤ env.evaluatedAt)) := by
  obtain ⟨current, hcurrent, h⟩ := disposition_unreplayed hunreplayed h
  rw [firstFailure_issued hpinned hcomplete] at h
  by_cases hearly : dispatch.permit.basePermit.issuedAt ≤ env.evaluatedAt
  · have hlate := hclosed.resolve_left (not_lt.mpr hearly)
    rw [if_neg (not_not.mpr hearly), if_pos (not_lt.mpr hlate)] at h
    exact ⟨current, _, hcurrent, h, .inr ⟨rfl, hlate⟩⟩
  · rw [if_pos hearly] at h
    exact ⟨current, _, hcurrent, h, .inl ⟨rfl, not_le.mp hearly⟩⟩

/-- Inside the window the plant is found changed, or the candidate is checked. -/
theorem disposition_insideWindow (hunreplayed : env.Unreplayed dispatch)
    (hissued : dispatch.permit.basePermit.issuedAt ≤ env.evaluatedAt)
    (hunexpired : env.evaluatedAt < dispatch.permit.basePermit.expiresAt)
    (hvalid : d.preState.verifyDigest = true) (h : plc.disposition env dispatch = .ok d) :
    ∃ current, env.current = .ok current ∧
      ((∃ reason ∈ PlcCommandAcknowledgment.casReasons,
          d = preDispatch reason env.evaluatedAt current ∧
          showsChange dispatch.permit.basePermit reason current) ∨
        (current.verifyDigest = true ∧
          dispatch.permit.basePermit.stateDigest = current.stateDigest ∧
          dispatch.permit.basePermit.observationDigest = current.observationDigest ∧
          dispatchCandidate env dispatch current = .ok d)) := by
  obtain ⟨current, hcurrent, h⟩ := disposition_unreplayed hunreplayed h
  refine ⟨current, hcurrent, ?_⟩
  rw [firstFailure_issued hpinned hcomplete, if_neg (not_not.mpr hissued),
    if_neg (not_not.mpr hunexpired)] at h
  by_cases hdigest : current.verifyDigest = false
  · rw [if_pos hdigest] at h
    subst h
    rw [show (preDispatch "current_state_digest_invalid" env.evaluatedAt current).preState =
      current from rfl, hdigest] at hvalid
    cases hvalid
  rw [if_neg hdigest] at h
  by_cases hmodel : dispatch.permit.basePermit.modelDigest = current.modelDigest
  · rw [if_neg (not_not.mpr hmodel)] at h
    by_cases htopology : dispatch.permit.basePermit.topologyDigest = current.topologyDigest
    · rw [if_neg (not_not.mpr htopology)] at h
      by_cases hversion : dispatch.permit.basePermit.stateVersion = current.stateVersion
      · rw [if_neg (not_not.mpr hversion)] at h
        by_cases hstate : dispatch.permit.basePermit.stateDigest = current.stateDigest
        · rw [if_neg (not_not.mpr hstate)] at h
          by_cases hobservation :
              dispatch.permit.basePermit.observationDigest = current.observationDigest
          · rw [if_neg (not_not.mpr hobservation)] at h
            exact .inr ⟨by simpa using hdigest, hstate, hobservation, h⟩
          · rw [if_pos hobservation] at h
            exact .inl ⟨_, by decide, h, .inr (.inr (.inr (.inr ⟨rfl,
              ⟨⟨⟨hmodel.symm, htopology.symm⟩, hversion.symm⟩, hstate.symm⟩,
              Ne.symm hobservation⟩)))⟩
        · rw [if_pos hstate] at h
          exact .inl ⟨_, by decide, h, .inr (.inr (.inr (.inl ⟨rfl,
            ⟨⟨hmodel.symm, htopology.symm⟩, hversion.symm⟩, Ne.symm hstate⟩)))⟩
      · rw [if_pos hversion] at h
        exact .inl ⟨_, by decide, h, .inr (.inr (.inl ⟨rfl, ⟨hmodel.symm, htopology.symm⟩,
          Ne.symm hversion⟩))⟩
    · rw [if_pos htopology] at h
      exact .inl ⟨_, by decide, h, .inr (.inl ⟨rfl, hmodel.symm, Ne.symm htopology⟩)⟩
  · rw [if_pos hmodel] at h
    exact .inl ⟨_, by decide, h, .inl ⟨rfl, Ne.symm hmodel⟩⟩

theorem ReachesCandidate.dispatchCandidate_eq (hreached : env.ReachesCandidate dispatch)
    (hvalid : d.preState.verifyDigest = true) (h : plc.disposition env dispatch = .ok d) :
    dispatchCandidate env dispatch dispatch.preObservation.snapshot = .ok d := by
  have hbinds := BindsFor.of_complete hpinned hcomplete
  obtain ⟨current, hcurrent, hcases⟩ := disposition_insideWindow hpinned hcomplete
    hreached.unreplayed hreached.issued hreached.unexpired hvalid h
  rw [hreached.current] at hcurrent
  obtain rfl := Except.ok.inj hcurrent
  rcases hcases with ⟨reason, -, -, hchange⟩ | ⟨-, -, -, hcandidate⟩
  · -- The observed state is the authorized one, so it shows no change.
    unfold showsChange at hchange
    simp [hbinds.modelDigest, hbinds.topologyDigest, hbinds.stateVersion, hbinds.stateDigest,
      hbinds.observationDigest] at hchange
  · exact hcandidate

end

theorem dispatchCandidate_mismatch {fresh : CandidateAssessment}
    (hfresh : env.simulateCandidate dispatch.permit.basePermit.command = .ok fresh)
    (hmismatch : attestationMismatch fresh dispatch.assessment = true) :
    dispatchCandidate env dispatch current =
      .ok (preDispatch "candidate_attestation_mismatch" env.acknowledgedAt current) := by
  unfold dispatchCandidate
  simp [hfresh, hmismatch, Except.mapError]

theorem dispatchCandidate_reservation (hreached : env.ReachesReservation dispatch) :
    dispatchCandidate env dispatch current =
      match ReplayReservations.reserve env.reservedLedger env.persist (replayKey dispatch) with
      | .error (.value reason) => .ok (preDispatch reason env.acknowledgedAt current)
      | .error (.other description) => .error (.ledger (.other description))
      | .ok _ =>
          if dispatch.permit.basePermit.expiresAt ≤ env.finalDispatchTime then
            .ok (preDispatch "permit_expired_after_replay_reservation" env.finalDispatchTime
              current)
          else applyCommand env dispatch.permit.basePermit current := by
  obtain ⟨fresh, hfresh, hattested⟩ := hreached.attested
  unfold dispatchCandidate
  dsimp only
  rw [hfresh]
  simp only [Except.mapError, ok_bind, hattested, Bool.false_eq_true, if_false,
    not_le.mpr hreached.commit]
  rfl

theorem dispatchCandidate_plant (hreached : env.ReachesPlant dispatch) :
    dispatchCandidate env dispatch current =
      applyCommand env dispatch.permit.basePermit current := by
  obtain ⟨ledger, hreserved⟩ := hreached.reserved
  rw [dispatchCandidate_reservation hreached.toReachesReservation, hreserved]
  exact if_neg (not_le.mpr hreached.final)

/-! ## Verified acknowledgments -/

omit [Primitives] in
/-- A text that shows a change is a compare-and-swap text. -/
theorem mem_casReasons_of_showsChange {base : ExecutionPermit} {reason : String}
    (h : showsChange base reason current) : reason ∈ PlcCommandAcknowledgment.casReasons := by
  unfold showsChange at h
  rcases h with ⟨rfl, -⟩ | ⟨rfl, -⟩ | ⟨rfl, -⟩ | ⟨rfl, -⟩ | ⟨rfl, -⟩ <;> decide

omit [Primitives] in
theorem of_mem_casReasons {reason : String} (h : reason ∈ PlcCommandAcknowledgment.casReasons) :
    reason ≠ "permit_not_yet_valid" ∧ reason ∉ expiryReasons ∧ reason ∉ replayReasons := by
  simp only [PlcCommandAcknowledgment.casReasons, List.mem_cons, List.not_mem_nil, or_false] at h
  rcases h with rfl | rfl | rfl | rfl | rfl <;> decide

/-- The authorized state shows no change. -/
theorem BindsFor.not_showsChange (hbinds : BindsFor plc dispatch) (reason : String) :
    ¬ showsChange dispatch.permit.basePermit reason dispatch.preObservation.snapshot := by
  intro hchange
  unfold showsChange at hchange
  simp [hbinds.modelDigest, hbinds.topologyDigest, hbinds.stateVersion, hbinds.stateDigest,
    hbinds.observationDigest] at hchange

/-- A rejection before dispatch on the observed state, with another text than a replay. -/
theorem Acknowledges.verifies_preDispatch (hbinds : BindsFor plc dispatch) {reason : String}
    {time : Time}
    (h : Acknowledges plc dispatch (preDispatch reason time dispatch.preObservation.snapshot) a)
    (hreplay : reason ∉ replayReasons)
    (hissued : reason ≠ "permit_not_yet_valid" → reason ∉ expiryReasons →
      dispatch.permit.basePermit.issuedAt ≤ time) :
    plc.verifies dispatch a = true ↔
      timelyRejection dispatch.permit.basePermit reason time ∧
        reason ∉ PlcCommandAcknowledgment.casReasons := by
  rw [h.verifies_rejected hbinds rfl rfl (.inl rfl) (fun hasserted => hreplay hasserted.2) hissued]
  dsimp only [preDispatch]
  simp [hbinds.not_showsChange]

/-- The plant's part of a verified acknowledgment. -/
theorem Acknowledges.verifies_applyCommand (hbinds : BindsFor plc dispatch)
    (h : Acknowledges plc dispatch d a)
    (hissued : dispatch.permit.basePermit.issuedAt ≤ env.acknowledgedAt)
    (happly : applyCommand env dispatch.permit.basePermit dispatch.preObservation.snapshot =
      .ok d) :
    plc.verifies dispatch a = true ↔
      (∀ reason, env.applied dispatch = .error (.simulation reason) →
        timelyRejection dispatch.permit.basePermit reason env.acknowledgedAt) ∧
      (∀ reason state, env.applied dispatch = .error (.simulation reason) →
        reason ∈ PlcCommandAcknowledgment.casReasons → env.reread = .ok state →
          showsChange dispatch.permit.basePermit reason state) ∧
      (∀ postState, env.applied dispatch = .ok postState →
        diverges postState dispatch.permit.basePermit = false →
          env.acknowledgedAt < dispatch.permit.basePermit.expiresAt ∧
            actuatorSetpoint postState dispatch.permit.basePermit.command =
              dispatch.permit.basePermit.command.setpoint) := by
  unfold applyCommand at happly
  rw [← PlcEnvironment.applied] at happly
  cases hanswer : env.applied dispatch with
  | error failure =>
    rw [hanswer] at happly
    cases failure with
    | simulation reason =>
      obtain ⟨state, hstate, hd⟩ := bind_eq_ok.mp happly
      obtain rfl := Except.ok.inj hd
      rw [h.verifies_rejected hbinds rfl rfl (.inr rfl) (fun hasserted => by cases hasserted.1)
        (fun _ _ => hissued)]
      unfold rejectionState at hstate
      simp only [Except.error.injEq, PlantError.simulation.injEq, forall_eq', reduceCtorEq,
        false_implies, implies_true, and_true]
      by_cases hcas : reason ∈ PlcCommandAcknowledgment.casReasons
      · rw [if_pos hcas, mapError_eq_ok] at hstate
        simp [hcas, hstate]
      · rw [if_neg hcas, Except.ok.injEq] at hstate
        simp only [hstate, hcas, not_false_eq_true, and_self, true_or, and_true,
          iff_self_and]
        intro _ _ _ hsame hchanged
        exact absurd (hsame ▸ hchanged) hcas
    | other description =>
      obtain rfl := Except.ok.inj happly
      simp only [Except.error.injEq, reduceCtorEq, false_implies, implies_true, and_true, iff_true]
      exact h.verifies_unknown hbinds rfl rfl hissued rfl
  | ok postState =>
    rw [hanswer] at happly
    simp only [reduceCtorEq, false_implies, implies_true, true_and, Except.ok.injEq, forall_eq']
    cases hdiverges : diverges postState dispatch.permit.basePermit with
    | true =>
      simp only [hdiverges, if_true, pure_eq_ok, Except.ok.injEq] at happly
      subst happly
      simp only [Bool.true_eq_false, false_implies, iff_true]
      exact h.verifies_unknown hbinds rfl rfl hissued rfl
    | false =>
      simp only [hdiverges, Bool.false_eq_true, if_false, pure_eq_ok, Except.ok.injEq] at happly
      subst happly
      simp only [forall_const]
      exact h.verifies_applied hbinds rfl rfl hdiverges hissued rfl

/-- From the candidate check on. -/
theorem verifies_candidate (hbinds : BindsFor plc dispatch)
    (hlater : env.evaluatedAt ≤ env.acknowledgedAt) (ha : Acknowledges plc dispatch d a)
    (hconfirmable : env.Confirmable dispatch) (hreached : env.ReachesCandidate dispatch)
    (hcandidate : dispatchCandidate env dispatch dispatch.preObservation.snapshot = .ok d) :
    plc.verifies dispatch a = true := by
  have hissued := hreached.issued.trans hlater
  obtain ⟨fresh, hfresh, -⟩ := bind_eq_ok.mp hcandidate
  rw [mapError_eq_ok] at hfresh
  cases hmismatch : attestationMismatch fresh dispatch.assessment with
  | true =>
    rw [dispatchCandidate_mismatch hfresh hmismatch] at hcandidate
    obtain rfl := Except.ok.inj hcandidate
    exact (ha.verifies_preDispatch hbinds (by decide) (fun _ _ => hissued)).mpr
      ⟨hconfirmable.mismatch hreached fresh hfresh hmismatch, by decide⟩
  | false =>
    by_cases hcommit : env.commitTime < dispatch.permit.basePermit.expiresAt
    · have hreserving : env.ReachesReservation dispatch :=
        ⟨hreached, ⟨fresh, hfresh, hmismatch⟩, hcommit⟩
      rw [dispatchCandidate_reservation hreserving] at hcandidate
      cases hreserve : ReplayReservations.reserve env.reservedLedger env.persist
          (replayKey dispatch) with
      | error failure =>
        rw [hreserve] at hcandidate
        cases failure with
        | value reason =>
          obtain rfl := Except.ok.inj hcandidate
          by_cases hreplay : reason ∈ replayReasons
          · exact (ha.verifies_replay hbinds hreplay).mpr hissued
          · exact (ha.verifies_preDispatch hbinds hreplay (fun _ _ => hissued)).mpr
              (hconfirmable.reservation hreserving reason hreserve hreplay)
        | other description => cases hcandidate
      | ok reserved =>
        rw [hreserve] at hcandidate
        by_cases hfinal : dispatch.permit.basePermit.expiresAt ≤ env.finalDispatchTime
        · simp only [hfinal, if_true, Except.ok.injEq] at hcandidate
          subst hcandidate
          exact (ha.verifies_preDispatch hbinds (by decide)
            (fun _ hother => absurd (by decide) hother)).mpr ⟨hfinal, by decide⟩
        · simp only [hfinal, if_false] at hcandidate
          have hplant : env.ReachesPlant dispatch :=
            ⟨hreserving, ⟨reserved, hreserve⟩, not_le.mp hfinal⟩
          exact (ha.verifies_applyCommand hbinds hissued hcandidate).mpr
            ⟨hconfirmable.refusal hplant, hconfirmable.changed hplant, hconfirmable.effect hplant⟩
    · unfold dispatchCandidate at hcandidate
      dsimp only at hcandidate
      rw [hfresh] at hcandidate
      simp only [Except.mapError, ok_bind, hmismatch, Bool.false_eq_true, if_false,
        not_lt.mp hcommit, if_true, pure_eq_ok, Except.ok.injEq] at hcandidate
      subst hcandidate
      exact (ha.verifies_preDispatch hbinds (by decide)
        (fun _ hother => absurd (by decide) hother)).mpr ⟨not_lt.mp hcommit, by decide⟩

section

variable (hpinned : plc.PinnedBy cfg) {admittedAt : Time}
  (hcomplete : OtProgram.dispatchCompleteForOt cfg dispatch admittedAt = true)
  (hclock : env.ClockNondecreasing) (ha : Acknowledges plc dispatch d a)
  (hd : plc.disposition env dispatch = .ok d)

include hpinned hcomplete hclock ha hd

theorem confirmable_of_verifies (hverifies : plc.verifies dispatch a = true) :
    env.Confirmable dispatch := by
  have hbinds := BindsFor.of_complete hpinned hcomplete
  have hlater := hclock.later
  have hvalid := ha.preState_valid
  have happly (hreached : env.ReachesPlant dispatch) :
      applyCommand env dispatch.permit.basePermit dispatch.preObservation.snapshot = .ok d := by
    rw [← dispatchCandidate_plant hreached]
    exact ReachesCandidate.dispatchCandidate_eq hpinned hcomplete hreached.toReachesCandidate
      hvalid hd
  have hplant (hreached : env.ReachesPlant dispatch) :=
    (ha.verifies_applyCommand hbinds (hreached.issued.trans hlater) (happly hreached)).mp hverifies
  refine ⟨?_, ?_, ?_, ?_, fun hreached => (hplant hreached).1,
    fun hreached => (hplant hreached).2.1, fun hreached => (hplant hreached).2.2⟩
  · intro ledger reason hledger hreplay
    obtain ⟨current, -, rfl⟩ := disposition_replayed hledger hreplay hd
    exact (ha.verifies_replay hbinds (replayReason_mem hreplay)).mp hverifies
  · intro hunreplayed hclosed current hcurrent
    obtain ⟨read, reason, hread, rfl, hreason⟩ :=
      disposition_outsideWindow hpinned hcomplete hunreplayed hclosed hd
    obtain rfl : current = read := Except.ok.inj (hcurrent.symm.trans hread)
    have hown : reason ∉ replayReasons ∧ reason ∉ PlcCommandAcknowledgment.casReasons ∧
        (reason ≠ "permit_not_yet_valid" → reason ∈ expiryReasons) := by
      rcases hreason with ⟨rfl, -⟩ | ⟨rfl, -⟩ <;> decide
    have hshown := ((ha.verifies_rejected hbinds rfl rfl (.inl rfl)
      (fun hasserted => hown.1 hasserted.2)
      (fun hearly hexpired => absurd (hown.2.2 hearly) hexpired)).mp hverifies).2
    rcases hshown with hsame | hchange
    · exact hsame.1
    · exact absurd (mem_casReasons_of_showsChange hchange) hown.2.1
  · intro hreached fresh hfresh hmismatch
    have hcandidate := ReachesCandidate.dispatchCandidate_eq hpinned hcomplete hreached hvalid hd
    rw [dispatchCandidate_mismatch hfresh hmismatch] at hcandidate
    obtain rfl := Except.ok.inj hcandidate
    exact ((ha.verifies_preDispatch hbinds (by decide)
      (fun _ _ => hreached.issued.trans hlater)).mp hverifies).1
  · intro hreached reason hraised hreason
    have hcandidate := ReachesCandidate.dispatchCandidate_eq hpinned hcomplete
      hreached.toReachesCandidate hvalid hd
    rw [dispatchCandidate_reservation hreached, hraised] at hcandidate
    obtain rfl := Except.ok.inj hcandidate
    exact (ha.verifies_preDispatch hbinds hreason
      (fun _ _ => hreached.issued.trans hlater)).mp hverifies

theorem verifies_of_confirmable (hconfirmable : env.Confirmable dispatch)
    (hdigest : ∀ current, env.current = .ok current → current.verifyDigest = true →
      current.stateDigest = dispatch.preObservation.snapshot.stateDigest →
      current.observationDigest = dispatch.preObservation.snapshot.observationDigest →
        current = dispatch.preObservation.snapshot) :
    plc.verifies dispatch a = true := by
  have hbinds := BindsFor.of_complete hpinned hcomplete
  have hlater := hclock.later
  have hvalid := ha.preState_valid
  obtain ⟨ledger, hledger⟩ : ∃ ledger, env.ledger = .ok ledger := by
    obtain ⟨current, -, hrest⟩ := bind_eq_ok.mp hd
    obtain ⟨ledger, hledger, -⟩ := bind_eq_ok.mp hrest
    exact ⟨ledger, mapError_eq_ok.mp hledger⟩
  cases hreplay : ledger.replayReason (replayKey dispatch) with
  | some reason =>
    obtain ⟨current, -, rfl⟩ := disposition_replayed hledger hreplay hd
    exact (ha.verifies_replay hbinds (replayReason_mem hreplay)).mpr
      (hconfirmable.replayed ledger reason hledger hreplay)
  | none =>
    have hunreplayed : env.Unreplayed dispatch := ⟨ledger, hledger, hreplay⟩
    by_cases hclosed : env.evaluatedAt < dispatch.permit.basePermit.issuedAt ∨
        dispatch.permit.basePermit.expiresAt ≤ env.evaluatedAt
    · obtain ⟨current, reason, hcurrent, rfl, hreason⟩ :=
        disposition_outsideWindow hpinned hcomplete hunreplayed hclosed hd
      obtain rfl := hconfirmable.outsideWindow hunreplayed hclosed current hcurrent
      rcases hreason with ⟨rfl, hearly⟩ | ⟨rfl, hlate⟩
      · exact (ha.verifies_preDispatch hbinds (by decide)
          (fun hother => absurd rfl hother)).mpr ⟨hearly, by decide⟩
      · exact (ha.verifies_preDispatch hbinds (by decide)
          (fun _ hother => absurd (by decide) hother)).mpr ⟨hlate, by decide⟩
    · rw [not_or, not_lt, not_le] at hclosed
      obtain ⟨hissued, hunexpired⟩ := hclosed
      obtain ⟨current, hcurrent, hchanged | ⟨hcurrentValid, hstate, hobservation, hcandidate⟩⟩ :=
        disposition_insideWindow hpinned hcomplete hunreplayed hissued hunexpired hvalid hd
      · obtain ⟨reason, hcas, rfl, hchange⟩ := hchanged
        obtain ⟨hnotEarly, hnotExpired, hnotReplay⟩ := of_mem_casReasons hcas
        refine (ha.verifies_rejected hbinds rfl rfl (.inl rfl)
          (fun hasserted => hnotReplay hasserted.2) (fun _ _ => hissued)).mpr ⟨?_, .inr hchange⟩
        unfold timelyRejection
        rw [if_neg (show (preDispatch reason _ _).reason ≠ _ from hnotEarly),
          if_neg (show (preDispatch reason _ _).reason ∉ _ from hnotExpired)]
        exact hunexpired
      · obtain rfl := hdigest current hcurrent hcurrentValid
          (hstate.symm.trans hbinds.stateDigest)
          (hobservation.symm.trans hbinds.observationDigest)
        exact verifies_candidate hbinds hlater ha hconfirmable
          ⟨hunreplayed, hcurrent, hissued, hunexpired⟩ hcandidate

end

/-- What `execute` acknowledges for a correctly issued dispatch is verified exactly in confirmable
    circumstances. -/
theorem acknowledgment_verifies_iff (hsigned : SignaturesVerify) {cfg : OtConfig}
    {plc : CapabilityVirtualPlc} {dispatch : SegmentedCapabilityDispatch} {admittedAt : Time}
    (hpinned : plc.PinnedBy cfg)
    (hcomplete : OtProgram.dispatchCompleteForOt cfg dispatch admittedAt = true)
    {env : PlcEnvironment} (hclock : env.ClockNondecreasing)
    (hdigest : ∀ current, env.current = .ok current → current.verifyDigest = true →
      current.stateDigest = dispatch.preObservation.snapshot.stateDigest →
      current.observationDigest = dispatch.preObservation.snapshot.observationDigest →
        current = dispatch.preObservation.snapshot)
    {a : PlcCommandAcknowledgment} (ha : (plc.execute env dispatch).1 = .ok a) :
    a.verifyForTransaction (Primitives.publicKeyOf plc.acknowledgmentPrivateKey) dispatch.request
      dispatch.permit dispatch.preObservation plc.plcId plc.acknowledgmentKeyId plc.bootEpoch =
        true ↔ env.Confirmable dispatch := by
  have hscanned : CapabilityVirtualPlc.PinnedBy { plc with
      executeRequests := plc.executeRequests + 1, scanCounter := plc.scanCounter + 1 } cfg :=
    ⟨hpinned.plcId, hpinned.keyId, hpinned.bootEpoch, hpinned.permitKeyId,
      hpinned.permitPublicKey, hpinned.observerInfo⟩
  obtain ⟨d, hd, hacknowledged⟩ := bind_eq_ok.mp ha
  have hsays := acknowledges hsigned (BindsFor.of_complete hscanned hcomplete) hacknowledged
  constructor
  · intro hverifies
    exact confirmable_of_verifies hscanned hcomplete hclock hsays hd hverifies
  · intro hconfirmable
    have hverifies := verifies_of_confirmable hscanned hcomplete hclock hsays hd hconfirmable
      hdigest
    exact hverifies

end CapabilityVirtualPlc

end

section

open Sample CapabilityVirtualPlc

/-- A plant that the command is dispatched to at time three, and what it answers. -/
def Sample.plcDispatching (answer : Except PlantError PhysicalStateSnapshot)
    (acknowledgedAt : Time) : PlcEnvironment :=
  { plcAt 3 (.ok (snapshot 0)) with
    carriesDeadline := true
    applyAuthorizedCommand := fun _ => answer
    acknowledgedAt := acknowledgedAt }

set_option maxRecDepth 10000 in
/-- An effect that is acknowledged in time is verified. -/
theorem acknowledgment_verifies_iff_applied :
    let env := plcDispatching
      (.ok { snapshot 1 with batteryInjectionMw := [("battery-1", 1)] }) 4
    ∃ a, (virtualPlc.execute env (dispatch "action-1")).1 = .ok a ∧ a.status = .applied ∧
      env.Confirmable (dispatch "action-1") := by
  intro env
  have happlied : ((virtualPlc.execute env (dispatch "action-1")).1.toOption.map (fun a =>
      (a.status, virtualPlc.verifies (dispatch "action-1") a))) = some (.applied, true) := by
    decide +kernel
  obtain ⟨a, ha, hfields⟩ := Option.map_eq_some_iff.mp happlied
  obtain ⟨hstatus, hverifies⟩ := Prod.mk.inj hfields
  have hok := toOption_eq_some.mp ha
  have hcomplete : OtProgram.dispatchCompleteForOt otConfig (dispatch "action-1") 1 = true := by
    decide +kernel
  have hcurrent : ∀ current, env.current = .ok current →
      current = (dispatch "action-1").preObservation.snapshot := by
    intro current hcurrent
    exact (Except.ok.inj hcurrent).symm
  exact ⟨a, hok, hstatus, (acknowledgment_verifies_iff
    ⟨fun _ _ => rfl, fun _ _ => show signature ≠ "" by decide⟩ virtualPlc_pinned hcomplete
    (by decide +kernel : env.evaluatedAt ≤ env.commitTime ∧ env.commitTime ≤ env.finalDispatchTime ∧
      env.finalDispatchTime ≤ env.acknowledgedAt)
    (fun current hread _ _ _ => hcurrent current hread) hok).mp hverifies⟩

set_option maxRecDepth 10000 in
/-- The plant refuses because the permit expired, the PLC signs the rejection, and the verifier
    does not know it: the text is not among those that may come after the expiry. -/
theorem late_refusal_unverified :
    ¬ ∀ (cfg : OtConfig) (plc : CapabilityVirtualPlc) (dispatch : SegmentedCapabilityDispatch)
        (admittedAt : Time) (env : PlcEnvironment) (a : PlcCommandAcknowledgment),
      plc.PinnedBy cfg → OtProgram.dispatchCompleteForOt cfg dispatch admittedAt = true →
      env.ClockNondecreasing → (plc.execute env dispatch).1 = .ok a →
        a.verifyForTransaction (Primitives.publicKeyOf plc.acknowledgmentPrivateKey)
          dispatch.request dispatch.permit dispatch.preObservation plc.plcId
          plc.acknowledgmentKeyId plc.bootEpoch = true := by
  intro hall
  let env := plcDispatching (.error (.simulation "authorization_expired_before_effect"))
    (30 * second)
  have hrejected : ((virtualPlc.execute env (dispatch "action-1")).1.toOption.map (fun a =>
      (a.status, virtualPlc.verifies (dispatch "action-1") a))) = some (.rejected, false) := by
    decide +kernel
  obtain ⟨a, ha, hfields⟩ := Option.map_eq_some_iff.mp hrejected
  obtain ⟨-, hunverified⟩ := Prod.mk.inj hfields
  have hverified : virtualPlc.verifies (dispatch "action-1") a = true :=
    hall otConfig virtualPlc (dispatch "action-1") 1 env a virtualPlc_pinned (by decide +kernel)
      (by decide +kernel : env.evaluatedAt ≤ env.commitTime ∧
        env.commitTime ≤ env.finalDispatchTime ∧ env.finalDispatchTime ≤ env.acknowledgedAt)
      (toOption_eq_some.mp ha)
  rw [hunverified] at hverified
  cases hverified

end

end AegisOt
