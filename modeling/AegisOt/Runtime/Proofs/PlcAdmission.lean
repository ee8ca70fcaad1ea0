import AegisOt.Runtime.Driver
import AegisOt.Runtime.VirtualPlc

/-!
# What the PLC can still reject

Admission at the OT runtime (`bindings_match` and `_dispatch_complete_for_ot`) and the checks of
the virtual PLC are two lists of bindings over the same artifacts. Of the checks of an admitted
dispatch only those on the permit's window and on the current plant state can fail, so every
rejection is about time, replay, the plant or the candidate.
-/

namespace AegisOt

section

variable [Primitives]

/-- The runtime and its device hold the same pins: the identities the constructor of
    `CapabilityOtRuntime` compares, and the permit key and observer that `_build_ot_runtime`
    gives to both. -/
structure CapabilityVirtualPlc.PinnedBy (plc : CapabilityVirtualPlc) (cfg : OtConfig) : Prop where
  plcId : plc.plcId = cfg.plcId
  keyId : plc.acknowledgmentKeyId = cfg.keyId
  bootEpoch : plc.bootEpoch = cfg.bootEpoch
  permitKeyId : plc.permitKeyId = cfg.permitKeyId
  permitPublicKey : plc.permitPublicKey = cfg.permitPublicKey
  observerInfo : plc.observerInfo = cfg.observerInfo

/-! ## Reasons -/

def replayReasons : List String :=
  ["transaction_replayed", "permit_replayed", "permit_nonce_replayed", "command_replayed"]

def expiryReasons : List String :=
  ["permit_expired", "permit_expired_before_dispatch", "permit_expired_after_replay_reservation"]

def currentPlantStateReasons : List String :=
  ["current_state_digest_invalid", "model_digest_changed", "topology_digest_changed",
    "precommit_state_version_changed", "precommit_state_digest_changed",
    "precommit_observation_changed"]

/-- The reasons of the checks that depend on the instant or on the plant. -/
def circumstanceReasons : List String :=
  "permit_not_yet_valid" :: "permit_expired" :: currentPlantStateReasons

namespace CapabilityVirtualPlc

variable {plc : CapabilityVirtualPlc} {cfg : OtConfig} {dispatch : SegmentedCapabilityDispatch}

/-- A check of an admitted dispatch that fails is about the instant or the plant. -/
theorem checks_admitted (hpinned : plc.PinnedBy cfg) {admittedAt : Time}
    (hcomplete : OtProgram.dispatchCompleteForOt cfg dispatch admittedAt = true)
    (evaluatedAt : Time) (current : PhysicalStateSnapshot) :
    ∀ check ∈ plc.checks dispatch evaluatedAt current, check.1 = false →
      check.2 ∈ circumstanceReasons := by
  simp only [OtProgram.dispatchCompleteForOt, verifyInnerDispatch, OtProgram.currentIdentities,
    SegmentedCapabilityDispatch.bindingsMatch, Bool.and_eq_true, decide_eq_true_eq] at hcomplete
  obtain ⟨⟨⟨⟨⟨hbindings, hobserver⟩, hobservation⟩, hpermit⟩, -⟩, hsigned⟩ := hcomplete
  obtain ⟨hplcId, hkeyId, hbootEpoch, hpermitKeyId, hpermitKey, hobserverInfo⟩ := hpinned
  -- Each check is one of the admitted equalities, a chain of them, or about the circumstances.
  simp only [checks, List.forall_mem_cons]
  and_intros
  all_goals first
    | (intro _; decide)
    | (intro hfailed; exfalso; grind)
    | simp

omit [Primitives] in
theorem firstFailure_eq_some {checks : List (Bool × String)} {reason : String}
    (h : firstFailure checks = some reason) : (false, reason) ∈ checks := by
  obtain ⟨check, hfound, rfl⟩ := Option.map_eq_some_iff.mp h
  have hfailed : check.1 = false := by simpa using List.find?_some hfound
  rw [← hfailed]
  exact List.mem_of_find?_eq_some hfound

/-- The first failed check of an admitted dispatch. -/
theorem firstFailure_admitted (hpinned : plc.PinnedBy cfg) {admittedAt evaluatedAt : Time}
    (hcomplete : OtProgram.dispatchCompleteForOt cfg dispatch admittedAt = true)
    {current : PhysicalStateSnapshot} {reason : String}
    (h : firstFailure (plc.checks dispatch evaluatedAt current) = some reason) :
    (reason = "permit_not_yet_valid" ∧ evaluatedAt < dispatch.permit.basePermit.issuedAt) ∨
      reason = "permit_expired" ∨ reason ∈ currentPlantStateReasons := by
  have hmem := firstFailure_eq_some h
  rcases List.mem_cons.mp (checks_admitted hpinned hcomplete evaluatedAt current _ hmem rfl) with
    hearly | hlate
  · refine .inl ⟨hearly, ?_⟩
    rw [show reason = "permit_not_yet_valid" from hearly] at hmem
    simpa [checks] using hmem
  · exact .inr (List.mem_cons.mp hlate)

omit [Primitives] in
theorem replayReason_mem {state : ReplayReservations} {key : ReplayKey} {reason : String}
    (h : state.replayReason key = some reason) : reason ∈ replayReasons := by
  unfold ReplayReservations.replayReason at h
  repeat' split at h
  all_goals simp_all [replayReasons]

/-! ## Dispositions -/

/-- What an admitted dispatch can be rejected for. -/
inductive Rejected (dispatch : SegmentedCapabilityDispatch) (env : PlcEnvironment) :
    String → Prop where
  | replay (reason : String) (hreason : reason ∈ replayReasons) : Rejected dispatch env reason
  /-- The reservation could not be made; the reason is the text of its `ValueError`. -/
  | reservation (reason : String)
      (hreason : ReplayReservations.reserve env.reservedLedger env.persist (replayKey dispatch) =
        .error (.value reason)) : Rejected dispatch env reason
  | expiry (reason : String) (hreason : reason ∈ expiryReasons) : Rejected dispatch env reason
  /-- The PLC's clock reads before the permit was issued. -/
  | notYetValid (hearly : env.evaluatedAt < dispatch.permit.basePermit.issuedAt) :
      Rejected dispatch env "permit_not_yet_valid"
  | currentPlantState (reason : String) (hreason : reason ∈ currentPlantStateReasons) :
      Rejected dispatch env reason
  | candidateAttestation : Rejected dispatch env "candidate_attestation_mismatch"
  /-- The plant refused; the reason is the text of its `PhysicalSimulationError`. -/
  | plantRefusal (reason : String)
      (hreason : env.applyAuthorizedCommand
        (authorizedCommand dispatch.permit.basePermit env.carriesDeadline) =
          .error (.simulation reason)) : Rejected dispatch env reason

variable {env : PlcEnvironment} {current : PhysicalStateSnapshot} {d : Disposition}

theorem applyCommand_rejected
    (h : applyCommand env dispatch.permit.basePermit current = .ok d)
    (hstatus : d.status = .rejected) : Rejected dispatch env d.reason := by
  unfold applyCommand at h
  split at h
  · rename_i reason hrefused
    obtain ⟨state, -, hd⟩ := bind_eq_ok.mp h
    obtain rfl := Except.ok.inj hd
    exact .plantRefusal reason hrefused
  · obtain rfl := Except.ok.inj h
    cases hstatus
  · split at h
    · obtain rfl := Except.ok.inj h
      cases hstatus
    · obtain rfl := Except.ok.inj h
      cases hstatus

theorem dispatchCandidate_rejected (h : dispatchCandidate env dispatch current = .ok d)
    (hstatus : d.status = .rejected) : Rejected dispatch env d.reason := by
  unfold dispatchCandidate at h
  obtain ⟨fresh, -, h⟩ := bind_eq_ok.mp h
  split at h
  · obtain rfl := Except.ok.inj h
    exact .candidateAttestation
  split at h
  · obtain rfl := Except.ok.inj h
    exact .expiry _ (by simp [preDispatch, expiryReasons])
  split at h
  · rename_i reason hreserve
    obtain rfl := Except.ok.inj h
    exact .reservation reason hreserve
  · cases h
  · split at h
    · obtain rfl := Except.ok.inj h
      exact .expiry _ (by simp [preDispatch, expiryReasons])
    · exact applyCommand_rejected h hstatus

theorem disposition_rejected (hpinned : plc.PinnedBy cfg) {admittedAt : Time}
    (hcomplete : OtProgram.dispatchCompleteForOt cfg dispatch admittedAt = true)
    (h : plc.disposition env dispatch = .ok d) (hstatus : d.status = .rejected) :
    Rejected dispatch env d.reason := by
  unfold disposition at h
  obtain ⟨current, -, h⟩ := bind_eq_ok.mp h
  obtain ⟨ledger, -, h⟩ := bind_eq_ok.mp h
  split at h
  · rename_i reason hreplay
    obtain rfl := Except.ok.inj h
    exact .replay reason (replayReason_mem hreplay)
  split at h
  · rename_i reason hfailed
    obtain rfl := Except.ok.inj h
    rcases firstFailure_admitted hpinned hcomplete hfailed with ⟨rfl, hearly⟩ | rfl | hstate
    · exact .notYetValid hearly
    · exact .expiry _ (by simp [preDispatch, expiryReasons])
    · exact .currentPlantState reason hstate
  · exact dispatchCandidate_rejected h hstatus

theorem acknowledge_reason {acknowledgmentId : String} {a : PlcCommandAcknowledgment}
    (h : plc.acknowledge acknowledgmentId dispatch d = .ok a) :
    a.status = d.status ∧ a.reason = d.reason := by
  simp only [acknowledge, bind_unit_eq_ok, pure_eq_ok, Except.ok.injEq] at h
  obtain ⟨-, rfl⟩ := h
  exact ⟨rfl, rfl⟩

/-- No binding check fails on an admitted dispatch, and every rejection has a reason that
    admission could not foresee. -/
theorem rejects_only_circumstances {cfg : OtConfig} {plc : CapabilityVirtualPlc}
    {dispatch : SegmentedCapabilityDispatch} {admittedAt : Time} (hpinned : plc.PinnedBy cfg)
    (hcomplete : OtProgram.dispatchCompleteForOt cfg dispatch admittedAt = true)
    (env : PlcEnvironment) :
    (∀ current, ∀ check ∈ plc.checks dispatch env.evaluatedAt current,
      check.2 ∉ circumstanceReasons → check.1 = true) ∧
    ∀ a, (plc.execute env dispatch).1 = .ok a → a.status = .rejected →
      Rejected dispatch env a.reason := by
  refine ⟨?_, ?_⟩
  · intro current check hcheck hbinding
    by_contra hfailed
    exact hbinding (checks_admitted hpinned hcomplete env.evaluatedAt current check hcheck
      (by simpa using hfailed))
  · intro a ha hstatus
    obtain ⟨d, hd, hacknowledged⟩ := bind_eq_ok.mp ha
    obtain ⟨hsame, hreason⟩ := acknowledge_reason hacknowledged
    rw [hreason]
    have hpinned' : plc.PinnedBy cfg :=
      ⟨hpinned.plcId, hpinned.keyId, hpinned.bootEpoch, hpinned.permitKeyId,
        hpinned.permitPublicKey, hpinned.observerInfo⟩
    exact disposition_rejected hpinned' hcomplete hd (hsame ▸ hstatus)

end CapabilityVirtualPlc

end

section

open Sample CapabilityVirtualPlc

/-- The device of the sample coordinator. -/
def Sample.virtualPlc : CapabilityVirtualPlc :=
  { plcId := "plc-1"
    bootEpoch := "plc-boot-epoch-01"
    permitKeyId := "permit-key"
    permitPublicKey := "permit-key"
    observerInfo := otConfig.observerInfo
    acknowledgmentPrivateKey := "coordinator-key"
    acknowledgmentKeyId := "coordinator-key"
    scanCounter := 0
    executeRequests := 0 }

theorem Sample.virtualPlc_pinned : virtualPlc.PinnedBy otConfig :=
  ⟨rfl, rfl, rfl, rfl, rfl, rfl⟩

/-- An environment whose clock reads one instant, on the plant that was authorized. -/
def Sample.plcAt (now : Time) (state : Except String PhysicalStateSnapshot) : PlcEnvironment :=
  { evaluatedAt := now
    current := state
    ledger := .ok ⟨[], [], [], []⟩
    simulateCandidate := fun _ => .ok assessment
    commitTime := now
    reservedLedger := .ok ⟨[], [], [], []⟩
    persist := fun _ => .ok ()
    finalDispatchTime := now
    carriesDeadline := false
    applyAuthorizedCommand := fun _ => .ok (snapshot 1)
    reread := state
    acknowledgedAt := now
    acknowledgmentId := "acknowledgment-1" }

set_option maxRecDepth 10000 in
/-- The plant moved on after the admission. -/
theorem rejects_only_circumstances_moved :
    ∃ a, (virtualPlc.execute (plcAt 3 (.ok (snapshot 1))) (dispatch "action-1")).1 = .ok a ∧
      a.status = .rejected ∧ a.reason = "precommit_state_version_changed" ∧
      Rejected (dispatch "action-1") (plcAt 3 (.ok (snapshot 1))) a.reason := by
  have hcomplete : OtProgram.dispatchCompleteForOt otConfig (dispatch "action-1") 1 = true := by
    decide +kernel
  have hrejected : ((virtualPlc.execute (plcAt 3 (.ok (snapshot 1))) (dispatch
      "action-1")).1.toOption.map (fun a => (a.status, a.reason))) =
      some (.rejected, "precommit_state_version_changed") := by decide +kernel
  obtain ⟨a, ha, hfields⟩ := Option.map_eq_some_iff.mp hrejected
  obtain ⟨hstatus, hreason⟩ := Prod.mk.inj hfields
  have hok := toOption_eq_some.mp ha
  exact ⟨a, hok, hstatus, hreason, (rejects_only_circumstances virtualPlc_pinned hcomplete _).2
    a hok hstatus⟩

set_option maxRecDepth 10000 in
/-- A PLC whose clock reads before the permit was issued rejects an admitted dispatch, although
    nothing was replayed, nothing expired and the plant is the one authorized. -/
theorem early_clock_rejects :
    OtProgram.dispatchCompleteForOt otConfig (dispatch "action-1") 1 = true ∧
      virtualPlc.PinnedBy otConfig ∧
      ∃ a, (virtualPlc.execute (plcAt (-1) (.ok (snapshot 0))) (dispatch "action-1")).1 = .ok a ∧
        a.status = .rejected ∧
        a.reason ∉ replayReasons ++ expiryReasons ++ currentPlantStateReasons ++
          ["candidate_attestation_mismatch"] ∧
        ∀ command reason,
          (plcAt (-1) (.ok (snapshot 0))).applyAuthorizedCommand command ≠
            .error (.simulation reason) := by
  have hrejected : ((virtualPlc.execute (plcAt (-1) (.ok (snapshot 0))) (dispatch
      "action-1")).1.toOption.map (fun a => (a.status, a.reason))) =
      some (.rejected, "permit_not_yet_valid") := by decide +kernel
  obtain ⟨a, ha, hfields⟩ := Option.map_eq_some_iff.mp hrejected
  obtain ⟨hstatus, hreason⟩ := Prod.mk.inj hfields
  refine ⟨by decide +kernel, virtualPlc_pinned, a, toOption_eq_some.mp ha, hstatus, ?_, ?_⟩
  · rw [hreason]
    decide
  · intro command reason
    simp [plcAt]

end

end AegisOt
