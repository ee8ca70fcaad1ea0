import AegisOt.Runtime.PlcProgram

/-!
# The process and `execute`

`CapabilityVirtualPlc.execute` takes the answers of its environment as a `PlcEnvironment`; the
process of `PlcProgram` asks for them one by one. Every run of the process is an `execute` in some
environment, so what holds of all environments holds of all runs.
-/

namespace AegisOt

open Program (Event runs_bind runs_call_bind runs_done runs_result_bind)

section

variable [Primitives] {dispatch : SegmentedCapabilityDispatch} {plc : CapabilityVirtualPlc}
  {current : PhysicalStateSnapshot} {carriesDeadline : Bool}
  {σ : Type} {performs : σ → (action : PlcAct) → action.Reply → σ → Prop} {s s' : σ}
  {trace : List (Event PlcAct PlcAct.Reply)} {result : Except PlcError PlcCommandAcknowledgment}

namespace PlcProgram

/-- The environment answers nothing but errors. -/
def silent : PlcEnvironment :=
  { evaluatedAt := 0
    current := .error ""
    ledger := .error (.other "")
    simulateCandidate := fun _ => .error ""
    commitTime := 0
    reservedLedger := .error (.other "")
    persist := fun _ => .error (.other "")
    finalDispatchTime := 0
    carriesDeadline := false
    applyAuthorizedCommand := fun _ => .error (.other "")
    reread := .error ""
    acknowledgedAt := 0
    acknowledgmentId := "" }

theorem runs_acknowledge {d : CapabilityVirtualPlc.Disposition}
    (h : (acknowledge plc dispatch d).Runs performs s trace result s') :
    ∃ id, result = plc.acknowledge id dispatch d := by
  obtain ⟨id, s₁, after, -, -, h⟩ := runs_call_bind h
  exact ⟨id, (runs_done h).2.1⟩

theorem runs_clock_acknowledge {d : Time → CapabilityVirtualPlc.Disposition}
    (h : (perform .clock >>= fun time => acknowledge plc dispatch (d time)).Runs performs s trace
      result s') : ∃ time id, result = plc.acknowledge id dispatch (d time) := by
  obtain ⟨time, s₁, after, -, -, h⟩ := runs_call_bind h
  exact ⟨time, runs_acknowledge h⟩

theorem runs_applyCommand
    (h : (applyCommand plc carriesDeadline dispatch current).Runs performs s trace result s')
    (env : PlcEnvironment) :
    ∃ apply reread time id, result =
      (CapabilityVirtualPlc.applyCommand { env with
          carriesDeadline := carriesDeadline
          applyAuthorizedCommand := apply
          reread := reread
          acknowledgedAt := time } dispatch.permit.basePermit current >>=
        plc.acknowledge id dispatch) := by
  obtain ⟨reply, s₁, after, -, -, h⟩ := runs_call_bind h
  rcases reply with (reason | description) | postState
  · dsimp only at h
    unfold acknowledgeRefusal at h
    by_cases hcas : reason ∈ PlcCommandAcknowledgment.casReasons
    · rw [if_pos hcas] at h
      obtain ⟨state, s₂, after₂, -, -, h⟩ := runs_call_bind h
      cases state with
      | error description =>
        obtain ⟨-, rfl, -⟩ := runs_done h
        refine ⟨fun _ => .error (.simulation reason), .error description, 0, "", ?_⟩
        simp [CapabilityVirtualPlc.applyCommand, CapabilityVirtualPlc.rejectionState, hcas,
          Except.mapError]
      | ok state =>
        obtain ⟨time, id, rfl⟩ := runs_clock_acknowledge h
        refine ⟨fun _ => .error (.simulation reason), .ok state, time, id, ?_⟩
        simp [CapabilityVirtualPlc.applyCommand, CapabilityVirtualPlc.rejectionState, hcas,
          Except.mapError]
    · rw [if_neg hcas] at h
      obtain ⟨time, id, rfl⟩ := runs_clock_acknowledge h
      refine ⟨fun _ => .error (.simulation reason), .error "", time, id, ?_⟩
      simp [CapabilityVirtualPlc.applyCommand, CapabilityVirtualPlc.rejectionState, hcas]
  · obtain ⟨time, id, rfl⟩ := runs_clock_acknowledge h
    exact ⟨fun _ => .error (.other description), .error "", time, id, rfl⟩
  · obtain ⟨time, s₂, after₂, -, -, h⟩ := runs_call_bind h
    by_cases hdiverges : CapabilityVirtualPlc.diverges postState dispatch.permit.basePermit = true
    · rw [if_pos hdiverges] at h
      obtain ⟨id, rfl⟩ := runs_acknowledge h
      refine ⟨fun _ => .ok postState, .error "", time, id, ?_⟩
      simp [CapabilityVirtualPlc.applyCommand, hdiverges]
    · rw [if_neg hdiverges] at h
      obtain ⟨id, rfl⟩ := runs_acknowledge h
      refine ⟨fun _ => .ok postState, .error "", time, id, ?_⟩
      simp [CapabilityVirtualPlc.applyCommand, hdiverges]

omit [Primitives] in
theorem runs_reserve {key : ReplayKey} {refused : Except PlcError (Option String)}
    (h : (reserve key).Runs performs s trace refused s') :
    ∃ loaded persist,
      match refused with
      | .ok (some reason) =>
          ReplayReservations.reserve loaded persist key = .error (.value reason)
      | .ok none => ∃ state, ReplayReservations.reserve loaded persist key = .ok state
      | .error error => ∃ description, error = .ledger (.other description) ∧
          ReplayReservations.reserve loaded persist key = .error (.other description) := by
  obtain ⟨loaded, s₁, after, -, -, h⟩ := runs_call_bind h
  rcases loaded with (reason | description) | state
  · obtain ⟨-, rfl, -⟩ := runs_done h
    exact ⟨.error (.value reason), fun _ => .ok (), rfl⟩
  · obtain ⟨-, rfl, -⟩ := runs_done h
    exact ⟨.error (.other description), fun _ => .ok (), description, rfl, rfl⟩
  · change (reserveIn key state).Runs performs s₁ after refused s' at h
    unfold reserveIn at h
    cases hreplay : state.replayReason key with
    | some reason =>
      rw [hreplay] at h
      obtain ⟨-, rfl, -⟩ := runs_done h
      refine ⟨.ok state, fun _ => .ok (), ?_⟩
      simp [ReplayReservations.reserve, hreplay]
    | none =>
      rw [hreplay] at h
      obtain ⟨written, s₂, after₂, -, -, h⟩ := runs_call_bind h
      refine ⟨.ok state, fun _ => written, ?_⟩
      rcases written with (reason | description) | ⟨⟩
      · obtain ⟨-, rfl, -⟩ := runs_done h
        simp [ReplayReservations.reserve, hreplay]
      · obtain ⟨-, rfl, -⟩ := runs_done h
        refine ⟨description, rfl, ?_⟩
        simp [ReplayReservations.reserve, hreplay]
      · obtain ⟨-, rfl, -⟩ := runs_done h
        refine ⟨state.add key, ?_⟩
        simp [ReplayReservations.reserve, hreplay]

section

variable {env : PlcEnvironment} {fresh : CandidateAssessment}

/-- A candidate check that passes, in time. -/
structure Passes (env : PlcEnvironment) (dispatch : SegmentedCapabilityDispatch)
    (fresh : CandidateAssessment) : Prop where
  simulated : env.simulateCandidate dispatch.permit.basePermit.command = .ok fresh
  attested : ¬ CapabilityVirtualPlc.attestationMismatch fresh dispatch.assessment = true
  inTime : ¬ dispatch.permit.basePermit.expiresAt ≤ env.commitTime

theorem dispatchCandidate_refused (h : Passes env dispatch fresh) {reason : String}
    (hreserve : ReplayReservations.reserve env.reservedLedger env.persist
      (CapabilityVirtualPlc.replayKey dispatch) = .error (.value reason)) :
    CapabilityVirtualPlc.dispatchCandidate env dispatch current =
      .ok (CapabilityVirtualPlc.preDispatch reason env.acknowledgedAt current) := by
  unfold CapabilityVirtualPlc.dispatchCandidate
  simp only [h.simulated, h.attested, h.inTime, Except.mapError, ok_bind, if_false, hreserve]
  rfl

theorem dispatchCandidate_failed (h : Passes env dispatch fresh) {description : String}
    (hreserve : ReplayReservations.reserve env.reservedLedger env.persist
      (CapabilityVirtualPlc.replayKey dispatch) = .error (.other description)) :
    CapabilityVirtualPlc.dispatchCandidate env dispatch current =
      .error (.ledger (.other description)) := by
  unfold CapabilityVirtualPlc.dispatchCandidate
  simp only [h.simulated, h.attested, h.inTime, Except.mapError, ok_bind, if_false, hreserve]
  rfl

theorem dispatchCandidate_reserved (h : Passes env dispatch fresh) {state : ReplayReservations}
    (hreserve : ReplayReservations.reserve env.reservedLedger env.persist
      (CapabilityVirtualPlc.replayKey dispatch) = .ok state) :
    CapabilityVirtualPlc.dispatchCandidate env dispatch current =
      if dispatch.permit.basePermit.expiresAt ≤ env.finalDispatchTime then
        .ok (CapabilityVirtualPlc.preDispatch "permit_expired_after_replay_reservation"
          env.finalDispatchTime current)
      else CapabilityVirtualPlc.applyCommand env dispatch.permit.basePermit current := by
  unfold CapabilityVirtualPlc.dispatchCandidate
  simp only [h.simulated, h.attested, h.inTime, Except.mapError, ok_bind, if_false, hreserve]
  rfl

end

theorem runs_dispatchCandidate
    (h : (dispatchCandidate plc carriesDeadline dispatch current).Runs performs s trace result s') :
    ∃ env : PlcEnvironment, env.carriesDeadline = carriesDeadline ∧
      result = (CapabilityVirtualPlc.dispatchCandidate env dispatch current >>=
        plc.acknowledge env.acknowledgmentId dispatch) := by
  obtain ⟨assessment, s₁, after₁, -, -, h⟩ := runs_call_bind h
  cases assessment with
  | error description =>
    obtain ⟨-, rfl, -⟩ := runs_done h
    exact ⟨{ silent with
      carriesDeadline := carriesDeadline
      simulateCandidate := fun _ => .error description }, rfl, rfl⟩
  | ok fresh =>
    obtain ⟨time, s₂, after₂, -, -, h⟩ := runs_call_bind h
    by_cases hmismatch : CapabilityVirtualPlc.attestationMismatch fresh dispatch.assessment = true
    · rw [if_pos hmismatch] at h
      obtain ⟨id, rfl⟩ := runs_acknowledge h
      refine ⟨{ silent with
        carriesDeadline := carriesDeadline
        simulateCandidate := fun _ => .ok fresh
        acknowledgedAt := time
        acknowledgmentId := id }, rfl, ?_⟩
      simp [CapabilityVirtualPlc.dispatchCandidate, Except.mapError, hmismatch]
    rw [if_neg hmismatch] at h
    by_cases hexpired : dispatch.permit.basePermit.expiresAt ≤ time
    · rw [if_pos hexpired] at h
      obtain ⟨id, rfl⟩ := runs_acknowledge h
      refine ⟨{ silent with
        carriesDeadline := carriesDeadline
        simulateCandidate := fun _ => .ok fresh
        commitTime := time
        acknowledgmentId := id }, rfl, ?_⟩
      simp [CapabilityVirtualPlc.dispatchCandidate, Except.mapError, hmismatch, hexpired]
    rw [if_neg hexpired] at h
    rcases runs_bind h with ⟨before, rest, refused, s₃, -, hreserve, h⟩ | ⟨error, hreserve, rfl⟩
    · obtain ⟨loaded, persist, hreserved⟩ := runs_reserve hreserve
      cases refused with
      | some reason =>
        obtain ⟨acknowledgedAt, id, rfl⟩ := runs_clock_acknowledge h
        refine ⟨{ silent with
          carriesDeadline := carriesDeadline
          simulateCandidate := fun _ => .ok fresh
          commitTime := time
          reservedLedger := loaded
          persist := persist
          acknowledgedAt := acknowledgedAt
          acknowledgmentId := id }, rfl, ?_⟩
        rw [dispatchCandidate_refused ⟨rfl, hmismatch, hexpired⟩ hreserved, ok_bind]
      | none =>
        obtain ⟨state, hstate⟩ := hreserved
        obtain ⟨finalTime, s₄, after₄, -, -, h⟩ := runs_call_bind h
        by_cases hfinal : dispatch.permit.basePermit.expiresAt ≤ finalTime
        · rw [if_pos hfinal] at h
          obtain ⟨id, rfl⟩ := runs_acknowledge h
          refine ⟨{ silent with
            carriesDeadline := carriesDeadline
            simulateCandidate := fun _ => .ok fresh
            commitTime := time
            reservedLedger := loaded
            persist := persist
            finalDispatchTime := finalTime
            acknowledgmentId := id }, rfl, ?_⟩
          rw [dispatchCandidate_reserved ⟨rfl, hmismatch, hexpired⟩ hstate, if_pos hfinal,
            ok_bind]
        · rw [if_neg hfinal] at h
          obtain ⟨apply, reread, acknowledgedAt, id, rfl⟩ := runs_applyCommand h { silent with
            simulateCandidate := fun _ => .ok fresh
            commitTime := time
            reservedLedger := loaded
            persist := persist
            finalDispatchTime := finalTime
            acknowledgmentId := "" }
          refine ⟨{ silent with
            carriesDeadline := carriesDeadline
            simulateCandidate := fun _ => .ok fresh
            commitTime := time
            reservedLedger := loaded
            persist := persist
            finalDispatchTime := finalTime
            applyAuthorizedCommand := apply
            reread := reread
            acknowledgedAt := acknowledgedAt
            acknowledgmentId := id }, rfl, ?_⟩
          rw [dispatchCandidate_reserved ⟨rfl, hmismatch, hexpired⟩ hstate, if_neg hfinal]
          rfl
    · obtain ⟨loaded, persist, description, rfl, hreserved⟩ := runs_reserve hreserve
      refine ⟨{ silent with
        carriesDeadline := carriesDeadline
        simulateCandidate := fun _ => .ok fresh
        commitTime := time
        reservedLedger := loaded
        persist := persist }, rfl, ?_⟩
      rw [dispatchCandidate_failed ⟨rfl, hmismatch, hexpired⟩ hreserved]
      rfl

section

variable {env : PlcEnvironment} {ledger : ReplayReservations}

theorem disposition_replayed (hcurrent : env.current = .ok current)
    (hledger : env.ledger = .ok ledger) {reason : String}
    (hreplay : ledger.replayReason (CapabilityVirtualPlc.replayKey dispatch) = some reason) :
    plc.disposition env dispatch =
      .ok (CapabilityVirtualPlc.preDispatch reason env.evaluatedAt current) := by
  unfold CapabilityVirtualPlc.disposition
  simp only [hcurrent, hledger, Except.mapError, ok_bind, hreplay]
  rfl

theorem disposition_failed (hcurrent : env.current = .ok current)
    (hledger : env.ledger = .ok ledger) {reason : String}
    (hreplay : ledger.replayReason (CapabilityVirtualPlc.replayKey dispatch) = none)
    (hfailed : CapabilityVirtualPlc.firstFailure (plc.checks dispatch env.evaluatedAt current) =
      some reason) :
    plc.disposition env dispatch =
      .ok (CapabilityVirtualPlc.preDispatch reason env.evaluatedAt current) := by
  unfold CapabilityVirtualPlc.disposition
  simp only [hcurrent, hledger, Except.mapError, ok_bind, hreplay, hfailed]
  rfl

theorem disposition_passed (hcurrent : env.current = .ok current)
    (hledger : env.ledger = .ok ledger)
    (hreplay : ledger.replayReason (CapabilityVirtualPlc.replayKey dispatch) = none)
    (hfailed : CapabilityVirtualPlc.firstFailure (plc.checks dispatch env.evaluatedAt current) =
      none) :
    plc.disposition env dispatch = CapabilityVirtualPlc.dispatchCandidate env dispatch current := by
  unfold CapabilityVirtualPlc.disposition
  simp only [hcurrent, hledger, Except.mapError, ok_bind, hreplay, hfailed]

end

/-- Every run of the process is an `execute` in some environment. -/
theorem runs_executeLocked
    (h : (executeLocked plc carriesDeadline dispatch).Runs performs s trace result s') :
    ∃ env : PlcEnvironment, env.carriesDeadline = carriesDeadline ∧
      result = (plc.disposition env dispatch >>=
        plc.acknowledge env.acknowledgmentId dispatch) := by
  obtain ⟨evaluatedAt, s₁, after₁, -, -, h⟩ := runs_call_bind h
  obtain ⟨state, s₂, after₂, -, -, h⟩ := runs_call_bind h
  cases state with
  | error description =>
    obtain ⟨-, rfl, -⟩ := runs_done h
    exact ⟨{ silent with
      carriesDeadline := carriesDeadline
      current := .error description }, rfl, rfl⟩
  | ok current =>
    obtain ⟨loaded, s₃, after₃, -, -, h⟩ := runs_call_bind h
    cases loaded with
    | error error =>
      obtain ⟨-, rfl, -⟩ := runs_done h
      exact ⟨{ silent with
        carriesDeadline := carriesDeadline
        current := .ok current
        ledger := .error error }, rfl, rfl⟩
    | ok ledger =>
      rcases runs_result_bind h with ⟨error, hledger, -⟩ | ⟨found, hledger, h⟩
      · cases hledger
      obtain rfl := Except.ok.inj hledger
      cases hreplay : ledger.replayReason (CapabilityVirtualPlc.replayKey dispatch) with
      | some reason =>
        rw [hreplay] at h
        obtain ⟨id, rfl⟩ := runs_acknowledge h
        refine ⟨{ silent with
          carriesDeadline := carriesDeadline
          evaluatedAt := evaluatedAt
          current := .ok current
          ledger := .ok ledger
          acknowledgmentId := id }, rfl, ?_⟩
        rw [disposition_replayed rfl rfl hreplay]
        rfl
      | none =>
        rw [hreplay] at h
        cases hfailed : CapabilityVirtualPlc.firstFailure
            (plc.checks dispatch evaluatedAt current) with
        | some reason =>
          simp only [hfailed] at h
          obtain ⟨id, rfl⟩ := runs_acknowledge h
          let env : PlcEnvironment := { silent with
            carriesDeadline := carriesDeadline
            evaluatedAt := evaluatedAt
            current := .ok current
            ledger := .ok ledger
            acknowledgmentId := id }
          have hdisposition : plc.disposition env dispatch =
              .ok (CapabilityVirtualPlc.preDispatch reason evaluatedAt current) :=
            disposition_failed rfl rfl hreplay hfailed
          exact ⟨env, rfl, by rw [hdisposition, ok_bind]⟩
        | none =>
          simp only [hfailed] at h
          obtain ⟨env, hdeadline, rfl⟩ := runs_dispatchCandidate h
          let env' : PlcEnvironment := { env with
            evaluatedAt := evaluatedAt
            current := .ok current
            ledger := .ok ledger }
          have hdisposition : plc.disposition env' dispatch =
              CapabilityVirtualPlc.dispatchCandidate env' dispatch current :=
            disposition_passed rfl rfl hreplay hfailed
          refine ⟨env', hdeadline, ?_⟩
          rw [hdisposition]
          rfl

end PlcProgram

end

end AegisOt
