import AegisOt.Fleet.Queue
import Mathlib.Algebra.Order.Floor.Ring

/-!
# Accepted assumptions

What the constructors checked, read back as bounds on the fields, and the arithmetic of the
model on values that are in such bounds: nothing of it raises.
-/

namespace AegisOt

theorem requireInt_eq_ok {value minimum maximum : ℤ} {label : String} :
    requireInt value label minimum maximum = .ok () ↔ minimum ≤ value ∧ value ≤ maximum := by
  rw [requireInt, refuseIf_eq_ok, not_not]

theorem requireDecimal_eq_ok {value : ℚ} {minimum maximum : ℤ} {label : String} :
    requireDecimal value label minimum maximum = .ok () ↔
      (minimum : ℚ) ≤ value ∧ value ≤ maximum := by
  rw [requireDecimal, refuseIf_eq_ok, not_not]

/-! ## Rounding -/

/-- Rounding is to the nearest multiple of the sixth place, above zero. -/
theorem roundHalfUp_of_nonneg {value : ℚ} (h : 0 ≤ value) :
    roundHalfUp value = ⌊value * 1000000 + 1 / 2⌋ / 1000000 := if_pos h

theorem roundHalfUp_nonneg {value : ℚ} (h : 0 ≤ value) : 0 ≤ roundHalfUp value := by
  rw [roundHalfUp_of_nonneg h]
  have hfloor : 0 ≤ ⌊value * 1000000 + 1 / 2⌋ := Int.floor_nonneg.mpr (by linarith)
  have hcast : (0 : ℚ) ≤ ⌊value * 1000000 + 1 / 2⌋ := by exact_mod_cast hfloor
  linarith

theorem roundHalfUp_mono {a b : ℚ} (ha : 0 ≤ a) (hab : a ≤ b) :
    roundHalfUp a ≤ roundHalfUp b := by
  rw [roundHalfUp_of_nonneg ha, roundHalfUp_of_nonneg (ha.trans hab)]
  have hfloor : ⌊a * 1000000 + 1 / 2⌋ ≤ ⌊b * 1000000 + 1 / 2⌋ := Int.floor_mono (by linarith)
  have hcast : (⌊a * 1000000 + 1 / 2⌋ : ℚ) ≤ ⌊b * 1000000 + 1 / 2⌋ := by exact_mod_cast hfloor
  linarith

theorem roundHalfUp_intCast {n : ℤ} (h : 0 ≤ n) : roundHalfUp n = n := by
  have hcast : (0 : ℚ) ≤ n := by exact_mod_cast h
  have hfloor : ⌊(n : ℚ) * 1000000 + 1 / 2⌋ = n * 1000000 := by
    rw [Int.floor_eq_iff]
    push_cast
    constructor <;> linarith
  rw [roundHalfUp_of_nonneg hcast, hfloor]
  push_cast
  linarith

/-- An integer bound outlasts the rounding. -/
theorem roundHalfUp_le {value : ℚ} {bound : ℤ} (h : 0 ≤ value) (hbound : value ≤ bound) :
    roundHalfUp value ≤ bound := by
  have hnonneg : 0 ≤ bound := by exact_mod_cast h.trans hbound
  exact (roundHalfUp_mono h hbound).trans (roundHalfUp_intCast hnonneg).le

/-- A value of at most 21 digits before the point is quantized. -/
theorem quantize_eq_ok {value : ℚ} {bound : ℤ} (h : 0 ≤ value) (hbound : value ≤ bound)
    (hdigits : bound ≤ 10 ^ 21) : quantize value = .ok (roundHalfUp value) := by
  have hle := roundHalfUp_le h hbound
  have hcast : (bound : ℚ) ≤ 10 ^ 21 := by exact_mod_cast hdigits
  have hfits : ¬ 10 ^ 28 ≤ |roundHalfUp value| * 1000000 := by
    rw [abs_of_nonneg (roundHalfUp_nonneg h)]
    linarith
  rw [quantize, refuseIf_neg hfits, ok_bind]

/-- A ratio of integers is quantized where an integer bounds it. -/
theorem quantize_ratio (dividend divisor bound : ℤ) (hdividend : 0 ≤ dividend)
    (hdivisor : 0 < divisor) (hbound : dividend ≤ bound * divisor) (hdigits : bound ≤ 10 ^ 21) :
    quantize ((dividend : ℚ) / divisor) = .ok (roundHalfUp ((dividend : ℚ) / divisor)) := by
  have hpositive : (0 : ℚ) < divisor := by exact_mod_cast hdivisor
  have hnonneg : (0 : ℚ) ≤ dividend := by exact_mod_cast hdividend
  refine quantize_eq_ok (div_nonneg hnonneg hpositive.le) ?_ hdigits
  rw [div_le_iff₀ hpositive]
  exact_mod_cast hbound

theorem divide_eq_ok {dividend divisor : ℚ} (h : 0 < divisor) :
    divide dividend divisor = .ok (dividend / divisor) := by
  rw [divide, refuseIf_neg h.ne', ok_bind]

theorem floorDivide_eq_ok {dividend divisor : ℤ} (h : 0 < divisor) :
    floorDivide dividend divisor = .ok (dividend / divisor) := by
  rw [floorDivide, refuseIf_neg h.ne', ok_bind, Int.fdiv_eq_ediv_of_nonneg _ h.le]

/-! ## Ceilings -/

theorem ceilDiv_eq_ok {numerator denominator : ℤ} (h : 0 < denominator) :
    ceilDiv numerator denominator = .ok (-(-numerator / denominator)) := by
  rw [ceilDiv, refuseIf_neg (not_le.mpr h), ok_bind]

theorem ceil_mono {a b denominator : ℤ} (h : 0 < denominator) (hab : a ≤ b) :
    -(-a / denominator) ≤ -(-b / denominator) :=
  neg_le_neg (Int.ediv_le_ediv h (neg_le_neg hab))

theorem ceil_nonneg {a denominator : ℤ} (h : 0 < denominator) (ha : 0 ≤ a) :
    0 ≤ -(-a / denominator) := by
  simpa using ceil_mono h ha

theorem ceil_le_self {a denominator : ℤ} (h : 0 < denominator) (ha : 0 ≤ a) :
    -(-a / denominator) ≤ a := by
  rw [neg_le, Int.le_ediv_iff_mul_le h]
  nlinarith

theorem ceil_pos {a denominator : ℤ} (h : 0 < denominator) (ha : 0 < a) :
    0 < -(-a / denominator) :=
  neg_pos.mpr (Int.ediv_neg_of_neg_of_pos (neg_neg_iff_pos.mpr ha) h)

/-! ## Offsets -/

section

variable [FleetPrimitives]

/-- An offset is below its modulus. -/
theorem exists_deterministicOffset (seed domain : String) (coordinates : List ℤ) {modulus : ℤ}
    (h : 0 < modulus) :
    ∃ offset, deterministicOffset seed domain coordinates modulus = .ok offset ∧
      0 ≤ offset ∧ offset < modulus := by
  rw [deterministicOffset, refuseIf_neg (not_le.mpr h), ok_bind]
  exact ⟨_, rfl, Int.emod_nonneg _ h.ne', Int.emod_lt_of_pos _ h⟩

/-! ## What the constructors accept -/

/-- The checked bounds of the integer fields. -/
structure FleetModelAssumptionsFields.Bounded (a : FleetModelAssumptionsFields) : Prop where
  horizonSeconds : 1 ≤ a.horizonSeconds ∧ a.horizonSeconds ≤ 86400
  events : 1 ≤ a.eventsPerLogicalAgentPerHorizon ∧ a.eventsPerLogicalAgentPerHorizon ≤ 25
  arrivalJitter : 1 ≤ a.arrivalJitterWindowMicroseconds ∧
    a.arrivalJitterWindowMicroseconds ≤ 10000000
  serviceWorkers : 1 ≤ a.serviceWorkerCount ∧ a.serviceWorkerCount ≤ 128
  serviceMin : 1 ≤ a.serviceTimeMinMicroseconds ∧ a.serviceTimeMinMicroseconds ≤ 10000000
  serviceMax : 1 ≤ a.serviceTimeMaxMicroseconds ∧ a.serviceTimeMaxMicroseconds ≤ 10000000
  maximumSimulatedEvents : 1 ≤ a.maximumSimulatedEvents ∧ a.maximumSimulatedEvents ≤ 250000
  nominalLowRisk : 0 ≤ a.nominalLowRiskActionBasisPoints ∧
    a.nominalLowRiskActionBasisPoints ≤ 10000
  provisionalUnapproved : 0 ≤ a.provisionalUnapprovedActionBasisPoints ∧
    a.provisionalUnapprovedActionBasisPoints ≤ 10000
  conflictingConsequential : 0 ≤ a.conflictingConsequentialActionBasisPoints ∧
    a.conflictingConsequentialActionBasisPoints ≤ 10000
  containmentRecovery : 0 ≤ a.containmentRecoveryActionBasisPoints ∧
    a.containmentRecoveryActionBasisPoints ≤ 10000
  readOnly : 0 ≤ a.readOnlyActionBasisPoints ∧ a.readOnlyActionBasisPoints ≤ 10000
  approvalDuration : 1 ≤ a.approvalDurationMicroseconds ∧
    a.approvalDurationMicroseconds ≤ 86400 * microsecondsPerSecond
  concurrencySample : 1 ≤ a.concurrencySampleMicroseconds ∧
    a.concurrencySampleMicroseconds ≤ 60 * microsecondsPerSecond
  replayStateBytes : 1 ≤ a.replayStateBytesPerEntry ∧ a.replayStateBytesPerEntry ≤ 1000000
  pendingEffect : 0 ≤ a.pendingEffectBasisPoints ∧ a.pendingEffectBasisPoints ≤ 10000
  reconciliationWorkers : 1 ≤ a.reconciliationWorkerCount ∧ a.reconciliationWorkerCount ≤ 128
  reconciliationMin : 1 ≤ a.reconciliationServiceTimeMinMicroseconds ∧
    a.reconciliationServiceTimeMinMicroseconds ≤ 60000000
  reconciliationMax : 1 ≤ a.reconciliationServiceTimeMaxMicroseconds ∧
    a.reconciliationServiceTimeMaxMicroseconds ≤ 60000000
  branchingFactor : 2 ≤ a.delegationBranchingFactor ∧ a.delegationBranchingFactor ≤ 64
  revocationDelay : 1 ≤ a.revocationEdgeDelayMicroseconds ∧
    a.revocationEdgeDelayMicroseconds ≤ 60000000
  revocationJitter : 1 ≤ a.revocationEdgeJitterMicroseconds ∧
    a.revocationEdgeJitterMicroseconds ≤ 60000000
  policyDocumentBytes : 1 ≤ a.policyDocumentBytes ∧ a.policyDocumentBytes ≤ 100000000
  policyBandwidth : 1 ≤ a.policyDistributionBandwidthBytesPerSecond ∧
    a.policyDistributionBandwidthBytesPerSecond ≤ 10000000000
  policyDelay : 1 ≤ a.policyEdgeDelayMicroseconds ∧ a.policyEdgeDelayMicroseconds ≤ 60000000
  policyJitter : 1 ≤ a.policyEdgeJitterMicroseconds ∧ a.policyEdgeJitterMicroseconds ≤ 60000000
  policyUpdates : 1 ≤ a.policyUpdatesPerMonth ∧ a.policyUpdatesPerMonth ≤ 10000
  evidenceBytes : 1 ≤ a.evidenceBytesPerEvent ∧ a.evidenceBytesPerEvent ≤ 100000000
  agentsPerOperator : 1 ≤ a.targetLogicalAgentsPerOperator ∧
    a.targetLogicalAgentsPerOperator ≤ 10000
  incidents : 0 ≤ a.modeledIncidentsPer10000LogicalAgentMonths ∧
    a.modeledIncidentsPer10000LogicalAgentMonths ≤ 10000
  incidentBase : 0 ≤ a.incidentBaseEffortMinutes ∧ a.incidentBaseEffortMinutes ≤ 100000
  incidentDepth : 0 ≤ a.incidentEffortMinutesPerDelegationDepth ∧
    a.incidentEffortMinutesPerDelegationDepth ≤ 100000
  incidentHandoff : 0 ≤ a.incidentHandoffMinutesPerOperator ∧
    a.incidentHandoffMinutesPerOperator ≤ 100000

/-- The checked bounds of the decimal fields. -/
structure FleetModelAssumptionsFields.DecimalBounded (a : FleetModelAssumptionsFields) :
    Prop where
  oversightHours : 0 ≤ a.operatorOversightHoursPerOperatorMonth ∧
    a.operatorOversightHoursPerOperatorMonth ≤ 100000
  baseHours : 0 ≤ a.governanceBaseHoursPerMonth ∧ a.governanceBaseHoursPerMonth ≤ 100000
  policyReview : 0 ≤ a.governanceReviewMinutesPerPolicyUpdate ∧
    a.governanceReviewMinutesPerPolicyUpdate ≤ 100000
  depthReview : 0 ≤ a.governanceReviewMinutesPerDepthUpdate ∧
    a.governanceReviewMinutesPerDepthUpdate ≤ 100000
  agentsReview : 0 ≤ a.governanceReviewMinutesPer1000AgentsUpdate ∧
    a.governanceReviewMinutesPer1000AgentsUpdate ≤ 100000
  evidenceReview : 0 ≤ a.evidenceReviewMinutesPerRetainedGib ∧
    a.evidenceReviewMinutesPerRetainedGib ≤ 100000

/-- What the constructor of the assumptions checked. -/
structure FleetModelAssumptionsFields.Accepted (a : FleetModelAssumptionsFields) : Prop where
  integers : a.Bounded
  decimals : a.DecimalBounded
  serviceTimes : a.serviceTimeMinMicroseconds ≤ a.serviceTimeMaxMicroseconds
  reconciliationTimes : a.reconciliationServiceTimeMinMicroseconds ≤
    a.reconciliationServiceTimeMaxMicroseconds
  shares : a.actionDistributionBasisPoints.sum = 10000
  jitter : a.arrivalJitterWindowMicroseconds <
    a.horizonMicroseconds / a.eventsPerLogicalAgentPerHorizon
  events : maxLogicalAgents * a.eventsPerLogicalAgentPerHorizon ≤ a.maximumSimulatedEvents
  cases : a.economicCases.map (fun case => case.name) = sensitivityCases

theorem FleetModelAssumptions.spec (assumptions : FleetModelAssumptions) :
    assumptions.Accepted := by
  have h := assumptions.accepted
  simp only [FleetModelAssumptionsFields.postInit, bind_eq_ok, Unique.exists_iff,
    PUnit.default_eq_unit, refuseIf_eq_ok, forM_eq_ok, not_lt, not_not] at h
  obtain ⟨-, hintegers, hservice, hreconciliation, hshares, hjitter, hsample, samples, -, -,
    hevents, hdecimals, hcases, -⟩ := h
  simp only [FleetModelAssumptionsFields.integerBounds, List.forall_mem_cons, requireInt_eq_ok,
    List.not_mem_nil, false_implies, implies_true, and_true] at hintegers
  simp only [FleetModelAssumptionsFields.decimalBounds, List.forall_mem_cons,
    requireDecimal_eq_ok, List.not_mem_nil, false_implies, implies_true, and_true,
    Int.cast_zero, Int.cast_ofNat] at hdecimals
  obtain ⟨h1, h2, h3, h4, h5, h6, h7, h8, h9, h10, h11, h12, h13, h14, h15, h16, h17, h18, h19,
    h20, h21, h22, h23, h24, h25, h26, h27, h28, h29, h30, h31, h32, h33⟩ := hintegers
  obtain ⟨d1, d2, d3, d4, d5, d6⟩ := hdecimals
  exact {
    integers := ⟨h1, h2, h3, h4, h5, h6, h7, h8, h9, h10, h11, h12, h13, h14, h15, h16, h17,
      h18, h19, h20, h21, h22, h23, h24, h25, h26, h27, h28, h29, h30, h31, h32, h33⟩
    decimals := ⟨d1, d2, d3, d4, d5, d6⟩
    serviceTimes := hservice
    reconciliationTimes := hreconciliation
    shares := hshares
    jitter := not_le.mp hjitter
    events := hevents
    cases := hcases }

end

end AegisOt
