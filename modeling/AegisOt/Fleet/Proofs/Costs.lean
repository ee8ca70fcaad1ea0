import AegisOt.Fleet.Economics
import AegisOt.Fleet.Proofs.Tree
import AegisOt.Fleet.Proofs.Workload
import AegisOt.Misc.Growing

/-!
# Cost as a quantity of the scale

Depth, operators, incidents, review blocks and retained volume grow with the number of agents,
and so does each quantity that the cost is made of, through every rounding. The bounds of the
inputs bound each of them below what a quantized decimal can hold.
-/

namespace AegisOt

/-- The numbers of agents that the model may be asked for. -/
def scaleRange : Set ℕ := Set.Icc 1 10000

namespace Growing

variable {f : ℕ → ℚ} {bound : ℤ} {c : ℚ} {n : ℕ}

theorem rounded (hf : Growing scaleRange f bound) :
    Growing scaleRange (fun n => roundHalfUp (f n)) bound :=
  hf.round (fun _ => roundHalfUp_nonneg) (fun _ _ => roundHalfUp_mono) (fun _ => roundHalfUp_le)

/-- A growing quantity is quantized. -/
theorem quantize_eq_ok (hf : Growing scaleRange f bound) (hn : n ∈ scaleRange)
    (hdigits : bound ≤ 10 ^ 21) : quantize (f n) = .ok (roundHalfUp (f n)) :=
  AegisOt.quantize_eq_ok (hf.nonneg n hn) (hf.le n hn) hdigits

/-- A checked decimal does not depend on the scale. -/
theorem checked (hc : 0 ≤ c ∧ c ≤ bound) : Growing scaleRange (fun _ => c) bound :=
  .const hc.1 hc.2

end Growing

/-- What the constructor of a case checked. -/
structure EconomicCaseFields.Accepted (case : EconomicCaseFields) : Prop where
  name : case.name ∈ sensitivityCases
  operatorLabor : 0 ≤ case.operatorLaborUsdPerHour ∧ case.operatorLaborUsdPerHour ≤ 10000
  responderLabor : 0 ≤ case.incidentResponderLaborUsdPerHour ∧
    case.incidentResponderLaborUsdPerHour ≤ 10000
  governanceLabor : 0 ≤ case.governanceLaborUsdPerHour ∧ case.governanceLaborUsdPerHour ≤ 10000
  infrastructure : 0 ≤ case.infrastructureUsdPerLogicalAgentMonthAtFullUtilization ∧
    case.infrastructureUsdPerLogicalAgentMonthAtFullUtilization ≤ 10000
  storage : 0 ≤ case.evidenceStorageUsdPerGibMonth ∧ case.evidenceStorageUsdPerGibMonth ≤ 10000
  utilization : 1 ≤ case.utilizationBasisPoints ∧ case.utilizationBasisPoints ≤ 10000
  retention : 1 ≤ case.retentionDays ∧ case.retentionDays ≤ 3650

theorem EconomicCase.spec (case : EconomicCase) : case.Accepted := by
  have h := case.accepted
  simp only [EconomicCaseFields.postInit, bind_eq_ok, Unique.exists_iff, PUnit.default_eq_unit,
    refuseIf_eq_ok, forM_eq_ok, not_not, EconomicCaseFields.rates, List.forall_mem_cons,
    requireDecimal_eq_ok, requireInt_eq_ok, List.not_mem_nil, false_implies, implies_true,
    and_true, Int.cast_zero, Int.cast_ofNat] at h
  obtain ⟨hname, ⟨h1, h2, h3, h4, h5⟩, hutilization, hretention⟩ := h
  exact ⟨hname, h1, h2, h3, h4, h5, hutilization, hretention⟩

namespace FleetModelAssumptionsFields

variable (a : FleetModelAssumptionsFields)

/-! ## The quantities -/

/-- Operators for so many agents. -/
def operatorsAt (n : ℕ) : ℤ := -(-(n : ℤ) / a.targetLogicalAgentsPerOperator)

/-- Hours of oversight in a month. -/
def oversightHoursAt (n : ℕ) : ℚ :=
  roundHalfUp (a.operatorsAt n * a.operatorOversightHoursPerOperatorMonth)

/-- Hops to the deepest agent. -/
def hopsAt (n : ℕ) : ℤ := greatestDepth a.delegationBranchingFactor.toNat n

/-- Bytes of evidence in a day. -/
def dailyBytesAt (n : ℕ) : ℤ :=
  -(-(n * a.eventsPerLogicalAgentPerHorizon * a.evidenceBytesPerEvent * secondsPerDay) /
    a.horizonSeconds)

/-- Gibibytes of evidence that are retained for some days. -/
def gibAt (days : ℤ) (n : ℕ) : ℚ :=
  roundHalfUp ((a.dailyBytesAt n : ℚ) * days / bytesPerGib)

/-- Incidents in a month. -/
def incidentsAt (n : ℕ) : ℚ :=
  roundHalfUp ((n : ℤ) * a.modeledIncidentsPer10000LogicalAgentMonths / 10000)

/-- Hours for an incident. -/
def effortHoursAt (n : ℕ) : ℚ :=
  roundHalfUp (((a.incidentBaseEffortMinutes : ℚ) +
    a.hopsAt n * a.incidentEffortMinutesPerDelegationDepth +
    a.operatorsAt n * a.incidentHandoffMinutesPerOperator) / 60)

/-- Hours for the incidents of a month. -/
def incidentHoursAt (n : ℕ) : ℚ := roundHalfUp (a.incidentsAt n * a.effortHoursAt n)

/-- Hours of governance in a month. -/
def governanceHoursAt (days : ℤ) (n : ℕ) : ℚ :=
  roundHalfUp (a.governanceBaseHoursPerMonth +
    (a.policyUpdatesPerMonth * (a.governanceReviewMinutesPerPolicyUpdate +
        a.hopsAt n * a.governanceReviewMinutesPerDepthUpdate +
        (-(-(n : ℤ) / 1000) : ℤ) * a.governanceReviewMinutesPer1000AgentsUpdate) +
      a.gibAt days n * a.evidenceReviewMinutesPerRetainedGib) / 60)

/-- The infrastructure of a case. -/
def infrastructureAt (case : EconomicCaseFields) (n : ℕ) : ℚ :=
  roundHalfUp ((n : ℤ) * case.infrastructureUsdPerLogicalAgentMonthAtFullUtilization * 10000 /
    case.utilizationBasisPoints)

/-- What a case costs in a month. -/
def costAt (case : EconomicCaseFields) (n : ℕ) : ℚ :=
  roundHalfUp (
    roundHalfUp (a.oversightHoursAt n * case.operatorLaborUsdPerHour) +
    roundHalfUp (a.incidentHoursAt n * case.incidentResponderLaborUsdPerHour) +
    roundHalfUp (a.governanceHoursAt case.retentionDays n * case.governanceLaborUsdPerHour) +
    infrastructureAt case n +
    roundHalfUp (a.gibAt case.retentionDays n * case.evidenceStorageUsdPerGibMonth))

/-! ## They grow -/

variable {a} {case : EconomicCaseFields}

theorem growing_agents : Growing scaleRange (fun n => ((n : ℤ) : ℚ)) 10000 :=
  .intCast (fun n _ => Int.natCast_nonneg n) (fun _ _ _ _ hab => Int.ofNat_le.mpr hab)
    fun n hn => by exact_mod_cast hn.2

/-- A ceiling of a growing count grows. -/
theorem growing_ceil {count : ℕ → ℤ} {divisor bound : ℤ} (hdivisor : 0 < divisor)
    (hnonneg : ∀ n ∈ scaleRange, 0 ≤ count n) (hmono : MonotoneOn count scaleRange)
    (hle : ∀ n ∈ scaleRange, count n ≤ bound) :
    Growing scaleRange (fun n => ((-(-count n / divisor) : ℤ) : ℚ)) bound :=
  .intCast (fun n hn => ceil_nonneg hdivisor (hnonneg n hn))
    (fun _ hm _ hn hmn => ceil_mono hdivisor (hmono hm hn hmn))
    fun n hn => (ceil_le_self hdivisor (hnonneg n hn)).trans (hle n hn)

theorem growing_agentsCeil {divisor : ℤ} (hdivisor : 0 < divisor) :
    Growing scaleRange (fun n => ((-(-(n : ℤ) / divisor) : ℤ) : ℚ)) 10000 :=
  growing_ceil hdivisor (fun n _ => Int.natCast_nonneg n)
    (fun _ _ _ _ hab => Int.ofNat_le.mpr hab) fun n hn => by exact_mod_cast hn.2

theorem growing_hops : Growing scaleRange (fun n => (a.hopsAt n : ℚ)) 10000 :=
  .intCast (fun n _ => greatestDepth_nonneg _ n)
    (fun _ _ _ _ hab => greatestDepth_mono _ hab) fun n hn =>
      (greatestDepth_le _ n).trans (by exact_mod_cast hn.2)

section

variable (h : a.Accepted)

include h

theorem growing_operators : Growing scaleRange (fun n => (a.operatorsAt n : ℚ)) 10000 :=
  growing_agentsCeil (by linarith [h.integers.agentsPerOperator.1])

theorem growing_oversight :
    Growing scaleRange
      (fun n => (a.operatorsAt n : ℚ) * a.operatorOversightHoursPerOperatorMonth)
      (10000 * 100000) :=
  (growing_operators h).mul (.checked (by exact_mod_cast h.decimals.oversightHours))

theorem growing_dailyBytes :
    Growing scaleRange (fun n => (a.dailyBytesAt n : ℚ)) (10000 * (25 * 100000000 * 86400)) := by
  obtain ⟨hevents, heventsLe⟩ := h.integers.events
  obtain ⟨hbytes, hbytesLe⟩ := h.integers.evidenceBytes
  have hhorizon : 0 < a.horizonSeconds := by linarith [h.integers.horizonSeconds.1]
  have hperAgent : a.eventsPerLogicalAgentPerHorizon * a.evidenceBytesPerEvent ≤
      25 * 100000000 := mul_le_mul heventsLe hbytesLe (by omega) (by norm_num)
  have hnonneg : 0 ≤ a.eventsPerLogicalAgentPerHorizon * a.evidenceBytesPerEvent :=
    mul_nonneg (by omega) (by omega)
  have hcount (n : ℕ) : (n : ℤ) * a.eventsPerLogicalAgentPerHorizon * a.evidenceBytesPerEvent *
      secondsPerDay =
      n * (a.eventsPerLogicalAgentPerHorizon * a.evidenceBytesPerEvent * 86400) := by
    unfold secondsPerDay
    ring
  unfold dailyBytesAt
  simp only [hcount]
  refine growing_ceil hhorizon (fun n _ => by positivity) (fun i _ j _ hij => ?_)
    fun n hn => ?_
  · exact mul_le_mul_of_nonneg_right (Int.ofNat_le.mpr hij) (by positivity)
  · exact mul_le_mul (by exact_mod_cast hn.2) (by omega) (by positivity) (by norm_num)

theorem growing_gib {days : ℤ} (hdays : 1 ≤ days ∧ days ≤ 3650) :
    Growing scaleRange (fun n => (a.dailyBytesAt n : ℚ) * days / bytesPerGib)
      8000000000000 := by
  have hretained : Growing scaleRange (fun _ : ℕ => (days : ℚ)) 3650 :=
    .checked ⟨by exact_mod_cast (by omega : 0 ≤ days), by exact_mod_cast hdays.2⟩
  exact ((growing_dailyBytes h).mul hretained).div (by norm_num [bytesPerGib])
    (by norm_num [bytesPerGib])

theorem growing_incidents :
    Growing scaleRange
      (fun n => ((n : ℤ) : ℚ) * a.modeledIncidentsPer10000LogicalAgentMonths / 10000) 10000 := by
  have hrate : Growing scaleRange
      (fun _ : ℕ => (a.modeledIncidentsPer10000LogicalAgentMonths : ℚ)) 10000 :=
    .checked (by exact_mod_cast h.integers.incidents)
  exact (growing_agents.mul hrate).div (by norm_num) (by norm_num)

theorem growing_effort :
    Growing scaleRange (fun n => ((a.incidentBaseEffortMinutes : ℚ) +
      a.hopsAt n * a.incidentEffortMinutesPerDelegationDepth +
      a.operatorsAt n * a.incidentHandoffMinutesPerOperator) / 60) 40000000 := by
  have hbase : Growing scaleRange (fun _ : ℕ => (a.incidentBaseEffortMinutes : ℚ)) 100000 :=
    .checked (by exact_mod_cast h.integers.incidentBase)
  have hdepth : Growing scaleRange
      (fun _ : ℕ => (a.incidentEffortMinutesPerDelegationDepth : ℚ)) 100000 :=
    .checked (by exact_mod_cast h.integers.incidentDepth)
  have hhandoff : Growing scaleRange
      (fun _ : ℕ => (a.incidentHandoffMinutesPerOperator : ℚ)) 100000 :=
    .checked (by exact_mod_cast h.integers.incidentHandoff)
  exact ((hbase.add (growing_hops.mul hdepth)).add ((growing_operators h).mul hhandoff)).div
    (by norm_num) (by norm_num)

theorem growing_incidentHours :
    Growing scaleRange (fun n => a.incidentsAt n * a.effortHoursAt n) (10000 * 40000000) :=
  (growing_incidents h).rounded.mul (growing_effort h).rounded

theorem growing_policyReview :
    Growing scaleRange (fun n => (a.policyUpdatesPerMonth : ℚ) *
      (a.governanceReviewMinutesPerPolicyUpdate +
        a.hopsAt n * a.governanceReviewMinutesPerDepthUpdate +
        (-(-(n : ℤ) / 1000) : ℤ) * a.governanceReviewMinutesPer1000AgentsUpdate))
      (10000 * (100000 + 10000 * 100000 + 10000 * 100000)) := by
  obtain ⟨hupdates, hupdatesLe⟩ := h.integers.policyUpdates
  have hmonth : Growing scaleRange (fun _ : ℕ => (a.policyUpdatesPerMonth : ℚ)) 10000 :=
    .checked ⟨by exact_mod_cast (by omega : 0 ≤ a.policyUpdatesPerMonth),
      by exact_mod_cast hupdatesLe⟩
  have hpolicy : Growing scaleRange
      (fun _ : ℕ => a.governanceReviewMinutesPerPolicyUpdate) 100000 :=
    .checked (by exact_mod_cast h.decimals.policyReview)
  have hdepth : Growing scaleRange
      (fun _ : ℕ => a.governanceReviewMinutesPerDepthUpdate) 100000 :=
    .checked (by exact_mod_cast h.decimals.depthReview)
  have hagents : Growing scaleRange
      (fun _ : ℕ => a.governanceReviewMinutesPer1000AgentsUpdate) 100000 :=
    .checked (by exact_mod_cast h.decimals.agentsReview)
  exact hmonth.mul ((hpolicy.add (growing_hops.mul hdepth)).add
    ((growing_agentsCeil (by norm_num)).mul hagents))

theorem growing_governance {days : ℤ} (hdays : 1 ≤ days ∧ days ≤ 3650) :
    Growing scaleRange (fun n => a.governanceBaseHoursPerMonth +
      (a.policyUpdatesPerMonth * (a.governanceReviewMinutesPerPolicyUpdate +
          a.hopsAt n * a.governanceReviewMinutesPerDepthUpdate +
          (-(-(n : ℤ) / 1000) : ℤ) * a.governanceReviewMinutesPer1000AgentsUpdate) +
        a.gibAt days n * a.evidenceReviewMinutesPerRetainedGib) / 60)
      (100000 + 14000000000000000) := by
  have hbase : Growing scaleRange (fun _ : ℕ => a.governanceBaseHoursPerMonth) 100000 :=
    .checked (by exact_mod_cast h.decimals.baseHours)
  have hreview : Growing scaleRange
      (fun _ : ℕ => a.evidenceReviewMinutesPerRetainedGib) 100000 :=
    .checked (by exact_mod_cast h.decimals.evidenceReview)
  exact hbase.add (((growing_policyReview h).add ((growing_gib h hdays).rounded.mul hreview)).div
    (by norm_num) (by norm_num))

omit h in
theorem growing_infrastructure (hcase : case.Accepted) :
    Growing scaleRange (fun n => ((n : ℤ) : ℚ) *
      case.infrastructureUsdPerLogicalAgentMonthAtFullUtilization * 10000 /
        case.utilizationBasisPoints) 1000000000000 := by
  have hrate : Growing scaleRange
      (fun _ : ℕ => case.infrastructureUsdPerLogicalAgentMonthAtFullUtilization) 10000 :=
    .checked (by exact_mod_cast hcase.infrastructure)
  have hwhole : Growing scaleRange (fun _ : ℕ => (10000 : ℚ)) 10000 :=
    .const (by norm_num) (by norm_num)
  have hutilization : (1 : ℚ) ≤ case.utilizationBasisPoints := by
    exact_mod_cast hcase.utilization.1
  exact ((growing_agents.mul hrate).mul hwhole).div (by linarith) (by norm_num; linarith)

/-- The parts of what a case costs, each quantized, add up to a growing quantity. -/
theorem growing_cost (hcase : case.Accepted) :
    Growing scaleRange (fun n =>
      roundHalfUp (a.oversightHoursAt n * case.operatorLaborUsdPerHour) +
      roundHalfUp (a.incidentHoursAt n * case.incidentResponderLaborUsdPerHour) +
      roundHalfUp (a.governanceHoursAt case.retentionDays n * case.governanceLaborUsdPerHour) +
      infrastructureAt case n +
      roundHalfUp (a.gibAt case.retentionDays n * case.evidenceStorageUsdPerGibMonth))
      200000000000000000000 := by
  have hoperator : Growing scaleRange (fun _ : ℕ => case.operatorLaborUsdPerHour) 10000 :=
    .checked (by exact_mod_cast hcase.operatorLabor)
  have hresponder : Growing scaleRange
      (fun _ : ℕ => case.incidentResponderLaborUsdPerHour) 10000 :=
    .checked (by exact_mod_cast hcase.responderLabor)
  have hgovernance : Growing scaleRange (fun _ : ℕ => case.governanceLaborUsdPerHour) 10000 :=
    .checked (by exact_mod_cast hcase.governanceLabor)
  have hstorage : Growing scaleRange (fun _ : ℕ => case.evidenceStorageUsdPerGibMonth) 10000 :=
    .checked (by exact_mod_cast hcase.storage)
  have hparts := ((((((growing_oversight h).rounded.mul hoperator).rounded).add
    ((growing_incidentHours h).rounded.mul hresponder).rounded).add
    ((growing_governance h hcase.retention).rounded.mul hgovernance).rounded).add
    (growing_infrastructure hcase).rounded).add
    ((growing_gib h hcase.retention).rounded.mul hstorage).rounded
  exact hparts.weaken (by norm_num)

/-! ## The functions compute them -/

section

variable {n : ℕ} (hn : n ∈ scaleRange)

include hn

theorem retainedGib_eq_ok {days : ℤ} (hdays : 1 ≤ days ∧ days ≤ 3650) :
    retainedGib (a.dailyBytesAt n * days) = .ok (a.gibAt days n) := by
  have hgib := (growing_gib h hdays).quantize_eq_ok hn (by norm_num)
  rw [retainedGib, divide_eq_ok (by norm_num [bytesPerGib]), ok_bind, Int.cast_mul, hgib, gibAt]

theorem exists_modelEvidence :
    ∃ evidence, modelEvidence (n * a.eventsPerLogicalAgentPerHorizon) a = .ok evidence ∧
      evidence.modeledEvidenceBytesPerDay = a.dailyBytesAt n := by
  have hhorizon : 0 < a.horizonSeconds := by linarith [h.integers.horizonSeconds.1]
  obtain ⟨base, hbase⟩ : ∃ base, a.economicCases[1]? = some base := by
    refine ⟨_, List.getElem?_eq_getElem ?_⟩
    have hlength := congrArg List.length h.cases
    rw [List.length_map] at hlength
    rw [hlength]
    exact Nat.one_lt_succ_succ 1
  have hgib := retainedGib_eq_ok h hn base.spec.retention
  rw [modelEvidence]
  dsimp only
  rw [ceilDiv_eq_ok hhorizon, ok_bind, hbase, orRaise, ok_bind]
  unfold dailyBytesAt at hgib ⊢
  rw [hgib, ok_bind]
  exact ⟨_, rfl, rfl⟩

theorem exists_modelOperatorSpan :
    ∃ operatorSpan, modelOperatorSpan n a = .ok operatorSpan ∧
      operatorSpan.requiredOperators = a.operatorsAt n ∧
      operatorSpan.modeledOversightLaborHoursPerMonth = a.oversightHoursAt n := by
  have hdivisor : 0 < a.targetLogicalAgentsPerOperator := by
    linarith [h.integers.agentsPerOperator.1]
  have hpositive : (0 : ℤ) < n := by exact_mod_cast hn.1
  have hoperators : 0 < -(-(n : ℤ) / a.targetLogicalAgentsPerOperator) :=
    ceil_pos hdivisor hpositive
  have hcast : (0 : ℚ) < (-(-(n : ℤ) / a.targetLogicalAgentsPerOperator) : ℤ) := by
    exact_mod_cast hoperators
  have hle : (n : ℤ) ≤ 10000 := by exact_mod_cast hn.2
  have hspan := quantize_ratio n _ 10000 hpositive.le hoperators (by nlinarith) (by norm_num)
  have hhours := (growing_oversight h).quantize_eq_ok hn (by norm_num)
  unfold operatorsAt at hhours
  rw [modelOperatorSpan, ceilDiv_eq_ok hdivisor, ok_bind, divide_eq_ok hcast, ok_bind, hspan,
    ok_bind, hhours, ok_bind]
  exact ⟨_, rfl, rfl, rfl⟩

theorem exists_modelIncidentResponse {graph : DelegationGraphResult}
    (hgraph : graph.maximumDepthHops = a.hopsAt n) {operatorSpan : OperatorSpanResult}
    (hoperators : operatorSpan.requiredOperators = a.operatorsAt n) :
    ∃ incidentResponse, modelIncidentResponse n graph operatorSpan a = .ok incidentResponse ∧
      incidentResponse.modeledTotalEffortHoursPerMonth = a.incidentHoursAt n := by
  have hincidents := (growing_incidents h).quantize_eq_ok hn (by norm_num)
  have heffort := (growing_effort h).quantize_eq_ok hn (by norm_num)
  have htotal := (growing_incidentHours h).quantize_eq_ok hn (by norm_num)
  have hminutes : (effortMinutes graph operatorSpan a : ℚ) = (a.incidentBaseEffortMinutes : ℚ) +
      a.hopsAt n * a.incidentEffortMinutesPerDelegationDepth +
      a.operatorsAt n * a.incidentHandoffMinutesPerOperator := by
    rw [effortMinutes, hgraph, hoperators]
    push_cast
    ring
  rw [modelIncidentResponse, divide_eq_ok (by norm_num), ok_bind, Int.cast_mul, hincidents,
    ok_bind, divide_eq_ok (by norm_num), ok_bind, hminutes, heffort, ok_bind]
  unfold incidentsAt effortHoursAt at htotal
  rw [htotal, ok_bind]
  exact ⟨_, rfl, rfl⟩

/-- What a case costs is computed. -/
theorem exists_modelCase {graph : DelegationGraphResult} {evidence : EvidenceRetentionResult}
    {operatorSpan : OperatorSpanResult} {incidentResponse : IncidentResponseResult}
    (hgraph : graph.maximumDepthHops = a.hopsAt n)
    (hevidence : evidence.modeledEvidenceBytesPerDay = a.dailyBytesAt n)
    (hspan : operatorSpan.modeledOversightLaborHoursPerMonth = a.oversightHoursAt n)
    (hincident : incidentResponse.modeledTotalEffortHoursPerMonth = a.incidentHoursAt n)
    (case : EconomicCase) :
    ∃ result, modelCase n (-(-(n : ℤ) / 1000)) graph evidence operatorSpan incidentResponse a
        case = .ok result ∧
      result.sensitivityCase = case.name ∧
      result.modeledTotalGovernanceCostUsdPerMonth = a.costAt case.toEconomicCaseFields n := by
  have hcase := case.spec
  have hoperator : Growing scaleRange (fun _ : ℕ => case.operatorLaborUsdPerHour) 10000 :=
    .checked (by exact_mod_cast hcase.operatorLabor)
  have hresponder : Growing scaleRange
      (fun _ : ℕ => case.incidentResponderLaborUsdPerHour) 10000 :=
    .checked (by exact_mod_cast hcase.responderLabor)
  have hgovernance : Growing scaleRange (fun _ : ℕ => case.governanceLaborUsdPerHour) 10000 :=
    .checked (by exact_mod_cast hcase.governanceLabor)
  have hstorage : Growing scaleRange (fun _ : ℕ => case.evidenceStorageUsdPerGibMonth) 10000 :=
    .checked (by exact_mod_cast hcase.storage)
  have hutilization : (0 : ℚ) < case.utilizationBasisPoints := by
    exact_mod_cast (by linarith [hcase.utilization.1] : 0 < case.utilizationBasisPoints)
  have hgib := retainedGib_eq_ok h hn hcase.retention
  have hhours := (growing_governance h hcase.retention).quantize_eq_ok hn (by norm_num)
  have hoperatorCost := ((growing_oversight h).rounded.mul hoperator).quantize_eq_ok hn
    (by norm_num)
  have hincidentCost := ((growing_incidentHours h).rounded.mul hresponder).quantize_eq_ok hn
    (by norm_num)
  have hgovernanceCost := ((growing_governance h hcase.retention).rounded.mul
    hgovernance).quantize_eq_ok hn (by norm_num)
  have hinfrastructure := (growing_infrastructure hcase).quantize_eq_ok hn (by norm_num)
  have hstorageCost := ((growing_gib h hcase.retention).rounded.mul hstorage).quantize_eq_ok hn
    (by norm_num)
  have htotal := (growing_cost h hcase).quantize_eq_ok hn (by norm_num)
  rw [modelCase]
  dsimp only
  rw [hevidence, hgib, ok_bind, divide_eq_ok (by norm_num), ok_bind, policyReviewMinutes, hgraph,
    hhours, ok_bind, hspan, oversightHoursAt, hoperatorCost, ok_bind, hincident, incidentHoursAt,
    hincidentCost, ok_bind, hgovernanceCost, ok_bind, divide_eq_ok hutilization, ok_bind,
    hinfrastructure, ok_bind, gibAt, hstorageCost, ok_bind]
  simp only [oversightHoursAt, incidentHoursAt, governanceHoursAt, infrastructureAt, gibAt]
    at htotal
  rw [htotal, ok_bind]
  refine ⟨_, rfl, rfl, ?_⟩
  simp only [costAt, oversightHoursAt, incidentHoursAt, governanceHoursAt, infrastructureAt,
    gibAt]

/-- What every case costs is computed, in the order of the cases. -/
theorem exists_modelEconomics {graph : DelegationGraphResult} {evidence : EvidenceRetentionResult}
    {operatorSpan : OperatorSpanResult} {incidentResponse : IncidentResponseResult}
    (hgraph : graph.maximumDepthHops = a.hopsAt n)
    (hevidence : evidence.modeledEvidenceBytesPerDay = a.dailyBytesAt n)
    (hspan : operatorSpan.modeledOversightLaborHoursPerMonth = a.oversightHoursAt n)
    (hincident : incidentResponse.modeledTotalEffortHoursPerMonth = a.incidentHoursAt n) :
    ∃ economics, modelEconomics n graph evidence operatorSpan incidentResponse a =
        .ok economics ∧
      List.Forall₂ (fun (case : EconomicCase) (result : EconomicResult) =>
        result.sensitivityCase = case.name ∧
        result.modeledTotalGovernanceCostUsdPerMonth = a.costAt case.toEconomicCaseFields n)
        a.economicCases economics := by
  choose result hresult hname htotal using
    exists_modelCase h hn hgraph hevidence hspan hincident
  refine ⟨a.economicCases.map result, ?_, ?_⟩
  · rw [modelEconomics, ceilDiv_eq_ok (by norm_num), ok_bind]
    exact mapM_eq_ok_map fun case _ => hresult case
  · rw [List.forall₂_map_right_iff, List.forall₂_same]
    exact fun case _ => ⟨hname case, htotal case⟩

end

end

end FleetModelAssumptionsFields

end AegisOt
