import AegisOt.Fleet.Propagation

/-!
# Evidence, operators, incidents and cost

`_model_evidence`, `_model_operator_span`, `_model_incident_response` and `_model_economics` of
`m6_fleet.py`. Every intermediate value is quantized where the source quantizes it.
-/

namespace AegisOt

/-- `EvidenceRetentionResult`. -/
structure EvidenceRetentionResult where
  evidenceBytesPerEvent : ℤ
  evidenceBytesPerModelHorizon : ℤ
  modeledEvidenceBytesPerDay : ℤ
  baseRetentionDays : ℤ
  modeledBaseRetainedBytes : ℤ
  modeledBaseRetainedGib : ℚ

/-- Bytes in gibibytes. -/
def retainedGib (retainedBytes : ℤ) : Except FleetError ℚ := do
  let gib ← divide retainedBytes bytesPerGib
  quantize gib

/-- `_model_evidence`. -/
def modelEvidence (generatedEvents : ℤ) (assumptions : FleetModelAssumptionsFields) :
    Except FleetError EvidenceRetentionResult := do
  let horizonBytes := generatedEvents * assumptions.evidenceBytesPerEvent
  let dailyBytes ← ceilDiv (horizonBytes * secondsPerDay) assumptions.horizonSeconds
  let baseCase ← orRaise assumptions.economicCases[1]? .indexError
  let retainedBytes := dailyBytes * baseCase.retentionDays
  let gib ← retainedGib retainedBytes
  .ok {
    evidenceBytesPerEvent := assumptions.evidenceBytesPerEvent
    evidenceBytesPerModelHorizon := horizonBytes
    modeledEvidenceBytesPerDay := dailyBytes
    baseRetentionDays := baseCase.retentionDays
    modeledBaseRetainedBytes := retainedBytes
    modeledBaseRetainedGib := gib }

/-- `OperatorSpanResult`. -/
structure OperatorSpanResult where
  targetLogicalAgentsPerOperator : ℤ
  requiredOperators : ℤ
  modeledLogicalAgentsPerOperator : ℚ
  modeledOversightLaborHoursPerMonth : ℚ

/-- `_model_operator_span`. -/
def modelOperatorSpan (logicalAgents : ℤ) (assumptions : FleetModelAssumptionsFields) :
    Except FleetError OperatorSpanResult := do
  let operators ← ceilDiv logicalAgents assumptions.targetLogicalAgentsPerOperator
  let span ← divide logicalAgents operators
  let span ← quantize span
  let hours ← quantize (operators * assumptions.operatorOversightHoursPerOperatorMonth)
  .ok {
    targetLogicalAgentsPerOperator := assumptions.targetLogicalAgentsPerOperator
    requiredOperators := operators
    modeledLogicalAgentsPerOperator := span
    modeledOversightLaborHoursPerMonth := hours }

/-- `IncidentResponseResult`. -/
structure IncidentResponseResult where
  modeledIncidentsPerMonth : ℚ
  modeledEffortHoursPerIncident : ℚ
  modeledTotalEffortHoursPerMonth : ℚ
  basisIncidentsPer10000LogicalAgentMonths : ℤ

/-- `effort_minutes`. -/
def effortMinutes (graph : DelegationGraphResult) (operatorSpan : OperatorSpanResult)
    (assumptions : FleetModelAssumptionsFields) : ℤ :=
  assumptions.incidentBaseEffortMinutes +
    graph.maximumDepthHops * assumptions.incidentEffortMinutesPerDelegationDepth +
    operatorSpan.requiredOperators * assumptions.incidentHandoffMinutesPerOperator

/-- `_model_incident_response`. -/
def modelIncidentResponse (logicalAgents : ℤ) (graph : DelegationGraphResult)
    (operatorSpan : OperatorSpanResult) (assumptions : FleetModelAssumptionsFields) :
    Except FleetError IncidentResponseResult := do
  let incidents ← divide
    (logicalAgents * assumptions.modeledIncidentsPer10000LogicalAgentMonths : ℤ) 10000
  let incidents ← quantize incidents
  let effort ← divide (effortMinutes graph operatorSpan assumptions) 60
  let effort ← quantize effort
  let total ← quantize (incidents * effort)
  .ok {
    modeledIncidentsPerMonth := incidents
    modeledEffortHoursPerIncident := effort
    modeledTotalEffortHoursPerMonth := total
    basisIncidentsPer10000LogicalAgentMonths :=
      assumptions.modeledIncidentsPer10000LogicalAgentMonths }

/-- `EconomicResult`. -/
structure EconomicResult where
  sensitivityCase : String
  modeledOperatorLaborUsdPerMonth : ℚ
  modeledIncidentResponseLaborUsdPerMonth : ℚ
  modeledGovernanceLaborUsdPerMonth : ℚ
  modeledInfrastructureUsdPerMonth : ℚ
  modeledEvidenceStorageUsdPerMonth : ℚ
  modeledTotalGovernanceCostUsdPerMonth : ℚ
  modeledMarginalGovernanceCostUsdPerAddedLogicalAgentMonth : ℚ
  modeledGovernanceLaborHoursPerMonth : ℚ
  modeledRetainedEvidenceGib : ℚ

/-- `policy_review_minutes`. -/
def policyReviewMinutes (graph : DelegationGraphResult) (scaleBlocks : ℤ)
    (assumptions : FleetModelAssumptionsFields) : ℚ :=
  assumptions.policyUpdatesPerMonth *
    (assumptions.governanceReviewMinutesPerPolicyUpdate +
      graph.maximumDepthHops * assumptions.governanceReviewMinutesPerDepthUpdate +
      scaleBlocks * assumptions.governanceReviewMinutesPer1000AgentsUpdate)

/-- One pass of the loop over the economic cases. -/
def modelCase (logicalAgents scaleBlocks : ℤ) (graph : DelegationGraphResult)
    (evidence : EvidenceRetentionResult) (operatorSpan : OperatorSpanResult)
    (incidentResponse : IncidentResponseResult) (assumptions : FleetModelAssumptionsFields)
    (case : EconomicCase) : Except FleetError EconomicResult := do
  let retainedBytes := evidence.modeledEvidenceBytesPerDay * case.retentionDays
  let gib ← retainedGib retainedBytes
  let evidenceReviewMinutes := gib * assumptions.evidenceReviewMinutesPerRetainedGib
  let reviewHours ← divide
    (policyReviewMinutes graph scaleBlocks assumptions + evidenceReviewMinutes) 60
  let governanceHours ← quantize (assumptions.governanceBaseHoursPerMonth + reviewHours)
  let operatorCost ← quantize
    (operatorSpan.modeledOversightLaborHoursPerMonth * case.operatorLaborUsdPerHour)
  let incidentCost ← quantize
    (incidentResponse.modeledTotalEffortHoursPerMonth * case.incidentResponderLaborUsdPerHour)
  let governanceCost ← quantize (governanceHours * case.governanceLaborUsdPerHour)
  let infrastructure ← divide
    (logicalAgents * case.infrastructureUsdPerLogicalAgentMonthAtFullUtilization * 10000)
    case.utilizationBasisPoints
  let infrastructureCost ← quantize infrastructure
  let storageCost ← quantize (gib * case.evidenceStorageUsdPerGibMonth)
  let total ← quantize
    (operatorCost + incidentCost + governanceCost + infrastructureCost + storageCost)
  .ok {
    sensitivityCase := case.name
    modeledOperatorLaborUsdPerMonth := operatorCost
    modeledIncidentResponseLaborUsdPerMonth := incidentCost
    modeledGovernanceLaborUsdPerMonth := governanceCost
    modeledInfrastructureUsdPerMonth := infrastructureCost
    modeledEvidenceStorageUsdPerMonth := storageCost
    modeledTotalGovernanceCostUsdPerMonth := total
    modeledMarginalGovernanceCostUsdPerAddedLogicalAgentMonth := 0
    modeledGovernanceLaborHoursPerMonth := governanceHours
    modeledRetainedEvidenceGib := gib }

/-- `_model_economics`. -/
def modelEconomics (logicalAgents : ℤ) (graph : DelegationGraphResult)
    (evidence : EvidenceRetentionResult) (operatorSpan : OperatorSpanResult)
    (incidentResponse : IncidentResponseResult) (assumptions : FleetModelAssumptionsFields) :
    Except FleetError (List EconomicResult) := do
  let scaleBlocks ← ceilDiv logicalAgents 1000
  assumptions.economicCases.mapM
    (modelCase logicalAgents scaleBlocks graph evidence operatorSpan incidentResponse assumptions)

end AegisOt
