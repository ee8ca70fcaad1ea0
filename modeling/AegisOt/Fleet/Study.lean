import AegisOt.Fleet.Coordination
import AegisOt.Fleet.Economics

/-!
# The fleet study

`_simulate_scale`, `_attach_marginal_costs` and `run_m6_fleet_study` of `m6_fleet.py`: every
scale under one set of assumptions, and what the agents added from each scale to the next cost.
-/

namespace AegisOt

/-- `FleetScaleResult`. -/
structure FleetScaleResult where
  logicalAgents : ℤ
  queue : QueueModelResult
  actionWorkload : ActionWorkloadResult
  approvalAndCoordination : ApprovalCoordinationResult
  delegationGraph : DelegationGraphResult
  revocation : RevocationPropagationResult
  policyDistribution : PolicyDistributionResult
  evidence : EvidenceRetentionResult
  operatorSpan : OperatorSpanResult
  incidentResponse : IncidentResponseResult
  economics : List EconomicResult

section

variable [FleetPrimitives]

/-- `_simulate_scale`. -/
def simulateScale (logicalAgents : ℤ) (assumptions : FleetModelAssumptionsFields) :
    Except FleetError FleetScaleResult := do
  refuseIf (logicalAgents ∉ scalePoints)
    (.valueError "logical-agent scale must be one of 10, 100, 1000, or 10000")
  let arrivals ← generateEventArrivals logicalAgents assumptions
  let queue ← simulateQueue arrivals assumptions
  let (actions, actionWorkload) ← modelActionWorkload arrivals assumptions
  let approvalAndCoordination ← modelApprovalAndCoordination actions assumptions
  let (parents, _, graph) ← buildDelegationGraph logicalAgents assumptions
  let revocation ← simulateRevocation parents assumptions
  let policyDistribution ← simulatePolicyDistribution parents assumptions
  let evidence ← modelEvidence queue.generatedEvents assumptions
  let operatorSpan ← modelOperatorSpan logicalAgents assumptions
  let incidentResponse ← modelIncidentResponse logicalAgents graph operatorSpan assumptions
  let economics ← modelEconomics logicalAgents graph evidence operatorSpan incidentResponse
    assumptions
  .ok {
    logicalAgents, queue, actionWorkload, approvalAndCoordination, delegationGraph := graph,
    revocation, policyDistribution, evidence, operatorSpan, incidentResponse, economics }

end

/-! ## Marginal costs -/

/-- The variables of the loop over the results of one scale. -/
structure MarginalRun where
  economics : List EconomicResult
  previousTotals : SortedMap String ℚ

/-- One pass of the loop over the results of one scale. -/
def attachMarginal (addedAgents : ℤ) (run : MarginalRun) (result : EconomicResult) :
    Except FleetError MarginalRun := do
  let previous ← orRaise (run.previousTotals.find? result.sensitivityCase) .keyError
  let marginal ← divide (result.modeledTotalGovernanceCostUsdPerMonth - previous) addedAgents
  let marginal ← quantize marginal
  refuseIf (marginal < 0) (.valueError "modeled marginal governance cost must not be negative")
  .ok {
    economics := run.economics ++
      [{ result with modeledMarginalGovernanceCostUsdPerAddedLogicalAgentMonth := marginal }]
    previousTotals := run.previousTotals.insert result.sensitivityCase
      result.modeledTotalGovernanceCostUsdPerMonth }

/-- The variables of the loop over the scales. -/
structure ScalesRun where
  output : List FleetScaleResult
  previousAgents : ℤ
  previousTotals : SortedMap String ℚ

/-- One pass of the loop over the scales. -/
def attachScale (run : ScalesRun) (scale : FleetScaleResult) : Except FleetError ScalesRun := do
  let addedAgents := scale.logicalAgents - run.previousAgents
  refuseIf (addedAgents ≤ 0) (.valueError "fleet scales must be strictly increasing")
  let marginals ← scale.economics.foldlM (attachMarginal addedAgents) ⟨[], run.previousTotals⟩
  .ok {
    output := run.output ++ [{ scale with economics := marginals.economics }]
    previousAgents := scale.logicalAgents
    previousTotals := marginals.previousTotals }

/-- `_attach_marginal_costs`. -/
def attachMarginalCosts (results : List FleetScaleResult) :
    Except FleetError (List FleetScaleResult) := do
  let run ← results.foldlM attachScale
    ⟨[], 0, .ofEntries (sensitivityCases.map fun case => (case, 0))⟩
  .ok run.output

/-! ## The study -/

section

variable [FleetPrimitives]

/-- `FleetStudyReport`, without its constant texts. -/
structure FleetStudyReport where
  scalePoints : List ℤ
  assumptions : FleetModelAssumptions
  scales : List FleetScaleResult

/-- `run_m6_fleet_study`. -/
def runM6FleetStudy (assumptions : Option FleetModelAssumptions) (points : List ℤ) :
    Except FleetError FleetStudyReport := do
  refuseIf (points ≠ scalePoints)
    (.valueError "M6 requires exactly the 10, 100, 1000, and 10000 scale points")
  let assumptions := assumptions.getD .default
  let rawResults ← points.mapM fun point =>
    simulateScale point assumptions.toFleetModelAssumptionsFields
  let results ← attachMarginalCosts rawResults
  .ok { scalePoints := points, assumptions, scales := results }

end

end AegisOt
