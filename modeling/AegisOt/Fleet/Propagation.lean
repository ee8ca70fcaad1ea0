import AegisOt.Fleet.Queue

/-!
# The delegation tree

`_build_delegation_graph`, `_simulate_revocation` and `_simulate_policy_distribution` of
`m6_fleet.py`: a balanced tree over the logical agents, and what travels down its edges.
-/

namespace AegisOt

/-- `range(start, stop)`. -/
def rangeBetween (start stop : ℤ) : List ℤ := (rangeTo (stop - start)).map (start + ·)

/-- `values[index]`, where a negative index counts from the end. -/
def itemAt (values : List ℤ) (index : ℤ) : Except FleetError ℤ := do
  let position := if index < 0 then values.length + index else index
  refuseIf (position < 0) .indexError
  orRaise values[position.toNat]? .indexError

/-! ## The graph -/

/-- `DelegationGraphResult`. -/
structure DelegationGraphResult where
  nodes : ℤ
  edges : ℤ
  maximumDepthHops : ℤ
  branchingFactor : ℤ
  topologySha256 : String

/-- The variables of the loop over the nodes. -/
structure DelegationRun where
  parents : List ℤ
  depths : List ℤ
  trace : List String

/-- One pass of the loop over the nodes. -/
def delegate (assumptions : FleetModelAssumptionsFields) (run : DelegationRun) (node : ℤ) :
    Except FleetError DelegationRun := do
  let parent ← floorDivide (node - 1) assumptions.delegationBranchingFactor
  let parentDepth ← itemAt run.depths parent
  let depth := parentDepth + 1
  .ok {
    parents := run.parents ++ [parent]
    depths := run.depths ++ [depth]
    trace := run.trace ++ [toString node ++ ":" ++ toString parent ++ ":" ++ toString depth ++
      "\n"] }

/-- The loop over the nodes. -/
def delegateAll (logicalAgents : ℤ) (assumptions : FleetModelAssumptionsFields) :
    Except FleetError DelegationRun :=
  (rangeBetween 1 logicalAgents).foldlM (delegate assumptions) ⟨[-1], [0], ["root:0\n"]⟩

section

variable [FleetPrimitives]

/-- `_build_delegation_graph`. -/
def buildDelegationGraph (logicalAgents : ℤ) (assumptions : FleetModelAssumptionsFields) :
    Except FleetError (List ℤ × List ℤ × DelegationGraphResult) := do
  let run ← delegateAll logicalAgents assumptions
  let depth ← maximum run.depths
  .ok (run.parents, run.depths, {
    nodes := logicalAgents
    edges := logicalAgents - 1
    maximumDepthHops := depth
    branchingFactor := assumptions.delegationBranchingFactor
    topologySha256 := traceSha256 run.trace })

/-! ## Propagation along the edges -/

/-- The variables of a loop that propagates. -/
structure PropagationRun where
  arrivalTimes : List ℤ
  trace : List String

/-- One pass of such a loop: a node is reached from its parent after the delay of their edge. -/
def propagateTo (parents : List ℤ) (edgeDelay : ℤ → ℤ → Except FleetError ℤ)
    (run : PropagationRun) (node : ℤ) : Except FleetError PropagationRun := do
  let parent ← itemAt parents node
  let delay ← edgeDelay parent node
  let parentArrival ← itemAt run.arrivalTimes parent
  let arrival := parentArrival + delay
  .ok {
    arrivalTimes := run.arrivalTimes ++ [arrival]
    trace := run.trace ++ [toString node ++ ":" ++ toString parent ++ ":" ++ toString arrival ++
      "\n"] }

/-- The loop over the nodes, after its first line of the trace. -/
def propagate (parents : List ℤ) (edgeDelay : ℤ → ℤ → Except FleetError ℤ) (header : String) :
    Except FleetError PropagationRun :=
  (rangeBetween 1 parents.length).foldlM (propagateTo parents edgeDelay) ⟨[0], [header]⟩

/-- `RevocationPropagationResult`. -/
structure RevocationPropagationResult where
  rootIssuerCount : ℤ
  recipientCount : ℤ
  propagationMessages : ℤ
  modeledP95PropagationMicroseconds : ℤ
  modeledMaximumPropagationMicroseconds : ℤ
  propagationTraceSha256 : String

/-- `edge_delay` of a revocation. -/
def revocationEdgeDelay (assumptions : FleetModelAssumptionsFields) (parent node : ℤ) :
    Except FleetError ℤ := do
  let offset ← deterministicOffset assumptions.seed "revocation-edge-v1" [parent, node]
    assumptions.revocationEdgeJitterMicroseconds
  .ok (assumptions.revocationEdgeDelayMicroseconds + offset)

/-- `_simulate_revocation`. -/
def simulateRevocation (parents : List ℤ) (assumptions : FleetModelAssumptionsFields) :
    Except FleetError RevocationPropagationResult := do
  let run ← propagate parents (revocationEdgeDelay assumptions) "issuer:0:0\n"
  let recipientTimes := sortedBy id (run.arrivalTimes.drop 1)
  let p95 ← nearestRankPercentile recipientTimes 95
  let maximumTime ← itemAt recipientTimes (-1)
  .ok {
    rootIssuerCount := 1
    recipientCount := parents.length - 1
    propagationMessages := parents.length - 1
    modeledP95PropagationMicroseconds := p95
    modeledMaximumPropagationMicroseconds := maximumTime
    propagationTraceSha256 := traceSha256 run.trace }

/-- `PolicyDistributionResult`. -/
structure PolicyDistributionResult where
  recipientCount : ℤ
  policyDocumentBytes : ℤ
  bytesTransmittedPerUpdate : ℤ
  bytesTransmittedPerMonth : ℤ
  updatesPerMonth : ℤ
  modeledP95DistributionMicroseconds : ℤ
  modeledMaximumDistributionMicroseconds : ℤ
  distributionTraceSha256 : String

/-- `edge_delay` of a policy. -/
def policyEdgeDelay (assumptions : FleetModelAssumptionsFields) (serialization parent node : ℤ) :
    Except FleetError ℤ := do
  let offset ← deterministicOffset assumptions.seed "policy-edge-v1" [parent, node]
    assumptions.policyEdgeJitterMicroseconds
  .ok (assumptions.policyEdgeDelayMicroseconds + serialization + offset)

/-- `_simulate_policy_distribution`. -/
def simulatePolicyDistribution (parents : List ℤ) (assumptions : FleetModelAssumptionsFields) :
    Except FleetError PolicyDistributionResult := do
  let serialization ← ceilDiv (assumptions.policyDocumentBytes * microsecondsPerSecond)
    assumptions.policyDistributionBandwidthBytesPerSecond
  let run ← propagate parents (policyEdgeDelay assumptions serialization) "publisher:0:0\n"
  let recipientTimes := sortedBy id (run.arrivalTimes.drop 1)
  let bytesPerUpdate := assumptions.policyDocumentBytes * (parents.length - 1)
  let p95 ← nearestRankPercentile recipientTimes 95
  let maximumTime ← itemAt recipientTimes (-1)
  .ok {
    recipientCount := parents.length - 1
    policyDocumentBytes := assumptions.policyDocumentBytes
    bytesTransmittedPerUpdate := bytesPerUpdate
    bytesTransmittedPerMonth := bytesPerUpdate * assumptions.policyUpdatesPerMonth
    updatesPerMonth := assumptions.policyUpdatesPerMonth
    modeledP95DistributionMicroseconds := p95
    modeledMaximumDistributionMicroseconds := maximumTime
    distributionTraceSha256 := traceSha256 run.trace }

end

end AegisOt
