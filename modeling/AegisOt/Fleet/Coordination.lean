import AegisOt.Fleet.Distribution

/-!
# Approvals and reconciliation

`_coordination_samples` and `_model_approval_and_coordination` of `m6_fleet.py`: how many
approvals are open at the sampled instants, which effects are pending, and the queue that
reconciles them.
-/

namespace AegisOt

/-- `range(0, stop, step)`. -/
def rangeBy (stop step : ℤ) : Except FleetError (List ℤ) := do
  refuseIf (step = 0) (.valueError "range() arg 3 must not be zero")
  .ok ((rangeTo (-(-stop).fdiv step)).map (· * step))

/-- `_coordination_samples`. -/
def coordinationSamples (starts completions : List ℤ)
    (horizonMicroseconds sampleMicroseconds : ℤ) : Except FleetError (List ℤ) := do
  let sortedStarts := sortedBy id starts
  let sortedCompletions := sortedBy id completions
  let timestamps ← rangeBy horizonMicroseconds sampleMicroseconds
  .ok (timestamps.map fun timestamp =>
    (bisectRight sortedStarts timestamp : ℤ) - bisectRight sortedCompletions timestamp)

/-- `ApprovalCoordinationResult`. -/
structure ApprovalCoordinationResult where
  actionRequestsRequiringApproval : ℤ
  approvalConcurrencySampleCount : ℤ
  modeledMeanConcurrentApprovals : ℚ
  modeledP95ConcurrentApprovals : ℤ
  modeledPeakConcurrentApprovals : ℤ
  approvalDurationMicroseconds : ℤ
  replayStateEntriesAtHorizon : ℤ
  modeledReplayStateBytesAtHorizon : ℤ
  pendingEffectCandidateActionRequests : ℤ
  pendingEffectsCreated : ℤ
  reconciliationCompletionsWithinHorizon : ℤ
  unresolvedEffectsAtHorizon : ℤ
  reconciliationBacklogSampleCount : ℤ
  modeledP95ReconciliationBacklogEffects : ℤ
  modeledMaximumReconciliationBacklogEffects : ℤ
  approvalTraceSha256 : String
  reconciliationTraceSha256 : String

section

variable [FleetPrimitives]

/-- `reconciliation_service_span`. -/
def reconciliationServiceSpan (assumptions : FleetModelAssumptionsFields) : ℤ :=
  assumptions.reconciliationServiceTimeMaxMicroseconds -
    assumptions.reconciliationServiceTimeMinMicroseconds + 1

/-- The time that the reconciliation of an action takes. -/
def reconciliationTime (assumptions : FleetModelAssumptionsFields) (action : FleetAction) :
    Except FleetError ℤ := do
  let offset ← deterministicOffset assumptions.seed "reconciliation-service-v2"
    [action.event.agentIndex, action.event.eventOrdinal]
    (reconciliationServiceSpan assumptions)
  .ok (assumptions.reconciliationServiceTimeMinMicroseconds + offset)

/-- The variables of the loop over the pending actions. -/
structure ReconciliationRun where
  workers : List ℤ
  completions : List ℤ
  trace : List String

/-- One pass of the loop over the pending actions. -/
def reconcile (assumptions : FleetModelAssumptionsFields) (run : ReconciliationRun)
    (action : FleetAction) : Except FleetError ReconciliationRun := do
  let (available, workers) ← heappop run.workers
  let start := max action.event.arrival available
  let service ← reconciliationTime assumptions action
  let completion := start + service
  .ok {
    workers := heappush workers completion
    completions := run.completions ++ [completion]
    trace := run.trace ++ [action.event.text ++ "," ++ action.category.name ++ "," ++
      toString start ++ "," ++ toString completion ++ "\n"] }

/-- The first line of the reconciliation trace. -/
def reconciliationLine (assumptions : FleetModelAssumptionsFields) : String :=
  "workers=" ++ toString assumptions.reconciliationWorkerCount ++ ",service=" ++
    toString assumptions.reconciliationServiceTimeMinMicroseconds ++ "-" ++
    toString assumptions.reconciliationServiceTimeMaxMicroseconds ++ ",pending_basis_points=" ++
    toString assumptions.pendingEffectBasisPoints ++ "\n"

/-- The reconciliation queue. -/
def reconcileAll (pendingActions : List FleetAction)
    (assumptions : FleetModelAssumptionsFields) : Except FleetError ReconciliationRun :=
  pendingActions.foldlM (reconcile assumptions)
    ⟨List.replicate assumptions.reconciliationWorkerCount.toNat 0, [],
      [reconciliationLine assumptions]⟩

/-- `pending_actions` of the candidates for an effect. -/
def pendingActions (candidates : List FleetAction) (assumptions : FleetModelAssumptionsFields) :
    Except FleetError (List FleetAction) := do
  let counts ← fixedDistributionCounts candidates.length
    [assumptions.pendingEffectBasisPoints, 10000 - assumptions.pendingEffectBasisPoints]
  let pendingCount ← orRaise counts[0]? .indexError
  let ranked ← rankedBy assumptions.seed "pending-effect-selection-v2" FleetAction.event
    FleetAction.key candidates
  let identities := (ranked.take pendingCount.toNat).map fun action => action.event.identity
  .ok (candidates.filter fun action => action.event.identity ∈ identities)

/-- The approval trace. -/
def approvalTrace (approvals : List FleetAction) (assumptions : FleetModelAssumptionsFields) :
    List String :=
  ("duration=" ++ toString assumptions.approvalDurationMicroseconds ++ ",sample=" ++
      toString assumptions.concurrencySampleMicroseconds ++ "\n") ::
    approvals.map fun action =>
      toString action.event.arrival ++ "," ++
        toString (action.event.arrival + assumptions.approvalDurationMicroseconds) ++ "," ++
        toString action.event.agentIndex ++ "," ++ toString action.event.eventOrdinal ++ "," ++
        action.category.name ++ "\n"

/-- `_model_approval_and_coordination`. -/
def modelApprovalAndCoordination (actions : List FleetAction)
    (assumptions : FleetModelAssumptionsFields) :
    Except FleetError ApprovalCoordinationResult := do
  let horizon := assumptions.horizonMicroseconds
  let approvals := actions.filter fun action =>
    action.category ∈ [.provisionalUnapproved, .conflictingConsequential]
  let approvalStarts := approvals.map fun action => action.event.arrival
  let approvalCompletions := approvalStarts.map (· + assumptions.approvalDurationMicroseconds)
  let approvalSamples ← coordinationSamples approvalStarts approvalCompletions horizon
    assumptions.concurrencySampleMicroseconds
  let candidates := actions.filter fun action => action.category ≠ .readOnly
  let pending ← pendingActions candidates assumptions
  let run ← reconcileAll pending assumptions
  let backlogSamples ← coordinationSamples (pending.map fun action => action.event.arrival)
    run.completions horizon assumptions.concurrencySampleMicroseconds
  let within : ℤ := run.completions.countP (fun completion => completion ≤ horizon)
  let mean ← divide approvalSamples.sum approvalSamples.length
  let mean ← quantize mean
  let p95 ← nearestRankPercentile (sortedBy id approvalSamples) 95
  let peak ← maximum approvalSamples
  let backlogP95 ← nearestRankPercentile (sortedBy id backlogSamples) 95
  let backlogMaximum ← maximum backlogSamples
  .ok {
    actionRequestsRequiringApproval := approvals.length
    approvalConcurrencySampleCount := approvalSamples.length
    modeledMeanConcurrentApprovals := mean
    modeledP95ConcurrentApprovals := p95
    modeledPeakConcurrentApprovals := peak
    approvalDurationMicroseconds := assumptions.approvalDurationMicroseconds
    replayStateEntriesAtHorizon := actions.length
    modeledReplayStateBytesAtHorizon := actions.length * assumptions.replayStateBytesPerEntry
    pendingEffectCandidateActionRequests := candidates.length
    pendingEffectsCreated := pending.length
    reconciliationCompletionsWithinHorizon := within
    unresolvedEffectsAtHorizon := pending.length - within
    reconciliationBacklogSampleCount := backlogSamples.length
    modeledP95ReconciliationBacklogEffects := backlogP95
    modeledMaximumReconciliationBacklogEffects := backlogMaximum
    approvalTraceSha256 := traceSha256 (approvalTrace approvals assumptions)
    reconciliationTraceSha256 := traceSha256 run.trace }

end

end AegisOt
