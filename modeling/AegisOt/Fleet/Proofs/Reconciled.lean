import AegisOt.Fleet.Proofs.Samples
import AegisOt.Fleet.Proofs.Tree
import AegisOt.Fleet.Proofs.Workload

/-!
# Approvals and the reconciliation queue

Of the actions of a workload, the approvals and the pending effects are sampled at instants of
which there is one at least. The reconciliation of an effect ends after its arrival, so what is
sampled there are the effects that are not reconciled.
-/

namespace AegisOt

/-! ## The sampled instants -/

theorem exists_rangeBy {stop step : ℤ} (hstop : 0 < stop) (hstep : 0 < step) :
    ∃ instants, rangeBy stop step = .ok instants ∧ instants ≠ [] := by
  have hcount : 0 < -(-stop).fdiv step := by
    rw [Int.fdiv_eq_ediv_of_nonneg _ hstep.le]
    exact ceil_pos hstep hstop
  refine ⟨_, by rw [rangeBy, refuseIf_neg hstep.ne', ok_bind], ?_⟩
  rw [← List.length_pos_iff, List.length_map, rangeTo, List.length_map, List.length_range]
  omega

section

variable [FleetPrimitives] {assumptions : FleetModelAssumptionsFields}

omit [FleetPrimitives] in
theorem FleetModelAssumptionsFields.Accepted.horizon_pos (h : assumptions.Accepted) :
    0 < assumptions.horizonMicroseconds := by
  have hseconds := h.integers.horizonSeconds.1
  unfold FleetModelAssumptionsFields.horizonMicroseconds microsecondsPerSecond
  omega

omit [FleetPrimitives] in
/-- The samples are counts of at most all intervals. -/
theorem exists_coordinationSamples (h : assumptions.Accepted) (starts completions : List ℤ)
    (hlength : starts.length = completions.length)
    (horder : ∀ interval ∈ starts.zip completions, interval.1 ≤ interval.2) :
    ∃ samples, coordinationSamples starts completions assumptions.horizonMicroseconds
        assumptions.concurrencySampleMicroseconds = .ok samples ∧ samples ≠ [] ∧
      ∀ value ∈ samples, 0 ≤ value ∧ value ≤ starts.length := by
  have hstep : 0 < assumptions.concurrencySampleMicroseconds := by
    linarith [h.integers.concurrencySample.1]
  obtain ⟨instants, hinstants, hne⟩ := exists_rangeBy h.horizon_pos hstep
  refine ⟨instants.map fun t => (openIntervals (starts.zip completions) t : ℤ), ?_, ?_, ?_⟩
  · rw [coordinationSamples_eq_map hlength horder, hinstants]
    rfl
  · simpa using hne
  · intro value hvalue
    obtain ⟨t, -, rfl⟩ := List.mem_map.mp hvalue
    have hle := openIntervals_le_length (starts.zip completions) t
    rw [List.length_zip, hlength, min_self] at hle
    exact ⟨Int.natCast_nonneg _, by rw [hlength]; exact_mod_cast hle⟩

/-! ## The pending effects -/

theorem exists_pendingActions (h : assumptions.Accepted) (candidates : List FleetAction) :
    ∃ pending, pendingActions candidates assumptions = .ok pending := by
  have hbounds := h.integers.pendingEffect
  have hshares : ∀ share ∈ [assumptions.pendingEffectBasisPoints,
      10000 - assumptions.pendingEffectBasisPoints], 0 ≤ share := by
    simp only [List.forall_mem_cons, List.not_mem_nil, false_implies, implies_true, and_true]
    omega
  obtain ⟨counts, hcounts, hlargest⟩ := fixedDistributionCounts_eq_ok
    (Int.natCast_nonneg candidates.length) hshares (by simp)
  obtain ⟨count, hcount⟩ : ∃ count, counts[0]? = some count := by
    refine ⟨_, List.getElem?_eq_getElem ?_⟩
    rw [hlargest.length_eq]
    exact Nat.zero_lt_two
  obtain ⟨ranked, hranked, -⟩ := exists_rankedBy assumptions.seed "pending-effect-selection-v2"
    FleetAction.event FleetAction.key candidates
  rw [pendingActions, hcounts, ok_bind, hcount, orRaise, ok_bind, hranked, ok_bind]
  exact ⟨_, rfl⟩

/-- What the variables of the loop are after some actions. -/
structure ReconciliationRun.Reconciled (actions : List FleetAction) (run : ReconciliationRun) :
    Prop where
  workers : run.workers ≠ []
  completions : List.Forall₂ (fun action completion => action.event.arrival ≤ completion) actions
    run.completions

theorem ReconciliationRun.Reconciled.reconcile (h : assumptions.Accepted)
    {actions : List FleetAction} {run : ReconciliationRun} (hrun : run.Reconciled actions)
    (action : FleetAction) :
    ∃ run', AegisOt.reconcile assumptions run action = .ok run' ∧
      run'.Reconciled (actions ++ [action]) := by
  have hspan : 0 < reconciliationServiceSpan assumptions := by
    have htimes := h.reconciliationTimes
    unfold reconciliationServiceSpan
    omega
  have htime : reconciliationTime assumptions action = .ok
      (assumptions.reconciliationServiceTimeMinMicroseconds +
        offsetOf assumptions.seed "reconciliation-service-v2"
          [action.event.agentIndex, action.event.eventOrdinal]
          (reconciliationServiceSpan assumptions)) := by
    rw [reconciliationTime, deterministicOffset_eq_ok _ _ _ hspan, ok_bind]
  have hoffset : 0 ≤ offsetOf assumptions.seed "reconciliation-service-v2"
      [action.event.agentIndex, action.event.eventOrdinal]
      (reconciliationServiceSpan assumptions) := Int.emod_nonneg _ hspan.ne'
  obtain ⟨available, rest, hworkers⟩ := List.exists_cons_of_ne_nil hrun.workers
  rw [AegisOt.reconcile, hworkers, heappop, ok_bind]
  dsimp only
  rw [htime, ok_bind]
  refine ⟨_, rfl, ?_, ?_⟩
  · rw [← List.length_pos_iff, (heappush_perm _ _).length_eq, List.length_cons]
    omega
  · refine List.rel_append hrun.completions (.cons ?_ .nil)
    have hmin := h.integers.reconciliationMin.1
    have hstart := le_max_left action.event.arrival available
    linarith

/-- The reconciliation of every pending effect ends after its arrival. -/
theorem exists_reconcileAll (h : assumptions.Accepted) (pending : List FleetAction) :
    ∃ run, reconcileAll pending assumptions = .ok run ∧ run.Reconciled pending := by
  have hworkers : List.replicate assumptions.reconciliationWorkerCount.toNat (0 : ℤ) ≠ [] := by
    have hpositive := h.integers.reconciliationWorkers.1
    rw [← List.length_pos_iff, List.length_replicate]
    omega
  refine foldlM_ok (P := fun actions (run : ReconciliationRun) => run.Reconciled actions)
    ⟨hworkers, .nil⟩ ?_
  intro done action rest run _ hrun
  exact hrun.reconcile h action

omit [FleetPrimitives] in
theorem ReconciliationRun.Reconciled.order {actions : List FleetAction} {run : ReconciliationRun}
    (h : run.Reconciled actions) :
    ∀ interval ∈ (actions.map fun action => action.event.arrival).zip run.completions,
      interval.1 ≤ interval.2 := by
  intro interval hinterval
  have hcompletions := List.forall₂_map_left_iff.mpr h.completions
  exact (List.forall₂_iff_zip.mp hcompletions).2 hinterval

/-! ## The result -/

omit [FleetPrimitives] in
/-- Approvals that all last as long do not end before they begin. -/
theorem zip_map_add_order {starts : List ℤ} {duration : ℤ} (hduration : 0 ≤ duration) :
    ∀ interval ∈ starts.zip (starts.map (· + duration)), interval.1 ≤ interval.2 := by
  have hall : List.Forall₂ (fun start completion => start ≤ completion) starts
      (starts.map (· + duration)) := by
    rw [List.forall₂_map_right_iff, List.forall₂_same]
    intro start _
    exact le_add_of_nonneg_right hduration
  exact fun interval hinterval => (List.forall₂_iff_zip.mp hall).2 hinterval

omit [FleetPrimitives] in
/-- The mean of samples in a bound is quantized. -/
theorem exists_mean {samples : List ℤ} (hne : samples ≠ []) {bound : ℤ}
    (hsamples : ∀ value ∈ samples, 0 ≤ value ∧ value ≤ bound) (hbound : bound ≤ 10 ^ 21) :
    ∃ quotient mean, divide samples.sum samples.length = .ok quotient ∧
      quantize quotient = .ok mean := by
  have hlength : (0 : ℤ) < samples.length := by exact_mod_cast List.length_pos_iff.mpr hne
  have hcast : (0 : ℚ) < samples.length := by exact_mod_cast hlength
  have hnonneg : 0 ≤ samples.sum := List.sum_nonneg fun value hvalue => (hsamples value hvalue).1
  have hsum := List.sum_le_card_nsmul samples bound fun value hvalue => (hsamples value hvalue).2
  rw [nsmul_eq_mul, mul_comm] at hsum
  exact ⟨_, _, divide_eq_ok hcast, quantize_ratio _ _ bound hnonneg hlength hsum hbound⟩

/-- The model of approvals and reconciliation returns for every list of actions. -/
theorem exists_modelApprovalAndCoordination (h : assumptions.Accepted) {actions : List FleetAction}
    (hcount : actions.length ≤ 250000) :
    ∃ result, modelApprovalAndCoordination actions assumptions = .ok result := by
  have hduration : 0 ≤ assumptions.approvalDurationMicroseconds := by
    linarith [h.integers.approvalDuration.1]
  obtain ⟨samples, hsamples, hne, hvalues⟩ := exists_coordinationSamples h
    ((actions.filter fun action => action.category ∈
      [ActionCategory.provisionalUnapproved, .conflictingConsequential]).map
        fun action => action.event.arrival) _ (List.length_map _).symm
    (zip_map_add_order hduration)
  have hbound (value : ℤ) (hvalue : value ∈ samples) : 0 ≤ value ∧ value ≤ 250000 := by
    obtain ⟨hnonneg, hle⟩ := hvalues value hvalue
    rw [List.length_map] at hle
    have hfilter := List.length_filter_le (fun action : FleetAction => action.category ∈
      [ActionCategory.provisionalUnapproved, .conflictingConsequential]) actions
    exact ⟨hnonneg, by omega⟩
  obtain ⟨quotient, mean, hquotient, hmean⟩ := exists_mean hne hbound (by norm_num)
  obtain ⟨pending, hpending⟩ := exists_pendingActions h
    (actions.filter fun action => action.category ≠ .readOnly)
  obtain ⟨run, hrun, hreconciled⟩ := exists_reconcileAll h pending
  obtain ⟨backlog, hbacklog, hbacklogNe, -⟩ := exists_coordinationSamples h _ _
    (by rw [List.length_map, hreconciled.completions.length_eq]) hreconciled.order
  obtain ⟨p95, hp95⟩ := exists_percentile95 hne
  obtain ⟨backlogP95, hbacklogP95⟩ := exists_percentile95 hbacklogNe
  obtain ⟨peak, hpeak⟩ := exists_maximum hne
  obtain ⟨backlogMaximum, hbacklogMaximum⟩ := exists_maximum hbacklogNe
  rw [modelApprovalAndCoordination]
  dsimp only
  rw [hsamples, ok_bind, hpending, ok_bind, hrun, ok_bind, hbacklog, ok_bind, hquotient, ok_bind,
    hmean, ok_bind, hp95, ok_bind, hpeak, ok_bind, hbacklogP95, ok_bind, hbacklogMaximum, ok_bind]
  exact ⟨_, rfl⟩

end

end AegisOt
