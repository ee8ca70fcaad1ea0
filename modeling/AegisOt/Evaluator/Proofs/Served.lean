import AegisOt.Evaluator.Proofs.Connected
import Mathlib.Algebra.Order.BigOperators.Group.List
import Mathlib.Tactic.Linarith
import Mathlib.Tactic.Ring

/-!
# The load that is served

The served load is the sum of the loads in service on the connected buses, the priority load that
is served is a part of it, and it is a part of the demand. Fewer branches in service connect fewer
buses and serve no more.
-/

namespace AegisOt

section

variable [EvaluatorPrimitives]

/-- What the loads with a property take together. -/
def demandOf (loads : List FixtureLoad) (p : FixtureLoad → Bool) : ℚ :=
  ((loads.filter p).map FixtureLoad.demand).sum

variable {loads : List FixtureLoad} {p q : FixtureLoad → Bool}

theorem demandOf_cons (load : FixtureLoad) (loads : List FixtureLoad) (p : FixtureLoad → Bool) :
    demandOf (load :: loads) p = (if p load then load.demand else 0) + demandOf loads p := by
  unfold demandOf
  rw [List.filter_cons]
  split_ifs
  · rw [List.map_cons, List.sum_cons]
  · rw [zero_add]

/-- More loads take no less. -/
theorem demandOf_mono (hnonneg : ∀ load ∈ loads, 0 ≤ load.demand)
    (h : ∀ load ∈ loads, p load = true → q load = true) : demandOf loads p ≤ demandOf loads q := by
  induction loads with
  | nil => exact le_rfl
  | cons load loads ih =>
    obtain ⟨hload, hrest⟩ := List.forall_mem_cons.mp hnonneg
    obtain ⟨hfirst, hlater⟩ := List.forall_mem_cons.mp h
    rw [demandOf_cons, demandOf_cons]
    refine add_le_add ?_ (ih hrest hlater)
    by_cases hp : p load = true
    · rw [if_pos hp, if_pos (hfirst hp)]
    · rw [if_neg hp]
      split_ifs
      · exact hload
      · exact le_rfl

/-! ## The loop over the loads -/

/-- The sums over the loads in service, on the buses that are reached. -/
def totalsOf (loads : List FixtureLoad) (reachable : List ℤ) : TopologyTotals where
  totalDemand := demandOf loads fun load => load.inService
  served := demandOf loads fun load => load.inService && decide (load.bus ∈ reachable)
  priorityDemand := demandOf loads fun load => load.inService && load.priority
  priorityServed := demandOf loads fun load =>
    load.inService && load.priority && decide (load.bus ∈ reachable)

/-- The loop adds the sums. -/
theorem foldlM_addTopologyLoad (reachable : List ℤ)
    (hloads : ∀ load ∈ loads, decimal load.pMw "fixture_load_p_mw" = .ok load.demand)
    (totals : TopologyTotals) :
    loads.foldlM (addTopologyLoad reachable) totals = .ok {
      totalDemand := totals.totalDemand + (totalsOf loads reachable).totalDemand
      served := totals.served + (totalsOf loads reachable).served
      priorityDemand := totals.priorityDemand + (totalsOf loads reachable).priorityDemand
      priorityServed := totals.priorityServed + (totalsOf loads reachable).priorityServed } := by
  induction loads generalizing totals with
  | nil => simp [totalsOf, demandOf]
  | cons load loads ih =>
    obtain ⟨hload, hrest⟩ := List.forall_mem_cons.mp hloads
    simp only [totalsOf, demandOf_cons] at ih ⊢
    rw [List.foldlM_cons, addTopologyLoad]
    by_cases hservice : load.inService = true
    · rw [if_pos hservice, hload, ok_bind, ok_bind, ih hrest]
      by_cases hreached : load.bus ∈ reachable
      · by_cases hpriority : load.priority = true
        · simp [hservice, hreached, hpriority, add_assoc]
        · simp [hservice, hreached, hpriority, add_assoc]
      · by_cases hpriority : load.priority = true
        · simp [hservice, hreached, hpriority, add_assoc]
        · simp [hservice, hreached, hpriority, add_assoc]
    · rw [if_neg hservice, ok_bind, ih hrest]
      simp [hservice]

/-- The consequence is computed, from the buses that the search finds. -/
theorem exists_topologyValues (fixture : Fixture) (branchOverride : Option (String × Bool))
    (isolatedResources : List String) :
    ∃ reachable values,
      connectedBuses fixture.toFixtureFields branchOverride = .ok reachable ∧
      reachable.Nodup ∧
      (∀ bus, bus ∈ reachable ↔ Connected fixture.toFixtureFields branchOverride bus) ∧
      topologyValues fixture.toFixtureFields branchOverride isolatedResources = .ok values ∧
      values.sourceConnectedBusCount = reachable.length ∧
      values.totalLoadDemandMw = (totalsOf fixture.loads reachable).totalDemand ∧
      values.servedLoadMw = (totalsOf fixture.loads reachable).served ∧
      values.priorityLoadDemandMw = (totalsOf fixture.loads reachable).priorityDemand ∧
      values.priorityLoadServedMw = (totalsOf fixture.loads reachable).priorityServed := by
  obtain ⟨reachable, hreachable, hnodup, hmem⟩ := exists_connectedBuses fixture branchOverride
  have htotals := foldlM_addTopologyLoad reachable
    (fun load hload => (fixture.load_demand load hload).1) ⟨0, 0, 0, 0⟩
  simp only [zero_add] at htotals
  have hvalues : topologyValues fixture.toFixtureFields branchOverride isolatedResources = .ok
      ⟨reachable.length, (totalsOf fixture.loads reachable).totalDemand,
        (totalsOf fixture.loads reachable).served,
        (totalsOf fixture.loads reachable).priorityDemand,
        (totalsOf fixture.loads reachable).priorityServed,
        servedLoadPct (totalsOf fixture.loads reachable).served
          (totalsOf fixture.loads reachable).totalDemand,
        servedLoadPct (totalsOf fixture.loads reachable).priorityServed
          (totalsOf fixture.loads reachable).priorityDemand, isolatedResources⟩ := by
    rw [topologyValues, hreachable, ok_bind, htotals, ok_bind]
  exact ⟨reachable, _, hreachable, hnodup, hmem, hvalues, rfl, rfl, rfl, rfl, rfl⟩

/-! ## Fewer branches -/

/-- The topologies have the same sources and loads, and the branches that are in service in the
    first are also in service in the second. -/
structure FewerInService (fixture : FixtureFields) (branchOverride : Option (String × Bool))
    (fixture' : FixtureFields) (branchOverride' : Option (String × Bool)) : Prop where
  sources : fixture.sources = fixture'.sources
  loads : fixture.loads = fixture'.loads
  branches : ∀ branch ∈ fixture.branches, branch.enabled branchOverride = true →
    ∃ branch' ∈ fixture'.branches, branch'.enabled branchOverride' = true ∧
      branch'.fromBus = branch.fromBus ∧ branch'.toBus = branch.toBus

section

variable {fixture fixture' : FixtureFields}
  {branchOverride branchOverride' : Option (String × Bool)}

omit [EvaluatorPrimitives] in
/-- Fewer branches connect fewer buses. -/
theorem FewerInService.connected
    (h : FewerInService fixture branchOverride fixture' branchOverride') {bus : ℤ}
    (hbus : Connected fixture branchOverride bus) :
    Connected fixture' branchOverride' bus := by
  obtain ⟨source, hsource, hservice, hpath⟩ := hbus
  refine ⟨source, h.sources ▸ hsource, hservice, ?_⟩
  refine Relation.ReflTransGen.mono (fun a b hjoined => ?_) _ _ hpath
  obtain ⟨branch, hbranch, henabled, hends⟩ := hjoined
  obtain ⟨branch', hbranch', henabled', hfrom, hto⟩ := h.branches branch hbranch henabled
  exact ⟨branch', hbranch', henabled', by rw [hfrom, hto]; exact hends⟩

omit [EvaluatorPrimitives] in
/-- Taking a branch out of service leaves fewer in service than there are. -/
theorem fewerInService_disable (fixture : FixtureFields) (branchId : String) :
    FewerInService fixture (some (branchId, false)) fixture none := by
  refine ⟨rfl, rfl, fun branch hbranch henabled => ⟨branch, hbranch, ?_, rfl, rfl⟩⟩
  rw [FixtureBranch.enabled_some] at henabled
  rw [FixtureBranch.enabled_none]
  split_ifs at henabled
  exact henabled

omit [EvaluatorPrimitives] in
/-- Putting a branch into service leaves no fewer in service. -/
theorem fewerInService_enable (fixture : FixtureFields) (branchId : String) :
    FewerInService fixture none fixture (some (branchId, true)) := by
  refine ⟨rfl, rfl, fun branch hbranch henabled => ⟨branch, hbranch, ?_, rfl, rfl⟩⟩
  rw [FixtureBranch.enabled_none] at henabled
  rw [FixtureBranch.enabled_some]
  split_ifs
  · rfl
  · exact henabled

end

/-- What is served with one topology is no more than with the other. -/
def ServesNoMore (values values' : TopologyValues) : Prop :=
  values.servedLoadMw ≤ values'.servedLoadMw ∧
    values.priorityLoadServedMw ≤ values'.priorityLoadServedMw

/-- Fewer branches serve no more. -/
theorem FewerInService.servesNoMore {fixture fixture' : Fixture}
    {branchOverride branchOverride' : Option (String × Bool)}
    (h : FewerInService fixture.toFixtureFields branchOverride fixture'.toFixtureFields
      branchOverride') {isolated isolated' : List String} {values values' : TopologyValues}
    (hvalues : topologyValues fixture.toFixtureFields branchOverride isolated = .ok values)
    (hvalues' : topologyValues fixture'.toFixtureFields branchOverride' isolated' = .ok values') :
    ServesNoMore values values' := by
  obtain ⟨reachable, _, -, -, hmem, hcomputed, -, -, hserved, -, hpriority⟩ :=
    exists_topologyValues fixture branchOverride isolated
  obtain ⟨reachable', _, -, -, hmem', hcomputed', -, -, hserved', -, hpriority'⟩ :=
    exists_topologyValues fixture' branchOverride' isolated'
  rw [hvalues] at hcomputed
  rw [hvalues'] at hcomputed'
  cases hcomputed
  cases hcomputed'
  have hsubset : ∀ bus ∈ reachable, bus ∈ reachable' := fun bus hbus =>
    (hmem' bus).mpr (h.connected ((hmem bus).mp hbus))
  have hnonneg : ∀ load ∈ fixture.loads, 0 ≤ load.demand := fun load hload =>
    (fixture.load_demand load hload).2
  constructor
  · rw [hserved, hserved', ← h.loads]
    refine demandOf_mono hnonneg fun load _ hload => ?_
    rw [Bool.and_eq_true, decide_eq_true_eq] at hload ⊢
    exact ⟨hload.1, hsubset _ hload.2⟩
  · rw [hpriority, hpriority', ← h.loads]
    refine demandOf_mono hnonneg fun load _ hload => ?_
    rw [Bool.and_eq_true, decide_eq_true_eq] at hload ⊢
    exact ⟨hload.1, hsubset _ hload.2⟩

/-- For every valid fixture and override the search ends with the buses that branches in service
    join to a source in service, the sums are those of the loads in service on these buses, the
    priority load is a part of the served load and this of the demand. Topologies with fewer
    branches in service serve no more, and so neither does a fixture after a branch of it is
    disabled, or before one is enabled. -/
theorem topologyValues_exact (fixture : Fixture) :
    (∀ branchOverride isolated, ∃ reachable values,
      connectedBuses fixture.toFixtureFields branchOverride = .ok reachable ∧
      reachable.Nodup ∧
      (∀ bus, bus ∈ reachable ↔ Connected fixture.toFixtureFields branchOverride bus) ∧
      topologyValues fixture.toFixtureFields branchOverride isolated = .ok values ∧
      values.sourceConnectedBusCount = reachable.length ∧
      values.totalLoadDemandMw = demandOf fixture.loads (fun load => load.inService) ∧
      values.servedLoadMw = demandOf fixture.loads
        (fun load => load.inService && decide (load.bus ∈ reachable)) ∧
      values.priorityLoadServedMw = demandOf fixture.loads
        (fun load => load.inService && load.priority && decide (load.bus ∈ reachable)) ∧
      values.priorityLoadServedMw ≤ values.servedLoadMw ∧
      values.servedLoadMw ≤ values.totalLoadDemandMw) ∧
    (∀ (fixture' : Fixture) branchOverride branchOverride' isolated isolated' values values',
      FewerInService fixture.toFixtureFields branchOverride fixture'.toFixtureFields
        branchOverride' →
      topologyValues fixture.toFixtureFields branchOverride isolated = .ok values →
      topologyValues fixture'.toFixtureFields branchOverride' isolated' = .ok values' →
      ServesNoMore values values') ∧
    ∀ branchId isolated isolated' isolated'' disabled baseline enabled,
      topologyValues fixture.toFixtureFields (some (branchId, false)) isolated = .ok disabled →
      topologyValues fixture.toFixtureFields none isolated' = .ok baseline →
      topologyValues fixture.toFixtureFields (some (branchId, true)) isolated'' = .ok enabled →
      ServesNoMore disabled baseline ∧ ServesNoMore baseline enabled := by
  refine ⟨fun branchOverride isolated => ?_, ?_, ?_⟩
  · obtain ⟨reachable, values, hreachable, hnodup, hmem, hvalues, hcount, htotal, hserved, -,
      hpriority⟩ := exists_topologyValues fixture branchOverride isolated
    have hnonneg : ∀ load ∈ fixture.loads, 0 ≤ load.demand := fun load hload =>
      (fixture.load_demand load hload).2
    refine ⟨reachable, values, hreachable, hnodup, hmem, hvalues, hcount, htotal, hserved,
      hpriority, ?_, ?_⟩
    · rw [hpriority, hserved]
      refine demandOf_mono hnonneg fun load _ hload => ?_
      rw [Bool.and_eq_true, Bool.and_eq_true] at hload
      rw [Bool.and_eq_true]
      exact ⟨hload.1.1, hload.2⟩
    · rw [hserved, htotal]
      refine demandOf_mono hnonneg fun load _ hload => ?_
      exact (Bool.and_eq_true _ _ ▸ hload).1
  · intro fixture' branchOverride branchOverride' isolated isolated' values values' h
    exact h.servesNoMore
  · intro branchId isolated isolated' isolated'' disabled baseline enabled hdisabled hbaseline
      henabled
    exact ⟨(fewerInService_disable fixture.toFixtureFields branchId).servesNoMore hdisabled
      hbaseline, (fewerInService_enable fixture.toFixtureFields branchId).servesNoMore hbaseline
      henabled⟩

end

namespace FixtureSample

/-- A digest of zeros, and the value of one text. -/
scoped instance evaluatorPrimitives : EvaluatorPrimitives where
  canonicalDigest _ := String.ofList (List.replicate 64 '0')
  finiteDecimal text := if text = "1.5" then some (3 / 2) else none

/-- A source, two lines to one load beside it, and a line from a bus to itself. -/
def parallelLinesFields : FixtureFields where
  schemaVersion := fixtureSchemaVersion
  fixtureId := "parallel-lines"
  source := .null
  buses := [1, 2]
  branches := [⟨"line-a", "line", 0, 1, 2, true⟩, ⟨"line-b", "line", 1, 1, 2, false⟩,
    ⟨"line-c", "line", 2, 2, 2, true⟩]
  sources := [⟨"grid", 1, true⟩]
  loads := [⟨"pump", 2, "1.5", true, true⟩]
  controlledResources := [⟨"breaker", "set_line_service", "line-a", "line", 0⟩]
  fixtureDigest := String.ofList (List.replicate 64 '0')

theorem parallelLines_valid : validateFixture parallelLinesFields = .ok () := by
  have hsorted : sortedBy id ([1, 2] : List ℤ) = [1, 2] :=
    List.mergeSort_of_pairwise (by decide)
  rw [validateFixture, parallelLinesFields]
  dsimp only
  rw [hsorted]
  decide +kernel

def parallelLines : Fixture := ⟨parallelLinesFields, parallelLines_valid⟩

end FixtureSample

section

open FixtureSample

theorem topologyValues_parallelLines :
    ∃ reachable values,
      connectedBuses parallelLines.toFixtureFields (some ("line-a", false)) = .ok reachable ∧
      topologyValues parallelLines.toFixtureFields (some ("line-a", false)) ["breaker"] =
        .ok values ∧
      values.priorityLoadServedMw ≤ values.servedLoadMw ∧
      values.servedLoadMw ≤ values.totalLoadDemandMw := by
  obtain ⟨reachable, values, hreachable, -, -, hvalues, -, -, -, -, hpriority, hserved⟩ :=
    (topologyValues_exact parallelLines).1 (some ("line-a", false)) ["breaker"]
  exact ⟨reachable, values, hreachable, hvalues, hpriority, hserved⟩

end

end AegisOt
