import AegisOt.Evaluator.Fixture
import AegisOt.Misc.BreadthFirst
import AegisOt.Misc.SortedMap

/-!
# Source connectivity and served load

`_connected_buses` and `_topology_values` of the independent `evaluator.py`: a breadth-first
search from the buses of the sources that are in service, over the branches that are in service
after an override, and the sums of the loads that it reaches. A `Decimal` is the rational that it
is, and the sums and the percentages are exact.
-/

namespace AegisOt

/-! ## The graph -/

/-- `enabled`: whether a branch is in service after the override. -/
def FixtureBranch.enabled (branch : FixtureBranch) (branchOverride : Option (String × Bool)) :
    Bool :=
  match branchOverride with
  | none => branch.baselineInService
  | some (branchId, inService) =>
      if branch.branchId = branchId then inService else branch.baselineInService

theorem FixtureBranch.enabled_none (branch : FixtureBranch) :
    branch.enabled none = branch.baselineInService := rfl

theorem FixtureBranch.enabled_some (branch : FixtureBranch) (branchId : String)
    (inService : Bool) : branch.enabled (some (branchId, inService)) =
      if branch.branchId = branchId then inService else branch.baselineInService := rfl

/-- `dict[int, set[int]]`. -/
abbrev BusGraph := SortedMap ℤ (SortedMap ℤ Unit)

/-- `graph[start].add(end)`. -/
def addNeighbor (graph : BusGraph) (start stop : ℤ) : Except EvaluationError BusGraph := do
  let neighbors ← orRaise (graph.find? start) .keyError
  .ok (graph.insert start (neighbors.insert stop ()))

/-- One pass of the loop over the branches. -/
def addBranch (branchOverride : Option (String × Bool)) (graph : BusGraph)
    (branch : FixtureBranch) : Except EvaluationError BusGraph :=
  if branch.enabled branchOverride = true then do
    let graph ← addNeighbor graph branch.fromBus branch.toBus
    addNeighbor graph branch.toBus branch.fromBus
  else .ok graph

/-- `graph`, after the loop over the branches. -/
def buildGraph (fixture : FixtureFields) (branchOverride : Option (String × Bool)) :
    Except EvaluationError BusGraph :=
  fixture.branches.foldlM (addBranch branchOverride)
    (.ofEntries (fixture.buses.map fun bus => (bus, .empty)))

/-- `sorted(graph[current])`. -/
def BusGraph.neighbors (graph : BusGraph) (current : ℤ) : Except EvaluationError (List ℤ) := do
  let neighbors ← orRaise (graph.find? current) .keyError
  .ok neighbors.keys

/-- All neighbours of all buses. -/
def BusGraph.nodes (graph : BusGraph) : List ℤ :=
  SortedMap.values graph |>.flatMap SortedMap.keys

theorem BusGraph.neighbors_mem_nodes (graph : BusGraph) (current : ℤ) (found : List ℤ)
    (h : graph.neighbors current = .ok found) : ∀ bus ∈ found, bus ∈ graph.nodes := by
  rw [BusGraph.neighbors, bind_eq_ok] at h
  obtain ⟨neighbors, hneighbors, hfound⟩ := h
  cases hfound
  intro bus hbus
  exact List.mem_flatMap.mpr
    ⟨neighbors, SortedMap.mem_values.mpr ⟨current, orRaise_eq_ok.mp hneighbors⟩, hbus⟩

/-- The buses of the sources that are in service, a set in its sorted order. -/
def sourceBuses (fixture : FixtureFields) : List ℤ :=
  sortedBy id ((fixture.sources.filter fun source => source.inService).map
    FixtureSource.bus).dedup

/-- `_connected_buses`. The set that it returns has its members in the order of the search. -/
def connectedBuses (fixture : FixtureFields) (branchOverride : Option (String × Bool)) :
    Except EvaluationError (List ℤ) := do
  let graph ← buildGraph fixture branchOverride
  breadthFirst graph.neighbors graph.nodes graph.neighbors_mem_nodes
    ⟨sourceBuses fixture, sourceBuses fixture⟩

/-! ## Served load -/

/-- The sums of the loop over the loads. -/
structure TopologyTotals where
  totalDemand : ℚ
  served : ℚ
  priorityDemand : ℚ
  priorityServed : ℚ

section

variable [EvaluatorPrimitives]

/-- One pass of the loop over the loads. -/
def addTopologyLoad (reachable : List ℤ) (totals : TopologyTotals) (load : FixtureLoad) :
    Except EvaluationError TopologyTotals :=
  if load.inService = true then do
    let demand ← decimal load.pMw "fixture_load_p_mw"
    let supplied : Bool := decide (load.bus ∈ reachable)
    .ok {
      totalDemand := totals.totalDemand + demand
      served := if supplied then totals.served + demand else totals.served
      priorityDemand :=
        if load.priority then totals.priorityDemand + demand else totals.priorityDemand
      priorityServed :=
        if load.priority && supplied then totals.priorityServed + demand
        else totals.priorityServed }
  else .ok totals

/-- The result of `_topology_values`, with the values that its texts spell. -/
structure TopologyValues where
  sourceConnectedBusCount : ℕ
  totalLoadDemandMw : ℚ
  servedLoadMw : ℚ
  priorityLoadDemandMw : ℚ
  priorityLoadServedMw : ℚ
  totalLoadServedPct : ℚ
  priorityLoadServedPct : ℚ
  isolatedResources : List String

/-- The percentage that is served; all of no demand is served. -/
def servedLoadPct (served demand : ℚ) : ℚ := if demand = 0 then 100 else served * 100 / demand

/-- `_topology_values`. -/
def topologyValues (fixture : FixtureFields) (branchOverride : Option (String × Bool))
    (isolatedResources : List String) : Except EvaluationError TopologyValues := do
  let reachable ← connectedBuses fixture branchOverride
  let totals ← fixture.loads.foldlM (addTopologyLoad reachable) ⟨0, 0, 0, 0⟩
  .ok {
    sourceConnectedBusCount := reachable.length
    totalLoadDemandMw := totals.totalDemand
    servedLoadMw := totals.served
    priorityLoadDemandMw := totals.priorityDemand
    priorityLoadServedMw := totals.priorityServed
    totalLoadServedPct := servedLoadPct totals.served totals.totalDemand
    priorityLoadServedPct := servedLoadPct totals.priorityServed totals.priorityDemand
    isolatedResources }

end

end AegisOt
