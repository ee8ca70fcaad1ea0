import AegisOt.Evaluator.Topology

/-!
# The buses that are connected

The graph has an edge between the ends of every branch in service and no other, so that the
search finds the buses that paths of such branches join to a source in service.
-/

namespace AegisOt

/-! ## Purpose -/

/-- A branch in service joins the two buses. -/
def Joined (fixture : FixtureFields) (branchOverride : Option (String × Bool)) (a b : ℤ) : Prop :=
  ∃ branch ∈ fixture.branches, branch.enabled branchOverride = true ∧
    (branch.fromBus = a ∧ branch.toBus = b ∨ branch.fromBus = b ∧ branch.toBus = a)

/-- A path of branches in service joins the bus to a source in service. -/
def Connected (fixture : FixtureFields) (branchOverride : Option (String × Bool)) (bus : ℤ) :
    Prop :=
  ∃ source ∈ fixture.sources, source.inService = true ∧
    Relation.ReflTransGen (Joined fixture branchOverride) source.bus bus

/-! ## What was validated -/

section

variable [EvaluatorPrimitives] (fixture : Fixture)

/-- The loops over the items of a fixture raised nothing. -/
theorem Fixture.loops : ∃ branchIds sourceIds loadIds,
    fixture.branches.foldlM (validateBranch fixture.buses) [] = .ok branchIds ∧
    fixture.sources.foldlM (validateSource fixture.buses) [] = .ok sourceIds ∧
    fixture.loads.foldlM (validateLoad fixture.buses) [] = .ok loadIds := by
  have h := fixture.valid
  simp only [validateFixture, bind_eq_ok, Unique.exists_iff] at h
  obtain ⟨-, -, -, -, -, -, branchIds, hbranches, -, sourceIds, hsources, loadIds, hloads, -⟩ := h
  exact ⟨branchIds, sourceIds, loadIds, hbranches, hsources, hloads⟩

/-- The ends of a branch are buses. -/
theorem Fixture.branch_buses : ∀ branch ∈ fixture.branches,
    branch.fromBus ∈ fixture.buses ∧ branch.toBus ∈ fixture.buses := by
  intro branch hbranch
  obtain ⟨branchIds, -, -, hbranches, -⟩ := fixture.loops
  obtain ⟨before, after, hchecked⟩ := of_foldlM_eq_ok hbranches branch hbranch
  simp only [validateBranch, bind_eq_ok, Unique.exists_iff, refuseIf_eq_ok, not_or,
    not_not] at hchecked
  exact hchecked.2.2.2.2.1

/-- A source is at a bus. -/
theorem Fixture.source_bus : ∀ source ∈ fixture.sources, source.bus ∈ fixture.buses := by
  intro source hsource
  obtain ⟨-, sourceIds, -, -, hsources, -⟩ := fixture.loops
  obtain ⟨before, after, hchecked⟩ := of_foldlM_eq_ok hsources source hsource
  simp only [validateSource, bind_eq_ok, Unique.exists_iff, refuseIf_eq_ok, not_or,
    not_not] at hchecked
  exact hchecked.2.1.2

/-- What a load takes. -/
def FixtureLoad.demand (load : FixtureLoad) : ℚ :=
  (EvaluatorPrimitives.finiteDecimal load.pMw).getD 0

/-- The power of a load is a decimal that is not negative. -/
theorem Fixture.load_demand : ∀ load ∈ fixture.loads,
    decimal load.pMw "fixture_load_p_mw" = .ok load.demand ∧ 0 ≤ load.demand := by
  intro load hload
  obtain ⟨-, -, loadIds, -, -, hloads⟩ := fixture.loops
  obtain ⟨before, after, hchecked⟩ := of_foldlM_eq_ok hloads load hload
  simp only [validateLoad, bind_eq_ok, Unique.exists_iff] at hchecked
  obtain ⟨-, -, value, hvalue, -⟩ := hchecked
  have hread := hvalue
  simp only [decimal, bind_eq_ok, Unique.exists_iff, refuseIf_eq_ok, orRaise_eq_ok] at hread
  obtain ⟨-, result, hfinite, hnonneg, hresult⟩ := hread
  cases hresult
  rw [FixtureLoad.demand, hfinite]
  exact ⟨hvalue, not_lt.mp hnonneg⟩

end

/-! ## The graph of the branches -/

section

variable {graph : BusGraph} {branchOverride : Option (String × Bool)}

/-- A bus is a neighbour in the graph. -/
def Linked (graph : BusGraph) (a b : ℤ) : Prop :=
  ∃ neighbors, graph.find? a = some neighbors ∧ b ∈ neighbors.keys

theorem edge_iff_linked (a b : ℤ) : Edge graph.neighbors a b ↔ Linked graph a b := by
  constructor
  · rintro ⟨found, hfound, hb⟩
    rw [BusGraph.neighbors, bind_eq_ok] at hfound
    obtain ⟨neighbors, hneighbors, hkeys⟩ := hfound
    cases hkeys
    exact ⟨neighbors, orRaise_eq_ok.mp hneighbors, hb⟩
  · rintro ⟨neighbors, hneighbors, hb⟩
    exact ⟨neighbors.keys, by rw [BusGraph.neighbors, hneighbors]; rfl, hb⟩

theorem exists_addNeighbor {start : ℤ} (hstart : (graph.find? start).isSome) (stop : ℤ) :
    ∃ graph', addNeighbor graph start stop = .ok graph' ∧
      (∀ a, (graph'.find? a).isSome ↔ (graph.find? a).isSome) ∧
      ∀ a b, Linked graph' a b ↔ Linked graph a b ∨ start = a ∧ stop = b := by
  obtain ⟨neighbors, hneighbors⟩ := Option.isSome_iff_exists.mp hstart
  refine ⟨graph.insert start (neighbors.insert stop ()), ?_, fun a => ?_, fun a b => ?_⟩
  · rw [addNeighbor, hneighbors, orRaise, ok_bind]
  · rw [SortedMap.find?_insert]
    by_cases ha : start = a
    · rw [if_pos ha, ← ha, hneighbors]
      simp
    · rw [if_neg ha]
  · unfold Linked
    rw [SortedMap.find?_insert]
    by_cases ha : start = a
    · subst ha
      simp only [if_true, Option.some.injEq, exists_eq_left', hneighbors, SortedMap.mem_keys,
        SortedMap.find?_insert, true_and]
      by_cases hb : stop = b
      · simp [hb]
      · simp [hb]
    · simp only [ha, if_false, false_and, or_false]

/-- The graph has the buses, and the edges of some branches. -/
structure GraphOf (buses : List ℤ) (branches : List FixtureBranch)
    (branchOverride : Option (String × Bool)) (graph : BusGraph) : Prop where
  defined : ∀ a, (graph.find? a).isSome ↔ a ∈ buses
  linked : ∀ a b, Linked graph a b ↔ ∃ branch ∈ branches,
    branch.enabled branchOverride = true ∧
      (branch.fromBus = a ∧ branch.toBus = b ∨ branch.fromBus = b ∧ branch.toBus = a)

theorem GraphOf.addBranch {buses : List ℤ} {branches : List FixtureBranch}
    (h : GraphOf buses branches branchOverride graph) {branch : FixtureBranch}
    (hfrom : branch.fromBus ∈ buses) (hto : branch.toBus ∈ buses) :
    ∃ graph', AegisOt.addBranch branchOverride graph branch = .ok graph' ∧
      GraphOf buses (branches ++ [branch]) branchOverride graph' := by
  by_cases henabled : branch.enabled branchOverride = true
  · obtain ⟨there, hthere, hdefined, hlinked⟩ :=
      exists_addNeighbor ((h.defined _).mpr hfrom) branch.toBus
    obtain ⟨back, hback, hdefined', hlinked'⟩ :=
      exists_addNeighbor ((hdefined _).mpr ((h.defined _).mpr hto)) branch.fromBus
    refine ⟨back, ?_, fun a => ?_, fun a b => ?_⟩
    · rw [AegisOt.addBranch, if_pos henabled, hthere, ok_bind, hback]
    · rw [hdefined', hdefined, h.defined]
    · rw [hlinked', hlinked, h.linked]
      simp only [List.mem_append, List.mem_singleton, or_and_right, exists_or, exists_eq_left,
        henabled, true_and]
      rw [or_assoc, @and_comm (branch.toBus = a)]
  · refine ⟨graph, ?_, h.defined, fun a b => ?_⟩
    · rw [AegisOt.addBranch, if_neg henabled]
    · rw [h.linked]
      simp only [List.mem_append, List.mem_singleton, or_and_right, exists_or, exists_eq_left,
        henabled, Bool.false_eq_true, false_and, or_false]

/-- Before the loop every bus has no neighbours. -/
theorem find?_emptyGraph (buses : List ℤ) (a : ℤ) :
    SortedMap.find? (SortedMap.ofEntries
      (buses.map fun bus => (bus, (SortedMap.empty : SortedMap ℤ Unit)))) a =
      if a ∈ buses then some .empty else none := by
  rw [SortedMap.find?_ofEntries]
  induction buses with
  | nil => rfl
  | cons bus buses ih =>
    rw [List.map_cons, lookupEntry, ih]
    by_cases ha : bus = a
    · simp [ha]
    · simp [ha, Ne.symm ha]

/-- The graph of a fixture is built. -/
theorem exists_buildGraph [EvaluatorPrimitives] (fixture : Fixture)
    (branchOverride : Option (String × Bool)) :
    ∃ graph, buildGraph fixture.toFixtureFields branchOverride = .ok graph ∧
      GraphOf fixture.buses fixture.branches branchOverride graph := by
  have hstart : GraphOf fixture.buses [] branchOverride
      (.ofEntries (fixture.buses.map fun bus => (bus, .empty))) := by
    refine ⟨fun a => ?_, fun a b => ?_⟩
    · rw [find?_emptyGraph]
      split_ifs with ha
      · simp [ha]
      · simp [ha]
    · simp only [Linked, find?_emptyGraph, List.not_mem_nil, false_and, exists_false, iff_false]
      rintro ⟨neighbors, hneighbors, hb⟩
      split_ifs at hneighbors
      cases hneighbors
      exact List.not_mem_nil hb
  refine foldlM_ok (P := fun branches graph =>
    GraphOf fixture.buses branches branchOverride graph) hstart ?_
  intro done branch rest graph hitems hgraph
  obtain ⟨hfrom, hto⟩ := fixture.branch_buses branch (hitems ▸ by simp)
  exact hgraph.addBranch hfrom hto

end

/-! ## What the search finds -/

section

variable [EvaluatorPrimitives]

omit [EvaluatorPrimitives] in
theorem mem_sourceBuses {fixture : FixtureFields} {bus : ℤ} :
    bus ∈ sourceBuses fixture ↔
      ∃ source ∈ fixture.sources, source.inService = true ∧ source.bus = bus := by
  rw [sourceBuses, mem_sortedBy, List.mem_dedup, List.mem_map]
  simp only [List.mem_filter, and_assoc]

/-- The search ends, and it finds the connected buses, each once. -/
theorem exists_connectedBuses (fixture : Fixture) (branchOverride : Option (String × Bool)) :
    ∃ reachable, connectedBuses fixture.toFixtureFields branchOverride = .ok reachable ∧
      reachable.Nodup ∧
      ∀ bus, bus ∈ reachable ↔ Connected fixture.toFixtureFields branchOverride bus := by
  obtain ⟨graph, hgraph, hof⟩ := exists_buildGraph fixture branchOverride
  have hedge (a b : ℤ) : Edge graph.neighbors a b ↔
      Joined fixture.toFixtureFields branchOverride a b :=
    (edge_iff_linked a b).trans (hof.linked a b)
  have hpath (a b : ℤ) : Relation.ReflTransGen (Edge graph.neighbors) a b ↔
      Relation.ReflTransGen (Joined fixture.toFixtureFields branchOverride) a b :=
    ⟨Relation.ReflTransGen.mono (fun a b => (hedge a b).mp) a b,
      Relation.ReflTransGen.mono (fun a b => (hedge a b).mpr) a b⟩
  have hnodup : (sourceBuses fixture.toFixtureFields).Nodup :=
    (sortedBy_perm _ _).nodup_iff.mpr (List.nodup_dedup _)
  obtain ⟨reachable, hreachable, hnodup', hmem⟩ :=
    mem_breadthFirst graph.neighbors_mem_nodes hnodup fun start hstart a ha => by
      have hbus : a ∈ fixture.buses := by
        induction ha with
        | refl =>
          obtain ⟨source, hsource, -, rfl⟩ := mem_sourceBuses.mp hstart
          exact fixture.source_bus source hsource
        | tail _ hlast _ =>
          obtain ⟨branch, hbranch, -, ⟨-, rfl⟩ | ⟨rfl, -⟩⟩ := (hedge _ _).mp hlast
          · exact (fixture.branch_buses branch hbranch).2
          · exact (fixture.branch_buses branch hbranch).1
      obtain ⟨neighbors, hneighbors⟩ := Option.isSome_iff_exists.mp ((hof.defined a).mpr hbus)
      exact ⟨neighbors.keys, by rw [BusGraph.neighbors, hneighbors]; rfl⟩
  refine ⟨reachable, ?_, hnodup', fun bus => ?_⟩
  · rw [connectedBuses, hgraph, ok_bind, hreachable]
  · rw [hmem]
    constructor
    · rintro ⟨start, hstart, hreached⟩
      obtain ⟨source, hsource, hservice, rfl⟩ := mem_sourceBuses.mp hstart
      exact ⟨source, hsource, hservice, (hpath _ _).mp hreached⟩
    · rintro ⟨source, hsource, hservice, hreached⟩
      exact ⟨source.bus, mem_sourceBuses.mpr ⟨source, hsource, hservice, rfl⟩,
        (hpath _ _).mpr hreached⟩

end

end AegisOt
