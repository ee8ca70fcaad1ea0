import AegisOt.Fleet.Propagation
import AegisOt.Fleet.Proofs.Fcfs
import Mathlib.Data.Int.ConditionallyCompleteOrder
import Mathlib.Data.Int.SuccPred

/-!
# The tree that the agents form

The parent of a node stands before it, so that no lookup in the loops over the nodes fails. The
depth of a node does not depend on how many nodes follow, and so the greatest depth does not fall
as nodes are added.
-/

namespace AegisOt

/-! ## Items of lists -/

theorem itemAt_eq_ok {values : List ℤ} {index value : ℤ} (hnonneg : 0 ≤ index)
    (h : values[index.toNat]? = some value) : itemAt values index = .ok value := by
  rw [itemAt, if_neg (not_lt.mpr hnonneg), refuseIf_neg (not_lt.mpr hnonneg), ok_bind, h]
  rfl

/-- The last item of a list that has one. -/
theorem exists_itemAt_last {values : List ℤ} (h : values ≠ []) :
    ∃ value, itemAt values (-1) = .ok value := by
  have hlength := List.length_pos_iff.mpr h
  have hindex : ((values.length : ℤ) + -1).toNat < values.length := by omega
  rw [itemAt, if_pos (by norm_num), refuseIf_neg (by omega), ok_bind,
    List.getElem?_eq_getElem hindex]
  exact ⟨_, rfl⟩

theorem maximum_spec {values : List ℤ} {value : ℤ} (h : maximum values = .ok value) :
    value ∈ values ∧ ∀ other ∈ values, other ≤ value :=
  List.max?_eq_some_iff.mp (orRaise_eq_ok.mp h)

theorem rangeTo_eq (stop : ℤ) : rangeTo stop = (List.range stop.toNat).map Int.ofNat := rfl

theorem rangeBetween_one (n : ℕ) :
    rangeBetween 1 n = (List.range (n - 1)).map fun k : ℕ => (k : ℤ) + 1 := by
  have hstop : ((n : ℤ) - 1).toNat = n - 1 := by omega
  rw [rangeBetween, rangeTo, hstop, List.map_map]
  exact List.map_congr_left fun k _ => add_comm _ _

/-- The node that is next after some nodes. -/
theorem next_node {n : ℕ} {done rest : List ℤ} {node : ℤ}
    (h : rangeBetween 1 n = done ++ node :: rest) : node = done.length + 1 := by
  rw [rangeBetween_one] at h
  have hnext : ((List.range (n - 1)).map fun k : ℕ => (k : ℤ) + 1)[done.length]? = some node := by
    rw [h, List.getElem?_append_right le_rfl, Nat.sub_self, List.getElem?_cons_zero]
  rw [List.getElem?_map, Option.map_eq_some_iff] at hnext
  obtain ⟨k, hk, rfl⟩ := hnext
  obtain ⟨hlt, rfl⟩ := List.getElem?_eq_some_iff.mp hk
  rw [List.getElem_range]

/-! ## Depths -/

/-- The depth of a node in the tree with so many children to a node. -/
def treeDepth (branching : ℕ) : ℕ → ℤ
  | 0 => 0
  | node + 1 => treeDepth branching (node / branching) + 1
decreasing_by exact Nat.lt_succ_of_le (Nat.div_le_self node branching)

theorem treeDepth_nonneg (branching node : ℕ) : 0 ≤ treeDepth branching node := by
  fun_induction treeDepth branching node with
  | case1 => exact le_rfl
  | case2 node ih => omega

/-- A node is no deeper than there are nodes before it. -/
theorem treeDepth_le (branching node : ℕ) : treeDepth branching node ≤ node := by
  fun_induction treeDepth branching node with
  | case1 => exact le_rfl
  | case2 node ih =>
    have hparent : node / branching ≤ node := Nat.div_le_self node branching
    push_cast
    omega

/-- The greatest depth of the first nodes. -/
def greatestDepth (branching : ℕ) : ℕ → ℤ
  | 0 => 0
  | nodes + 1 => max (greatestDepth branching nodes) (treeDepth branching nodes)

theorem greatestDepth_nonneg (branching nodes : ℕ) : 0 ≤ greatestDepth branching nodes := by
  induction nodes with
  | zero => exact le_rfl
  | succ nodes ih => exact le_max_of_le_left ih

theorem greatestDepth_mono (branching : ℕ) : Monotone (greatestDepth branching) :=
  monotone_nat_of_le_succ fun _ => le_max_left _ _

theorem greatestDepth_le (branching nodes : ℕ) : greatestDepth branching nodes ≤ nodes := by
  induction nodes with
  | zero => exact le_rfl
  | succ nodes ih =>
    have hdepth := treeDepth_le branching nodes
    push_cast
    exact max_le (by omega) (by omega)

theorem isGreatest_greatestDepth (branching : ℕ) {nodes : ℕ} (h : 1 ≤ nodes) :
    IsGreatest {depth | ∃ node < nodes, depth = treeDepth branching node}
      (greatestDepth branching nodes) := by
  induction nodes with
  | zero => omega
  | succ nodes ih =>
    constructor
    · rcases le_total (treeDepth branching nodes) (greatestDepth branching nodes) with hle | hle
      · cases nodes with
        | zero => exact ⟨0, Nat.zero_lt_one, by rw [greatestDepth, max_eq_left hle, treeDepth]; rfl⟩
        | succ nodes =>
          obtain ⟨⟨node, hnode, hdepth⟩, -⟩ := ih (by omega)
          exact ⟨node, by omega, by rw [greatestDepth, max_eq_left hle, hdepth]⟩
      · exact ⟨nodes, Nat.lt_succ_self nodes, by rw [greatestDepth, max_eq_right hle]⟩
    · rintro depth ⟨node, hnode, rfl⟩
      by_cases hlast : node = nodes
      · rw [hlast]
        exact le_max_right _ _
      · exact le_max_of_le_left ((ih (by omega)).2 ⟨node, by omega, rfl⟩)

/-! ## The loop that builds the tree -/

/-- The parents of the nodes: each stands before its node. -/
structure Parents (n : ℕ) (parents : List ℤ) : Prop where
  length_eq : parents.length = n
  parent : ∀ node : ℕ, node + 1 < n →
    ∃ parent : ℕ, parent ≤ node ∧ parents[node + 1]? = some (parent : ℤ)

section

variable {assumptions : FleetModelAssumptionsFields} {n : ℕ}

/-- The variables of the loop after some nodes. -/
structure DelegationRun.Built (assumptions : FleetModelAssumptionsFields) (nodes : ℕ)
    (run : DelegationRun) : Prop where
  parents : Parents nodes run.parents
  depths : run.depths =
    (List.range nodes).map (treeDepth assumptions.delegationBranchingFactor.toNat)

theorem DelegationRun.Built.delegate (h : assumptions.Accepted) {run : DelegationRun} {node : ℕ}
    (hbuilt : run.Built assumptions (node + 1)) :
    ∃ run', AegisOt.delegate assumptions run (node + 1) = .ok run' ∧
      run'.Built assumptions (node + 2) := by
  have hbranching := h.integers.branchingFactor.1
  obtain ⟨branching, hb⟩ : ∃ branching : ℕ, assumptions.delegationBranchingFactor = branching :=
    ⟨assumptions.delegationBranchingFactor.toNat, by omega⟩
  have hdepths := hbuilt.depths
  rw [hb, Int.toNat_natCast] at hdepths
  have hparent : node / branching ≤ node := Nat.div_le_self node branching
  have hlookup : run.depths[((node / branching : ℕ) : ℤ).toNat]? =
      some (treeDepth branching (node / branching)) := by
    rw [hdepths, Int.toNat_natCast, List.getElem?_map, List.getElem?_range (by omega)]
    rfl
  have hstep : AegisOt.delegate assumptions run (node + 1) = .ok
      ⟨run.parents ++ [((node / branching : ℕ) : ℤ)],
        run.depths ++ [treeDepth branching (node / branching) + 1],
        run.trace ++ [toString ((node : ℤ) + 1) ++ ":" ++ toString ((node / branching : ℕ) : ℤ) ++
          ":" ++ toString (treeDepth branching (node / branching) + 1) ++ "\n"]⟩ := by
    rw [AegisOt.delegate, floorDivide_eq_ok (by omega), ok_bind, add_sub_cancel_right, hb,
      ← Int.natCast_div, itemAt_eq_ok (Int.natCast_nonneg _) hlookup, ok_bind]
  refine ⟨_, hstep, ⟨?_, fun index hindex => ?_⟩, ?_⟩
  · rw [List.length_append, hbuilt.parents.length_eq]
    rfl
  · have hlength := hbuilt.parents.length_eq
    by_cases hlast : index = node
    · refine ⟨node / branching, by omega, ?_⟩
      rw [hlast, List.getElem?_append_right (by omega), hlength, Nat.sub_self]
      rfl
    · obtain ⟨parent, hle, hget⟩ := hbuilt.parents.parent index (by omega)
      refine ⟨parent, hle, ?_⟩
      rw [List.getElem?_append_left (by omega), hget]
  · rw [hb, Int.toNat_natCast, List.range_succ, List.map_append, ← hdepths, List.map_singleton,
      treeDepth]

/-- The loop over the nodes builds the tree. -/
theorem exists_delegateAll (h : assumptions.Accepted) (hn : 1 ≤ n) :
    ∃ run, delegateAll n assumptions = .ok run ∧ run.Built assumptions n := by
  have hstart : DelegationRun.Built assumptions 1 ⟨[-1], [0], ["root:0\n"]⟩ := {
    parents := ⟨rfl, fun node hnode => by omega⟩
    depths := by
      rw [List.range_one, List.map_singleton, treeDepth] }
  obtain ⟨run, hrun, hbuilt⟩ : ∃ run, delegateAll n assumptions = .ok run ∧
      run.Built assumptions ((rangeBetween 1 n).length + 1) := by
    refine foldlM_ok (P := fun done (run : DelegationRun) =>
      run.Built assumptions (done.length + 1)) hstart ?_
    intro done node rest run hitems hbuilt
    obtain ⟨run', hstep, hbuilt'⟩ := hbuilt.delegate h
    refine ⟨run', ?_, ?_⟩
    · rw [next_node hitems]
      exact hstep
    · rw [List.length_append, List.length_singleton]
      exact hbuilt'
  refine ⟨run, hrun, ?_⟩
  have hlength : (rangeBetween 1 n).length + 1 = n := by
    rw [rangeBetween_one, List.length_map, List.length_range]
    omega
  rwa [hlength] at hbuilt

/-! ## The loops that propagate -/

/-- A loop that propagates reaches every node. -/
theorem exists_propagate {parents : List ℤ} (hparents : Parents n parents) (hn : 1 ≤ n)
    {edgeDelay : ℤ → ℤ → Except FleetError ℤ}
    (hdelay : ∀ parent node, ∃ delay, edgeDelay parent node = .ok delay) (header : String) :
    ∃ run, propagate parents edgeDelay header = .ok run ∧ run.arrivalTimes.length = n := by
  obtain ⟨run, hrun, hlength⟩ : ∃ run,
      (rangeBetween 1 n).foldlM (propagateTo parents edgeDelay) ⟨[0], [header]⟩ = .ok run ∧
      run.arrivalTimes.length = (rangeBetween 1 n).length + 1 := by
    refine foldlM_ok (P := fun done (run : PropagationRun) =>
      run.arrivalTimes.length = done.length + 1) rfl ?_
    intro done node rest run hitems hlength
    have hcount : done.length + 1 < n := by
      have hall := congrArg List.length hitems
      rw [rangeBetween_one, List.length_map, List.length_range, List.length_append,
        List.length_cons] at hall
      omega
    obtain ⟨parent, hle, hparent⟩ := hparents.parent done.length hcount
    obtain ⟨delay, hdelay⟩ := hdelay parent node
    have hnode : node = ((done.length + 1 : ℕ) : ℤ) := next_node hitems
    have hlookup : itemAt parents node = .ok (parent : ℤ) := by
      rw [hnode]
      exact itemAt_eq_ok (Int.natCast_nonneg _) (by rwa [Int.toNat_natCast])
    obtain ⟨arrival, harrival⟩ : ∃ arrival, run.arrivalTimes[parent]? = some arrival :=
      ⟨_, List.getElem?_eq_getElem (by omega)⟩
    have hstep : propagateTo parents edgeDelay run node = .ok
        ⟨run.arrivalTimes ++ [arrival + delay],
          run.trace ++ [toString node ++ ":" ++ toString (parent : ℤ) ++ ":" ++
            toString (arrival + delay) ++ "\n"]⟩ := by
      rw [propagateTo, hlookup, ok_bind, hdelay, ok_bind,
        itemAt_eq_ok (Int.natCast_nonneg _) (by rwa [Int.toNat_natCast]), ok_bind]
    refine ⟨_, hstep, ?_⟩
    rw [List.length_append, List.length_append, hlength]
    rfl
  refine ⟨run, ?_, ?_⟩
  · rw [propagate, hparents.length_eq]
    exact hrun
  · rw [hlength, rangeBetween_one, List.length_map, List.length_range]
    omega

theorem exists_percentile95 {values : List ℤ} (h : values ≠ []) :
    ∃ value, nearestRankPercentile (sortedBy id values) 95 = .ok value :=
  exists_nearestRankPercentile (sortedBy_ne_nil h) (by norm_num) (by norm_num)

/-- There is a recipient, and so a percentile and a last of the times in their order. -/
theorem exists_recipientTimes {times : List ℤ} (hlength : times.length = n) (hn : 2 ≤ n) :
    ∃ p95 last, nearestRankPercentile (sortedBy id (times.drop 1)) 95 = .ok p95 ∧
      itemAt (sortedBy id (times.drop 1)) (-1) = .ok last := by
  have htimes : times.drop 1 ≠ [] := by
    rw [← List.length_pos_iff, List.length_drop]
    omega
  obtain ⟨p95, hp95⟩ := exists_percentile95 htimes
  have hsorted : sortedBy id (times.drop 1) ≠ [] := sortedBy_ne_nil htimes
  obtain ⟨last, hlast⟩ := exists_itemAt_last hsorted
  exact ⟨p95, last, hp95, hlast⟩

end

section

variable [FleetPrimitives] {assumptions : FleetModelAssumptionsFields} {n m : ℕ}

/-- The tree is built, and its greatest depth is reached by a node. -/
theorem exists_buildDelegationGraph (h : assumptions.Accepted) (hn : 1 ≤ n) :
    ∃ parents depths graph,
      buildDelegationGraph n assumptions = .ok (parents, depths, graph) ∧ Parents n parents ∧
      graph.maximumDepthHops =
        greatestDepth assumptions.delegationBranchingFactor.toNat n := by
  obtain ⟨run, hrun, hbuilt⟩ := exists_delegateAll h hn
  have hdepths : run.depths ≠ [] := by
    rw [hbuilt.depths, ← List.length_pos_iff, List.length_map, List.length_range]
    exact hn
  obtain ⟨depth, hdepth⟩ := exists_maximum hdepths
  have hgraph : buildDelegationGraph n assumptions = .ok (run.parents, run.depths,
      ⟨n, n - 1, depth, assumptions.delegationBranchingFactor, traceSha256 run.trace⟩) := by
    rw [buildDelegationGraph, hrun, ok_bind, hdepth, ok_bind]
  refine ⟨run.parents, run.depths, _, hgraph, hbuilt.parents, ?_⟩
  obtain ⟨hmem, hle⟩ := maximum_spec hdepth
  rw [hbuilt.depths] at hmem hle
  refine IsGreatest.unique ?_ (isGreatest_greatestDepth _ hn)
  constructor
  · obtain ⟨node, hnode, hreached⟩ := List.mem_map.mp hmem
    exact ⟨node, List.mem_range.mp hnode, hreached.symm⟩
  · rintro other ⟨node, hnode, rfl⟩
    exact hle _ (List.mem_map_of_mem (List.mem_range.mpr hnode))

theorem exists_simulateRevocation (h : assumptions.Accepted) {parents : List ℤ}
    (hparents : Parents n parents) (hn : 2 ≤ n) :
    ∃ result, simulateRevocation parents assumptions = .ok result := by
  have hjitter : 0 < assumptions.revocationEdgeJitterMicroseconds := by
    linarith [h.integers.revocationJitter.1]
  have hdelay (parent node : ℤ) :
      ∃ delay, revocationEdgeDelay assumptions parent node = .ok delay := by
    obtain ⟨offset, hoffset, -⟩ := exists_deterministicOffset assumptions.seed
      "revocation-edge-v1" [parent, node] hjitter
    exact ⟨_, by rw [revocationEdgeDelay, hoffset, ok_bind]⟩
  obtain ⟨run, hrun, hlength⟩ := exists_propagate hparents (by omega) hdelay "issuer:0:0\n"
  obtain ⟨p95, last, hp95, hlast⟩ := exists_recipientTimes hlength hn
  rw [simulateRevocation, hrun, ok_bind]
  dsimp only
  rw [hp95, ok_bind, hlast, ok_bind]
  exact ⟨_, rfl⟩

theorem exists_simulatePolicyDistribution (h : assumptions.Accepted) {parents : List ℤ}
    (hparents : Parents n parents) (hn : 2 ≤ n) :
    ∃ result, simulatePolicyDistribution parents assumptions = .ok result := by
  have hbandwidth : 0 < assumptions.policyDistributionBandwidthBytesPerSecond := by
    linarith [h.integers.policyBandwidth.1]
  have hjitter : 0 < assumptions.policyEdgeJitterMicroseconds := by
    linarith [h.integers.policyJitter.1]
  have hdelay (serialization parent node : ℤ) :
      ∃ delay, policyEdgeDelay assumptions serialization parent node = .ok delay := by
    obtain ⟨offset, hoffset, -⟩ := exists_deterministicOffset assumptions.seed
      "policy-edge-v1" [parent, node] hjitter
    exact ⟨_, by rw [policyEdgeDelay, hoffset, ok_bind]⟩
  rw [simulatePolicyDistribution, ceilDiv_eq_ok hbandwidth, ok_bind]
  obtain ⟨run, hrun, hlength⟩ := exists_propagate hparents (by omega) (hdelay _) "publisher:0:0\n"
  obtain ⟨p95, last, hp95, hlast⟩ := exists_recipientTimes hlength hn
  rw [hrun, ok_bind]
  dsimp only
  rw [hp95, ok_bind, hlast, ok_bind]
  exact ⟨_, rfl⟩

end

end AegisOt
