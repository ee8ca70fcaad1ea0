import AegisOt.Fleet.Proofs.Allocation
import AegisOt.Fleet.Proofs.Fcfs
import Mathlib.Data.List.ProdSigma

/-!
# Events and their categories

The generator makes one event for every agent and ordinal, in the order of their arrivals, and
every event gets one category.
-/

namespace AegisOt

/-- A loop whose passes raise nothing gives the results of its items. -/
theorem mapM_eq_ok_map {ε α β : Type} {f : α → Except ε β} {g : α → β} {items : List α}
    (h : ∀ item ∈ items, f item = .ok (g item)) : items.mapM f = .ok (items.map g) := by
  rw [mapM_eq_ok, List.forall₂_map_right_iff, List.forall₂_same]
  exact h

theorem rangeTo_nodup {stop : ℤ} : (rangeTo stop).Nodup :=
  List.nodup_range.map Nat.cast_injective

section

variable [FleetPrimitives]

/-- The offset of a modulus that is positive. -/
def offsetOf (seed domain : String) (coordinates : List ℤ) (modulus : ℤ) : ℤ :=
  (((FleetPrimitives.sha256 (offsetMaterial seed domain coordinates).toUTF8).val / 2 ^ 192 : ℕ) :
    ℤ) % modulus

theorem deterministicOffset_eq_ok (seed domain : String) (coordinates : List ℤ) {modulus : ℤ}
    (h : 0 < modulus) : deterministicOffset seed domain coordinates modulus =
      .ok (offsetOf seed domain coordinates modulus) := by
  rw [deterministicOffset, refuseIf_neg (not_le.mpr h), ok_bind, offsetOf]

/-! ## The generated events -/

/-- What holds of the generated events. -/
structure Generated (logicalAgents : ℤ) (assumptions : FleetModelAssumptionsFields)
    (arrivals : List Arrival) : Prop where
  sorted : arrivals.Pairwise fun a b => a.key ≤ b.key
  nonneg : ∀ event ∈ arrivals, 0 ≤ event.arrival
  nodup : (arrivals.map Arrival.identity).Nodup
  length_eq : (arrivals.length : ℤ) = logicalAgents * assumptions.eventsPerLogicalAgentPerHorizon

variable {assumptions : FleetModelAssumptionsFields} {n : ℕ}

/-- The event of an ordinal and an agent. -/
def eventOf (assumptions : FleetModelAssumptionsFields) (eventOrdinal agentIndex : ℤ) : Arrival :=
  ⟨eventOrdinal * (assumptions.horizonMicroseconds / assumptions.eventsPerLogicalAgentPerHorizon) +
      offsetOf assumptions.seed "queue-arrival-v1" [agentIndex, eventOrdinal]
        assumptions.arrivalJitterWindowMicroseconds, agentIndex, eventOrdinal⟩

/-- The generator goes through the pairs of an ordinal and an agent. -/
theorem generateEventArrivals_eq_ok (h : assumptions.Accepted) (hn : n ≤ 10000) :
    generateEventArrivals n assumptions = .ok (sortedBy Arrival.key
      ((rangeTo assumptions.eventsPerLogicalAgentPerHorizon ×ˢ rangeTo n).map fun pair =>
        eventOf assumptions pair.1 pair.2)) := by
  have hevents := h.integers.events
  have hmaximum := h.events
  have hadmitted : ¬ assumptions.maximumSimulatedEvents <
      n * assumptions.eventsPerLogicalAgentPerHorizon := by
    unfold maxLogicalAgents at hmaximum
    nlinarith
  have hjitter : 0 < assumptions.arrivalJitterWindowMicroseconds := by
    linarith [h.integers.arrivalJitter.1]
  have hproduct : (rangeTo assumptions.eventsPerLogicalAgentPerHorizon ×ˢ rangeTo n).map
      (fun pair => eventOf assumptions pair.1 pair.2) =
      ((rangeTo assumptions.eventsPerLogicalAgentPerHorizon).map fun eventOrdinal =>
        (rangeTo n).map (eventOf assumptions eventOrdinal)).flatten := by
    change (List.flatMap (fun eventOrdinal => (rangeTo n).map (Prod.mk eventOrdinal)) _).map _ = _
    rw [List.map_flatMap, List.flatMap_def]
    simp only [List.map_map]
    rfl
  rw [generateEventArrivals, refuseIf_neg hadmitted, ok_bind, floorDivide_eq_ok (by omega), ok_bind,
    mapM_eq_ok_map (g := fun eventOrdinal => (rangeTo n).map (eventOf assumptions eventOrdinal)),
    ok_bind, hproduct]
  intro eventOrdinal _
  refine mapM_eq_ok_map fun agentIndex _ => ?_
  rw [deterministicOffset_eq_ok _ _ _ hjitter, ok_bind, eventOf]

theorem exists_generateEventArrivals (h : assumptions.Accepted) (hn : n ≤ 10000) :
    ∃ arrivals, generateEventArrivals n assumptions = .ok arrivals ∧
      Generated n assumptions arrivals := by
  have hevents := h.integers.events.1
  have hperm := sortedBy_perm Arrival.key
    ((rangeTo assumptions.eventsPerLogicalAgentPerHorizon ×ˢ rangeTo n).map fun pair =>
      eventOf assumptions pair.1 pair.2)
  refine ⟨_, generateEventArrivals_eq_ok h hn, sortedBy_pairwise _ _, ?_, ?_, ?_⟩
  · intro event hevent
    rw [mem_sortedBy] at hevent
    obtain ⟨pair, hpair, rfl⟩ := List.mem_map.mp hevent
    obtain ⟨ordinal, -, hordinal⟩ := List.mem_map.mp (List.mem_product.mp hpair).1
    have hoffset : 0 ≤ offsetOf assumptions.seed "queue-arrival-v1" [pair.2, pair.1]
        assumptions.arrivalJitterWindowMicroseconds :=
      Int.emod_nonneg _ (by linarith [h.integers.arrivalJitter.1])
    have hinterval : 0 ≤ assumptions.horizonMicroseconds /
        assumptions.eventsPerLogicalAgentPerHorizon := by
      linarith [h.jitter, h.integers.arrivalJitter.1]
    have hnonneg : 0 ≤ pair.1 := hordinal ▸ Int.natCast_nonneg ordinal
    exact add_nonneg (mul_nonneg hnonneg hinterval) hoffset
  · rw [(hperm.map Arrival.identity).nodup_iff, List.map_map]
    refine List.Nodup.map_on ?_ (rangeTo_nodup.product rangeTo_nodup)
    rintro ⟨a, b⟩ - ⟨c, d⟩ - hidentity
    simp only [Function.comp_apply, eventOf, Arrival.identity, EmbeddingLike.apply_eq_iff_eq,
      Prod.mk.injEq] at hidentity
    rw [hidentity.1, hidentity.2]
  · rw [hperm.length_eq, List.length_map, List.length_product, rangeTo, rangeTo, List.length_map,
      List.length_map, List.length_range, List.length_range]
    push_cast
    rw [Int.toNat_of_nonneg (by omega), mul_comm]
    simp

end

/-! ## Categories -/

/-- The dictionary knows the events before the cursor. -/
structure Categorized (ranked : List Arrival) (categories : SortedMap (ℤ ×ₗ ℤ) ActionCategory)
    (cursor : ℕ) : Prop where
  keys : ∀ key, (categories.find? key).isSome ↔ key ∈ (ranked.take cursor).map Arrival.identity
  size : categories.size = (ranked.take cursor).length

/-- Events that a dictionary does not know yet are entered one each. -/
theorem foldl_insert_fresh {events : List Arrival} (hnodup : (events.map Arrival.identity).Nodup)
    (category : ActionCategory) {categories : SortedMap (ℤ ×ₗ ℤ) ActionCategory}
    (hfresh : ∀ event ∈ events, categories.find? event.identity = none) :
    (∀ key, ((events.foldl (fun categories event => categories.insert event.identity category)
        categories).find? key).isSome ↔
      (categories.find? key).isSome ∨ key ∈ events.map Arrival.identity) ∧
    (events.foldl (fun categories event => categories.insert event.identity category)
      categories).size = categories.size + events.length := by
  induction events generalizing categories with
  | nil => simp
  | cons event events ih =>
    rw [List.map_cons, List.nodup_cons] at hnodup
    obtain ⟨hnew, hfresh⟩ := List.forall_mem_cons.mp hfresh
    have hinsert : ∀ other ∈ events,
        (categories.insert event.identity category).find? other.identity = none := by
      intro other hother
      rw [SortedMap.find?_insert_of_ne]
      · exact hfresh other hother
      · intro heq
        exact hnodup.1 (heq ▸ List.mem_map_of_mem hother)
    obtain ⟨hkeys, hsize⟩ := ih hnodup.2 hinsert
    constructor
    · intro key
      rw [List.foldl_cons, hkeys, SortedMap.find?_insert, List.map_cons, List.mem_cons]
      by_cases hkey : event.identity = key
      · simp [hkey]
      · simp [hkey, Ne.symm hkey]
    · have hone : (categories.insert event.identity category).size = categories.size + 1 :=
        (SortedMap.perm_entries_insert category hnew).length_eq
      rw [List.foldl_cons, hsize, hone, List.length_cons]
      omega

/-- A slice of the ranked events is entered. -/
theorem Categorized.slice {ranked : List Arrival} (hnodup : (ranked.map Arrival.identity).Nodup)
    {categories : SortedMap (ℤ ×ₗ ℤ) ActionCategory} {cursor : ℕ}
    (h : Categorized ranked categories cursor) (category : ActionCategory) (count : ℕ) :
    Categorized ranked (((ranked.drop cursor).take count).foldl
      (fun categories event => categories.insert event.identity category) categories)
      (cursor + count) := by
  have hsplit : ((ranked.take cursor).map Arrival.identity ++
      (ranked.drop cursor).map Arrival.identity).Nodup := by
    rwa [← List.map_append, List.take_append_drop]
  obtain ⟨-, hdrop, hdisjoint⟩ := List.nodup_append.mp hsplit
  have hslice : (((ranked.drop cursor).take count).map Arrival.identity).Nodup :=
    hdrop.sublist ((List.take_sublist _ _).map _)
  have hfresh : ∀ event ∈ (ranked.drop cursor).take count,
      categories.find? event.identity = none := by
    intro event hevent
    rw [← Option.not_isSome_iff_eq_none, h.keys]
    intro hmem
    exact hdisjoint _ hmem _ (List.mem_map_of_mem (List.mem_of_mem_take hevent)) rfl
  obtain ⟨hkeys, hsize⟩ := foldl_insert_fresh hslice category hfresh
  constructor
  · intro key
    rw [hkeys, h.keys, List.take_add, List.map_append, List.mem_append]
  · rw [hsize, h.size, List.take_add, List.length_append]

/-- One pass of the loop that fills `category_by_identity`. -/
def assignSlice (ranked : List Arrival) (state : SortedMap (ℤ ×ₗ ℤ) ActionCategory × ℕ)
    (slice : ActionCategory × ℤ) : SortedMap (ℤ ×ₗ ℤ) ActionCategory × ℕ :=
  (((ranked.drop state.2).take slice.2.toNat).foldl
    (fun categories event => categories.insert event.identity slice.1) state.1,
    state.2 + slice.2.toNat)

theorem assignCategories_eq (ranked : List Arrival) (counts : List ℤ) :
    assignCategories ranked counts =
      (ActionCategory.all.zip counts).foldl (assignSlice ranked) (.empty, 0) := rfl

/-- All slices are entered, one behind the other. -/
theorem Categorized.slices {ranked : List Arrival}
    (hnodup : (ranked.map Arrival.identity).Nodup) (slices : List (ActionCategory × ℤ))
    (state : SortedMap (ℤ ×ₗ ℤ) ActionCategory × ℕ) (h : Categorized ranked state.1 state.2) :
    Categorized ranked (slices.foldl (assignSlice ranked) state).1
        (slices.foldl (assignSlice ranked) state).2 ∧
      (slices.foldl (assignSlice ranked) state).2 =
        state.2 + (slices.map fun slice => slice.2.toNat).sum := by
  induction slices generalizing state with
  | nil => exact ⟨h, rfl⟩
  | cons slice slices ih =>
    have hslice : Categorized ranked (assignSlice ranked state slice).1
        (assignSlice ranked state slice).2 := h.slice hnodup slice.1 slice.2.toNat
    obtain ⟨hcategorized, hcursor⟩ := ih _ hslice
    refine ⟨hcategorized, ?_⟩
    rw [List.foldl_cons, hcursor, List.map_cons, List.sum_cons, assignSlice]
    omega

/-- Counts that are not negative and add up to a natural number do so as natural numbers. -/
theorem sum_map_toNat {counts : List ℤ} (hnonneg : ∀ count ∈ counts, 0 ≤ count) {total : ℕ}
    (hsum : counts.sum = total) : (counts.map Int.toNat).sum = total := by
  have hcast : (((counts.map Int.toNat).sum : ℕ) : ℤ) = counts.sum := by
    clear hsum
    induction counts with
    | nil => rfl
    | cons count counts ih =>
      obtain ⟨hcount, hrest⟩ := List.forall_mem_cons.mp hnonneg
      rw [List.map_cons, List.sum_cons, List.sum_cons, ← ih hrest]
      push_cast
      rw [Int.toNat_of_nonneg hcount]
  omega

/-- The loop enters as many of the ranked events as the counts add up to. -/
theorem categorized_assignCategories {ranked : List Arrival}
    (hnodup : (ranked.map Arrival.identity).Nodup) {counts : List ℤ}
    (hcounts : counts.length = ActionCategory.all.length) :
    Categorized ranked (assignCategories ranked counts).1 (assignCategories ranked counts).2 ∧
      (assignCategories ranked counts).2 = (counts.map Int.toNat).sum := by
  have hslices := Categorized.slices hnodup (ActionCategory.all.zip counts) (.empty, 0)
    ⟨fun key => by simp, rfl⟩
  rw [assignCategories_eq]
  refine ⟨hslices.1, hslices.2.trans ?_⟩
  have hsnd : (ActionCategory.all.zip counts).map (fun slice => slice.2.toNat) =
      counts.map Int.toNat := by
    conv_rhs => rw [← List.map_snd_zip hcounts.le, List.map_map]
    rfl
  rw [hsnd, zero_add]

section

variable [FleetPrimitives] {assumptions : FleetModelAssumptionsFields} {n : ℕ}

/-- The ranked items are the items in another order. -/
theorem exists_rankedBy {α κ : Type} [LinearOrder κ] (seed domain : String) (event : α → Arrival)
    (key : α → κ) (items : List α) :
    ∃ ranked, rankedBy seed domain event key items = .ok ranked ∧ ranked.Perm items := by
  have hoffsets : items.mapM (fun item => deterministicOffset seed domain
      [(event item).agentIndex, (event item).eventOrdinal] (2 ^ 64)) =
      .ok (items.map fun item => offsetOf seed domain
        [(event item).agentIndex, (event item).eventOrdinal] (2 ^ 64)) :=
    mapM_eq_ok_map fun item _ => deterministicOffset_eq_ok _ _ _ (by norm_num)
  refine ⟨_, by rw [rankedBy, hoffsets, ok_bind], ?_⟩
  have hperm := (sortedBy_perm (fun pair : ℤ × α => toLex (pair.1, key pair.2))
    ((items.map fun item => offsetOf seed domain
      [(event item).agentIndex, (event item).eventOrdinal] (2 ^ 64)).zip items)).map Prod.snd
  rwa [List.map_snd_zip (by rw [List.length_map])] at hperm

/-- Every event gets a category. -/
theorem exists_modelActionWorkload (h : assumptions.Accepted) {arrivals : List Arrival}
    (hnodup : (arrivals.map Arrival.identity).Nodup) :
    ∃ actions workload, modelActionWorkload arrivals assumptions = .ok (actions, workload) ∧
      actions.map FleetAction.event = arrivals := by
  have hshares : ∀ share ∈ assumptions.actionDistributionBasisPoints, 0 ≤ share := by
    have hbounds := h.integers
    simp only [FleetModelAssumptionsFields.actionDistributionBasisPoints, List.forall_mem_cons]
    exact ⟨hbounds.nominalLowRisk.1, hbounds.provisionalUnapproved.1,
      hbounds.conflictingConsequential.1, hbounds.containmentRecovery.1, hbounds.readOnly.1,
      by simp⟩
  have htotal : (0 : ℤ) ≤ arrivals.length := Int.natCast_nonneg _
  obtain ⟨counts, hcounts, hsum, hlargest, -⟩ :=
    fixedDistributionCounts_largestRemainder htotal hshares h.shares
  obtain ⟨ranked, hranked, hperm⟩ := exists_rankedBy assumptions.seed "action-distribution-v2" id
    Arrival.key arrivals
  have hlength : counts.length = ActionCategory.all.length := by
    rw [hlargest.length_eq, List.length_map]
    rfl
  have hnonneg := hlargest.count_nonneg fun quota hquota => by
    obtain ⟨share, hshare, rfl⟩ := List.mem_map.mp hquota
    exact quota_nonneg htotal (hshares share hshare)
  have hrankedNodup : (ranked.map Arrival.identity).Nodup :=
    (hperm.map Arrival.identity).nodup_iff.mpr hnodup
  obtain ⟨hcategorized, hcursor⟩ := categorized_assignCategories hrankedNodup hlength
  rw [sum_map_toNat hnonneg hsum] at hcursor
  have hall : ranked.take (assignCategories ranked counts).2 = ranked := by
    rw [hcursor, ← hperm.length_eq, List.take_length]
  have hfound : ∀ event ∈ arrivals, ∃ category,
      (assignCategories ranked counts).1.find? event.identity = some category := by
    intro event hevent
    refine Option.isSome_iff_exists.mp ((hcategorized.keys event.identity).mpr ?_)
    rw [hall]
    exact List.mem_map_of_mem (hperm.mem_iff.mpr hevent)
  have hassigned : ¬ ((assignCategories ranked counts).2 ≠ arrivals.length ∨
      (assignCategories ranked counts).1.size ≠ arrivals.length) := by
    rw [hcategorized.size, hall, hperm.length_eq]
    exact not_or.mpr ⟨not_not.mpr hcursor, not_not.mpr rfl⟩
  have hactions : arrivals.mapM (fun event =>
      ((orRaise ((assignCategories ranked counts).1.find? event.identity) .keyError >>=
        fun category => .ok ⟨event, category⟩) : Except FleetError FleetAction)) =
      .ok (arrivals.map fun event =>
        ⟨event, ((assignCategories ranked counts).1.find? event.identity).getD
          .nominalLowRisk⟩) := by
    refine mapM_eq_ok_map fun event hevent => ?_
    obtain ⟨category, hcategory⟩ := hfound event hevent
    rw [hcategory]
    rfl
  obtain ⟨nominal, provisional, conflicting, containment, readOnly, rfl⟩ :
      ∃ a b c d e, counts = [a, b, c, d, e] := by
    match counts, hlength with
    | [a, b, c, d, e], _ => exact ⟨a, b, c, d, e, rfl⟩
  rw [modelActionWorkload]
  dsimp only
  rw [hcounts, ok_bind, hranked, ok_bind, refuseIf_neg (not_not.mpr hlength), ok_bind,
    refuseIf_neg hassigned, ok_bind, hactions, ok_bind]
  refine ⟨_, _, rfl, ?_⟩
  rw [List.map_map]
  exact List.map_id' arrivals

end

end AegisOt
