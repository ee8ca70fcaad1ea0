import AegisOt.Fleet.Proofs.Costs
import AegisOt.Fleet.Proofs.Reconciled
import AegisOt.Fleet.Study

/-!
# The study completes

Nothing raises on accepted assumptions. Every scale is simulated, each of its actions gets one
category, and what a scale costs is no less than what a smaller one does, so that no marginal
cost is negative.
-/

namespace AegisOt

/-! ## Lists that correspond -/

section

variable {α β γ : Type} {R : α → β → Prop} {S : α → γ → Prop} {T : β → γ → Prop}

/-- Two lists that correspond to a third correspond to each other. -/
theorem forall₂_of_common {items : List α} {left : List β} {right : List γ}
    (hleft : List.Forall₂ R items left) (hright : List.Forall₂ S items right)
    (h : ∀ item b c, R item b → S item c → T b c) : List.Forall₂ T left right := by
  induction hleft generalizing right with
  | nil =>
    cases hright
    exact .nil
  | cons hb _ ih =>
    cases hright with
    | cons hc hrest => exact .cons (h _ _ _ hb hc) (ih hrest)

theorem map_eq_of_forall₂ {f : α → γ} {g : β → γ} {items : List α} {results : List β}
    (h : List.Forall₂ (fun a b => f a = g b) items results) : items.map f = results.map g := by
  induction h with
  | nil => rfl
  | cons hfirst _ ih => rw [List.map_cons, List.map_cons, hfirst, ih]

/-- What relates the items of a list relates what corresponds to them. -/
theorem pairwise_of_forall₂ {P : α → α → Prop} {Q : β → β → Prop} {items : List α}
    {results : List β} (hitems : items.Pairwise P) (h : List.Forall₂ R items results)
    (hrelated : ∀ a a' b b', P a a' → R a b → R a' b' → Q b b') : results.Pairwise Q := by
  induction h with
  | nil => exact .nil
  | cons hb hrest ih =>
    obtain ⟨hfirst, hitems⟩ := List.pairwise_cons.mp hitems
    refine List.pairwise_cons.mpr ⟨fun b' hb' => ?_, ih hitems⟩
    obtain ⟨a', ha', hab'⟩ := exists_mem_of_forall₂ hrest hb'
    exact hrelated _ _ _ _ (hfirst a' ha') hb hab'

/-- A loop whose passes all return has a result for every item. -/
theorem exists_mapM_eq_ok {ε : Type} {f : α → Except ε β} {items : List α}
    (h : ∀ item ∈ items, ∃ result, f item = .ok result ∧ R item result) :
    ∃ results, items.mapM f = .ok results ∧ List.Forall₂ R items results := by
  have hall : ∃ results, List.Forall₂ (fun item result => f item = .ok result ∧ R item result)
      items results := by
    induction items with
    | nil => exact ⟨[], .nil⟩
    | cons item items ih =>
      obtain ⟨⟨result, hresult⟩, hrest⟩ := List.forall_mem_cons.mp h
      obtain ⟨results, hresults⟩ := ih hrest
      exact ⟨result :: results, .cons hresult hresults⟩
  obtain ⟨results, hresults⟩ := hall
  exact ⟨results, mapM_eq_ok.mpr (hresults.imp fun _ _ hresult => hresult.1),
    hresults.imp fun _ _ hresult => hresult.2⟩

end

/-! ## Marginal costs -/

/-- The two results are of one case, and the later one costs no less. -/
def CostsNoLess (result next : EconomicResult) : Prop :=
  result.sensitivityCase = next.sensitivityCase ∧
    result.modeledTotalGovernanceCostUsdPerMonth ≤ next.modeledTotalGovernanceCostUsdPerMonth

/-- The result with its marginal cost, which is not negative. -/
def WithMarginal (result attached : EconomicResult) : Prop :=
  ∃ marginal, 0 ≤ marginal ∧ attached =
    { result with modeledMarginalGovernanceCostUsdPerAddedLogicalAgentMonth := marginal }

/-- The scale with the marginal costs of its results. -/
def WithMarginals (scale attached : FleetScaleResult) : Prop :=
  ∃ economics, List.Forall₂ WithMarginal scale.economics economics ∧
    attached = { scale with economics }

/-- The later scale has more agents and costs no less in any case. -/
structure ScaledUp (scale next : FleetScaleResult) : Prop where
  agents : scale.logicalAgents < next.logicalAgents
  costs : List.Forall₂ CostsNoLess scale.economics next.economics

/-- The totals before a scale are known, and those of the scale are no less. -/
structure Follows (totals : SortedMap String ℚ) (economics : List EconomicResult) : Prop where
  cases_nodup : (economics.map EconomicResult.sensitivityCase).Nodup
  previous : ∀ result ∈ economics, ∃ previous,
    totals.find? result.sensitivityCase = some previous ∧ 0 ≤ previous ∧
    previous ≤ result.modeledTotalGovernanceCostUsdPerMonth
  bounded : ∀ result ∈ economics, result.modeledTotalGovernanceCostUsdPerMonth ≤ 10 ^ 21

/-- One result gets its marginal cost. -/
theorem exists_attachMarginal {addedAgents : ℤ} (hadded : 0 < addedAgents) {run : MarginalRun}
    {result : EconomicResult} {previous : ℚ}
    (hfind : run.previousTotals.find? result.sensitivityCase = some previous)
    (hnonneg : 0 ≤ previous) (hle : previous ≤ result.modeledTotalGovernanceCostUsdPerMonth)
    (hbounded : result.modeledTotalGovernanceCostUsdPerMonth ≤ 10 ^ 21) :
    ∃ attached, attachMarginal addedAgents run result = .ok
        ⟨run.economics ++ [attached], run.previousTotals.insert result.sensitivityCase
          result.modeledTotalGovernanceCostUsdPerMonth⟩ ∧
      WithMarginal result attached := by
  have hcast : (1 : ℚ) ≤ addedAgents := by exact_mod_cast hadded
  have hpositive : (0 : ℚ) < addedAgents := by linarith
  have hquotient : 0 ≤ (result.modeledTotalGovernanceCostUsdPerMonth - previous) / addedAgents :=
    div_nonneg (by linarith) hpositive.le
  have hquotientLe : (result.modeledTotalGovernanceCostUsdPerMonth - previous) / addedAgents ≤
      ((10 ^ 21 : ℤ) : ℚ) := by
    rw [div_le_iff₀ hpositive]
    push_cast
    linarith
  have hmarginal := roundHalfUp_nonneg hquotient
  rw [attachMarginal, hfind, orRaise, ok_bind, divide_eq_ok hpositive, ok_bind,
    quantize_eq_ok hquotient hquotientLe le_rfl, ok_bind, refuseIf_neg (not_lt.mpr hmarginal),
    ok_bind]
  exact ⟨_, rfl, _, hmarginal, rfl⟩

/-- The results of one scale get their marginal costs, and their totals are the next ones to
    compare with. -/
theorem exists_attachMarginals {addedAgents : ℤ} (hadded : 0 < addedAgents)
    {economics : List EconomicResult} {totals : SortedMap String ℚ} (h : Follows totals economics) :
    ∃ run, economics.foldlM (attachMarginal addedAgents) ⟨[], totals⟩ = .ok run ∧
      List.Forall₂ WithMarginal economics run.economics ∧
      ∀ result ∈ economics, run.previousTotals.find? result.sensitivityCase =
        some result.modeledTotalGovernanceCostUsdPerMonth := by
  obtain ⟨run, hrun, hattached, hknown, -⟩ : ∃ run,
      economics.foldlM (attachMarginal addedAgents) ⟨[], totals⟩ = .ok run ∧
      List.Forall₂ WithMarginal economics run.economics ∧
      (∀ result ∈ economics, run.previousTotals.find? result.sensitivityCase =
        some result.modeledTotalGovernanceCostUsdPerMonth) ∧
      ∀ name ∉ economics.map EconomicResult.sensitivityCase,
        run.previousTotals.find? name = totals.find? name := by
    refine foldlM_ok (P := fun done (run : MarginalRun) =>
      List.Forall₂ WithMarginal done run.economics ∧
      (∀ result ∈ done, run.previousTotals.find? result.sensitivityCase =
        some result.modeledTotalGovernanceCostUsdPerMonth) ∧
      ∀ name ∉ done.map EconomicResult.sensitivityCase,
        run.previousTotals.find? name = totals.find? name) ⟨.nil, by simp, fun _ _ => rfl⟩ ?_
    rintro done result rest run hitems ⟨hattached, hknown, hother⟩
    have hmem : result ∈ economics := hitems ▸ by simp
    have hnodup := h.cases_nodup
    rw [hitems, List.map_append, List.map_cons] at hnodup
    have hnew : result.sensitivityCase ∉ done.map EconomicResult.sensitivityCase := fun hdone =>
      (List.nodup_append.mp hnodup).2.2 _ hdone _ List.mem_cons_self rfl
    obtain ⟨previous, hfind, hnonneg, hle⟩ := h.previous result hmem
    rw [← hother _ hnew] at hfind
    obtain ⟨attached, hstep, hmarginal⟩ :=
      exists_attachMarginal hadded hfind hnonneg hle (h.bounded result hmem)
    refine ⟨_, hstep, List.rel_append hattached (.cons hmarginal .nil), ?_, ?_⟩
    · intro other hother'
      rcases List.mem_append.mp hother' with hdone | hlast
      · rw [SortedMap.find?_insert_of_ne, hknown other hdone]
        intro heq
        exact hnew (heq ▸ List.mem_map_of_mem hdone)
      · rw [List.mem_singleton.mp hlast, SortedMap.find?_insert_self]
    · intro name hname
      rw [List.map_append, List.mem_append, not_or] at hname
      rw [SortedMap.find?_insert_of_ne, hother name hname.1]
      intro heq
      exact hname.2 (heq ▸ by simp)
  exact ⟨run, hrun, hattached, hknown⟩

/-- The totals of a scale are those that a later one follows. -/
theorem ScaledUp.follows {scale next : FleetScaleResult} (h : ScaledUp scale next)
    {totals totals' : SortedMap String ℚ} (hscale : Follows totals scale.economics)
    (hnext : Follows totals next.economics)
    (htotals : ∀ result ∈ scale.economics, totals'.find? result.sensitivityCase =
      some result.modeledTotalGovernanceCostUsdPerMonth) :
    Follows totals' next.economics := by
  refine ⟨hnext.cases_nodup, fun result hresult => ?_, hnext.bounded⟩
  obtain ⟨earlier, hearlier, hcase, hle⟩ := exists_mem_of_forall₂ h.costs hresult
  obtain ⟨previous, -, hnonneg, hprevious⟩ := hscale.previous earlier hearlier
  exact ⟨_, hcase ▸ htotals earlier hearlier, hnonneg.trans hprevious, hle⟩

/-- Every scale gets its marginal costs. -/
theorem exists_attachScales {results : List FleetScaleResult} (hsorted : results.Pairwise ScaledUp)
    {run : ScalesRun} (hagents : ∀ scale ∈ results, run.previousAgents < scale.logicalAgents)
    (hfollows : ∀ scale ∈ results, Follows run.previousTotals scale.economics) :
    ∃ run' attached, results.foldlM attachScale run = .ok run' ∧
      run'.output = run.output ++ attached ∧ List.Forall₂ WithMarginals results attached := by
  induction results generalizing run with
  | nil => exact ⟨run, [], rfl, (List.append_nil _).symm, .nil⟩
  | cons scale results ih =>
    obtain ⟨hlater, hrest⟩ := List.pairwise_cons.mp hsorted
    obtain ⟨hfirst, hagents⟩ := List.forall_mem_cons.mp hagents
    obtain ⟨hscale, hfollows⟩ := List.forall_mem_cons.mp hfollows
    have hadded : 0 < scale.logicalAgents - run.previousAgents := sub_pos.mpr hfirst
    obtain ⟨marginals, hmarginals, hattached, htotals⟩ := exists_attachMarginals hadded hscale
    have hstep : attachScale run scale = .ok
        ⟨run.output ++ [{ scale with economics := marginals.economics }], scale.logicalAgents,
          marginals.previousTotals⟩ := by
      rw [attachScale, refuseIf_neg (not_le.mpr hadded), ok_bind, hmarginals, ok_bind]
    obtain ⟨run', attached, hrun', houtput, hall⟩ : ∃ run' attached, results.foldlM attachScale
        ⟨run.output ++ [{ scale with economics := marginals.economics }], scale.logicalAgents,
          marginals.previousTotals⟩ = .ok run' ∧
        run'.output = run.output ++ [{ scale with economics := marginals.economics }] ++ attached ∧
        List.Forall₂ WithMarginals results attached :=
      ih hrest (fun next hnext => (hlater next hnext).agents) fun next hnext =>
        (hlater next hnext).follows hscale (hfollows next hnext) htotals
    refine ⟨run', { scale with economics := marginals.economics } :: attached, ?_, ?_, ?_⟩
    · rw [List.foldlM_cons, hstep, ok_bind, hrun']
    · rw [houtput, List.append_assoc, List.singleton_append]
    · exact .cons ⟨_, hattached, rfl⟩ hall

/-! ## One scale -/

section

variable [FleetPrimitives] {a : FleetModelAssumptionsFields} {n : ℕ}

/-- The actions of a scale: each event of the generator, once, with one category. -/
def EachCategorized (a : FleetModelAssumptionsFields) (scale : FleetScaleResult) : Prop :=
  ∃ arrivals actions, generateEventArrivals scale.logicalAgents a = .ok arrivals ∧
    modelActionWorkload arrivals a = .ok (actions, scale.actionWorkload) ∧
    actions.map FleetAction.event = arrivals ∧ (arrivals.map Arrival.identity).Nodup

/-- The results of a scale are the costs of its number of agents. -/
def CostsAt (a : FleetModelAssumptionsFields) (n : ℕ) (economics : List EconomicResult) : Prop :=
  List.Forall₂ (fun (case : EconomicCase) (result : EconomicResult) =>
    result.sensitivityCase = case.name ∧
    result.modeledTotalGovernanceCostUsdPerMonth = a.costAt case.toEconomicCaseFields n)
    a.economicCases economics

/-- What holds of the result of a scale. -/
structure Simulated (a : FleetModelAssumptionsFields) (n : ℕ) (scale : FleetScaleResult) :
    Prop where
  agents : scale.logicalAgents = n
  categorized : EachCategorized a scale
  costs : CostsAt a n scale.economics

omit [FleetPrimitives] in
theorem mem_scaleRange (hn : (n : ℤ) ∈ scalePoints) : n ∈ scaleRange ∧ 2 ≤ n := by
  simp only [scalePoints, List.mem_cons, List.not_mem_nil, or_false] at hn
  unfold scaleRange
  rw [Set.mem_Icc]
  omega

/-- Every scale is simulated. -/
theorem exists_simulateScale (h : a.Accepted) (hn : (n : ℤ) ∈ scalePoints) :
    ∃ scale, simulateScale n a = .ok scale ∧ Simulated a n scale := by
  obtain ⟨hrange, htwo⟩ := mem_scaleRange hn
  obtain ⟨arrivals, harrivals, hgenerated⟩ := exists_generateEventArrivals h hrange.2
  have hmaximum : (arrivals.length : ℤ) ≤ a.maximumSimulatedEvents := by
    have hevents := h.events
    have hle : (n : ℤ) ≤ 10000 := by exact_mod_cast hrange.2
    rw [hgenerated.length_eq]
    unfold maxLogicalAgents at hevents
    nlinarith [h.integers.events.1]
  have hne : arrivals ≠ [] := by
    intro hnil
    have hlength := hgenerated.length_eq
    have hagents : (2 : ℤ) ≤ n := by exact_mod_cast htwo
    rw [hnil, List.length_nil, Nat.cast_zero] at hlength
    nlinarith [h.integers.events.1]
  obtain ⟨-, -, queue, -, -, hqueue, hqueueEvents, -⟩ :=
    exists_simulateQueue h hgenerated.sorted hgenerated.nonneg hne hmaximum
  obtain ⟨actions, workload, hworkload, hactions⟩ :=
    exists_modelActionWorkload h hgenerated.nodup
  have hcount : actions.length ≤ 250000 := by
    have hlength := congrArg List.length hactions
    rw [List.length_map] at hlength
    have hbound := h.integers.maximumSimulatedEvents.2
    omega
  obtain ⟨coordination, hcoordination⟩ := exists_modelApprovalAndCoordination h hcount
  obtain ⟨parents, depths, graph, hgraph, hparents, hdepth⟩ :=
    exists_buildDelegationGraph h (n := n) (by omega)
  obtain ⟨revocation, hrevocation⟩ := exists_simulateRevocation h hparents htwo
  obtain ⟨policy, hpolicy⟩ := exists_simulatePolicyDistribution h hparents htwo
  obtain ⟨evidence, hevidence, hdaily⟩ :=
    FleetModelAssumptionsFields.exists_modelEvidence h hrange
  obtain ⟨operatorSpan, hspan, hoperators, hhours⟩ :=
    FleetModelAssumptionsFields.exists_modelOperatorSpan h hrange
  obtain ⟨incidentResponse, hincident, hincidentHours⟩ :=
    FleetModelAssumptionsFields.exists_modelIncidentResponse h hrange hdepth hoperators
  obtain ⟨economics, heconomics, hcosts⟩ :=
    FleetModelAssumptionsFields.exists_modelEconomics h hrange hdepth hdaily hhours hincidentHours
  rw [← hgenerated.length_eq, ← hqueueEvents] at hevidence
  have hscale : simulateScale n a = .ok {
      logicalAgents := n, queue, actionWorkload := workload,
      approvalAndCoordination := coordination, delegationGraph := graph, revocation,
      policyDistribution := policy, evidence, operatorSpan, incidentResponse, economics } := by
    rw [simulateScale, refuseIf_neg (not_not.mpr hn), ok_bind, harrivals, ok_bind, hqueue, ok_bind,
      hworkload, ok_bind]
    dsimp only
    rw [hcoordination, ok_bind, hgraph, ok_bind]
    dsimp only
    rw [hrevocation, ok_bind, hpolicy, ok_bind, hevidence, ok_bind, hspan, ok_bind, hincident,
      ok_bind, heconomics, ok_bind]
  exact ⟨_, hscale, rfl, ⟨arrivals, actions, harrivals, hworkload, hactions, hgenerated.nodup⟩,
    hcosts⟩

/-- A scale of more agents costs no less. -/
theorem Simulated.scaledUp (h : a.Accepted) {m : ℕ} (hn : n ∈ scaleRange) (hm : m ∈ scaleRange)
    (hnm : n < m) {scale next : FleetScaleResult} (hscale : Simulated a n scale)
    (hnext : Simulated a m next) : ScaledUp scale next := by
  have hagents : scale.logicalAgents < next.logicalAgents := by
    rw [hscale.agents, hnext.agents]
    exact_mod_cast hnm
  refine ⟨hagents, forall₂_of_common hscale.costs hnext.costs ?_⟩
  rintro case result result' ⟨hname, htotal⟩ ⟨hname', htotal'⟩
  refine ⟨hname.trans hname'.symm, ?_⟩
  rw [htotal, htotal']
  exact (FleetModelAssumptionsFields.growing_cost h case.spec).rounded.mono hn hm hnm.le

omit [FleetPrimitives] in
theorem CostsAt.cases_eq (h : a.Accepted) {economics : List EconomicResult}
    (hcosts : CostsAt a n economics) :
    economics.map EconomicResult.sensitivityCase = sensitivityCases := by
  rw [← h.cases]
  exact (map_eq_of_forall₂ (hcosts.imp fun _ _ hcost => hcost.1.symm)).symm

omit [FleetPrimitives] in
/-- Before the first scale every total is zero. -/
theorem CostsAt.follows (h : a.Accepted) (hn : n ∈ scaleRange) {economics : List EconomicResult}
    (hcosts : CostsAt a n economics) :
    Follows (.ofEntries (sensitivityCases.map fun case => (case, 0))) economics := by
  have hcase : ∀ result ∈ economics, result.sensitivityCase ∈ sensitivityCases ∧
      0 ≤ result.modeledTotalGovernanceCostUsdPerMonth ∧
      result.modeledTotalGovernanceCostUsdPerMonth ≤ 10 ^ 21 := by
    intro result hresult
    obtain ⟨case, -, hname, htotal⟩ := exists_mem_of_forall₂ hcosts hresult
    have hcost := (FleetModelAssumptionsFields.growing_cost h case.spec).rounded
    refine ⟨hname ▸ case.spec.name, htotal ▸ hcost.nonneg n hn, ?_⟩
    rw [htotal]
    exact (hcost.le n hn).trans (by norm_num)
  have hzero : ∀ name ∈ sensitivityCases, (SortedMap.ofEntries
      (sensitivityCases.map fun case => (case, (0 : ℚ)))).find? name = some 0 := by
    simp only [SortedMap.find?_ofEntries]
    decide
  refine ⟨?_, fun result hresult => ?_, fun result hresult => (hcase result hresult).2.2⟩
  · rw [hcosts.cases_eq h]
    decide
  · obtain ⟨hname, hnonneg, -⟩ := hcase result hresult
    exact ⟨0, hzero _ hname, le_rfl, hnonneg⟩

/-- The scales of the study are simulated, each at its number of agents. -/
theorem exists_scales (h : a.Accepted) :
    ∃ scales, (scalePoints.mapM fun point => simulateScale point a) = .ok scales ∧
      List.Forall₂ (fun point scale => ∃ n ∈ scaleRange, (n : ℤ) = point ∧ 0 < n ∧
        Simulated a n scale) scalePoints scales := by
  refine exists_mapM_eq_ok fun point hpoint => ?_
  obtain ⟨n, rfl⟩ : ∃ n : ℕ, point = n := by
    refine ⟨point.toNat, ?_⟩
    simp only [scalePoints, List.mem_cons, List.not_mem_nil, or_false] at hpoint
    omega
  obtain ⟨scale, hscale, hsimulated⟩ := exists_simulateScale h hpoint
  obtain ⟨hrange, htwo⟩ := mem_scaleRange hpoint
  exact ⟨scale, hscale, n, hrange, rfl, by omega, hsimulated⟩

/-! ## The study -/

omit [FleetPrimitives] in
/-- Marginal costs change neither the cases nor the totals. -/
theorem ScaledUp.attached {scale next scale' next' : FleetScaleResult} (h : ScaledUp scale next)
    (hscale : WithMarginals scale scale') (hnext : WithMarginals next next') :
    List.Forall₂ CostsNoLess scale'.economics next'.economics := by
  obtain ⟨economics, heconomics, rfl⟩ := hscale
  obtain ⟨economics', heconomics', rfl⟩ := hnext
  have hleft : List.Forall₂ CostsNoLess economics next.economics := by
    refine forall₂_of_common heconomics h.costs ?_
    rintro result _ result' ⟨marginal, -, rfl⟩ hcosts
    exact hcosts
  have hright : List.Forall₂ (fun result' result => CostsNoLess result result') next.economics
      economics := hleft.flip
  refine forall₂_of_common hright heconomics' ?_
  rintro result result' _ hcosts ⟨marginal, -, rfl⟩
  exact hcosts

/-- The study returns on every set of assumptions. Each action of every scale gets one category,
    and from each scale to every later one the total cost does not fall in any of the three cases,
    so that every marginal cost is attached and none is negative. -/
theorem runM6FleetStudy_completes (assumptions : Option FleetModelAssumptions) :
    ∃ report, runM6FleetStudy assumptions scalePoints = .ok report ∧
      report.assumptions = assumptions.getD .default ∧
      report.scales.map FleetScaleResult.logicalAgents = scalePoints ∧
      (∀ scale ∈ report.scales,
        EachCategorized (assumptions.getD .default).toFleetModelAssumptionsFields scale) ∧
      (∀ scale ∈ report.scales,
        scale.economics.map EconomicResult.sensitivityCase = sensitivityCases) ∧
      (∀ scale ∈ report.scales, ∀ result ∈ scale.economics,
        0 ≤ result.modeledMarginalGovernanceCostUsdPerAddedLogicalAgentMonth) ∧
      report.scales.Pairwise fun scale next =>
        List.Forall₂ CostsNoLess scale.economics next.economics := by
  have h := (assumptions.getD FleetModelAssumptions.default).spec
  obtain ⟨raw, hraw, hscales⟩ := exists_scales h
  have hsorted : raw.Pairwise ScaledUp := by
    refine pairwise_of_forall₂ (P := fun point point' : ℤ => point < point') (by decide) hscales ?_
    rintro point point' scale next hlt ⟨n, hn, rfl, -, hscale⟩ ⟨m, hm, rfl, -, hnext⟩
    exact hscale.scaledUp h hn hm (by exact_mod_cast hlt) hnext
  obtain ⟨run, attached, hrun, houtput, hattached⟩ : ∃ run attached, raw.foldlM attachScale
      ⟨[], 0, .ofEntries (sensitivityCases.map fun case => (case, 0))⟩ = .ok run ∧
      run.output = [] ++ attached ∧ List.Forall₂ WithMarginals raw attached := by
    refine exists_attachScales hsorted (fun scale hscale => ?_) fun scale hscale => ?_
    · obtain ⟨point, -, n, -, -, hpositive, hsimulated⟩ := exists_mem_of_forall₂ hscales hscale
      rw [hsimulated.agents]
      exact Int.natCast_pos.mpr hpositive
    · obtain ⟨point, -, n, hn, -, -, hsimulated⟩ := exists_mem_of_forall₂ hscales hscale
      exact hsimulated.costs.follows h hn
  rw [List.nil_append] at houtput
  have hreport : runM6FleetStudy assumptions scalePoints =
      .ok ⟨scalePoints, assumptions.getD .default, attached⟩ := by
    rw [runM6FleetStudy, refuseIf_neg (not_not.mpr rfl), ok_bind]
    dsimp only
    rw [hraw, ok_bind, attachMarginalCosts, hrun, ok_bind, ok_bind, houtput]
  refine ⟨_, hreport, rfl, ?_, fun scale hscale => ?_, fun scale hscale => ?_,
    fun scale hscale => ?_, pairwise_of_forall₂ hsorted hattached ?_⟩
  · have hagents : List.Forall₂ (fun (point : ℤ) (scale : FleetScaleResult) =>
        point = scale.logicalAgents) scalePoints raw := by
      refine hscales.imp ?_
      rintro point scale ⟨n, -, rfl, -, hsimulated⟩
      exact hsimulated.agents.symm
    have hsame : raw.map FleetScaleResult.logicalAgents =
        attached.map FleetScaleResult.logicalAgents := by
      refine map_eq_of_forall₂ (hattached.imp ?_)
      rintro scale _ ⟨economics, -, rfl⟩
      rfl
    rw [← hsame, ← map_eq_of_forall₂ (f := id) hagents, List.map_id]
  · obtain ⟨before, hbefore, economics, -, rfl⟩ := exists_mem_of_forall₂ hattached hscale
    obtain ⟨point, -, n, -, -, -, hsimulated⟩ := exists_mem_of_forall₂ hscales hbefore
    exact hsimulated.categorized
  · obtain ⟨before, hbefore, economics, hmarginals, rfl⟩ := exists_mem_of_forall₂ hattached hscale
    obtain ⟨point, -, n, -, -, -, hsimulated⟩ := exists_mem_of_forall₂ hscales hbefore
    rw [← hsimulated.costs.cases_eq h]
    refine (map_eq_of_forall₂ (hmarginals.imp ?_)).symm
    rintro result _ ⟨marginal, -, rfl⟩
    rfl
  · obtain ⟨before, -, economics, hmarginals, rfl⟩ := exists_mem_of_forall₂ hattached hscale
    intro result hresult
    obtain ⟨earlier, -, marginal, hnonneg, rfl⟩ := exists_mem_of_forall₂ hmarginals hresult
    exact hnonneg
  · intro scale next scale' next' hup hscale hnext
    exact hup.attached hscale hnext

end

end AegisOt
