import AegisOt.Coordination.Proofs.Updates

/-!
# Answering a new query on the effect side

`retain_query_outcome` and `answer_query` append a request-only query attempt, store it, and
then complete it with the outcome. `AdmitsAnswer` lists what the second half demands of the
outcome and the clock, and the two theorems below say that these demands are exactly the ones:
under them the completed record (`answered`) is what gets stored and is valid, and whatever
gets stored satisfied them.
-/

namespace AegisOt

variable [Primitives]

open CoordinationJournalRecord

/-! ## Binding an acceptance on the effect side -/

/-- A commit attempt of the effect coordinator retains its acceptance from the start. -/
theorem JournalEntry.commit_accepted (e : JournalEntry .effectCoordinator)
    {a : EffectCommitAttempt} (ha : .commit a ∈ e.record.attempts) :
    ∃ acceptance, a.acceptance = some acceptance := by
  have hrole := e.roleValid
  rw [validateRoleHistory, refuseIf_eq_ok] at hrole
  refine Option.ne_none_iff_exists'.mp fun hnone => hrole ⟨rfl, .commit a, ha, rfl, hnone⟩

/-- So binding an outcome changes nothing: its acceptance is the one that is retained. -/
theorem JournalEntry.eq_of_bindOutcomeAcceptance {e : JournalEntry .effectCoordinator}
    {outcome : SignedEffectOutcome} {time : Time} {bound : CoordinationJournalRecord}
    (h : bindOutcomeAcceptance e.record outcome time = .ok bound) :
    bound = e.record ∧ outcome.acceptance = e.record.latestAcceptance := by
  obtain ⟨hnd, hdispatched⟩ := bindOutcomeAcceptance_eq_ok.mp h
  by_cases hdisposition : outcome.disposition = .notDispatched
  · obtain ⟨hnone, hlatest, rfl⟩ := hnd hdisposition
    exact ⟨rfl, hnone.trans hlatest.symm⟩
  · obtain ⟨acceptance, attempt, houtcome, hattempt, -, -, hsame, hbound⟩ :=
      hdispatched hdisposition
    have hmem := (mem_of_commitAttempt hattempt).1
    obtain ⟨retained, hretained⟩ := e.commit_accepted hmem
    have hlatest := (e.history.latestAcceptance_eq hmem).trans hretained
    have hpost := e.history.latestAcceptance_ne_none.mp (by simp [hlatest])
    have hnotArmed : e.record.state ≠ .dispatchArmed := by
      intro harmed
      rw [harmed] at hpost
      cases hpost
    simp only [retainAcceptance, hretained, reduceCtorEq, if_false, acceptCommit, hnotArmed,
      bind_unit_eq_ok, pure_eq_ok, Except.ok.injEq] at hbound
    exact ⟨hbound.2.symm, by rw [houtcome, hlatest, hsame retained hretained]⟩

theorem SignedEffectOutcome.acceptance_none {o : SignedEffectOutcome} (h : o.validate = .ok ())
    (hnd : o.disposition = .notDispatched) : o.acceptance = none := by
  rcases o.closed_cases h with ⟨-, -, hnone, -⟩ | ⟨hdispatched, -⟩
  · exact hnone
  · exact absurd hnd hdispatched

theorem SignedEffectOutcome.acceptedAt_le {o : SignedEffectOutcome} (h : o.validate = .ok ())
    (hnd : o.disposition ≠ .notDispatched) :
    ∃ acceptance, o.acceptance = some acceptance ∧ acceptance.acceptedAt ≤ o.signedAt := by
  rcases o.closed_cases h with ⟨hdenied, -⟩ | ⟨-, acceptance, hacceptance, hevidence⟩
  · exact absurd hdenied hnd
  · exact ⟨acceptance, hacceptance, hevidence.accepted⟩

theorem validateAcceptance_of_exact {a : EffectCommitAttempt} (h : a.requireExact = .ok ())
    {acceptance : DurableCommitAcceptance} (hacceptance : a.acceptance = some acceptance) :
    validateAcceptance a.request acceptance none = .ok () := by
  have hbinds := a.acceptance_binds h hacceptance
  simp only [EffectCommitAttempt.requireExact, bind_unit_eq_ok, refuseIf_eq_ok] at h
  simp only [validateAcceptance, refuseIf_eq_ok]
  grind

theorem JournalEntry.bindOutcomeAcceptance_self (e : JournalEntry .effectCoordinator)
    {outcome : SignedEffectOutcome} {time : Time} (hvalid : outcome.validate = .ok ())
    (hsame : outcome.acceptance = e.record.latestAcceptance) (hsigned : outcome.signedAt ≤ time) :
    bindOutcomeAcceptance e.record outcome time = .ok e.record := by
  refine bindOutcomeAcceptance_eq_ok.mpr ⟨fun hnd => ?_, fun hdispatched => ?_⟩
  · have hnone := outcome.acceptance_none hvalid hnd
    exact ⟨hnone, hsame ▸ hnone, rfl⟩
  · obtain ⟨acceptance, hacceptance, haccepted⟩ := outcome.acceptedAt_le hvalid hdispatched
    have hlatest := hsame.symm.trans hacceptance
    obtain ⟨a, ha, hretained⟩ := ValidHistory.mem_of_latestAcceptance hlatest
    have hexact := CoordinationAttempt.commit_exact (e.history.attemptsValid _ ha)
    have hrequest := (a.acceptance_binds hexact hretained).2.2.1
    have hpost := e.history.latestAcceptance_ne_none.mp (by simp [hlatest])
    refine ⟨acceptance, a, hacceptance, hrequest ▸ e.history.commitAttempt_eq ha,
      validateAcceptance_of_exact hexact hretained, haccepted.trans hsigned,
      fun b hb => Option.some.inj (hb.symm.trans hretained), ?_⟩
    have hnotArmed : e.record.state ≠ .dispatchArmed := by
      intro harmed
      rw [harmed] at hpost
      cases hpost
    simp [retainAcceptance, hretained, acceptCommit, hnotArmed, hpost]

/-! ## The answered record -/

namespace CoordinationJournalRecord

/-- The attempt of a query that was asked and answered at one time. -/
def answeredAttempt (r : CoordinationJournalRecord) (request : SignedEffectQueryRequest)
    (outcome : SignedEffectOutcome) (time : Time) : EffectQueryAttempt :=
  { newQueryAttempt r request time with status := .responseRetained, outcome := some outcome }

/-- The record with that attempt, in the state the outcome asserts. -/
def answered (r : CoordinationJournalRecord) (request : SignedEffectQueryRequest)
    (outcome : SignedEffectOutcome) (time : Time) : CoordinationJournalRecord :=
  { r with
    attempts := r.attempts ++ [.query (r.answeredAttempt request outcome time)]
    transitions := if r.state = outcome.disposition.state then r.transitions else
      r.transitions ++ [r.nextTransition outcome.disposition.state (some outcome.digest)
        "signed_query_outcome_retained" time] }

/-- What a record demands of the answer to a new query. -/
structure AdmitsAnswer (r : CoordinationJournalRecord) (outcome : SignedEffectOutcome)
    (time : Time) : Prop where
  valid : outcome.validate = .ok ()
  signed : outcome.signedAt ≤ time
  acceptance : outcome.acceptance = r.latestAcceptance
  terminal : r.state.terminal = true → outcome.disposition.state = r.state
  chronology : r.state ≠ outcome.disposition.state →
    ∀ last ∈ r.transitions.getLast?, last.recordedAt ≤ time

variable {r : CoordinationJournalRecord} {request : SignedEffectQueryRequest}
  {outcome : SignedEffectOutcome} {time : Time}

theorem replaceAttempt_newQueryAttempt (h : r.Numbered) :
    (r.appendAttempt (.query (newQueryAttempt r request time))).replaceAttempt
        (.query (r.answeredAttempt request outcome time)) =
      r.appendAttempt (.query (r.answeredAttempt request outcome time)) := by
  have hold : r.attempts.map (fun item => if item.base.sequence = r.attempts.length + 1 then
      CoordinationAttempt.query (r.answeredAttempt request outcome time) else item) =
      r.attempts := by
    refine List.map_congr_left (fun item hitem => ?_) |>.trans (List.map_id _)
    obtain ⟨i, hi⟩ := List.getElem?_of_mem hitem
    have hsequence := h i item hi
    have hlt := (List.getElem?_eq_some_iff.mp hi).1
    rw [if_neg (by omega)]
    rfl
  have hnew : (CoordinationAttempt.query (newQueryAttempt r request time)).base.sequence =
    r.attempts.length + 1 := rfl
  have hanswered : (CoordinationAttempt.query (r.answeredAttempt request outcome
    time)).base.sequence = r.attempts.length + 1 := rfl
  simp only [replaceAttempt, appendAttempt, List.map_append, hanswered, hold, List.map_cons,
    hnew, if_true, List.map_nil]

omit [Primitives] in
theorem latestAcceptance_append_query (attempts : List CoordinationAttempt)
    (a : EffectQueryAttempt) (h : r.attempts = attempts ++ [.query a]) :
    r.latestAcceptance = attempts.reverse.findSome? CoordinationAttempt.acceptance? := by
  rw [latestAcceptance, h, List.reverse_append, List.reverse_singleton, List.singleton_append,
    List.findSome?_cons]
  rfl

theorem transitions_answered_eq (request : SignedEffectQueryRequest) (time : Time)
    (h : r.state = outcome.disposition.state) :
    (r.answered request outcome time).transitions = r.transitions := if_pos h

theorem transitions_answered_ne (request : SignedEffectQueryRequest) (time : Time)
    (h : r.state ≠ outcome.disposition.state) :
    (r.answered request outcome time).transitions = r.transitions ++
      [r.nextTransition outcome.disposition.state (some outcome.digest)
        "signed_query_outcome_retained" time] := if_neg h

theorem state_answered : (r.answered request outcome time).state = outcome.disposition.state := by
  by_cases hstate : r.state = outcome.disposition.state
  · rw [state_congr (transitions_answered_eq request time hstate), hstate]
  · simp [state, transitions_answered_ne request time hstate, nextTransition]

theorem latestEvidence_answered_eq (h : r.state = outcome.disposition.state) :
    (r.answered request outcome time).latestEvidenceSha256 = r.latestEvidenceSha256 := by
  simp [latestEvidenceSha256, transitions_answered_eq request time h]

theorem latestEvidence_answered_ne (h : r.state ≠ outcome.disposition.state) :
    (r.answered request outcome time).latestEvidenceSha256 = some outcome.digest := by
  simp [latestEvidenceSha256, transitions_answered_ne request time h, nextTransition]

theorem latestAcceptance_answered :
    (r.answered request outcome time).latestAcceptance = r.latestAcceptance :=
  latestAcceptance_append_query r.attempts _ rfl

/-- The next state of an answered record is the outcome's, and the table allows it. -/
theorem AdmitsAnswer.canTransitionTo (hadmits : r.AdmitsAnswer outcome time)
    (h : r.ValidHistory) (hqueryable : requireQueryable .effectCoordinator r true = .ok ())
    (hne : r.state ≠ outcome.disposition.state) :
    r.state.terminal = false ∧ r.state.canTransitionTo outcome.disposition.state = true := by
  have hnonterminal : r.state.terminal = false := by
    cases hterminal : r.state.terminal with
    | false => rfl
    | true => exact absurd (hadmits.terminal hterminal).symm hne
  refine ⟨hnonterminal, ?_⟩
  have hpost := h.latestAcceptance_ne_none
  simp only [requireQueryable, bind_unit_eq_ok, refuseIf_eq_ok] at hqueryable
  obtain ⟨-, -, hprepared⟩ := hqueryable
  rw [← hadmits.acceptance] at hpost
  cases hdisposition : outcome.disposition with
  | notDispatched =>
    rw [outcome.acceptance_none hadmits.valid hdisposition] at hpost
    generalize r.state = s at *
    cases s <;> simp_all [CoordinationState.postCommit, CoordinationState.terminal]
    decide
  | _ =>
    obtain ⟨acceptance, hacceptance, -⟩ :=
      outcome.acceptedAt_le hadmits.valid (by simp [hdisposition])
    rw [hacceptance] at hpost
    generalize r.state = s at *
    cases s <;> simp_all [CoordinationState.postCommit, CoordinationState.terminal,
      EffectDisposition.state] <;> decide

theorem validate_nextTransition (h : r.LegalHistory) (outcome : SignedEffectOutcome)
    (time : Time) :
    (r.nextTransition outcome.disposition.state (some outcome.digest)
      "signed_query_outcome_retained" time).validate = .ok () := by
  have hlength := h.length_le_five
  simp only [CoordinationTransition.validate, bind_unit_eq_ok, refuseIf_eq_ok]
  simp only [nextTransition, maxTransitionsPerEffect]
  exact ⟨by omega, by decide, by simp, by simp⟩

/-- The completed attempt passes its own validators. -/
theorem AdmitsAnswer.attempt_validate (hadmits : r.AdmitsAnswer outcome time)
    (hasked : (CoordinationAttempt.query (newQueryAttempt r request time)).validate = .ok ())
    (hbinds : outcome.binds (.query request)) :
    (CoordinationAttempt.query (r.answeredAttempt request outcome time)).validate = .ok () := by
  have hexact := CoordinationAttempt.query_exact hasked
  simp only [CoordinationAttempt.validate, bind_unit_eq_ok] at hasked ⊢
  refine ⟨hasked.1, hadmits.valid, ?_⟩
  obtain ⟨hreason, htimes, hrequest, hissued, -⟩ :=
    (EffectQueryAttempt.requireExact_requestRetained rfl).mp hexact
  refine (EffectQueryAttempt.requireExact_responseRetained rfl).mpr
    ⟨hreason, htimes, hrequest, hissued, ⟨outcome, rfl, hbinds⟩, ⟨rfl, rfl⟩, ?_⟩
  rintro o ⟨rfl⟩
  exact hadmits.signed

/-- A turn of the attempt loop admits the completed attempt where it admitted the request. -/
theorem AdmitsAnswer.admits (hadmits : r.AdmitsAnswer outcome time) (h : r.ValidHistory)
    (hasked : (finalScan r.attempts).Admits r.effect (r.attempts.length + 1)
      (.query (newQueryAttempt r request time)))
    (hreceipt : ∀ receipt ∈ outcome.receipt, r.retainsReceipt receipt = true) :
    (finalScan r.attempts).Admits r.effect (r.attempts.length + 1)
      (.query (r.answeredAttempt request outcome time)) := by
  refine ⟨rfl, hasked.sameEffect, hasked.chronology, by simp, ?_⟩
  rintro a ⟨rfl⟩ o ho hdispatched
  obtain rfl : outcome = o := Option.some.inj ho
  obtain ⟨acceptance, hacceptance, -⟩ := outcome.acceptedAt_le hadmits.valid hdispatched
  refine ⟨?_, acceptance, hacceptance, ?_⟩
  · have hmem : acceptance.commitRequest.receipt ∈ outcome.receipt := by
      simp [SignedEffectOutcome.receipt, hacceptance]
    obtain ⟨attempt, hattempt, hretained⟩ := List.any_eq_true.mp (hreceipt _ hmem)
    exact ⟨_, hmem, mem_retainedReceipts.mpr
      ⟨attempt, hattempt, _, of_decide_eq_true hretained, rfl⟩⟩
  · have hlatest := hadmits.acceptance.symm.trans hacceptance
    obtain ⟨c, hc, hretained⟩ := ValidHistory.mem_of_latestAcceptance hlatest
    exact h.lookup_retainedAcceptances hc hretained

omit [Primitives] in
theorem hasPostCommitTransition_of_state {last : CoordinationTransition}
    (hlast : r.transitions.getLast? = some last) (h : r.state.postCommit = true) :
    r.hasPostCommitTransition = true :=
  List.any_eq_true.mpr ⟨last, List.mem_of_getLast? hlast, ValidHistory.state_eq hlast ▸ h⟩

omit [Primitives] in
theorem dispatchedTerminal_state (d : EffectDisposition) :
    d.state.dispatchedTerminal = d.dispatchedTerminal := by
  cases d <;> rfl

omit [Primitives] in
theorem eq_notDispatched_of_state {d : EffectDisposition} (h : d.state = .notDispatched) :
    d = .notDispatched := by
  cases d <;> first | rfl | cases h

/-- The states before and after an answer. -/
theorem AdmitsAnswer.postCommit (hadmits : r.AdmitsAnswer outcome time) (h : r.ValidHistory) :
    r.state.postCommit = outcome.disposition.state.postCommit := by
  have hpost := h.latestAcceptance_ne_none
  rw [← hadmits.acceptance] at hpost
  cases hdisposition : outcome.disposition with
  | notDispatched =>
    rw [outcome.acceptance_none hadmits.valid hdisposition] at hpost
    simpa [EffectDisposition.state, CoordinationState.postCommit] using hpost
  | _ =>
    obtain ⟨acceptance, hacceptance, -⟩ :=
      outcome.acceptedAt_le hadmits.valid (by simp [hdisposition])
    rw [hacceptance] at hpost
    simpa [EffectDisposition.state, CoordinationState.postCommit] using hpost

/-- A record that moves was not terminal. -/
theorem AdmitsAnswer.moved (hadmits : r.AdmitsAnswer outcome time)
    (hne : r.state ≠ outcome.disposition.state) :
    r.state.dispatchedTerminal = false ∧ r.state ≠ .notDispatched := by
  have hnonterminal : r.state.terminal = false := by
    cases hterminal : r.state.terminal with
    | false => rfl
    | true => exact absurd (hadmits.terminal hterminal).symm hne
  generalize r.state = s at hnonterminal
  cases s <;> simp_all [CoordinationState.terminal, CoordinationState.dispatchedTerminal]

theorem mem_terminalOutcomes_answered {entry : EffectDisposition × Sha256} :
    entry ∈ (finalScan (r.answered request outcome time).attempts).terminalOutcomes ↔
      entry ∈ (finalScan r.attempts).terminalOutcomes ∨
      (outcome.disposition.dispatchedTerminal = true ∧
        entry = (outcome.disposition, outcome.digest)) := by
  simp only [mem_terminalOutcomes, answered, List.mem_append, List.mem_singleton]
  constructor
  · rintro ⟨a, ha | rfl, o, ho, hentry⟩
    · exact Or.inl ⟨a, ha, o, ho, hentry⟩
    · obtain rfl : outcome = o := Option.some.inj ho
      exact Or.inr hentry
  · rintro (⟨a, ha, o, ho, hentry⟩ | hentry)
    · exact ⟨a, Or.inl ha, o, ho, hentry⟩
    · exact ⟨_, Or.inr rfl, outcome, rfl, hentry⟩

theorem mem_notDispatchedOutcomeDigests_answered {digest : Sha256} :
    digest ∈ (finalScan (r.answered request outcome time).attempts).notDispatchedOutcomeDigests ↔
      digest ∈ (finalScan r.attempts).notDispatchedOutcomeDigests ∨
      (outcome.disposition = .notDispatched ∧ outcome.digest = digest) := by
  simp only [mem_notDispatchedOutcomeDigests, answered, List.mem_append, List.mem_singleton]
  constructor
  · rintro ⟨a, ha | ha, o, ho, hentry⟩
    · exact Or.inl ⟨a, ha, o, ho, hentry⟩
    · obtain rfl := CoordinationAttempt.query.inj ha
      obtain rfl : outcome = o := Option.some.inj ho
      exact Or.inr hentry
  · rintro (⟨a, ha, o, ho, hentry⟩ | hentry)
    · exact ⟨a, Or.inl ha, o, ho, hentry⟩
    · exact ⟨_, Or.inr rfl, outcome, rfl, hentry⟩

omit [Primitives] in
theorem forState_state (d : EffectDisposition) : some d = EffectDisposition.forState d.state := by
  cases d <;> rfl

/-- A terminal answer agrees with every terminal outcome and is bound to one. -/
theorem AdmitsAnswer.terminalOutcomes (hadmits : r.AdmitsAnswer outcome time)
    (h : r.ValidHistory)
    (hstate : (r.answered request outcome time).state.dispatchedTerminal = true) :
    (∀ entry ∈ (finalScan (r.answered request outcome time).attempts).terminalOutcomes,
      some entry.1 = EffectDisposition.forState (r.answered request outcome time).state) ∧
    ∃ entry ∈ (finalScan (r.answered request outcome time).attempts).terminalOutcomes,
      (r.answered request outcome time).latestEvidenceSha256 = some entry.2 := by
  rw [state_answered] at hstate ⊢
  have hdisposition := (dispatchedTerminal_state _).symm.trans hstate
  simp only [mem_terminalOutcomes_answered]
  by_cases hsame : r.state = outcome.disposition.state
  · obtain ⟨hall, entry, hentry, hevidence⟩ := h.outcomes.terminal (hsame ▸ hstate)
    refine ⟨?_, entry, Or.inl hentry, (latestEvidence_answered_eq hsame).trans hevidence⟩
    rintro e (he | ⟨-, rfl⟩)
    · exact hsame ▸ hall e he
    · exact forState_state _
  · refine ⟨?_, _, Or.inr ⟨hdisposition, rfl⟩, latestEvidence_answered_ne hsame⟩
    rintro e (he | ⟨-, rfl⟩)
    · rw [h.outcomes.nonterminal (hadmits.moved hsame).1] at he
      simp at he
    · exact forState_state _

theorem AdmitsAnswer.no_terminalOutcomes (hadmits : r.AdmitsAnswer outcome time)
    (h : r.ValidHistory)
    (hstate : (r.answered request outcome time).state.dispatchedTerminal = false) :
    (finalScan (r.answered request outcome time).attempts).terminalOutcomes = [] := by
  rw [state_answered] at hstate
  have hdisposition := (dispatchedTerminal_state _).symm.trans hstate
  rw [List.eq_nil_iff_forall_not_mem]
  intro entry hentry
  rcases mem_terminalOutcomes_answered.mp hentry with hold | ⟨hnew, -⟩
  · have hnonterminal : r.state.dispatchedTerminal = false := by
      by_cases hsame : r.state = outcome.disposition.state
      · rw [hsame, hstate]
      · exact (hadmits.moved hsame).1
    rw [h.outcomes.nonterminal hnonterminal] at hold
    simp at hold
  · rw [hdisposition] at hnew
    cases hnew

/-- A NOT_DISPATCHED answer is bound to the last transition, old or new. -/
theorem AdmitsAnswer.notDispatchedOutcomes (hadmits : r.AdmitsAnswer outcome time)
    (h : r.ValidHistory) (hretains : r.state = .notDispatched → r.RetainsNotDispatched)
    (hne : (finalScan (r.answered request outcome time).attempts).notDispatchedOutcomeDigests ≠
      []) :
    (r.answered request outcome time).state = .notDispatched ∧
    ∃ digest ∈ (finalScan (r.answered request outcome time).attempts).notDispatchedOutcomeDigests,
      (r.answered request outcome time).latestEvidenceSha256 = some digest := by
  rw [state_answered]
  obtain ⟨digest, hdigest⟩ := List.exists_mem_of_ne_nil _ hne
  have hnd : outcome.disposition.state = .notDispatched := by
    rcases mem_notDispatchedOutcomeDigests_answered.mp hdigest with hold | ⟨hnew, -⟩
    · have hstate := (h.outcomes.notDispatched (List.ne_nil_of_mem hold)).1
      rw [hadmits.terminal (by rw [hstate]; rfl), hstate]
    · rw [hnew]; rfl
  refine ⟨hnd, ?_⟩
  simp only [mem_notDispatchedOutcomeDigests_answered]
  by_cases hsame : r.state = outcome.disposition.state
  · obtain ⟨q, o, hq, ho, hod⟩ := hretains (hsame.trans hnd)
    have hmem := mem_notDispatchedOutcomeDigests.mpr ⟨q, hq, o, ho, hod, rfl⟩
    obtain ⟨-, old, hold, hevidence⟩ := h.outcomes.notDispatched (List.ne_nil_of_mem hmem)
    exact ⟨old, Or.inl hold, (latestEvidence_answered_eq hsame).trans hevidence⟩
  · exact ⟨outcome.digest, Or.inr ⟨eq_notDispatched_of_state hnd, rfl⟩,
      latestEvidence_answered_ne hsame⟩

/-- The checks after the loops hold of the answered record. -/
theorem AdmitsAnswer.outcomeHistory (hadmits : r.AdmitsAnswer outcome time)
    (h : r.ValidHistory) (hqueryable : requireQueryable .effectCoordinator r true = .ok ())
    (hretains : r.state = .notDispatched → r.RetainsNotDispatched) :
    (r.answered request outcome time).OutcomeHistory := by
  obtain ⟨last, hlast⟩ := h.exists_last
  have hscan : finalScan (r.answered request outcome time).attempts =
      (finalScan r.attempts).next (.query (r.answeredAttempt request outcome time)) :=
    finalScan_append _ _
  have hpost := hadmits.postCommit h
  have hpostTransition (hp : (r.answered request outcome time).hasPostCommitTransition = true) :
      r.hasPostCommitTransition = true := by
    by_cases hstate : r.state = outcome.disposition.state
    · rwa [hasPostCommitTransition, transitions_answered_eq request time hstate] at hp
    · rw [hasPostCommitTransition, transitions_answered_ne request time hstate, List.any_append,
        Bool.or_eq_true] at hp
      rcases hp with hp | hp
      · exact hp
      · refine hasPostCommitTransition_of_state hlast (hpost.trans ?_)
        simpa [nextTransition] using hp
  refine
    { beginsWithPrepare := ?_, oneCommit := ?_, oneCommitRequest := ?_, receipt := ?_,
      commitIntent := ?_, acceptance := ?_, acceptanceBinds := ?_
      terminal := hadmits.terminalOutcomes h
      nonterminal := hadmits.no_terminalOutcomes h
      notDispatched := hadmits.notDispatchedOutcomes h hretains }
  · have hfirst := h.outcomes.beginsWithPrepare
    cases hattempts : r.attempts with
    | nil => simp [hattempts] at hfirst
    | cons a rest => simpa [answered, hattempts] using hfirst
  · simpa [answered, List.countP_append, CoordinationAttempt.isCommit] using h.outcomes.oneCommit
  · rw [hscan]
    exact h.outcomes.oneCommitRequest
  · rw [hscan, state_answered]
    intro hreceived hnotDispatched
    refine h.outcomes.receipt ?_ ?_
    · intro hr
      by_cases hstate : r.state = outcome.disposition.state
      · exact hreceived (hstate ▸ hr)
      · have hlegal := (hadmits.canTransitionTo h hqueryable hstate).2
        rw [hr] at hlegal hpost
        cases hdisposition : outcome.disposition <;>
          simp_all [EffectDisposition.state, CoordinationState.postCommit]
    · intro hr
      by_cases hstate : r.state = outcome.disposition.state
      · exact hnotDispatched (hstate ▸ hr)
      · exact (hadmits.moved hstate).2 hr
  · rw [hscan]
    exact fun hp => h.outcomes.commitIntent (hpostTransition hp)
  · rw [latestAcceptance_answered]
    exact fun hp => h.outcomes.acceptance (hpostTransition hp)
  · rw [latestAcceptance_answered]
    intro acceptance hacceptance
    obtain ⟨t, ht, hbinds⟩ := h.outcomes.acceptanceBinds acceptance hacceptance
    refine ⟨t, ?_, hbinds⟩
    by_cases hstate : r.state = outcome.disposition.state
    · rwa [transitions_answered_eq request time hstate]
    · have hlt := (List.getElem?_eq_some_iff.mp ht).1
      rwa [transitions_answered_ne request time hstate, List.getElem?_append_left hlt]

/-- The attempt loop over one more attempt. -/
theorem scanAttempts_append_singleton {effect : EffectIdentity}
    {attempts : List CoordinationAttempt} {a : CoordinationAttempt}
    (h : scanAttempts effect 1 .start attempts = .ok (finalScan attempts)) :
    scanAttempts effect 1 .start (attempts ++ [a]) = .ok (finalScan (attempts ++ [a])) ↔
      (finalScan attempts).Admits effect (attempts.length + 1) a := by
  rw [scanAttempts_append, h, ok_bind, finalScan_append, Nat.add_comm]
  simp [scanAttempts, add_eq_ok]

/-- The transitions of the answered record are legal, valid and in order. -/
theorem AdmitsAnswer.transitions (hadmits : r.AdmitsAnswer outcome time) (h : r.ValidHistory)
    (hqueryable : requireQueryable .effectCoordinator r true = .ok ())
    (request : SignedEffectQueryRequest) :
    (r.answered request outcome time).LegalHistory ∧
    (∀ t ∈ (r.answered request outcome time).transitions, t.validate = .ok ()) ∧
    (r.answered request outcome time).transitions.IsChain
      (fun s t => s.recordedAt ≤ t.recordedAt ∧ s.state.canTransitionTo t.state = true) := by
  by_cases hstate : r.state = outcome.disposition.state
  · have htransitions := transitions_answered_eq request time hstate
    rw [htransitions]
    refine ⟨?_, h.transitionsValid, h.transitionChain⟩
    have := h.legalHistory
    exact ⟨htransitions ▸ this.path, htransitions ▸ this.received, htransitions ▸ this.sequence⟩
  · have hmoves := hadmits.canTransitionTo h hqueryable hstate
    have hvalid := validate_nextTransition h.legalHistory outcome time
    have htransition : r.transition outcome.disposition.state (some outcome.digest)
        "signed_query_outcome_retained" time = .ok { r with transitions := r.transitions ++
          [r.nextTransition outcome.disposition.state (some outcome.digest)
            "signed_query_outcome_retained" time] } :=
      transition_eq_ok.mpr ⟨hmoves.1, hmoves.2, hvalid, rfl⟩
    have hmoved := legalHistory_transition h.legalHistory htransition
    have htransitions := transitions_answered_ne request time hstate
    rw [htransitions]
    refine ⟨⟨htransitions ▸ hmoved.path, htransitions ▸ hmoved.received,
      htransitions ▸ hmoved.sequence⟩, ?_, ?_⟩
    · intro t ht
      rcases List.mem_append.mp ht with ht | ht
      · exact h.transitionsValid t ht
      · rw [List.mem_singleton.mp ht]
        exact hvalid
    · rw [List.isChain_append]
      refine ⟨h.transitionChain, by simp, ?_⟩
      intro s hs t ht
      obtain rfl : r.nextTransition outcome.disposition.state (some outcome.digest)
        "signed_query_outcome_retained" time = t := by simpa using ht
      exact ⟨hadmits.chronology hstate s hs, ValidHistory.state_eq hs ▸ hmoves.2⟩

/-- An answer the record admits leaves a valid record. -/
theorem AdmitsAnswer.validHistory (hadmits : r.AdmitsAnswer outcome time) (h : r.ValidHistory)
    (hasked : (r.appendAttempt (.query (newQueryAttempt r request time))).ValidHistory)
    (hqueryable : requireQueryable .effectCoordinator r true = .ok ())
    (hretains : r.state = .notDispatched → r.RetainsNotDispatched)
    (hbinds : outcome.binds (.query request))
    (hreceipt : ∀ receipt ∈ outcome.receipt, r.retainsReceipt receipt = true) :
    (r.answered request outcome time).ValidHistory := by
  obtain ⟨hlegal, hvalid, hchain⟩ := hadmits.transitions h hqueryable request
  have haskedAttempt : (CoordinationAttempt.query (newQueryAttempt r request time)).validate =
    .ok () := hasked.attemptsValid _ (by simp [appendAttempt])
  have hcount := hlegal.length_le_five
  refine
    { effectValid := h.effectValid
      transitionCount := ⟨?_, by simp only [maxTransitionsPerEffect]; omega⟩
      transitionsValid := hvalid
      attemptCount := ?_
      attemptsValid := ?_
      effectSha256 := h.effectSha256
      received := ?_
      transitionSequence := hlegal.sequence
      transitionChain := hchain
      scanned := ?_
      outcomes := hadmits.outcomeHistory h hqueryable hretains }
  · have hhead := hlegal.received
    cases htransitions : (r.answered request outcome time).transitions with
    | nil => simp [htransitions] at hhead
    | cons t rest => simp
  · simpa [answered, appendAttempt] using hasked.attemptCount
  · intro a ha
    rcases List.mem_append.mp ha with ha | ha
    · exact h.attemptsValid a ha
    · rw [List.mem_singleton.mp ha]
      exact hadmits.attempt_validate haskedAttempt hbinds
  · have hhead := hlegal.received
    rw [List.head?_map, Option.map_eq_some_iff] at hhead
    exact hhead
  · have haskedScan := (scanAttempts_append_singleton h.scanned).mp hasked.scanned
    exact (scanAttempts_append_singleton h.scanned).mpr (hadmits.admits h haskedScan hreceipt)

end CoordinationJournalRecord

/-! ## Completing the query -/

section Completing

variable {r : CoordinationJournalRecord} {request : SignedEffectQueryRequest}
  {outcome : SignedEffectOutcome} {time : Time} {asked : JournalEntry .effectCoordinator}

/-- Settling the completed attempt. -/
theorem settleQuery_answered (request : SignedEffectQueryRequest) (time : Time)
    (hstate : r.state.terminal = true →
      outcome.disposition.state = r.state) (hlegal : r.LegalHistory)
    (hmoves : r.state ≠ outcome.disposition.state →
      r.state.canTransitionTo outcome.disposition.state = true) :
    settleQuery (r.appendAttempt (.query (r.answeredAttempt request outcome time))) outcome time =
      .ok (r.answered request outcome time) := by
  have hsame (h : r.state = outcome.disposition.state) :
      r.appendAttempt (.query (r.answeredAttempt request outcome time)) =
        r.answered request outcome time := by
    simp [answered, h, appendAttempt]
  unfold settleQuery
  split
  · rename_i hterminal
    rw [hsame (hstate hterminal).symm, pure_eq_ok]
  · rename_i hterminal
    unfold settle
    split
    · rename_i h
      rw [hsame h, pure_eq_ok]
    · rename_i hne
      refine transition_eq_ok.mpr ⟨by simpa using hterminal, hmoves hne,
        validate_nextTransition hlegal outcome time, ?_⟩
      have hne : ¬ r.state = outcome.disposition.state := hne
      simp [answered, hne, appendAttempt, nextTransition]

/-- An answer the record admits is what `_complete_query_record` stores. -/
theorem completeRetainedQuery_of_admits (hadmits : r.AdmitsAnswer outcome time)
    (hasked : asked.record = r.appendAttempt (.query (newQueryAttempt r request time)))
    (h : r.ValidHistory) (hqueryable : requireQueryable .effectCoordinator r true = .ok ())
    (hbinds : outcome.binds (.query request)) :
    completeRetainedQuery asked (newQueryAttempt r request time) outcome time =
      .ok (.store (r.answered request outcome time) id) := by
  have hlatest : asked.record.latestAcceptance = r.latestAcceptance :=
    latestAcceptance_append_query r.attempts _ (by rw [hasked]; rfl)
  have hbound := asked.bindOutcomeAcceptance_self hadmits.valid
    (hadmits.acceptance.trans hlatest.symm) hadmits.signed
  have hstate : asked.record.state = r.state := by rw [hasked]; rfl
  have haskedAttempt : (CoordinationAttempt.query (newQueryAttempt r request time)).validate =
    .ok () := asked.history.attemptsValid _ (by simp [hasked, appendAttempt])
  have hexact := CoordinationAttempt.query_exact
    (hadmits.attempt_validate haskedAttempt hbinds)
  have hpost := hadmits.postCommit h
  have hnotDispatched : ¬ (outcome.disposition.state = .notDispatched ∧
      asked.record.state ≠ .dispatchArmed ∧ asked.record.state ≠ .notDispatched) := by
    rw [hstate]
    rintro ⟨hnd, harmed, hclosed⟩
    rw [hnd] at hpost
    simp only [requireQueryable, bind_unit_eq_ok, refuseIf_eq_ok] at hqueryable
    obtain ⟨-, -, hprepared⟩ := hqueryable
    generalize r.state = s at *
    cases s <;> simp_all [CoordinationState.postCommit, CoordinationState.terminal]
  have hterminal : ¬ (asked.record.state.terminal = true ∧
      outcome.disposition.state ≠ asked.record.state) := by
    rw [hstate]
    exact fun hr => hr.2 (hadmits.terminal hr.1)
  have hsettled := settleQuery_answered request time hadmits.terminal h.legalHistory
    (fun hne => (hadmits.canTransitionTo h hqueryable hne).2)
  rw [← replaceAttempt_newQueryAttempt h.numbered, ← hasked] at hsettled
  simp only [completeRetainedQuery, newQueryAttempt, bind_eq_ok]
  exact ⟨(), refuseIf_neg hterminal, _, hbound, (), refuseIf_neg hnotDispatched, (),
    validating_eq_ok.mpr (raising_eq_ok.mpr hexact), _, hsettled, rfl⟩

/-- Whatever it stores of a valid history was admitted. -/
theorem admits_of_completeRetainedQuery {r' : CoordinationJournalRecord}
    {k : JournalEntry .effectCoordinator → JournalEntry .effectCoordinator}
    (hasked : asked.record = r.appendAttempt (.query (newQueryAttempt r request time)))
    (hplan : completeRetainedQuery asked (newQueryAttempt r request time) outcome time =
      .ok (.store r' k)) (hvalid : r'.ValidHistory) : r.AdmitsAnswer outcome time := by
  have hlatest : asked.record.latestAcceptance = r.latestAcceptance :=
    latestAcceptance_append_query r.attempts _ (by rw [hasked]; rfl)
  have hstate : asked.record.state = r.state := by rw [hasked]; rfl
  have hnumbered : r.Numbered := fun i a ha => asked.history.attempt_sequence (by
    rw [hasked, appendAttempt, List.getElem?_append_left (List.getElem?_eq_some_iff.mp ha).1]
    exact ha)
  simp only [completeRetainedQuery, newQueryAttempt, bind_eq_ok] at hplan
  obtain ⟨⟨⟩, hterminal, bound, hbound, ⟨⟩, -, ⟨⟩, hexact, updated, hsettled, hplan⟩ := hplan
  obtain ⟨rfl, -⟩ := Plan.store.inj (Except.ok.inj hplan)
  obtain ⟨rfl, hacceptance⟩ := JournalEntry.eq_of_bindOutcomeAcceptance hbound
  rw [refuseIf_eq_ok, hstate] at hterminal
  have hexact : (r.answeredAttempt request outcome time).requireExact = .ok () :=
    raising_eq_ok.mp (validating_eq_ok.mp hexact)
  have hsettled : settleQuery (r.appendAttempt (.query (r.answeredAttempt request outcome time)))
      outcome time = .ok updated := by
    rw [← replaceAttempt_newQueryAttempt hnumbered, ← hasked]
    exact hsettled
  have hmem : .query (r.answeredAttempt request outcome time) ∈ updated.attempts := by
    rw [attempts_settleQuery hsettled]
    simp [appendAttempt]
  have hvalidated := hvalid.attemptsValid _ hmem
  simp only [CoordinationAttempt.validate, bind_unit_eq_ok] at hvalidated
  refine
    { valid := hvalidated.2.1
      signed := ((EffectQueryAttempt.requireExact_responseRetained rfl).mp hexact).2.2.2.2.2.2
        outcome rfl
      acceptance := hacceptance.trans hlatest
      terminal := fun ht => by
        by_contra hne
        exact hterminal ⟨ht, hne⟩
      chronology := ?_ }
  intro hne last hlast
  have hnonterminal : ¬ r.state.terminal = true := fun ht => hterminal ⟨ht, Ne.symm hne⟩
  simp only [settleQuery, settle, state_appendAttempt, hnonterminal, hne, if_false] at hsettled
  obtain ⟨-, -, -, rfl⟩ := transition_eq_ok.mp hsettled
  have hchain := (List.isChain_append.mp hvalid.transitionChain).2.2
  exact (hchain last hlast _ rfl).1

end Completing

end AegisOt
