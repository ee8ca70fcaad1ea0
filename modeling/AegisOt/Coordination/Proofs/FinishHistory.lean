import AegisOt.Coordination.Proofs.Atomicity

/-!
# Retaining the outcome of an accepted commit

`finish_commit` replaces the commit attempt by one that retains the outcome and moves the record
to the state the outcome asserts. On a record whose last attempt is the commit that was just
accepted, an outcome that binds the request and is not older than the acceptance is never
refused: the finished record is valid, so only a journal at capacity keeps it from being stored.
-/

namespace AegisOt

open CoordinationJournalRecord

variable [Primitives]

namespace CoordinationJournalRecord

/-- A record right after its commit was accepted. -/
structure CommitAcceptedLast (r : CoordinationJournalRecord) (earlier : List CoordinationAttempt)
    (a : EffectCommitAttempt) : Prop where
  history : r.ValidHistory
  attempts : r.attempts = earlier ++ [.commit a]
  status : a.status = .requestRetained
  state : r.state = .commitAccepted

/-- What such a record demands of an outcome of the commit. -/
structure AdmitsOutcome (r : CoordinationJournalRecord) (a : EffectCommitAttempt)
    (outcome : SignedEffectOutcome) (time : Time) : Prop where
  valid : outcome.validate = .ok ()
  binds : outcome.binds (.commit a.request)
  acceptance : outcome.acceptance = a.acceptance
  signed : outcome.signedAt ≤ time
  updated : a.updatedAt ≤ time
  chronology : ∀ last ∈ r.transitions.getLast?, last.recordedAt ≤ time

/-- The commit attempt with its outcome. -/
def finishedAttempt (a : EffectCommitAttempt) (outcome : SignedEffectOutcome) (time : Time) :
    EffectCommitAttempt :=
  { a with
    status := .responseRetained
    outcome := some outcome
    failureReason := none
    failureEvidenceSha256 := none
    updatedAt := time }

/-- The record with that attempt, in the state the outcome asserts. -/
def finished (r : CoordinationJournalRecord) (earlier : List CoordinationAttempt)
    (a : EffectCommitAttempt) (outcome : SignedEffectOutcome) (time : Time) :
    CoordinationJournalRecord :=
  { r with
    attempts := earlier ++ [.commit (finishedAttempt a outcome time)]
    transitions := r.transitions ++ [r.nextTransition outcome.disposition.state
      (some outcome.digest) "signed_commit_outcome_retained" time] }

variable {r : CoordinationJournalRecord} {earlier : List CoordinationAttempt}
  {a : EffectCommitAttempt} {outcome : SignedEffectOutcome} {time : Time}

theorem state_finished :
    (r.finished earlier a outcome time).state = outcome.disposition.state := by
  simp [state, finished, nextTransition]

theorem latestEvidence_finished :
    (r.finished earlier a outcome time).latestEvidenceSha256 = some outcome.digest := by
  simp [latestEvidenceSha256, finished, nextTransition]

namespace CommitAcceptedLast

theorem mem (h : r.CommitAcceptedLast earlier a) : .commit a ∈ r.attempts := by
  rw [h.attempts]
  simp

theorem exact (h : r.CommitAcceptedLast earlier a) : a.requireExact = .ok () :=
  CoordinationAttempt.commit_exact (h.history.attemptsValid _ h.mem)

/-- The commit attempt retains the record's acceptance. -/
theorem exists_acceptance (h : r.CommitAcceptedLast earlier a) :
    ∃ acceptance, a.acceptance = some acceptance := by
  rw [← Option.ne_none_iff_exists', ← h.history.latestAcceptance_eq h.mem,
    h.history.latestAcceptance_ne_none, h.state]
  rfl

/-- The attempts before the commit were scanned, and the commit was admitted after them. -/
theorem scanned_earlier (h : r.CommitAcceptedLast earlier a) :
    scanAttempts r.effect 1 .start earlier = .ok (finalScan earlier) ∧
      (finalScan earlier).Admits r.effect (earlier.length + 1) (.commit a) := by
  have hscanned := h.history.scanned
  rw [h.attempts] at hscanned
  have hearlier : scanAttempts r.effect 1 .start earlier = .ok (finalScan earlier) := by
    rw [scanAttempts_append, bind_eq_ok] at hscanned
    obtain ⟨scan, hscan, -⟩ := hscanned
    rw [hscan, eq_foldl_of_scanAttempts hscan, finalScan]
  exact ⟨hearlier, (scanAttempts_append_singleton hearlier).mp hscanned⟩

/-- No attempt of the record retains an outcome. -/
theorem outcome_none (h : r.CommitAcceptedLast earlier a) {b : CoordinationAttempt}
    (hb : b ∈ earlier) : b.outcome = none := by
  have hmem : b ∈ r.attempts := by
    rw [h.attempts]
    exact List.mem_append_left _ hb
  have hcommits := h.history.outcomes.oneCommit
  rw [h.attempts, List.countP_append] at hcommits
  have hnone : earlier.countP CoordinationAttempt.isCommit = 0 := by
    have hlast : [CoordinationAttempt.commit a].countP CoordinationAttempt.isCommit = 1 := rfl
    omega
  have hnotCommit := List.countP_eq_zero.mp hnone b hb
  cases b with
  | prepare b => rfl
  | commit b => exact absurd rfl hnotCommit
  | query b =>
    -- A dispatched outcome of an earlier query would need an earlier commit.
    rw [CoordinationAttempt.outcome, Option.eq_none_iff_forall_ne_some]
    intro o ho
    by_cases hnd : o.disposition = .notDispatched
    · have hstate := (h.history.notDispatched_of_query hmem ho hnd).1
      rw [h.state] at hstate
      cases hstate
    · obtain ⟨i, hi⟩ := List.getElem?_of_mem hb
      have hadmits := admits_of_scanAttempts h.scanned_earlier.1 hi
      obtain ⟨-, acceptance, -, hlookup⟩ := hadmits.queryOutcome b rfl o ho hnd
      obtain ⟨c, hc, -⟩ := mem_retainedAcceptances.mp (mem_of_lookupEntry hlookup)
      exact absurd rfl (List.countP_eq_zero.mp hnone _ (List.mem_of_mem_take hc))

end CommitAcceptedLast

namespace AdmitsOutcome

/-- The outcome asserts a dispatch. -/
theorem dispatched (hadmits : r.AdmitsOutcome a outcome time)
    (h : r.CommitAcceptedLast earlier a) : outcome.disposition ≠ .notDispatched := by
  intro hnd
  obtain ⟨acceptance, hacceptance⟩ := h.exists_acceptance
  have hnone := outcome.acceptance_none hadmits.valid hnd
  rw [hadmits.acceptance, hacceptance] at hnone
  cases hnone

theorem postCommit (hadmits : r.AdmitsOutcome a outcome time)
    (h : r.CommitAcceptedLast earlier a) : outcome.disposition.state.postCommit = true ∧
      CoordinationState.commitAccepted.canTransitionTo outcome.disposition.state = true := by
  have hdispatched := hadmits.dispatched h
  cases hdisposition : outcome.disposition with
  | notDispatched => exact absurd hdisposition hdispatched
  | unknownEffect => decide
  | applied => decide
  | rejected => decide

/-- The finished attempt passes its own validators. -/
theorem attempt_validate (hadmits : r.AdmitsOutcome a outcome time)
    (h : r.CommitAcceptedLast earlier a) :
    (CoordinationAttempt.commit (finishedAttempt a outcome time)).validate = .ok () := by
  have hvalid := h.history.attemptsValid _ h.mem
  obtain ⟨acceptance, hacceptance⟩ := h.exists_acceptance
  simp only [CoordinationAttempt.validate, bind_unit_eq_ok] at hvalid ⊢
  obtain ⟨hrequest, hstored, -, hexact⟩ := hvalid
  refine ⟨hrequest, hstored, hadmits.valid, ?_⟩
  simp only [EffectCommitAttempt.requireExact, AttemptBase.validateTimes, bind_unit_eq_ok,
    refuseIf_eq_ok, h.status, hacceptance] at hexact
  obtain ⟨-, ⟨hsequence, htimes⟩, hbinding, hissued, hbinds, haccepted, -⟩ := hexact
  have hretained : a.retainedAt ≤ time := (not_lt.mp htimes).trans hadmits.updated
  simp only [EffectCommitAttempt.requireExact, AttemptBase.validateTimes, finishedAttempt,
    bind_unit_eq_ok, refuseIf_eq_ok, hacceptance]
  refine ⟨by simp, ⟨hsequence, not_lt.mpr hretained⟩, hbinding, hissued, hbinds, ?_, ?_, by simp,
    ?_⟩
  · rintro ⟨b, hb, hlate⟩
    exact haccepted ⟨b, hb, lt_of_le_of_lt hadmits.updated hlate⟩
  · rw [not_not]
    exact ⟨outcome, rfl, hadmits.binds, by simp, hadmits.acceptance.trans hacceptance⟩
  · rintro ⟨o, ⟨rfl⟩, hlate⟩
    exact absurd hadmits.signed (not_le.mpr hlate)

/-- A turn of the attempt loop admits the finished attempt where it admitted the request. -/
theorem scanned (outcome : SignedEffectOutcome) (time : Time)
    (h : r.CommitAcceptedLast earlier a) :
    scanAttempts r.effect 1 .start (earlier ++ [.commit (finishedAttempt a outcome time)]) =
      .ok (finalScan (earlier ++ [.commit (finishedAttempt a outcome time)])) := by
  obtain ⟨hearlier, hadmitted⟩ := h.scanned_earlier
  refine (scanAttempts_append_singleton hearlier).mpr
    ⟨hadmitted.sequence, hadmitted.sameEffect, hadmitted.chronology, ?_, by simp⟩
  rintro b ⟨rfl⟩
  exact hadmitted.commitReceipt a rfl

/-- The new transition follows the last one. -/
theorem transition (hadmits : r.AdmitsOutcome a outcome time)
    (h : r.CommitAcceptedLast earlier a) :
    r.transition outcome.disposition.state (some outcome.digest)
        "signed_commit_outcome_retained" time =
      .ok { r with transitions := r.transitions ++ [r.nextTransition outcome.disposition.state
        (some outcome.digest) "signed_commit_outcome_retained" time] } := by
  have hlength := h.history.transitions_length_le_five
  refine transition_eq_ok.mpr ⟨by rw [h.state]; rfl, h.state ▸ (hadmits.postCommit h).2, ?_, rfl⟩
  simp only [CoordinationTransition.validate, bind_unit_eq_ok, refuseIf_eq_ok]
  simp only [nextTransition, maxTransitionsPerEffect]
  exact ⟨by omega, by decide, by simp, by simp⟩

theorem legalHistory (hadmits : r.AdmitsOutcome a outcome time)
    (h : r.CommitAcceptedLast earlier a) :
    (r.finished earlier a outcome time).LegalHistory := by
  have hmoved := legalHistory_transition h.history.legalHistory (hadmits.transition h)
  exact ⟨hmoved.path, hmoved.received, hmoved.sequence⟩

theorem terminalOutcomes (h : r.CommitAcceptedLast earlier a)
    {entry : EffectDisposition × Sha256} :
    entry ∈ (finalScan (r.finished earlier a outcome time).attempts).terminalOutcomes ↔
      outcome.disposition.dispatchedTerminal = true ∧
        entry = (outcome.disposition, outcome.digest) := by
  simp only [mem_terminalOutcomes, finished, List.mem_append, List.mem_singleton]
  constructor
  · rintro ⟨b, hb | rfl, o, ho, hentry⟩
    · rw [h.outcome_none hb] at ho
      cases ho
    · obtain rfl : outcome = o := Option.some.inj ho
      exact hentry
  · intro hentry
    exact ⟨_, .inr rfl, outcome, rfl, hentry⟩

/-- The checks after the loops hold of the finished record. -/
theorem outcomeHistory (outcome : SignedEffectOutcome) (time : Time)
    (h : r.CommitAcceptedLast earlier a) :
    (r.finished earlier a outcome time).OutcomeHistory := by
  have hold := h.history.outcomes
  have hpost : r.hasPostCommitTransition = true := by
    obtain ⟨last, hlast⟩ := h.history.exists_last
    exact hasPostCommitTransition_of_state hlast (by rw [h.state]; rfl)
  have hscan : finalScan (r.finished earlier a outcome time).attempts =
      (finalScan earlier).next (.commit (finishedAttempt a outcome time)) := finalScan_append _ _
  have hscanOld : finalScan r.attempts = (finalScan earlier).next (.commit a) := by
    rw [h.attempts, finalScan_append]
  have hlatest : (r.finished earlier a outcome time).latestAcceptance = r.latestAcceptance := by
    rw [latestAcceptance, latestAcceptance, h.attempts, finished, List.reverse_append,
      List.reverse_append, List.reverse_singleton, List.reverse_singleton, List.singleton_append,
      List.singleton_append, List.findSome?_cons, List.findSome?_cons]
    rfl
  refine
    { beginsWithPrepare := ?_, oneCommit := ?_, oneCommitRequest := ?_, receipt := ?_,
      commitIntent := ?_, acceptance := ?_, acceptanceBinds := ?_, terminal := ?_,
      nonterminal := ?_, notDispatched := ?_ }
  · have hfirst := hold.beginsWithPrepare
    rw [h.attempts] at hfirst
    cases earlier with
    | nil => simp [CoordinationAttempt.isPrepare] at hfirst
    | cons b rest => simpa [finished] using hfirst
  · simpa [finished, h.attempts, CoordinationAttempt.isCommit, List.countP_append] using
      hold.oneCommit
  · rw [hscan]
    have hone := hold.oneCommitRequest
    rw [hscanOld] at hone
    exact hone
  · rw [hscan]
    intro _ _
    have hreceipts := hold.receipt (by rw [h.state]; simp) (by rw [h.state]; simp)
    rw [hscanOld] at hreceipts
    exact hreceipts
  · rw [hscan]
    intro _
    have hintent := hold.commitIntent hpost
    rw [hscanOld] at hintent
    exact hintent
  · rw [hlatest]
    exact fun _ => hold.acceptance hpost
  · rw [hlatest]
    intro acceptance hacceptance
    obtain ⟨t, ht, hbinds⟩ := hold.acceptanceBinds acceptance hacceptance
    have hlt := (List.getElem?_eq_some_iff.mp ht).1
    exact ⟨t, by rwa [finished, List.getElem?_append_left hlt], hbinds⟩
  · rw [state_finished, dispatchedTerminal_state, latestEvidence_finished]
    intro hterminal
    refine ⟨?_, _, (terminalOutcomes h).mpr ⟨hterminal, rfl⟩, rfl⟩
    intro entry hentry
    rw [((terminalOutcomes h).mp hentry).2]
    exact forState_state _
  · rw [state_finished, dispatchedTerminal_state, List.eq_nil_iff_forall_not_mem]
    intro hopen entry hentry
    rw [((terminalOutcomes h).mp hentry).1] at hopen
    cases hopen
  · intro hne
    obtain ⟨digest, hdigest⟩ := List.exists_mem_of_ne_nil _ hne
    obtain ⟨q, hq, o, ho, -⟩ := mem_notDispatchedOutcomeDigests.mp hdigest
    rcases List.mem_append.mp hq with hq | hq
    · have hnone := h.outcome_none hq
      rw [CoordinationAttempt.outcome, show q.outcome = some o from ho] at hnone
      cases hnone
    · cases List.mem_singleton.mp hq

/-- The finished record is valid. -/
theorem validHistory (hadmits : r.AdmitsOutcome a outcome time)
    (h : r.CommitAcceptedLast earlier a) :
    (r.finished earlier a outcome time).ValidHistory := by
  have hlegal := hadmits.legalHistory h
  obtain ⟨-, -, hvalid, -⟩ := transition_eq_ok.mp (hadmits.transition h)
  refine
    { effectValid := h.history.effectValid
      transitionCount := ?_
      transitionsValid := ?_
      attemptCount := ?_
      attemptsValid := ?_
      effectSha256 := h.history.effectSha256
      received := ?_
      transitionSequence := hlegal.sequence
      transitionChain := ?_
      scanned := scanned (r := r) outcome time h
      outcomes := outcomeHistory outcome time h }
  · have hcount := hlegal.length_le_five
    refine ⟨by simp [finished], ?_⟩
    simp only [maxTransitionsPerEffect]
    omega
  · intro t ht
    rcases List.mem_append.mp ht with ht | ht
    · exact h.history.transitionsValid t ht
    · rw [List.mem_singleton.mp ht]
      exact hvalid
  · simpa [finished, h.attempts] using h.history.attemptCount
  · intro b hb
    rcases List.mem_append.mp hb with hb | hb
    · exact h.history.attemptsValid b (by rw [h.attempts]; exact List.mem_append_left _ hb)
    · rw [List.mem_singleton.mp hb]
      exact hadmits.attempt_validate h
  · have hhead := hlegal.received
    rw [List.head?_map, Option.map_eq_some_iff] at hhead
    exact hhead
  · rw [finished, List.isChain_append]
    refine ⟨h.history.transitionChain, by simp, ?_⟩
    intro s hs t ht
    obtain rfl : r.nextTransition outcome.disposition.state (some outcome.digest)
      "signed_commit_outcome_retained" time = t := by simpa using ht
    refine ⟨hadmits.chronology s hs, ?_⟩
    rw [← ValidHistory.state_eq hs, h.state]
    exact (hadmits.postCommit h).2

end AdmitsOutcome

/-! ## Storing the finished record -/

omit [Primitives] in
/-- Replacing the last attempt. -/
theorem replaceAttempt_last (hnumbered : r.Numbered)
    (hattempts : r.attempts = earlier ++ [.commit a]) (outcome : SignedEffectOutcome)
    (time : Time) :
    (r.replaceAttempt (.commit (finishedAttempt a outcome time))).attempts =
      earlier ++ [.commit (finishedAttempt a outcome time)] := by
  have hlast : a.sequence = earlier.length + 1 :=
    hnumbered earlier.length (.commit a) (by simp [hattempts])
  have hold : earlier.map (fun item => if item.base.sequence = a.sequence then
      CoordinationAttempt.commit (finishedAttempt a outcome time) else item) = earlier := by
    refine (List.map_congr_left (fun item hitem => ?_)).trans (List.map_id _)
    obtain ⟨i, hi⟩ := List.getElem?_of_mem hitem
    have hlt := (List.getElem?_eq_some_iff.mp hi).1
    have hsequence := hnumbered i item (by rw [hattempts, List.getElem?_append_left hlt, hi])
    rw [if_neg (by omega)]
    rfl
  have hsame : (CoordinationAttempt.commit (finishedAttempt a outcome time)).base.sequence =
    a.sequence := rfl
  have hcommit : (CoordinationAttempt.commit a).base.sequence = a.sequence := rfl
  simp only [replaceAttempt, hattempts, List.map_append, hsame, hold, List.map_cons, hcommit,
    if_true, List.map_nil]

/-- The finished record claims the action of the record. -/
theorem sameAction_finished (h : r.attempts = earlier ++ [.commit a]) :
    SameAction r (r.finished earlier a outcome time) := by
  refine ⟨rfl, ?_⟩
  rw [actionMaterial, actionMaterial, h, finished, scanActionMaterial_append _ _ rfl,
    scanActionMaterial_append _ _ rfl]

end CoordinationJournalRecord

section

variable {e : JournalEntry .effectCoordinator} {earlier : List CoordinationAttempt}
  {a : EffectCommitAttempt} {outcome : SignedEffectOutcome} {time : Time}

/-- The finished record as a journal entry. -/
theorem CoordinationJournalRecord.AdmitsOutcome.entry
    (hadmits : e.record.AdmitsOutcome a outcome time)
    (h : e.record.CommitAcceptedLast earlier a) :
    ∃ done : JournalEntry .effectCoordinator,
      done.record = e.record.finished earlier a outcome time := by
  have hrole := e.roleValid
  rw [validateRoleHistory, refuseIf_eq_ok] at hrole
  refine ⟨⟨_, validate_eq_ok.mpr (hadmits.validHistory h), ?_⟩, rfl⟩
  rw [validateRoleHistory, refuseIf_eq_ok]
  rintro ⟨hcoordinator, b, hb, hcommit, hnone⟩
  rcases List.mem_append.mp hb with hb | hb
  · exact hrole ⟨hcoordinator, b, by rw [h.attempts]; exact List.mem_append_left _ hb, hcommit,
      hnone⟩
  · obtain rfl := List.mem_singleton.mp hb
    exact hrole ⟨hcoordinator, .commit a, h.mem, rfl, hnone⟩

/-- The plan of `finish_commit`. -/
theorem Journal.finishCommitRecord_admits {j : Journal .effectCoordinator} (now : Time)
    (hfound : j.records.find? a.request.effect.effectId = some e)
    (heffect : e.record.effect = a.request.effect) (h : e.record.CommitAcceptedLast earlier a)
    (hadmits : e.record.AdmitsOutcome a outcome time) :
    j.finishCommitRecord a.request outcome (some (.aware time)) now =
      .ok (.store (e.record.finished earlier a outcome time) id) := by
  have hexact := h.exact
  obtain ⟨acceptance, hacceptance⟩ := h.exists_acceptance
  have hlookup : j.lookup a.request.effect = .ok (some e) :=
    Journal.lookup_eq_some.mpr ⟨hfound, heffect⟩
  have hattempt : e.record.commitAttempt a.request = some a := h.history.commitAttempt_eq h.mem
  have hverify : a.request.verify = true := by
    simp only [EffectCommitAttempt.requireExact, bind_unit_eq_ok, refuseIf_eq_ok, not_or] at hexact
    simpa using hexact.2.2.1.2.2.1
  have hvalidated : validateOutcome (.commit a.request) outcome = .ok () := by
    simp only [validateOutcome, bind_unit_eq_ok, refuseIf_eq_ok, OutcomeRequest.verify, hverify]
    exact ⟨by simpa using hadmits.binds, fun hnd => hadmits.dispatched h hnd.2⟩
  have hstatus : a.status ≠ .responseRetained := by
    rw [h.status]
    simp
  have hlatest := h.history.latestAcceptance_eq h.mem
  have hbound := e.bindOutcomeAcceptance_self hadmits.valid
    (hadmits.acceptance.trans hlatest.symm) hadmits.signed
  have hfinished : (finishedAttempt a outcome time).requireExact = .ok () :=
    CoordinationAttempt.commit_exact (hadmits.attempt_validate h)
  have hmoves : outcome.disposition.state ≠ .commitAccepted := by
    cases outcome.disposition <;> simp [EffectDisposition.state]
  have hsettled : settle (e.record.replaceAttempt (.commit (finishedAttempt a outcome time)))
      outcome "signed_commit_outcome_retained" time =
        .ok (e.record.finished earlier a outcome time) := by
    obtain ⟨hopen, hlegal, hvalid, -⟩ := transition_eq_ok.mp (hadmits.transition h)
    rw [settle, if_neg (by rw [state_replaceAttempt, h.state]; exact hmoves.symm)]
    refine transition_eq_ok.mpr ⟨hopen, hlegal, hvalid, ?_⟩
    rw [finished, ← replaceAttempt_last h.history.numbered h.attempts]
    rfl
  simp only [Journal.finishCommitRecord, bind_eq_ok, orRaise_eq_ok]
  refine ⟨(), hvalidated, _, hlookup, e, rfl, a, hattempt, ?_⟩
  rw [if_neg hstatus]
  simp only [bind_eq_ok, orRaise_eq_ok]
  exact ⟨(), refuseIf_neg (by rw [h.state]; decide), time, rfl, e.record, hbound, a, hattempt, (),
    refuseIf_neg (by simp [hacceptance]), (), validating_eq_ok.mpr (raising_eq_ok.mpr hfinished),
    _, hsettled, rfl⟩

variable [RecordCodec]

/-- Only a journal at capacity does not take the finished record. -/
theorem Journal.finishCommit_stored {j : Journal .effectCoordinator} (now : Time)
    (hconsistent : j.Consistent) (hwriter : j.assertWriter = .ok ())
    (hfound : j.records.find? a.request.effect.effectId = some e)
    (heffect : e.record.effect = a.request.effect) (h : e.record.CommitAcceptedLast earlier a)
    (hadmits : e.record.AdmitsOutcome a outcome time)
    (hfits : (j.carryOut (j.guarded (j.finishCommitRecord a.request outcome (some (.aware time))
      now)) .written).1 ≠ .error entriesAtCapacity) :
    ∃ done : JournalEntry .effectCoordinator,
      done.record = e.record.finished earlier a outcome time ∧
      j.carryOut (j.guarded (j.finishCommitRecord a.request outcome (some (.aware time)) now))
        .written = (.ok done, { j with
          records := j.records.insert a.request.effect.effectId done
          file := j.records.insert a.request.effect.effectId done }) := by
  obtain ⟨done, hdone⟩ := hadmits.entry h
  refine ⟨done, hdone, ?_⟩
  have hplan := Journal.finishCommitRecord_admits now hfound heffect h hadmits
  rw [Journal.guarded, hwriter, ok_bind, hplan, ← hdone] at hfits ⊢
  have heffectDone : done.record.effect.effectId = a.request.effect.effectId := by
    rw [hdone, ← heffect]
    rfl
  have hsame : SameAction e.record done.record := by
    rw [hdone]
    exact sameAction_finished h.attempts
  have hindexes := actionIndexes_insert hfound hsame hconsistent.recordsWritable.indexed
  have hwritable : j.Writable (j.records.insert done.record.effect.effectId done) := by
    rw [heffectDone]
    refine ⟨hindexes, ?_⟩
    intro hfull
    apply hfits
    obtain ⟨indexes, hindexes⟩ := hindexes
    have hvalidated : validatedRecord .effectCoordinator done.record = .ok done :=
      validatedRecord_eq_ok.mpr rfl
    simp [Journal.carryOut, Journal.store, hvalidated, heffectDone, hindexes, Journal.persist,
      hfull, entriesAtCapacity]
  rw [Journal.carryOut, Journal.store_written hwritable, heffectDone]
  rfl

end

end AegisOt
