import AegisOt.Coordination.Proofs.Steps
import AegisOt.Coordination.Recovery

/-!
# The journal's validator and the recovery's validator

A record the journal accepted as APPLIED meets every demand of the recovery on its applied
evidence but one: the recovery wants all retained APPLIED outcomes to carry one acknowledgment,
and the journal retains any valid APPLIED answer to a later query. The first part compares the
two validators on one record; the second part follows the acknowledgments over a run.
-/

namespace AegisOt

section

variable [Primitives]

/-! ## One record -/

namespace CoordinationJournalRecord

/-- `_applied_link` and `_applied_evidence_valid` accept the record. -/
def RecoveryAccepts (r : CoordinationJournalRecord) : Prop :=
  ∃ link, appliedLink r = .ok link ∧ appliedEvidenceValid link = true

/-- The APPLIED outcomes of the record carry one acknowledgment. -/
def AppliedAgree (r : CoordinationJournalRecord) : Prop :=
  ∀ a ∈ r.attempts, ∀ b ∈ r.attempts, ∀ o p, a.outcome = some o → b.outcome = some p →
    o.disposition = .applied → p.disposition = .applied → o.acknowledgment = p.acknowledgment

/-- SHA-256 does not collide on the artifacts that the record retains. -/
def DigestsDistinct (r : CoordinationJournalRecord) : Prop :=
  ∀ a ∈ r.attempts, ∀ b ∈ r.attempts,
    (∀ o ∈ a.outcome, ∀ p ∈ b.outcome, o.digest = p.digest → o = p) ∧
      ∀ c ∈ a.commit?, ∀ receipt ∈ b.receipt?,
        c.request.receipt.digest = receipt.digest → c.request.receipt = receipt

instance (r : CoordinationJournalRecord) : Decidable r.DigestsDistinct := by
  unfold DigestsDistinct
  infer_instance

instance (r : CoordinationJournalRecord) : Decidable r.RecoveryAccepts :=
  match h : appliedLink r with
  | .error _ => isFalse (by
      rintro ⟨link, hlink, -⟩
      rw [h] at hlink
      cases hlink)
  | .ok link => decidable_of_iff (appliedEvidenceValid link = true) (by
      unfold RecoveryAccepts
      simp only [h, Except.ok.injEq, exists_eq_left'])

variable {r : CoordinationJournalRecord}

/-- A retained outcome is closed. -/
theorem ValidHistory.outcome_valid (h : r.ValidHistory) {a : CoordinationAttempt}
    (ha : a ∈ r.attempts) {o : SignedEffectOutcome} (ho : a.outcome = some o) :
    o.validate = .ok () := by
  have hvalid := h.attemptsValid a ha
  cases a with
  | prepare a => cases ho
  | commit a =>
    have houtcome : a.outcome = some o := ho
    simp only [CoordinationAttempt.validate, bind_unit_eq_ok, houtcome, validateSome] at hvalid
    exact hvalid.2.2.1
  | query a =>
    have houtcome : a.outcome = some o := ho
    simp only [CoordinationAttempt.validate, bind_unit_eq_ok, houtcome, validateSome] at hvalid
    exact hvalid.2.1

/-- A retained dispatched outcome has the acceptance of the record's commit attempt. -/
theorem ValidHistory.outcome_acceptance (h : r.ValidHistory) {a : CoordinationAttempt}
    (ha : a ∈ r.attempts) {o : SignedEffectOutcome} (ho : a.outcome = some o)
    (hdispatched : o.disposition ≠ .notDispatched) : o.acceptance = r.latestAcceptance := by
  cases a with
  | prepare a => cases ho
  | commit a =>
    have hexact := CoordinationAttempt.commit_exact (h.attemptsValid _ ha)
    rw [h.latestAcceptance_eq ha]
    exact (EffectCommitAttempt.outcome_spec hexact ho).2.2.2
  | query a =>
    obtain ⟨i, hi⟩ := List.getElem?_of_mem ha
    have hadmits := admits_of_scanAttempts h.scanned hi
    obtain ⟨-, acceptance, hacceptance, hlookup⟩ :=
      hadmits.queryOutcome a rfl o ho hdispatched
    have hretained := mem_of_lookupEntry hlookup
    -- The scan before the query holds only acceptances of commit attempts of the record.
    obtain ⟨b, hb, -, hbound⟩ := mem_retainedAcceptances.mp hretained
    rw [h.latestAcceptance_eq (List.mem_of_mem_take hb), hbound]
    exact hacceptance

/-- The artifacts inside the commit attempt are about the record's effect. -/
structure CommitChain (r : CoordinationJournalRecord) (request : SignedEffectCommitRequest) :
    Prop where
  commit : request.effect = r.effect
  receipt : request.receipt.effect = r.effect
  prepare : request.receipt.prepareRequest.effect = r.effect
  dispatch : r.effect = EffectIdentity.fromDispatch request.receipt.prepareRequest.dispatch
  commitVerifies : request.verify = true
  receiptVerifies : request.receipt.verify = true

theorem ValidHistory.commitChain (h : r.ValidHistory) {a : EffectCommitAttempt}
    (ha : .commit a ∈ r.attempts) : r.CommitChain a.request := by
  have hvalid := h.attemptsValid _ ha
  have heffect : a.request.effect = r.effect := h.attempt_effect ha
  have hexact := CoordinationAttempt.commit_exact hvalid
  simp only [CoordinationAttempt.validate, SignedEffectCommitRequest.validate,
    CoordinationReceipt.validate, bind_unit_eq_ok] at hvalid
  obtain ⟨⟨⟨-, hprepare, hreceipt⟩, hcommit⟩, -⟩ := hvalid
  simp only [SignedEffectCommitRequest.requireClosedCommit, bind_unit_eq_ok, refuseIf_eq_ok,
    not_not, ne_eq] at hcommit
  simp only [CoordinationReceipt.requireClosedReceipt, bind_unit_eq_ok, refuseIf_eq_ok,
    not_or, not_not, ne_eq] at hreceipt
  simp only [SignedEffectPrepareRequest.validate, bind_unit_eq_ok, refuseIf_eq_ok, not_not,
    ne_eq] at hprepare
  simp only [EffectCommitAttempt.requireExact, bind_unit_eq_ok, refuseIf_eq_ok, not_or,
    Bool.not_eq_false] at hexact
  have hreceiptEffect := hcommit.2.1.trans heffect
  have hprepareEffect := hreceipt.2.1.1.trans hreceiptEffect
  exact
    { commit := heffect
      receipt := hreceiptEffect
      prepare := hprepareEffect
      dispatch := hprepareEffect.symm.trans hprepare.2.2.2
      commitVerifies := hexact.2.2.1.2.2.1
      receiptVerifies := hexact.2.2.1.2.2.2 }

/-- The prepare request inside the commit attempt is the one the record retains. -/
theorem ValidHistory.prepare_verifies (h : r.ValidHistory) (hdistinct : r.DigestsDistinct)
    {a : EffectCommitAttempt} (ha : .commit a ∈ r.attempts) :
    a.request.receipt.prepareRequest.verify = true := by
  obtain ⟨i, hi⟩ := List.getElem?_of_mem ha
  have hretained := (admits_of_scanAttempts h.scanned hi).commitReceipt a rfl
  obtain ⟨b, hb, receipt, hreceipt, hdigest⟩ := mem_retainedReceipts.mp hretained
  have hmem := List.mem_of_mem_take hb
  cases b with
  | prepare b =>
    have hexact := CoordinationAttempt.prepare_exact (h.attemptsValid _ hmem)
    rw [(hdistinct _ ha _ hmem).2 a rfl receipt hreceipt hdigest.symm]
    have hbinds : receipt.binds b.request := by
      simp only [EffectPrepareAttempt.requireExact, bind_unit_eq_ok, ite_eq_ok,
        refuseIf_eq_ok] at hexact
      obtain ⟨-, -, -, -, hrequestOnly, hprepared⟩ := hexact
      by_cases hstatus : b.status = .requestRetained
      · have hnone := not_not.mp (hrequestOnly hstatus).1
        rw [show b.receipt = some receipt from hreceipt] at hnone
        cases hnone
      · obtain ⟨other, hother, hbound⟩ := not_not.mp (hprepared hstatus).1
        rw [Option.mem_def, show b.receipt = some receipt from hreceipt,
          Option.some.injEq] at hother
        rw [hother]
        exact hbound
    simp only [EffectPrepareAttempt.requireExact, bind_unit_eq_ok, refuseIf_eq_ok, not_or,
      Bool.not_eq_false] at hexact
    rw [hbinds.2.2.1]
    exact hexact.2.1.2.2
  | commit b => cases hreceipt
  | query b => cases hreceipt

/-- A retained outcome answers the request of its attempt. -/
theorem ValidHistory.attempt_binds (h : r.ValidHistory) {a : CoordinationAttempt}
    (ha : a ∈ r.attempts) {o : SignedEffectOutcome} (ho : a.outcome = some o) :
    attemptBindsOutcome r.effect o a = true ∧ o.effect = r.effect ∧ o.verify = true := by
  have heffect : a.signedRequest.effect = r.effect := h.attempt_effect ha
  cases a with
  | prepare a => cases ho
  | commit a =>
    have hexact := CoordinationAttempt.commit_exact (h.attemptsValid _ ha)
    obtain ⟨-, hbinds, -, hsame⟩ := EffectCommitAttempt.outcome_spec hexact ho
    obtain ⟨-, hverify, hkind, hdigest, houtcome, hreceipt⟩ := hbinds
    have houtcomeEffect : o.effect = r.effect := houtcome.trans heffect
    simp only [OutcomeRequest.commitSatisfies, decide_eq_true_eq] at hreceipt
    simp only [attemptBindsOutcome, Bool.and_eq_true, decide_eq_true_eq]
    exact ⟨⟨⟨(h.commitChain ha).commitVerifies, hverify⟩, hkind, hdigest, houtcome, heffect,
      hsame.symm, hreceipt⟩, houtcomeEffect, hverify⟩
  | query a =>
    have hexact := CoordinationAttempt.query_exact (h.attemptsValid _ ha)
    obtain ⟨-, hbinds⟩ := EffectQueryAttempt.outcome_spec hexact ho
    obtain ⟨-, hverify, hkind, hdigest, houtcome, -⟩ := hbinds
    have houtcomeEffect : o.effect = r.effect := houtcome.trans heffect
    simp only [EffectQueryAttempt.requireExact, bind_unit_eq_ok, refuseIf_eq_ok, not_or,
      Bool.not_eq_false] at hexact
    simp only [attemptBindsOutcome, Bool.and_eq_true, decide_eq_true_eq]
    exact ⟨⟨⟨hexact.2.2.1.2.2, hverify⟩, hkind, hdigest, houtcome, heffect⟩, houtcomeEffect,
      hverify⟩

end CoordinationJournalRecord

/-- An APPLIED acknowledgment of a dispatch acknowledges the dispatch's own effect. -/
theorem acknowledgesEffect_of_transaction {o : SignedEffectOutcome}
    {acceptance : DurableCommitAcceptance} {acknowledgment : PlcCommandAcknowledgment}
    {effect : EffectIdentity} (hdisposition : o.disposition = .applied)
    (hstatus : acknowledgment.status = .applied)
    (htransaction :
      SignedEffectOutcome.acknowledgmentTransactionValid acceptance acknowledgment = true)
    (heffect : effect = EffectIdentity.fromDispatch
      acceptance.commitRequest.receipt.prepareRequest.dispatch) :
    acknowledgesEffect o acknowledgment effect = true := by
  unfold SignedEffectOutcome.acknowledgmentTransactionValid
    PlcCommandAcknowledgment.verifyForTransaction at htransaction
  simp only [hstatus, Bool.and_eq_true, PlcCommandAcknowledgment.authorizedPreStateMatches,
    decide_eq_true_eq] at htransaction
  obtain ⟨⟨-, -⟩, ⟨⟨-, -⟩, hpre, hpreDigest, hstateDigest, hpreVersion, hstateVersion, -,
    hobservation, -, htopology, -, hmodel⟩, hpostDigest, hpostVersion, hpostTopology, -⟩ :=
    htransaction
  subst heffect
  unfold acknowledgesEffect
  rw [decide_eq_true_eq]
  refine ⟨hdisposition, hstatus, hpreVersion.trans hstateVersion, hpreDigest.trans hstateDigest,
    ?_, ?_, ?_, ?_, ?_, hpostVersion, hpostDigest, hpostTopology⟩
  · rw [hpre]
    exact hstateVersion
  · rw [hpre]
    exact hstateDigest
  · rw [hpre]
    exact hobservation
  · rw [hpre]
    exact htopology
  · rw [hpre]
    exact hmodel

namespace CoordinationJournalRecord

variable {r : CoordinationJournalRecord}

/-- The evidence of an APPLIED state, gathered from the record's history. -/
structure AppliedEvidence (r : CoordinationJournalRecord) (a : CoordinationAttempt)
    (o : SignedEffectOutcome) (acceptance : DurableCommitAcceptance)
    (acknowledgment : PlcCommandAcknowledgment) : Prop where
  attempt : a ∈ r.attempts
  outcome : a.outcome = some o
  disposition : o.disposition = .applied
  evidence : r.latestEvidenceSha256 = some o.digest
  accepted : o.acceptance = some acceptance
  acknowledged : o.acknowledgment = some acknowledgment
  status : acknowledgment.status = .applied
  transaction : SignedEffectOutcome.acknowledgmentTransactionValid acceptance acknowledgment = true

theorem ValidHistory.appliedEvidence (h : r.ValidHistory) (hstate : r.state = .applied) :
    ∃ a o acceptance acknowledgment, r.AppliedEvidence a o acceptance acknowledgment := by
  obtain ⟨a, ha, o, ho, hdisposition, hevidence⟩ :=
    h.exists_terminal_outcome (by rw [hstate]; rfl)
  have happlied : o.disposition = .applied := by
    rw [hstate] at hdisposition
    exact Option.some.inj hdisposition
  rcases o.closed_cases (h.outcome_valid ha ho) with
    ⟨hdenied, -⟩ | ⟨-, acceptance, hacceptance, hevidences⟩
  · rw [happlied] at hdenied
    cases hdenied
  · have hterminal := hevidences.terminal (by rw [happlied]; rfl)
    rw [happlied] at hterminal
    obtain ⟨acknowledgment, hacknowledgment, hstatus⟩ := Option.map_eq_some_iff.mp hterminal
    exact ⟨a, o, acceptance, acknowledgment, ha, ho, happlied, hevidence, hacceptance,
      hacknowledgment, hstatus, hevidences.transaction acknowledgment hacknowledgment⟩

/-- The recovery takes the transition's own outcome, and it acknowledges the effect. -/
theorem ValidHistory.appliedLink_eq (h : r.ValidHistory) (hdistinct : r.DigestsDistinct)
    {a : CoordinationAttempt} {o : SignedEffectOutcome} {acceptance : DurableCommitAcceptance}
    {acknowledgment : PlcCommandAcknowledgment}
    (he : r.AppliedEvidence a o acceptance acknowledgment) :
    appliedLink r = .ok ⟨r, o, acknowledgment⟩ := by
  have hfound : r.attempts.reverse.findSome? (fun attempt =>
      attempt.outcome.filter (fun p => decide (some p.digest = r.latestEvidenceSha256)))
        = some o := by
    cases hsearch : r.attempts.reverse.findSome? (fun attempt =>
        attempt.outcome.filter (fun p => decide (some p.digest = r.latestEvidenceSha256))) with
    | none =>
      have hmiss := List.findSome?_eq_none_iff.mp hsearch a (List.mem_reverse.mpr he.attempt)
      rw [he.outcome, Option.filter_some, if_pos (decide_eq_true he.evidence.symm)] at hmiss
      cases hmiss
    | some p =>
      obtain ⟨b, hb, hp⟩ := List.exists_of_findSome?_eq_some hsearch
      rw [Option.filter_eq_some_iff] at hp
      have hdigest : some p.digest = some o.digest :=
        (of_decide_eq_true hp.2).trans he.evidence
      rw [(hdistinct b (List.mem_reverse.mp hb) a he.attempt).1 p hp.1 o he.outcome
        (Option.some.inj hdigest)]
  have hdispatched : o.disposition ≠ .notDispatched := by rw [he.disposition]; nofun
  have hlatest : r.latestAcceptance = some acceptance :=
    (h.outcome_acceptance he.attempt he.outcome hdispatched).symm.trans he.accepted
  obtain ⟨commit, hcommit, hbound⟩ := ValidHistory.mem_of_latestAcceptance hlatest
  have hexact := CoordinationAttempt.commit_exact (h.attemptsValid _ hcommit)
  have hrequest := (commit.acceptance_binds hexact hbound).2.2.1
  have hacknowledges : acknowledgesEffect o acknowledgment r.effect = true := by
    refine acknowledgesEffect_of_transaction he.disposition he.status he.transaction ?_
    rw [hrequest]
    exact (h.commitChain hcommit).dispatch
  have hfirst : (some o <|> r.terminalOutcome) = some o := rfl
  unfold appliedLink
  simp only [hfound, hfirst, orRaise, ok_bind, he.acknowledged, hacknowledges, refuseIf,
    Bool.true_eq_false, if_false, pure_eq_ok]

/-- The two validators differ exactly on disagreeing acknowledgments. -/
theorem ValidHistory.recoveryAccepts_iff (h : r.ValidHistory) (hstate : r.state = .applied)
    (hdistinct : r.DigestsDistinct) : r.RecoveryAccepts ↔ r.AppliedAgree := by
  obtain ⟨a, o, acceptance, acknowledgment, he⟩ := h.appliedEvidence hstate
  have hdispatched : o.disposition ≠ .notDispatched := by rw [he.disposition]; nofun
  have hlatest : r.latestAcceptance = some acceptance :=
    (h.outcome_acceptance he.attempt he.outcome hdispatched).symm.trans he.accepted
  obtain ⟨commit, hcommit, hbound⟩ := ValidHistory.mem_of_latestAcceptance hlatest
  have hexact := CoordinationAttempt.commit_exact (h.attemptsValid _ hcommit)
  obtain ⟨-, hverifies, hrequest, -, hacceptanceEffect⟩ := commit.acceptance_binds hexact hbound
  have hchain := h.commitChain hcommit
  obtain ⟨-, houtcomeEffect, houtcomeVerifies⟩ := h.attempt_binds he.attempt he.outcome
  have hattempts : r.attempts.all (terminalAttemptValid ⟨r, o, acknowledgment⟩ acceptance) = true ↔
      r.AppliedAgree := by
    rw [List.all_eq_true]
    constructor
    · intro hall b hb c hc p q hp hq happliedP happliedQ
      have hb' := hall b hb
      have hc' := hall c hc
      simp only [terminalAttemptValid, hp, happliedP, ne_eq, not_true, decide_false,
        Bool.false_or, Bool.and_eq_true, decide_eq_true_eq] at hb'
      simp only [terminalAttemptValid, hq, happliedQ, ne_eq, not_true, decide_false,
        Bool.false_or, Bool.and_eq_true, decide_eq_true_eq] at hc'
      rw [hb'.2.2, hc'.2.2]
    · intro hagree b hb
      unfold terminalAttemptValid
      cases hp : b.outcome with
      | none => rfl
      | some p =>
        by_cases happlied : p.disposition = .applied
        · obtain ⟨hbinds, -, -⟩ := h.attempt_binds hb hp
          have hsame := (h.outcome_acceptance hb hp (by rw [happlied]; nofun)).trans hlatest
          have hacknowledged := (hagree b hb a he.attempt p o hp he.outcome happlied
            he.disposition).trans he.acknowledged
          simp only [happlied, ne_eq, not_true, decide_false, Bool.false_or, Bool.and_eq_true,
            decide_eq_true_eq]
          exact ⟨hbinds, hsame, hacknowledged⟩
        · simp [happlied]
  unfold RecoveryAccepts
  rw [h.appliedLink_eq hdistinct he]
  simp only [Except.ok.injEq, exists_eq_left']
  unfold appliedEvidenceValid
  simp only [he.accepted, Bool.and_eq_true, hattempts, decide_eq_true_eq]
  have hany : r.attempts.any (fun attempt =>
      decide (attempt.outcome = some o ∧ o.disposition = .applied)) = true :=
    List.any_eq_true.mpr ⟨a, he.attempt, decide_eq_true ⟨he.outcome, he.disposition⟩⟩
  have hprepare := h.prepare_verifies hdistinct hcommit
  rw [← hrequest] at hchain hacceptanceEffect hprepare
  constructor
  · rintro ⟨⟨⟨⟨⟨⟨⟨⟨-, -⟩, hagree⟩, -⟩, -⟩, -⟩, -⟩, -⟩, -⟩
    exact hagree
  · intro hagree
    exact ⟨⟨⟨⟨⟨⟨⟨⟨hany, houtcomeEffect.symm, houtcomeEffect.trans
      (hacceptanceEffect.trans hchain.commit).symm, hacceptanceEffect, hchain.commit.trans
      hchain.receipt.symm, hchain.receipt.trans hchain.prepare.symm, he.evidence.symm, hlatest⟩,
      hagree⟩, hprepare⟩, hchain.receiptVerifies⟩,
      hchain.commitVerifies⟩, hverifies⟩, houtcomeVerifies⟩, he.transaction⟩

end CoordinationJournalRecord

/-! ## Runs -/

/-- An outcome that a query operation may retain. -/
def EffectOp.Answers : EffectOp → SignedEffectOutcome → Prop
  | .retainQueryOutcome _ outcome _, o => o = outcome
  | .answerQuery request issue _, o => ∃ record time, issue request record time = .ok o
  | .prepareEffect .., _ | .beginCommit .., _ | .finishCommit .., _ | .markCommitUnknown .., _ =>
      False

/-- An APPLIED answer to a query carries the acknowledgment of the APPLIED outcomes that its
    record already retains. -/
def EffectOp.AnswersAgree (op : EffectOp) (j : Journal .effectCoordinator) : Prop :=
  ∀ o, op.Answers o → o.disposition = .applied →
    ∀ e, j.records.find? o.effect.effectId = some e → ∀ a ∈ e.record.attempts, ∀ p,
      a.outcome = some p → p.disposition = .applied → o.acknowledgment = p.acknowledgment

variable [RecordCodec]

/-- One event in the life of an effect journal whose APPLIED answers agree. -/
inductive AgreeingStep : Journal .effectCoordinator → Journal .effectCoordinator → Prop where
  | op (j : Journal .effectCoordinator) (op : EffectOp) (env : OpEnv) (h : op.AnswersAgree j) :
      AgreeingStep j (op.run j env).2
  | close (j : Journal .effectCoordinator) : AgreeingStep j j.close
  | restart (j : Journal .effectCoordinator) : AgreeingStep j j.restart

/-- The outcome an operation brings into a usable journal. -/
def EffectOp.Brings (op : EffectOp) (j : Journal .effectCoordinator) (env : OpEnv)
    (o : SignedEffectOutcome) : Prop :=
  j.unusable = false ∧
    match op with
    | .finishCommit _ outcome _ => o = outcome ∧
        ∀ e, j.records.find? o.effect.effectId = some e → e.record.state.terminal = false
    | .retainQueryOutcome _ outcome _ => o = outcome
    | .answerQuery request issue recordedAt =>
        ∃ time, j.issueAnswer request issue recordedAt env.now = .ok (.inr (time, o))
    | .prepareEffect .. | .beginCommit .. | .markCommitUnknown .. => False

omit [RecordCodec] in
/-- A commit outcome is retained only while the record is open. -/
theorem finishCommitRecord_open {j : Journal .effectCoordinator}
    {request : SignedEffectCommitRequest} {outcome : SignedEffectOutcome}
    {recordedAt : Option RecordedAt} {now : Time} {record : CoordinationJournalRecord}
    {k : JournalEntry .effectCoordinator → JournalEntry .effectCoordinator}
    (h : j.finishCommitRecord request outcome recordedAt now = .ok (.store record k)) :
    ∀ e, j.records.find? outcome.effect.effectId = some e → e.record.state.terminal = false := by
  simp only [Journal.finishCommitRecord, bind_eq_ok, orRaise_eq_ok] at h
  obtain ⟨⟨⟩, hvalidated, found, hlookup, entry, rfl, attempt, hattempt, h⟩ := h
  simp only [validateOutcome, bind_unit_eq_ok, refuseIf_eq_ok, not_or, not_not] at hvalidated
  have heffect : outcome.effect = request.effect := hvalidated.1.2.2.2.2.2.1
  split at h
  · simp at h
  · simp only [bind_eq_ok, refuseIf_eq_ok, exists_const, orRaise_eq_ok, Bool.not_eq_true] at h
    obtain ⟨hopen, -⟩ := h
    intro e he
    rw [heffect, (Journal.lookup_eq_some.mp hlookup).1, Option.some.injEq] at he
    rw [← he]
    exact hopen

/-- Every operation brings at most one outcome. -/
theorem EffectOp.run_brings (op : EffectOp) {j : Journal .effectCoordinator} (env : OpEnv)
    (hconsistent : j.Consistent) :
    j.Stepped ⟨op.Brings j env, fun _ => False, fun _ => True⟩ (op.run j env).2 := by
  cases op with
  | prepareEffect request issue recordedAt =>
    exact Journal.stepped_guarded hconsistent (fun _ _ h => update_prepareEffect trivial h)
  | beginCommit request issue recordedAt =>
    exact Journal.stepped_guarded hconsistent (fun _ _ h => update_beginCommitRecord h)
  | finishCommit request outcome recordedAt =>
    have hplan : j.unusable = false → ∀ record k,
        j.finishCommitRecord request outcome recordedAt env.now = .ok (.store record k) →
          j.Update ⟨(EffectOp.finishCommit request outcome recordedAt).Brings j env,
            fun _ => False, fun _ => True⟩ record := by
      intro husable record k h
      exact update_finishCommitRecord ⟨husable, rfl, finishCommitRecord_open h⟩ h
    exact Journal.stepped_guarded_usable hconsistent hplan
  | markCommitUnknown request reason evidence recordedAt =>
    exact Journal.stepped_guarded hconsistent (fun _ _ h => update_markCommitUnknownRecord h)
  | retainQueryOutcome request outcome recordedAt =>
    show j.Stepped _ (j.completeQuery request outcome recordedAt env.now true env.writes).2
    unfold Journal.completeQuery
    split
    · exact .refl hconsistent
    · rename_i hwriter
      have husable := Journal.usable_of_assertWriter hwriter
      exact Journal.stepped_completeQueryRecord ⟨husable, rfl⟩ hconsistent husable
  | answerQuery request issue recordedAt =>
    have hissuedOnly : CoordinationJournalRecord.Changes.Within
        (.answering (fun o =>
          ∃ time, j.issueAnswer request issue recordedAt env.now = .ok (.inr (time, o))))
        ⟨(EffectOp.answerQuery request issue recordedAt).Brings j env, fun _ => False,
          fun _ => True⟩ := by
      refine ⟨?_, fun _ h => h, fun _ _ => trivial⟩
      rintro outcome ⟨time, hanswer⟩
      exact ⟨(Journal.issueAnswer_issued hanswer).1, time, hanswer⟩
    exact (Journal.stepped_issuedAnswer hconsistent).weaken hissuedOnly

omit [RecordCodec] in
theorem EffectOp.Brings.unique {op : EffectOp} {j : Journal .effectCoordinator} {env : OpEnv}
    {o p : SignedEffectOutcome} (ho : op.Brings j env o) (hp : op.Brings j env p) : o = p := by
  obtain ⟨-, ho⟩ := ho
  obtain ⟨-, hp⟩ := hp
  cases op with
  | prepareEffect request issue recordedAt => cases ho
  | beginCommit request issue recordedAt => cases ho
  | finishCommit request outcome recordedAt => exact ho.1.trans hp.1.symm
  | markCommitUnknown request reason evidence recordedAt => cases ho
  | retainQueryOutcome request outcome recordedAt => exact ho.trans hp.symm
  | answerQuery request issue recordedAt =>
    obtain ⟨time, ho⟩ := ho
    obtain ⟨time', hp⟩ := hp
    rw [ho] at hp
    simp only [Except.ok.injEq, Sum.inr.injEq, Prod.mk.injEq] at hp
    exact hp.2

omit [RecordCodec] in
/-- What an operation brings agrees with what the record retains. -/
theorem EffectOp.Brings.agrees {op : EffectOp} {j : Journal .effectCoordinator} {env : OpEnv}
    {o p : SignedEffectOutcome} (ho : op.Brings j env o) (hagree : op.AnswersAgree j)
    (happlied : o.disposition = .applied) {e : JournalEntry .effectCoordinator}
    (he : j.records.find? o.effect.effectId = some e) {a : CoordinationAttempt}
    (ha : a ∈ e.record.attempts) (hp : a.outcome = some p) (happliedP : p.disposition = .applied) :
    o.acknowledgment = p.acknowledgment := by
  obtain ⟨-, ho⟩ := ho
  cases op with
  | prepareEffect request issue recordedAt => cases ho
  | beginCommit request issue recordedAt => cases ho
  | finishCommit request outcome recordedAt =>
    -- A record that retains an APPLIED outcome is closed.
    have hterminal := (e.history.terminal_outcome_state ha hp (by rw [happliedP]; rfl)).1
    have hclosed := CoordinationState.dispatchedTerminal_terminal hterminal
    rw [ho.2 e he] at hclosed
    cases hclosed
  | markCommitUnknown request reason evidence recordedAt => cases ho
  | retainQueryOutcome request outcome recordedAt =>
    exact hagree o ho happlied e he a ha p hp happliedP
  | answerQuery request issue recordedAt =>
    obtain ⟨time, hanswer⟩ := ho
    obtain ⟨-, record, hissued⟩ := Journal.issueAnswer_issued hanswer
    exact hagree o ⟨record, time, hissued⟩ happlied e he a ha p hp happliedP

omit [RecordCodec] in
/-- The records of a map keep agreeing acknowledgments under one agreeing operation. -/
theorem RecordsGrow.appliedAgree {op : EffectOp} {j : Journal .effectCoordinator} {env : OpEnv}
    {m m' : RecordMap .effectCoordinator} (hagree : op.AnswersAgree j)
    (hgrow : RecordsGrow ⟨op.Brings j env, fun _ => False, fun _ => True⟩ m m') (hkeyed : Keyed m')
    (hsame : j.unusable = false → m = j.records)
    (hall : ∀ k e, m.find? k = some e → e.record.AppliedAgree) :
    ∀ k e, m'.find? k = some e → e.record.AppliedAgree := by
  intro k e' he' a ha b hb o p ho hp happliedO happliedP
  obtain ⟨i, hi⟩ := List.getElem?_of_mem ha
  obtain ⟨l, hl⟩ := List.getElem?_of_mem hb
  -- An outcome of the grown record is one of the old record or the one the operation brings.
  have hkey (q : SignedEffectOutcome) (c : CoordinationAttempt) (hc : c ∈ e'.record.attempts)
      (hq : c.outcome = some q) : q.effect.effectId = k := by
    rw [(e'.history.attempt_binds hc hq).2.1]
    exact hkeyed k e' he'
  cases hfound : m.find? k with
  | none =>
    obtain ⟨-, request, receipt, time, hext⟩ := hgrow.created k e' he' hfound
    have hnone (c : CoordinationAttempt) (n : Nat)
        (hc : (newRecord request receipt time).attempts[n]? = some c) : c.outcome = none := by
      have hmem := List.mem_of_getElem? hc
      simp only [newRecord, List.mem_singleton] at hmem
      rw [hmem]
      rfl
    rcases hext.newOutcome i a o hi ho with ⟨c, hc, hco⟩ | ⟨hbringsO, -⟩
    · rw [hnone c i hc] at hco
      cases hco
    · rcases hext.newOutcome l b p hl hp with ⟨c, hc, hcp⟩ | ⟨hbringsP, -⟩
      · rw [hnone c l hc] at hcp
        cases hcp
      · rw [hbringsO.unique hbringsP]
  | some e =>
    obtain ⟨f, hf, hext⟩ := hgrow.kept k e hfound
    obtain rfl : f = e' := Option.some.inj (hf.symm.trans he')
    rcases hext.newOutcome i a o hi ho with ⟨c, hc, hco⟩ | ⟨hbringsO, -⟩
    · rcases hext.newOutcome l b p hl hp with ⟨d, hd, hdp⟩ | ⟨hbringsP, -⟩
      · exact hall k e hfound c (List.mem_of_getElem? hc) d (List.mem_of_getElem? hd) o p hco hdp
          happliedO happliedP
      · have hmemory := hsame hbringsP.1
        rw [hmemory, ← hkey p b hb hp] at hfound
        exact (hbringsP.agrees hagree happliedP hfound (List.mem_of_getElem? hc) hco
          happliedO).symm
    · rcases hext.newOutcome l b p hl hp with ⟨d, hd, hdp⟩ | ⟨hbringsP, -⟩
      · have hmemory := hsame hbringsO.1
        rw [hmemory, ← hkey o a ha ho] at hfound
        exact hbringsO.agrees hagree happliedO hfound (List.mem_of_getElem? hd) hdp happliedP
      · rw [hbringsO.unique hbringsP]

theorem AgreeingStep.journalStep {j j' : Journal .effectCoordinator} (h : AgreeingStep j j') :
    JournalStep j j' := by
  cases h with
  | op op env _ => exact .op j (.effect op) env
  | close => exact .close j
  | restart => exact .restart j

/-- One agreeing event keeps the acknowledgments of every record in agreement. -/
theorem AgreeingStep.appliedAgree {j j' : Journal .effectCoordinator} (h : AgreeingStep j j')
    (hconsistent : j.Consistent)
    (hall : j.Everywhere CoordinationJournalRecord.AppliedAgree) :
    j'.Everywhere CoordinationJournalRecord.AppliedAgree := by
  cases h with
  | op op env hagree =>
    have hstep := op.run_brings env hconsistent
    refine ⟨?_, ?_⟩
    · exact hstep.records.appliedAgree hagree hstep.consistent.recordsKeyed (fun _ => rfl) hall.1
    · exact hstep.file.appliedAgree hagree hstep.consistent.fileKeyed hconsistent.usable hall.2
  | close => exact hall
  | restart => exact ⟨hall.2, hall.2⟩

/-- So does a whole agreeing run. -/
theorem appliedAgree_of_run {j j' : Journal .effectCoordinator}
    (h : Relation.ReflTransGen AgreeingStep j j') (hconsistent : j.Consistent)
    (hall : j.Everywhere CoordinationJournalRecord.AppliedAgree) :
    j'.Consistent ∧ j'.Everywhere CoordinationJournalRecord.AppliedAgree := by
  induction h with
  | refl => exact ⟨hconsistent, hall⟩
  | tail _ hstep ih =>
    exact ⟨(hstep.journalStep.stepped ih.1).consistent, hstep.appliedAgree ih.1 ih.2⟩

/-! ## The recovery's classification -/

/-- The two reasons that blame the evidence of an applied effect. -/
def CoordinationRecoveryReason.blamesApplied : CoordinationRecoveryReason → Bool
  | .appliedEvidenceInvalid | .appliedAcknowledgmentInconsistent => true
  | _ => false

omit [RecordCodec] in
/-- The loop over acceptable records collects their links. -/
theorem collectApplied_of_accepts {records : List CoordinationJournalRecord}
    (haccepts : ∀ r ∈ records, r.state = .applied → r.RecoveryAccepts) (found : List AppliedLink) :
    ∃ links, collectApplied found records = .ok (found ++ links) ∧
      ∀ link ∈ links, appliedEvidenceValid link = true := by
  induction records generalizing found with
  | nil => exact ⟨[], by rw [List.append_nil]; rfl, fun link h => absurd h List.not_mem_nil⟩
  | cons r rest ih =>
    have hrest := fun found => ih (fun r' hr' => haccepts r' (List.mem_cons_of_mem r hr')) found
    unfold collectApplied
    by_cases hstate : r.state = .applied
    · obtain ⟨link, hlink, hvalid⟩ := haccepts r List.mem_cons_self hstate
      obtain ⟨links, hcollected, hall⟩ := hrest (found ++ [link])
      refine ⟨link :: links, ?_, ?_⟩
      · rw [if_pos hstate, hlink]
        simp only
        rw [hcollected, List.append_assoc]
        rfl
      · intro other hother
        rcases List.mem_cons.mp hother with rfl | hother
        · exact hvalid
        · exact hall other hother
    · obtain ⟨links, hcollected, hall⟩ := hrest found
      exact ⟨links, by rw [if_neg hstate, hcollected], hall⟩

omit [Primitives] [RecordCodec] in
theorem pendingPosition_blameless (effect : EffectIdentity) (plant : PlantHealthMetadata) :
    (pendingPosition effect plant).2.blamesApplied = false := by
  unfold pendingPosition
  split_ifs <;> rfl

omit [Primitives] [RecordCodec] in
theorem appliedPosition_blameless (applied : List AppliedLink) (plant : PlantHealthMetadata) :
    (appliedPosition applied plant).2.blamesApplied = false := by
  unfold appliedPosition
  split <;> split_ifs <;> rfl

omit [RecordCodec] in
theorem validateChain_blameless {records : List CoordinationJournalRecord}
    {plant : PlantHealthMetadata} {applied : List AppliedLink}
    {pending : Option CoordinationJournalRecord}
    (hvalid : applied.all appliedEvidenceValid = true) :
    (validateChain records plant applied pending).2.blamesApplied = false := by
  unfold validateChain
  rw [hvalid]
  split_ifs with hchain hrecords hevidence hpending hmodel
  · rfl
  · rfl
  · exact absurd hevidence id
  · rfl
  · rfl
  · cases pending with
    | none => exact appliedPosition_blameless applied plant
    | some record => exact pendingPosition_blameless record.effect plant

omit [RecordCodec] in
/-- A recovery over acceptable records does not blame their evidence. -/
theorem validateCoordinationRecovery_blameless {records : List CoordinationJournalRecord}
    (haccepts : ∀ r ∈ records, r.state = .applied → r.RecoveryAccepts)
    (plant : PlantHealthMetadata) :
    (validateCoordinationRecovery records plant).reason.blamesApplied = false := by
  obtain ⟨links, hcollected, hall⟩ := collectApplied_of_accepts haccepts []
  unfold validateCoordinationRecovery
  by_cases hlimit : maxRecoveryRecords < records.length
  · rw [if_pos hlimit]
    rfl
  · rw [if_neg hlimit]
    simp only [hcollected, List.nil_append]
    by_cases hmany : 1 < (records.filter (fun r => !r.state.terminal)).length
    · rw [if_pos hmany]
      rfl
    · rw [if_neg hmany]
      by_cases hnodup : (records.map (fun r => r.effect.effectId)).Nodup
      · rw [if_neg (not_not.mpr hnodup)]
        refine validateChain_blameless (List.all_eq_true.mpr fun link hlink => ?_)
        exact hall link (List.mem_mergeSort.mp hlink)
      · rw [if_pos hnodup]
        rfl

end

namespace Sample

/-- The sample effect is prepared, committed and reported as applied. -/
def applying : List (EffectOp × Time) :=
  [(prepareEffect, 1), (acceptCommit, 3),
    (.finishCommit sampleCommit (appliedOutcome (.commit sampleCommit) sampleAcceptance
      (appliedAcknowledgment "action-1" "acknowledgment-1" 3) "applied" 3) none, 3)]

/-- A later query is answered with another acknowledgment of the same transaction. -/
def disputing : List (EffectOp × Time) :=
  applying ++ [(.retainQueryOutcome sampleQuery (appliedOutcome (.query sampleQuery)
    sampleAcceptance (appliedAcknowledgment "action-1" "acknowledgment-2" 3) "reconciled" 3) none,
    3)]

/-- Run effect operations at their times. -/
def runEffects (ops : List (EffectOp × Time)) : Journal .effectCoordinator :=
  effectJournal.runOps (ops.map (fun step => (.effect step.1, calm step.2)))

/-- Operations that answer no query agree with everything. -/
theorem agreeing_runOps (ops : List (EffectOp × Time)) (j : Journal .effectCoordinator)
    (hquiet : ∀ step ∈ ops, ∀ o, ¬ step.1.Answers o) :
    Relation.ReflTransGen AgreeingStep j
      (j.runOps (ops.map (fun step => (.effect step.1, calm step.2)))) := by
  induction ops generalizing j with
  | nil => exact .refl
  | cons step rest ih =>
    have hagree : step.1.AnswersAgree j :=
      fun o ho => absurd ho (hquiet step List.mem_cons_self o)
    exact .head (.op j step.1 (calm step.2) hagree)
      (ih _ (fun other hother => hquiet other (List.mem_cons_of_mem _ hother)))

theorem applying_quiet : ∀ step ∈ applying, ∀ o, ¬ step.1.Answers o := by
  intro step hstep o
  simp only [applying, List.mem_cons, List.not_mem_nil, or_false] at hstep
  rcases hstep with rfl | rfl | rfl <;> exact id

/-- The plant after the sample command. -/
def appliedPlant : PlantHealthMetadata :=
  { bootEpoch := "plant-boot-epoch"
    keyId := "plant-key"
    publicKey := "plant-key"
    backend := "pandapower"
    modelDigest := sha 1
    simulatorVersion := "1.0"
    observationSourceId := "observer"
    stateVersion := 1
    stateDigest := sha 1001 }

end Sample

end AegisOt
