import AegisOt.Coordination.Proofs.Steps

/-!
# What the journals retain

An outcome or a commit attempt that is in a record stays there, in memory and in the file. An
operation that succeeds leaves both alike, so what it returned is retained in both.
-/

namespace AegisOt

section

variable [Primitives] {role : JournalRole}

open CoordinationJournalRecord

/-- The record retains the outcome in some attempt. -/
def CoordinationJournalRecord.RetainsOutcome (r : CoordinationJournalRecord)
    (o : SignedEffectOutcome) : Prop :=
  ∃ a ∈ r.attempts, a.outcome = some o

/-- The record of the effect has the property. -/
def RecordMap.Holds (m : RecordMap role) (k : EffectId) (P : CoordinationJournalRecord → Prop) :
    Prop :=
  ∃ e, m.find? k = some e ∧ P e.record

/-- The record of the effect has the property in memory and in the file. -/
def Journal.Holds (j : Journal role) (k : EffectId) (P : CoordinationJournalRecord → Prop) :
    Prop :=
  RecordMap.Holds j.records k P ∧ RecordMap.Holds j.file k P

theorem RecordsGrow.holds {changes : Changes} {m m' : RecordMap role} (h : RecordsGrow changes m m')
    {P : CoordinationJournalRecord → Prop} (hextends : ∀ r r', r.Extends changes r' → P r → P r')
    {k : EffectId} (hm : RecordMap.Holds m k P) : RecordMap.Holds m' k P := by
  obtain ⟨e, he, hP⟩ := hm
  obtain ⟨e', he', hext⟩ := h.kept k e he
  exact ⟨e', he', hextends _ _ hext hP⟩

omit [Primitives] in
theorem CoordinationJournalRecord.Extends.retainsOutcome {changes : Changes}
    {r r' : CoordinationJournalRecord} {o : SignedEffectOutcome} (h : r.Extends changes r')
    (hr : r.RetainsOutcome o) : r'.RetainsOutcome o := by
  obtain ⟨a, ha, ho⟩ := hr
  obtain ⟨b, hb, ho', -⟩ := h.outcome_mem ha ho
  exact ⟨b, hb, ho'⟩

/-- An outcome is retained under its own effect. -/
theorem JournalEntry.outcome_effect (e : JournalEntry role) {o : SignedEffectOutcome}
    (h : e.record.RetainsOutcome o) : o.effect = e.record.effect := by
  obtain ⟨a, ha, ho⟩ := h
  have hvalid := e.history.attemptsValid a ha
  have heffect := e.history.attempt_effect ha
  cases a with
  | prepare a => cases ho
  | commit a =>
    obtain ⟨-, hbinds, -⟩ :=
      EffectCommitAttempt.outcome_spec (CoordinationAttempt.commit_exact hvalid) ho
    exact hbinds.2.2.2.2.1.trans heffect
  | query a =>
    obtain ⟨-, hbinds⟩ :=
      EffectQueryAttempt.outcome_spec (CoordinationAttempt.query_exact hvalid) ho
    exact hbinds.2.2.2.2.1.trans heffect

/-- On the effect side a record that was not dispatched has no commit attempt. -/
theorem JournalEntry.not_committed (e : JournalEntry .effectCoordinator)
    (h : e.record.state = .notDispatched) : e.record.hasCommit = false := by
  by_contra hcommitted
  obtain ⟨a, ha, hcommit⟩ := List.any_eq_true.mp (Bool.not_eq_false _ ▸ hcommitted)
  cases a with
  | prepare a => cases hcommit
  | query a => cases hcommit
  | commit a =>
    have haccepted : a.acceptance ≠ none := by
      intro hnone
      have hrole := e.roleValid
      simp only [validateRoleHistory, refuseIf_eq_ok] at hrole
      exact hrole ⟨trivial, .commit a, ha, rfl, hnone⟩
    have hpost :=
      e.history.latestAcceptance_ne_none.mp (e.history.latestAcceptance_eq ha ▸ haccepted)
    rw [h] at hpost
    cases hpost

/-- A retained NOT_DISPATCHED outcome closes the record. -/
theorem JournalEntry.notDispatched_of_retains (e : JournalEntry role) {o : SignedEffectOutcome}
    (h : e.record.RetainsOutcome o) (hnd : o.disposition = .notDispatched) :
    e.record.state = .notDispatched := by
  obtain ⟨a, ha, ho⟩ := h
  cases a with
  | prepare a => cases ho
  | commit a =>
    exact absurd hnd
      (CoordinationAttempt.commit_outcome_dispatched (e.history.attemptsValid _ ha) ho)
  | query a => exact (e.history.notDispatched_of_query ha ho hnd).1

end

section

variable [Primitives] [RecordCodec] {role : JournalRole}

open CoordinationJournalRecord

theorem Journal.Stepped.holds {changes : Changes} {j j' : Journal role} (h : j.Stepped changes j')
    {P : CoordinationJournalRecord → Prop} (hextends : ∀ r r', r.Extends changes r' → P r → P r')
    {k : EffectId} (hj : j.Holds k P) : j'.Holds k P :=
  ⟨h.records.holds hextends hj.1, h.file.holds hextends hj.2⟩

omit [RecordCodec] in
theorem Journal.holds_restart {j : Journal role} {k : EffectId}
    {P : CoordinationJournalRecord → Prop} (h : j.Holds k P) : j.restart.Holds k P :=
  ⟨h.2, h.2⟩

/-! ## Successful operations -/

theorem Journal.usable_of_carryOut {α : Type} {j : Journal role}
    {plan : Except PyError (Plan role α)} {write : WriteResult} {result : α}
    (h : (j.carryOut (j.guarded plan) write).1 = .ok result) :
    (j.carryOut (j.guarded plan) write).2.unusable = false := by
  rw [Journal.carryOut_ok_unusable h]
  cases hwriter : j.assertWriter with
  | error error =>
    rw [Journal.guarded, hwriter] at h
    cases h
  | ok u => exact Journal.usable_of_assertWriter hwriter

theorem Journal.usable_of_completeQueryRecord {j : Journal role}
    {request : SignedEffectQueryRequest} {outcome : SignedEffectOutcome}
    {recordedAt : Option RecordedAt} {now : Time} {create : Bool}
    {writes : WriteResult × WriteResult} {entry : JournalEntry role}
    (h : (j.completeQueryRecord request outcome recordedAt now create writes).1 = .ok entry) :
    (j.completeQueryRecord request outcome recordedAt now create writes).2.unusable =
      j.unusable := by
  unfold Journal.completeQueryRecord at h ⊢
  split at h
  · cases h
  · exact Journal.carryOut_ok_unusable h
  · split at h
    · rename_i hcreate
      rw [if_pos hcreate]
      split at h
      · cases h
      · rename_i entry attempt j' hbegun
        have hfirst := Journal.carryOut_ok_unusable (congrArg Prod.fst hbegun)
        rw [hbegun] at hfirst
        exact (Journal.carryOut_ok_unusable h).trans hfirst
    · cases h

theorem Journal.usable_of_completeQuery {j : Journal role} {request : SignedEffectQueryRequest}
    {outcome : SignedEffectOutcome} {recordedAt : Option RecordedAt} {now : Time} {create : Bool}
    {writes : WriteResult × WriteResult} {entry : JournalEntry role}
    (h : (j.completeQuery request outcome recordedAt now create writes).1 = .ok entry) :
    (j.completeQuery request outcome recordedAt now create writes).2.unusable = false := by
  unfold Journal.completeQuery at h ⊢
  split at h
  · cases h
  · rename_i hwriter
    exact (Journal.usable_of_completeQueryRecord h).trans (Journal.usable_of_assertWriter hwriter)

omit [RecordCodec] in
theorem Journal.usable_of_issueAnswer {j : Journal .effectCoordinator}
    {request : SignedEffectQueryRequest} {issue : OutcomeIssuer} {recordedAt : Option RecordedAt}
    {now : Time} {answer : SignedEffectOutcome ⊕ Time × SignedEffectOutcome}
    (h : j.issueAnswer request issue recordedAt now = .ok answer) : j.unusable = false := by
  obtain ⟨⟨⟩, hwriter, -⟩ := bind_eq_ok.mp h
  exact Journal.usable_of_assertWriter hwriter

theorem Journal.usable_of_answerQuery {j : Journal .effectCoordinator}
    {request : SignedEffectQueryRequest} {issue : OutcomeIssuer} {recordedAt : Option RecordedAt}
    {now : Time} {writes : WriteResult × WriteResult} {outcome : SignedEffectOutcome}
    (h : (j.answerQuery request issue recordedAt now writes).1 = .ok outcome) :
    (j.answerQuery request issue recordedAt now writes).2.unusable = false := by
  unfold Journal.answerQuery at h ⊢
  split at h
  · cases h
  · rename_i retained hanswer
    exact Journal.usable_of_issueAnswer hanswer
  · rename_i time issued hanswer
    obtain ⟨entry, hok, -⟩ := map_eq_ok.mp h
    exact (Journal.usable_of_completeQueryRecord hok).trans (Journal.usable_of_issueAnswer hanswer)

/-- After an operation of the effect side that succeeded, the journal is usable. -/
theorem EffectOp.usable_of_ok (op : EffectOp) {j : Journal .effectCoordinator} {env : OpEnv}
    {reply : EffectReply} (h : (op.run j env).1 = .ok reply) :
    (op.run j env).2.unusable = false := by
  cases op with
  | prepareEffect request issue recordedAt =>
    obtain ⟨receipt, hok, -⟩ := map_eq_ok.mp h
    exact Journal.usable_of_carryOut hok
  | beginCommit request issue recordedAt =>
    obtain ⟨admission, hok, -⟩ := map_eq_ok.mp h
    obtain ⟨result, hbegun, -⟩ := bind_eq_ok.mp hok
    exact Journal.usable_of_carryOut hbegun
  | finishCommit request outcome recordedAt =>
    obtain ⟨entry, hok, -⟩ := map_eq_ok.mp h
    exact Journal.usable_of_carryOut hok
  | markCommitUnknown request reason evidence recordedAt =>
    obtain ⟨entry, hok, -⟩ := map_eq_ok.mp h
    exact Journal.usable_of_carryOut hok
  | retainQueryOutcome request outcome recordedAt =>
    obtain ⟨entry, hok, -⟩ := map_eq_ok.mp h
    exact Journal.usable_of_completeQuery hok
  | answerQuery request issue recordedAt =>
    obtain ⟨outcome, hok, -⟩ := map_eq_ok.mp h
    exact Journal.usable_of_answerQuery hok

/-! ## What an operation retained -/

/-- The outcome is retained under its effect in memory and in the file. -/
def Journal.Retains (j : Journal role) (o : SignedEffectOutcome) : Prop :=
  j.Holds o.effect.effectId (fun r => r.RetainsOutcome o)

/-- What the memory of a usable journal holds is in its file. -/
theorem Journal.Consistent.holds {j : Journal role} (h : j.Consistent)
    (husable : j.unusable = false) {k : EffectId} {entry : JournalEntry role}
    {P : CoordinationJournalRecord → Prop} (hfound : j.records.find? k = some entry)
    (hP : P entry.record) : j.Holds k P := by
  refine ⟨⟨entry, hfound, hP⟩, entry, ?_, hP⟩
  rw [h.usable husable]
  exact hfound

theorem Journal.Consistent.retains {j : Journal role} (h : j.Consistent)
    (husable : j.unusable = false) {entry : JournalEntry role} {o : SignedEffectOutcome}
    (hfound : j.records.find? entry.record.effect.effectId = some entry)
    (ho : entry.record.RetainsOutcome o) : j.Retains o := by
  rw [Journal.Retains, entry.outcome_effect ho]
  exact h.holds husable hfound ho

/-- `_finish_commit_record` returns the entry that is in the journal, with the outcome in it. -/
theorem Journal.finishCommitRecord_found {j : Journal role} {request : SignedEffectCommitRequest}
    {outcome : SignedEffectOutcome} {recordedAt : Option RecordedAt} {now : Time}
    {write : WriteResult} {entry : JournalEntry role}
    (h : (j.carryOut (j.guarded (j.finishCommitRecord request outcome recordedAt now)) write).1 =
      .ok entry) :
    (j.carryOut (j.guarded (j.finishCommitRecord request outcome recordedAt now))
        write).2.records.find? entry.record.effect.effectId = some entry ∧
      entry.record.RetainsOutcome outcome := by
  cases hplan : j.guarded (j.finishCommitRecord request outcome recordedAt now) with
  | error error =>
    rw [hplan] at h
    cases h
  | ok plan =>
    rw [hplan] at h
    simp only [Journal.guarded, Journal.finishCommitRecord, bind_eq_ok, orRaise_eq_ok] at hplan
    obtain ⟨⟨⟩, -, ⟨⟩, -, found, hlookup, old, rfl, attempt, hattempt, hplan⟩ := hplan
    split at hplan
    · simp only [bind_unit_eq_ok, refuseIf_eq_ok, not_not] at hplan
      obtain ⟨⟨houtcome, -⟩, hplan⟩ := hplan
      obtain rfl := Except.ok.inj hplan
      obtain rfl := Except.ok.inj h
      exact ⟨Journal.found_of_lookup hlookup, _, (mem_of_commitAttempt hattempt).1, houtcome⟩
    · simp only [bind_eq_ok, orRaise_eq_ok] at hplan
      obtain ⟨⟨⟩, -, time, -, bound, -, boundAttempt, hbound, ⟨⟩, -, ⟨⟩, -, updated, hupdated,
        hplan⟩ := hplan
      obtain rfl := Except.ok.inj hplan
      obtain ⟨stored, hrecord, rfl, hstored⟩ := Journal.carryOut_store_ok h
      refine ⟨hstored, ?_⟩
      -- The stored record is the bound one with its commit attempt replaced.
      rw [id, hrecord, RetainsOutcome, attempts_settle hupdated]
      exact ⟨_, List.mem_map.mpr ⟨_, (mem_of_commitAttempt hbound).1, if_pos rfl⟩, rfl⟩

/-- So does `_complete_query_record` from the retained attempt on. -/
theorem Journal.completeRetainedQuery_found {j : Journal role} {old : JournalEntry role}
    {attempt : EffectQueryAttempt} {outcome : SignedEffectOutcome} {time : Time}
    {write : WriteResult} {entry : JournalEntry role}
    (hfound : j.records.find? old.record.effect.effectId = some old)
    (hattempt : .query attempt ∈ old.record.attempts)
    (h : (j.carryOut (completeRetainedQuery old attempt outcome time) write).1 = .ok entry) :
    (j.carryOut (completeRetainedQuery old attempt outcome time) write).2.records.find?
        entry.record.effect.effectId = some entry ∧ entry.record.RetainsOutcome outcome := by
  cases hplan : completeRetainedQuery old attempt outcome time with
  | error error =>
    rw [hplan] at h
    cases h
  | ok plan =>
    rw [hplan] at h
    unfold completeRetainedQuery at hplan
    split at hplan
    · simp only [bind_unit_eq_ok, refuseIf_eq_ok, not_not] at hplan
      obtain ⟨houtcome, hplan⟩ := hplan
      obtain rfl := Except.ok.inj hplan
      obtain rfl := Except.ok.inj h
      exact ⟨hfound, _, hattempt, houtcome⟩
    · cases hplan
    · simp only [bind_eq_ok] at hplan
      obtain ⟨⟨⟩, -, bound, hbound, ⟨⟩, -, ⟨⟩, -, updated, hupdated, hplan⟩ := hplan
      obtain rfl := Except.ok.inj hplan
      obtain ⟨stored, hrecord, rfl, hstored⟩ := Journal.carryOut_store_ok h
      refine ⟨hstored, ?_⟩
      obtain ⟨i, hi⟩ := List.getElem?_of_mem hattempt
      obtain ⟨b, hb, hext⟩ := (extends_bindOutcomeAcceptance Changes.any
        old.history.numbered hbound).1.attempts i _ hi
      rw [id, hrecord, RetainsOutcome, attempts_settleQuery hupdated]
      exact ⟨_, List.mem_map.mpr ⟨b, List.mem_of_getElem? hb, if_pos hext.sequence⟩, rfl⟩

theorem Journal.completeQueryRecord_found {j : Journal role} {request : SignedEffectQueryRequest}
    {outcome : SignedEffectOutcome} {recordedAt : Option RecordedAt} {now : Time} {create : Bool}
    {writes : WriteResult × WriteResult} {entry : JournalEntry role}
    (h : (j.completeQueryRecord request outcome recordedAt now create writes).1 = .ok entry) :
    (j.completeQueryRecord request outcome recordedAt now create writes).2.records.find?
        entry.record.effect.effectId = some entry ∧ entry.record.RetainsOutcome outcome := by
  unfold Journal.completeQueryRecord at h ⊢
  split at h
  · cases h
  · rename_i old time attempt hquery
    obtain ⟨hfound, hattempt⟩ := Journal.findQuery_found hquery
    exact Journal.completeRetainedQuery_found hfound hattempt h
  · split at h
    · rename_i hcreate
      rw [if_pos hcreate]
      split at h
      · cases h
      · rename_i old attempt j' hbegun
        obtain ⟨hfound, hattempt⟩ := Journal.beginQueryRecord_found (congrArg Prod.fst hbegun)
        rw [hbegun] at hfound
        exact Journal.completeRetainedQuery_found hfound hattempt h
    · cases h

/-- `answer_query` returns an outcome that is in the journal. -/
theorem Journal.answerQuery_found {j : Journal .effectCoordinator}
    {request : SignedEffectQueryRequest} {issue : OutcomeIssuer} {recordedAt : Option RecordedAt}
    {now : Time} {writes : WriteResult × WriteResult} {outcome : SignedEffectOutcome}
    (h : (j.answerQuery request issue recordedAt now writes).1 = .ok outcome) :
    ∃ entry, (j.answerQuery request issue recordedAt now writes).2.records.find?
        entry.record.effect.effectId = some entry ∧ entry.record.RetainsOutcome outcome := by
  unfold Journal.answerQuery at h ⊢
  split at h
  · cases h
  · rename_i retained hanswer
    obtain rfl := Except.ok.inj h
    simp only [Journal.issueAnswer, bind_eq_ok, orRaise_eq_ok] at hanswer
    obtain ⟨⟨⟩, -, found, hlookup, entry, rfl, hanswer⟩ := hanswer
    split at hanswer
    · rename_i kept hkept
      obtain ⟨attempt, hattempt, houtcome⟩ := Option.bind_eq_some_iff.mp hkept
      obtain rfl := Sum.inl.inj (Except.ok.inj hanswer)
      exact ⟨entry, Journal.found_of_lookup hlookup, _, (mem_of_queryAttempt hattempt).1, houtcome⟩
    · simp at hanswer
  · rename_i time issued hanswer
    obtain ⟨entry, hok, rfl⟩ := map_eq_ok.mp h
    exact ⟨entry, Journal.completeQueryRecord_found hok⟩

omit [RecordCodec] in
theorem hasCommit_of_commitAttempt {r : CoordinationJournalRecord}
    {request : SignedEffectCommitRequest} (h : (r.commitAttempt request).isSome = true) :
    r.hasCommit = true := by
  obtain ⟨a, ha⟩ := Option.isSome_iff_exists.mp h
  exact List.any_eq_true.mpr ⟨_, (mem_of_commitAttempt ha).1, rfl⟩

omit [RecordCodec] in
theorem attempts_committedRecord {r r' : CoordinationJournalRecord}
    {request : SignedEffectCommitRequest} {acceptance : Option DurableCommitAcceptance}
    {time : Time} (h : committedRecord r request acceptance time = .ok r') :
    ∃ attempt, attempt.request = request ∧ r'.attempts = r.attempts ++ [.commit attempt] := by
  simp only [committedRecord, bind_unit_eq_ok] at h
  obtain ⟨-, h⟩ := h
  cases acceptance with
  | none =>
    obtain rfl := Except.ok.inj h
    exact ⟨_, rfl, rfl⟩
  | some acceptance => exact ⟨_, rfl, attempts_transition h⟩

omit [RecordCodec] in
/-- After `_begin_commit_record` the journal holds the returned entry with a commit attempt. -/
theorem Journal.CommitBegun.found {j j' : Journal role} {request : SignedEffectCommitRequest}
    {issue : Option CommitAcceptanceIssuer} {recordedAt : Option RecordedAt}
    {result : JournalEntry role × Bool} (h : j.CommitBegun request issue recordedAt j' result) :
    j'.records.find? request.effect.effectId = some result.1 ∧
      result.1.record.effect = request.effect ∧ result.1.record.hasCommit = true := by
  cases h with
  | retained entry hsame hfound heffect hretained =>
    rw [hsame]
    exact ⟨hfound, heffect, hasCommit_of_commitAttempt hretained⟩
  | created old entry acceptance time htime hold heffect hfresh hstate hissued hrecord hfound =>
    have hextends : old.record.Extends .none entry.record :=
      extends_committedRecord hrecord (by rw [hstate]; rfl)
    rw [hextends.effect, heffect] at hfound
    obtain ⟨attempt, -, hattempts⟩ := attempts_committedRecord hrecord
    refine ⟨hfound, hextends.effect.trans heffect, ?_⟩
    rw [hasCommit, hattempts, List.any_append]
    exact Bool.or_true _

omit [RecordCodec] in
theorem terminal_committedRecord {r r' : CoordinationJournalRecord}
    {request : SignedEffectCommitRequest} {acceptance : Option DurableCommitAcceptance}
    {time : Time} (h : committedRecord r request acceptance time = .ok r')
    (hopen : r.state.terminal = false) : r'.state.terminal = false := by
  simp only [committedRecord, bind_unit_eq_ok] at h
  obtain ⟨-, h⟩ := h
  cases acceptance with
  | none =>
    obtain rfl := Except.ok.inj h
    exact hopen
  | some acceptance =>
    rw [state_transition h]
    rfl

/-- What `begin_commit` of the effect side returned, in terms of the record it began. -/
theorem Journal.beginCommit_begun {j : Journal .effectCoordinator}
    {request : SignedEffectCommitRequest} {issue : CommitAcceptanceIssuer}
    {recordedAt : Option RecordedAt} {now : Time} {write : WriteResult}
    {admission : CommitAdmission}
    (h : (j.beginCommit request issue recordedAt now write).1 = .ok admission) :
    ∃ entry created, admission.record = entry.record ∧
      entry.record.latestAcceptance = some admission.acceptance ∧
      (admission.status = .new → created = true) ∧
      j.CommitBegun request (some issue) recordedAt
        (j.beginCommit request issue recordedAt now write).2 (entry, created) := by
  obtain ⟨result, hresult, hadmission⟩ := bind_eq_ok.mp h
  simp only [commitAdmission, bind_eq_ok, orRaise_eq_ok] at hadmission
  obtain ⟨acceptance, hacceptance, ⟨⟩, -, hadmission⟩ := hadmission
  obtain rfl := Except.ok.inj hadmission
  refine ⟨result.1, result.2, rfl, hacceptance, ?_, Journal.commitBegun hresult⟩
  intro hnew
  by_contra hretained
  dsimp only at hnew
  rw [if_neg hretained] at hnew
  split at hnew <;> cases hnew

/-- `begin_commit` of the effect side: the admission exposes the record in the journal, and a
    new one is given only for a record that had no commit attempt. -/
theorem Journal.beginCommit_found {j : Journal .effectCoordinator}
    {request : SignedEffectCommitRequest} {issue : CommitAcceptanceIssuer}
    {recordedAt : Option RecordedAt} {now : Time} {write : WriteResult}
    {admission : CommitAdmission}
    (h : (j.beginCommit request issue recordedAt now write).1 = .ok admission) :
    ∃ entry, admission.record = entry.record ∧ entry.record.hasCommit = true ∧
      (j.beginCommit request issue recordedAt now write).2.records.find?
        request.effect.effectId = some entry ∧
      (admission.status = .new → ∃ old, j.records.find? request.effect.effectId = some old ∧
        old.record.hasCommit = false) := by
  obtain ⟨entry, created, hrecord, -, hnew, hbegun⟩ := Journal.beginCommit_begun h
  obtain ⟨hfound, -, hcommit⟩ := hbegun.found
  refine ⟨entry, hrecord, hcommit, hfound, ?_⟩
  intro hstatus
  cases hbegun with
  | retained => cases hnew hstatus
  | created old _ acceptance time _ hold _ hfresh => exact ⟨old, hold, hfresh⟩

end

end AegisOt
