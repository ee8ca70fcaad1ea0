import AegisOt.Coordination.Proofs.Steps

/-!
# The invariant of a journal record

What every record of a reachable journal satisfies, and that the bound on the number of
transitions never refuses an update: paths of the state table are shorter than the bound, so
no operation raises its `ValidationError`.
-/

namespace AegisOt

open CoordinationJournalRecord

/-! ## The transition limit -/

/-- The exception was raised by a check of `MAX_TRANSITIONS_PER_EFFECT`. -/
def PyError.namesTransitionLimit : PyError → Bool
  | .value .transitionLimit | .invalidRecord .transitionLimit => true
  | .value (.other _) | .invalidRecord (.other _) | .journal _ | .collision _ | .illegal _
  | .uncertainUpdate | .callback _ => false

namespace PyError

@[simp] theorem namesTransitionLimit_journal (message : String) :
    (journal message).namesTransitionLimit = false := rfl

@[simp] theorem namesTransitionLimit_collision (message : String) :
    (collision message).namesTransitionLimit = false := rfl

@[simp] theorem namesTransitionLimit_illegal (message : String) :
    (illegal message).namesTransitionLimit = false := rfl

@[simp] theorem namesTransitionLimit_callback (cause : CallbackError) :
    (callback cause).namesTransitionLimit = false := rfl

@[simp] theorem namesTransitionLimit_uncertainUpdate :
    uncertainUpdate.namesTransitionLimit = false := rfl

@[simp] theorem namesTransitionLimit_value {cause : ValidationError} :
    (value cause).namesTransitionLimit = false ↔ cause ≠ .transitionLimit := by
  cases cause <;> simp [namesTransitionLimit]

@[simp] theorem namesTransitionLimit_invalidRecord {cause : ValidationError} :
    (invalidRecord cause).namesTransitionLimit = false ↔ cause ≠ .transitionLimit := by
  cases cause <;> simp [namesTransitionLimit]

end PyError

/-- A computation that never raises because of the transition limit. -/
abbrev Unlimited {α : Type} (x : Except PyError α) : Prop :=
  Raises (fun e => e.namesTransitionLimit = false) x

section Rules

variable {α : Type}

@[simp] theorem unlimited_validating_raising (x : Except String α) :
    Unlimited (validating (raising x)) := by
  cases x <;> simp [raising, validating]

@[simp] theorem unlimited_calling (x : Except CallbackError α) : Unlimited (calling x) := by
  cases x <;> simp [calling]

@[simp] theorem unlimited_checkWhen (recordedAt : Option RecordedAt) (now : Time) :
    Unlimited (checkWhen recordedAt now) := by
  unfold checkWhen
  split <;> simp

end Rules

theorem CoordinationTransition.validate_unlimited {t : CoordinationTransition}
    (h : 1 ≤ t.sequence ∧ t.sequence ≤ maxTransitionsPerEffect) :
    t.validate ≠ .error .transitionLimit := by
  simp [CoordinationTransition.validate, h, bind_eq_error]

/-- A transition of a legal history is far below the limit. -/
theorem unlimited_transition {r : CoordinationJournalRecord} (h : r.LegalHistory)
    (target : CoordinationState) (evidence : Option Sha256) (reason : String) (time : Time) :
    Unlimited (r.transition target evidence reason time) := by
  have hlength := h.length_le_five
  have hvalid : (r.nextTransition target evidence reason time).validate ≠
      .error .transitionLimit := by
    refine CoordinationTransition.validate_unlimited ?_
    simp only [nextTransition, maxTransitionsPerEffect]
    omega
  simp only [transition, raises_bind]
  refine ⟨by simp [terminalImmutable], fun _ _ => ⟨by simp, fun _ _ => ⟨?_, by simp⟩⟩⟩
  generalize (r.nextTransition target evidence reason time).validate = result at hvalid ⊢
  rcases result with (_ | message) | u
  · exact absurd rfl hvalid
  · simp [validating]
  · simp [validating]

theorem validateAll_ne_error {ε α : Type} {validate : α → Except ε Unit} {items : List α}
    {e : ε} (h : ∀ item ∈ items, validate item ≠ .error e) :
    validateAll validate items ≠ .error e := by
  induction items with
  | nil => simp [validateAll]
  | cons item rest ih =>
    simp only [validateAll, ne_eq, bind_eq_error, not_or, not_exists, not_and]
    exact ⟨h item List.mem_cons_self,
      fun _ _ => ih fun item hitem => h item (List.mem_cons_of_mem _ hitem)⟩

theorem raising_ne_limit {α : Type} (x : Except String α) :
    raising x ≠ .error .transitionLimit := by
  cases x <;> simp [raising]

/-- Nor does the validator of a whole record refuse a legal history for its length. -/
theorem validate_unlimited [Primitives] {r : CoordinationJournalRecord} (h : r.LegalHistory) :
    r.validate ≠ .error .transitionLimit := by
  have hlength := h.length_le_five
  have hpositive : 1 ≤ r.transitions.length := by
    have hhead := h.received
    cases htransitions : r.transitions with
    | nil => simp [htransitions] at hhead
    | cons t rest => simp
  have hcount : 1 ≤ r.transitions.length ∧ r.transitions.length ≤ maxTransitionsPerEffect :=
    ⟨hpositive, by simp only [maxTransitionsPerEffect]; omega⟩
  have htransitions : validateAll CoordinationTransition.validate r.transitions ≠
      .error .transitionLimit := by
    refine validateAll_ne_error fun t ht => CoordinationTransition.validate_unlimited ?_
    obtain ⟨i, hi⟩ := List.getElem?_of_mem ht
    have := h.sequence i t hi
    have := (List.getElem?_eq_some_iff.mp hi).1
    simp only [maxTransitionsPerEffect]
    omega
  simp [validate, bind_eq_error, raising_ne_limit, hcount, htransitions]

section Operations

variable [Primitives] {role : JournalRole}

omit [Primitives] in
theorem CoordinationJournalRecord.LegalHistory.appendAttempt {r : CoordinationJournalRecord}
    (h : r.LegalHistory) (a : CoordinationAttempt) : (r.appendAttempt a).LegalHistory :=
  ⟨h.path, h.received, h.sequence⟩

omit [Primitives] in
theorem CoordinationJournalRecord.LegalHistory.replaceAttempt {r : CoordinationJournalRecord}
    (h : r.LegalHistory) (a : CoordinationAttempt) : (r.replaceAttempt a).LegalHistory :=
  ⟨h.path, h.received, h.sequence⟩

@[simp] theorem unlimited_lookup (j : Journal role) (effect : EffectIdentity) :
    Unlimited (j.lookup effect) := by
  simp [Journal.lookup]

/-- Reading an entry that must be there. -/
theorem unlimited_entry {α : Type} {j : Journal role} {effect : EffectIdentity} {e : PyError}
    {f : JournalEntry role → Except PyError α} (he : e.namesTransitionLimit = false)
    (hf : ∀ entry, Unlimited (f entry)) :
    Unlimited (do
      let entry ← orRaise (← j.lookup effect) e
      f entry) := by
  simp [he, hf]

theorem unlimited_committedRecord {r : CoordinationJournalRecord} (h : r.LegalHistory)
    (request : SignedEffectCommitRequest) (acceptance : Option DurableCommitAcceptance)
    (time : Time) : Unlimited (committedRecord r request acceptance time) := by
  simp only [committedRecord, raises_bind]
  refine ⟨unlimited_validating_raising _, fun _ _ => ?_⟩
  split
  · simp
  · exact unlimited_transition (h.appendAttempt _) _ _ _ _

theorem unlimited_issueAcceptanceFor (issue : Option CommitAcceptanceIssuer)
    (request : SignedEffectCommitRequest) (time : Time) :
    Unlimited (issueAcceptanceFor issue request time) := by
  unfold issueAcceptanceFor
  split <;> simp [validateAcceptance]

theorem unlimited_beginCommitRecord (j : Journal role) (request : SignedEffectCommitRequest)
    (issue : Option CommitAcceptanceIssuer) (recordedAt : Option RecordedAt) (now : Time) :
    Unlimited (j.beginCommitRecord request issue recordedAt now) := by
  refine unlimited_entry rfl fun entry => ?_
  dsimp only
  split
  · simp
  · simp [requireAttemptCapacity, terminalImmutable, unlimited_issueAcceptanceFor,
      unlimited_committedRecord entry.history.legalHistory]

theorem unlimited_acceptCommit {r : CoordinationJournalRecord} (h : r.LegalHistory)
    (acceptance : DurableCommitAcceptance) (time : Time) :
    Unlimited (acceptCommit r acceptance time) := by
  unfold acceptCommit
  split
  · exact unlimited_transition h _ _ _ _
  · simp

theorem unlimited_bindOutcomeAcceptance {r : CoordinationJournalRecord} (h : r.LegalHistory)
    (outcome : SignedEffectOutcome) (time : Time) :
    Unlimited (bindOutcomeAcceptance r outcome time) := by
  have hretained (attempt : EffectCommitAttempt) (acceptance : DurableCommitAcceptance) :
      (retainAcceptance r attempt acceptance time).LegalHistory := by
    unfold retainAcceptance
    split
    · exact h.replaceAttempt _
    · exact h
  unfold bindOutcomeAcceptance
  split
  · simp
  · simp [validateAcceptance, unlimited_acceptCommit (hretained _ _)]

omit [Primitives] in
theorem unlimited_becomeUnknown {r : CoordinationJournalRecord} (h : r.LegalHistory)
    (evidence : Sha256) (reason : String) (time : Time) {otherwise : PyError}
    (hotherwise : otherwise.namesTransitionLimit = false) :
    Unlimited (becomeUnknown r evidence reason time otherwise) := by
  unfold becomeUnknown
  split
  · exact unlimited_transition h _ _ _ _
  · simp [hotherwise]

theorem unlimited_settle {r : CoordinationJournalRecord} (h : r.LegalHistory)
    (outcome : SignedEffectOutcome) (reason : String) (time : Time) :
    Unlimited (settle r outcome reason time) := by
  unfold settle
  split
  · simp
  · exact unlimited_transition h _ _ _ _

theorem unlimited_markCommitUnknownRecord (j : Journal role)
    (request : SignedEffectCommitRequest) (reason : String) (evidence : Option Sha256)
    (recordedAt : Option RecordedAt) (now : Time) :
    Unlimited (j.markCommitUnknownRecord request reason evidence recordedAt now) := by
  refine unlimited_entry rfl fun entry => ?_
  simp only [raises_bind]
  refine ⟨by simp, fun attempt _ => ⟨by simp [terminalImmutable], fun _ _ => ?_⟩⟩
  split
  · simp
  · simp
  · simp only [raises_bind, unlimited_checkWhen, unlimited_validating_raising, raises_pure,
      true_and, implies_true, and_true]
    exact fun _ _ _ _ =>
      unlimited_becomeUnknown (entry.history.legalHistory.replaceAttempt _) _ _ _ rfl

theorem unlimited_validateOutcome (request : OutcomeRequest) (outcome : SignedEffectOutcome) :
    Unlimited (validateOutcome request outcome) := by
  simp [validateOutcome]

theorem unlimited_finishCommitRecord (j : Journal role) (request : SignedEffectCommitRequest)
    (outcome : SignedEffectOutcome) (recordedAt : Option RecordedAt) (now : Time) :
    Unlimited (j.finishCommitRecord request outcome recordedAt now) := by
  simp only [Journal.finishCommitRecord, raises_bind]
  refine ⟨unlimited_validateOutcome _ _, fun _ _ => ⟨by simp, fun found _ => ⟨by simp,
    fun entry _ => ⟨by simp, fun attempt _ => ?_⟩⟩⟩⟩
  split
  · simp
  · simp only [raises_bind]
    refine ⟨by simp [terminalImmutable], fun _ _ => ⟨by simp, fun time _ =>
      ⟨unlimited_bindOutcomeAcceptance entry.history.legalHistory _ _, fun bound hbound => ?_⟩⟩⟩
    have hlegal := (extends_bindOutcomeAcceptance Changes.any entry.history.numbered
      hbound).1.legal entry.history.legalHistory
    simp [unlimited_settle (hlegal.replaceAttempt _)]

omit [Primitives] in
theorem unlimited_requireQueryable (r : CoordinationJournalRecord) (allowTerminal : Bool) :
    Unlimited (requireQueryable role r allowTerminal) := by
  simp [requireQueryable, terminalImmutable]

theorem unlimited_beginQueryRecord (j : Journal role) (request : SignedEffectQueryRequest)
    (recordedAt : Option RecordedAt) (now : Time) (allowTerminal : Bool) :
    Unlimited (j.beginQueryRecord request recordedAt now allowTerminal) := by
  refine unlimited_entry rfl fun entry => ?_
  dsimp only
  split
  · simp
  · simp [unlimited_requireQueryable, requireAttemptCapacity]

theorem unlimited_completeRetainedQuery (entry : JournalEntry role)
    (attempt : EffectQueryAttempt) (outcome : SignedEffectOutcome) (time : Time) :
    Unlimited (completeRetainedQuery entry attempt outcome time) := by
  unfold completeRetainedQuery
  split
  · simp
  · simp
  · simp only [raises_bind]
    refine ⟨by simp [terminalImmutable], fun _ _ =>
      ⟨unlimited_bindOutcomeAcceptance entry.history.legalHistory _ _, fun bound hbound => ?_⟩⟩
    have hlegal := (extends_bindOutcomeAcceptance Changes.any entry.history.numbered
      hbound).1.legal entry.history.legalHistory
    simp only [raises_refuseIf, unlimited_validating_raising, raises_pure, true_and,
      PyError.namesTransitionLimit_illegal, implies_true, and_true]
    intro _ _
    unfold settleQuery
    split
    · simp
    · exact fun _ _ => unlimited_settle (hlegal.replaceAttempt _) _ _ _

theorem unlimited_failQueryRecord (j : Journal role) (request : SignedEffectQueryRequest)
    (reason : String) (evidence : Option Sha256) (recordedAt : Option RecordedAt) (now : Time) :
    Unlimited (j.failQueryRecord request reason evidence recordedAt now) := by
  refine unlimited_entry rfl fun entry => ?_
  simp only [raises_bind]
  refine ⟨by simp, fun attempt _ => ⟨by simp [terminalImmutable], fun _ _ => ?_⟩⟩
  split
  · simp
  · simp
  · simp only [raises_bind, unlimited_checkWhen, unlimited_validating_raising, raises_pure,
      true_and, implies_true, and_true]
    exact fun _ _ _ _ =>
      unlimited_becomeUnknown (entry.history.legalHistory.replaceAttempt _) _ _ _ rfl

theorem unlimited_createRecord (request : SignedEffectPrepareRequest)
    (receipt : Option CoordinationReceipt) (time : Time) :
    Unlimited (createRecord request receipt time) := by
  simp [createRecord]

theorem unlimited_appendPreparation (r : CoordinationJournalRecord)
    (request : SignedEffectPrepareRequest) (receipt : Option CoordinationReceipt) (time : Time) :
    Unlimited (appendPreparation r request receipt time) := by
  simp [appendPreparation]

theorem unlimited_retainReceipt {r : CoordinationJournalRecord} (h : r.LegalHistory)
    (attempt : EffectPrepareAttempt) (receipt : CoordinationReceipt) (time : Time) :
    Unlimited (retainReceipt r attempt receipt time) := by
  simp only [retainReceipt, raises_bind]
  refine ⟨unlimited_validating_raising _, fun _ _ => ?_⟩
  split
  · exact unlimited_transition (h.replaceAttempt _) _ _ _ _
  · simp

theorem unlimited_begin (j : Journal .gateway) (request : SignedEffectPrepareRequest)
    (recordedAt : Option RecordedAt) (now : Time) :
    Unlimited (j.begin request recordedAt now) := by
  simp only [Journal.begin, raises_bind, unlimited_lookup, true_and]
  intro found _
  split
  · split
    · simp
    · simp [requireAttemptCapacity, terminalImmutable, unlimited_appendPreparation]
  · simp [entriesAtCapacity, unlimited_createRecord]

theorem unlimited_retainPreparation (j : Journal .gateway) (request : SignedEffectPrepareRequest)
    (receipt : CoordinationReceipt) (recordedAt : Option RecordedAt) (now : Time) :
    Unlimited (j.retainPreparation request receipt recordedAt now) := by
  simp only [Journal.retainPreparation, raises_bind]
  refine ⟨by simp [validateReceipt], fun _ _ => ⟨by simp, fun found _ => ⟨by simp,
    fun entry _ => ⟨by simp, fun attempt _ => ?_⟩⟩⟩⟩
  split
  · simp
  · simp [terminalImmutable, unlimited_retainReceipt entry.history.legalHistory]

theorem unlimited_closeNotDispatched (j : Journal .gateway) (effect : EffectIdentity)
    (reason : String) (evidence : Option Sha256) (recordedAt : Option RecordedAt) (now : Time) :
    Unlimited (j.closeNotDispatched effect reason evidence recordedAt now) := by
  refine unlimited_entry rfl fun entry => ?_
  split
  · simp [terminalImmutable]
  · simp [unlimited_transition entry.history.legalHistory]

theorem unlimited_prepareEffect (j : Journal .effectCoordinator)
    (request : SignedEffectPrepareRequest) (issue : ReceiptIssuer)
    (recordedAt : Option RecordedAt) (now : Time) :
    Unlimited (j.prepareEffect request issue recordedAt now) := by
  have hpreparable (entry : Option (JournalEntry .effectCoordinator)) :
      Unlimited (j.requirePreparable entry) := by
    unfold Journal.requirePreparable
    split <;> simp [terminalImmutable, requireAttemptCapacity, entriesAtCapacity]
  have hprepared (entry : Option (JournalEntry .effectCoordinator))
      (existing : Option EffectPrepareAttempt) (receipt : CoordinationReceipt) (time : Time) :
      Unlimited (Journal.preparedRecord entry existing request receipt time) := by
    unfold Journal.preparedRecord
    split
    · exact unlimited_createRecord _ _ _
    · exact unlimited_retainReceipt (JournalEntry.history _).legalHistory _ _ _
    · exact unlimited_appendPreparation _ _ _ _
  simp only [Journal.prepareEffect, raises_bind, unlimited_lookup, true_and]
  intro found _
  split
  · simp
  · simp [hpreparable, hprepared, validateReceipt]

/-! ### Stores and operations -/

theorem legalHistory_newRecord (request : SignedEffectPrepareRequest)
    (receipt : Option CoordinationReceipt) (time : Time) :
    (newRecord request receipt time).LegalHistory := by
  have hsequence (i : Nat) (t : CoordinationTransition)
      (ht : (newRecord request receipt time).transitions[i]? = some t) : t.sequence = i + 1 := by
    match i with
    | 0 => exact (Option.some.inj ht) ▸ rfl
    | i + 1 =>
      have hmem : (receipt.map (fun receipt => armedTransition receipt time)).toList[i]? =
        some t := ht
      cases receipt with
      | none => cases hmem
      | some receipt =>
        match i with
        | 0 => exact (Option.some.inj hmem) ▸ rfl
        | i + 1 => cases hmem
  refine ⟨?_, rfl, hsequence⟩
  cases receipt with
  | none => exact List.isChain_singleton _
  | some receipt => exact List.isChain_pair.mpr rfl

theorem Journal.Update.legalHistory {changes : Changes} {j : Journal role}
    {record : CoordinationJournalRecord} (h : j.Update changes record) : record.LegalHistory := by
  cases h with
  | create request receipt time _ => exact legalHistory_newRecord request receipt time
  | extend entry _ _ hext => exact hext.legal entry.history.legalHistory

variable [RecordCodec]

theorem unlimited_persist (j : Journal role) (records : RecordMap role) (write : WriteResult) :
    Unlimited (j.persist records write).1 := by
  unfold Journal.persist
  split
  · simp
  · split <;> simp
  · split <;> simp

theorem unlimited_store (j : Journal role) {record : CoordinationJournalRecord}
    (h : record.LegalHistory) (write : WriteResult) : Unlimited (j.store record write).1 := by
  have hindexed (indexes : ActionIndexes) (records : List CoordinationJournalRecord) :
      Unlimited (scanActionIndexes indexes records) :=
    raises_scanActionIndexes (fun _ => rfl) (fun _ => rfl) indexes records
  have hvalidated : Unlimited (validatedRecord role record) := by
    refine raises_validatedRecord (fun _ => rfl) fun cause hcause => ?_
    rw [PyError.namesTransitionLimit_invalidRecord]
    rintro rfl
    exact validate_unlimited h hcause
  unfold Journal.store
  split
  · rename_i error hinvalid
    exact raises_error.mpr (hvalidated error hinvalid)
  · rename_i entry _
    dsimp only
    split
    · rename_i error hindexes
      exact raises_error.mpr (hindexed _ _ error hindexes)
    · have hpersist := unlimited_persist j
        (j.records.insert entry.record.effect.effectId entry) write
      split
      · rename_i error j' hresult
        rw [hresult] at hpersist
        exact raises_error.mpr (hpersist error rfl)
      · simp

theorem unlimited_carryOut {α : Type} {j : Journal role} {plan : Except PyError (Plan role α)}
    (hplan : Unlimited plan)
    (hstore : ∀ record k, plan = .ok (.store record k) → j.Update .any record)
    (write : WriteResult) : Unlimited (j.carryOut plan write).1 := by
  unfold Journal.carryOut
  split
  · exact raises_error.mpr (hplan _ rfl)
  · simp
  · rename_i record k
    have hstored := unlimited_store j (hstore record k rfl).legalHistory write
    split
    · rename_i error j' hresult
      rw [hresult] at hstored
      exact raises_error.mpr (hstored error rfl)
    · simp

omit [RecordCodec] in
theorem unlimited_assertWriter (j : Journal role) : Unlimited j.assertWriter := by
  simp [Journal.assertWriter]

theorem unlimited_guarded {α : Type} {j : Journal role} {plan : Except PyError (Plan role α)}
    (hplan : Unlimited plan)
    (hstore : ∀ record k, plan = .ok (.store record k) → j.Update .any record)
    (write : WriteResult) : Unlimited (j.carryOut (j.guarded plan) write).1 := by
  refine unlimited_carryOut ?_ (fun record k hplan => ?_) write
  · simp [Journal.guarded, unlimited_assertWriter, hplan]
  · simp only [Journal.guarded, bind_unit_eq_ok] at hplan
    exact hstore record k hplan.2

omit [RecordCodec] in
theorem unlimited_findQuery (j : Journal role) (request : SignedEffectQueryRequest)
    (outcome : SignedEffectOutcome) (recordedAt : Option RecordedAt) (now : Time) :
    Unlimited (j.findQuery request outcome recordedAt now) := by
  simp [Journal.findQuery, unlimited_validateOutcome]

theorem unlimited_completeQueryRecord (j : Journal role) (request : SignedEffectQueryRequest)
    (outcome : SignedEffectOutcome) (recordedAt : Option RecordedAt) (now : Time)
    (create : Bool) (writes : WriteResult × WriteResult) :
    Unlimited (j.completeQueryRecord request outcome recordedAt now create writes).1 := by
  unfold Journal.completeQueryRecord
  split
  · rename_i error hquery
    exact raises_error.mpr (unlimited_findQuery j request outcome recordedAt now error hquery)
  · rename_i entry time attempt hquery
    obtain ⟨hfound, hattempt⟩ := Journal.findQuery_found hquery
    exact unlimited_carryOut (unlimited_completeRetainedQuery _ _ _ _)
      (fun _ _ hplan => update_completeRetainedQuery trivial hfound hattempt hplan) _
  · rename_i time hquery
    split
    · have hfirst := unlimited_carryOut (j := j) (unlimited_beginQueryRecord j request
        (some (.aware time)) now true) (fun _ _ hplan => update_beginQueryRecord hplan) writes.1
      split
      · rename_i error j' hresult
        rw [hresult] at hfirst
        exact raises_error.mpr (hfirst error rfl)
      · rename_i entry attempt j' hresult
        obtain ⟨hfound, hattempt⟩ := Journal.beginQueryRecord_found (congrArg Prod.fst hresult)
        rw [hresult] at hfound
        exact unlimited_carryOut (unlimited_completeRetainedQuery _ _ _ _)
          (fun _ _ hplan => update_completeRetainedQuery trivial hfound hattempt hplan) _
    · simp

theorem unlimited_completeQuery (j : Journal role) (request : SignedEffectQueryRequest)
    (outcome : SignedEffectOutcome) (recordedAt : Option RecordedAt) (now : Time)
    (create : Bool) (writes : WriteResult × WriteResult) :
    Unlimited (j.completeQuery request outcome recordedAt now create writes).1 := by
  unfold Journal.completeQuery
  split
  · rename_i error hwriter
    exact raises_error.mpr (unlimited_assertWriter j error hwriter)
  · exact unlimited_completeQueryRecord j request outcome recordedAt now create writes

/-- No gateway operation raises because of the transition limit. -/
theorem GatewayOp.run_unlimited (op : GatewayOp) (j : Journal .gateway) (env : OpEnv) :
    Unlimited (op.run j env).1 := by
  cases op with
  | begin request recordedAt =>
    exact unlimited_guarded (unlimited_begin j _ _ _) (fun _ _ h => update_begin trivial h) _
  | retainPreparation request receipt recordedAt =>
    exact unlimited_guarded (unlimited_retainPreparation j _ _ _ _)
      (fun _ _ h => update_retainPreparation h) _
  | beginCommit request recordedAt =>
    exact raises_map (unlimited_guarded (unlimited_beginCommitRecord j _ _ _ _)
      (fun _ _ h => update_beginCommitRecord h) _) _
  | markCommitUnknown request reason evidence recordedAt =>
    exact unlimited_guarded (unlimited_markCommitUnknownRecord j _ _ _ _ _)
      (fun _ _ h => update_markCommitUnknownRecord h) _
  | retainCommitOutcome request outcome recordedAt =>
    exact unlimited_guarded (unlimited_finishCommitRecord j _ _ _ _)
      (fun _ _ h => update_finishCommitRecord trivial h) _
  | beginQuery request recordedAt =>
    exact raises_map (unlimited_guarded (unlimited_beginQueryRecord j _ _ _ _)
      (fun _ _ h => update_beginQueryRecord h) _) _
  | completeQuery request outcome recordedAt => exact unlimited_completeQuery j _ _ _ _ _ _
  | failQuery request reason evidence recordedAt =>
    exact unlimited_guarded (unlimited_failQueryRecord j _ _ _ _ _)
      (fun _ _ h => update_failQueryRecord h) _
  | closeNotDispatched effect reason evidence recordedAt =>
    exact unlimited_guarded (unlimited_closeNotDispatched j _ _ _ _ _)
      (fun _ _ h => update_closeNotDispatched (fun _ _ _ => trivial) h) _

theorem unlimited_answerQuery (j : Journal .effectCoordinator)
    (request : SignedEffectQueryRequest) (issue : OutcomeIssuer)
    (recordedAt : Option RecordedAt) (now : Time) (writes : WriteResult × WriteResult) :
    Unlimited (j.answerQuery request issue recordedAt now writes).1 := by
  have hissue : Unlimited (j.issueAnswer request issue recordedAt now) := by
    simp only [Journal.issueAnswer, raises_bind, unlimited_assertWriter, unlimited_lookup,
      true_and]
    refine fun _ _ found _ => ⟨by simp, fun entry _ => ?_⟩
    split <;> simp
  unfold Journal.answerQuery
  split
  · rename_i error hanswer
    exact raises_error.mpr (hissue error hanswer)
  · simp
  · exact raises_map (unlimited_completeQueryRecord j _ _ _ _ _ _) _

omit [RecordCodec] in
theorem unlimited_commitAdmission (request : SignedEffectCommitRequest)
    (result : JournalEntry .effectCoordinator × Bool) :
    Unlimited (commitAdmission request result) := by
  simp [commitAdmission]

/-- Nor does an effect-coordinator operation. -/
theorem EffectOp.run_unlimited (op : EffectOp) (j : Journal .effectCoordinator) (env : OpEnv) :
    Unlimited (op.run j env).1 := by
  cases op with
  | prepareEffect request issue recordedAt =>
    exact raises_map (unlimited_guarded (unlimited_prepareEffect j _ _ _ _)
      (fun _ _ h => update_prepareEffect trivial h) _) _
  | beginCommit request issue recordedAt =>
    exact raises_map (raises_bind.mpr ⟨unlimited_guarded
      (unlimited_beginCommitRecord j _ _ _ _) (fun _ _ h => update_beginCommitRecord h) _,
      fun _ _ => unlimited_commitAdmission _ _⟩) _
  | finishCommit request outcome recordedAt =>
    exact raises_map (unlimited_guarded (unlimited_finishCommitRecord j _ _ _ _)
      (fun _ _ h => update_finishCommitRecord trivial h) _) _
  | markCommitUnknown request reason evidence recordedAt =>
    exact raises_map (unlimited_guarded (unlimited_markCommitUnknownRecord j _ _ _ _ _)
      (fun _ _ h => update_markCommitUnknownRecord h) _) _
  | retainQueryOutcome request outcome recordedAt =>
    exact raises_map (unlimited_completeQuery j _ _ _ _ _ _) _
  | answerQuery request issue recordedAt =>
    exact raises_map (unlimited_answerQuery j _ _ _ _ _) _

theorem JournalOp.run_unlimited (op : JournalOp role) (j : Journal role) (env : OpEnv) :
    Unlimited (op.run j env).1 := by
  cases op with
  | gateway op => exact raises_map (op.run_unlimited j env) _
  | effect op => exact raises_map (op.run_unlimited j env) _

end Operations

/-! ## The invariant -/

section Invariant

variable [Primitives]

/-- What holds of every record of a journal. -/
structure CoordinationJournalRecord.Invariant (r : CoordinationJournalRecord) : Prop where
  transitionSequence :
    r.transitions.map (fun t => t.sequence) = List.range' 1 r.transitions.length
  attemptSequence : r.attempts.map (fun a => a.base.sequence) = List.range' 1 r.attempts.length
  path : LegalPath (r.transitions.map (fun t => t.state))
  received : (r.transitions.map (fun t => t.state)).head? = some .received
  oneCommit : r.attempts.countP CoordinationAttempt.isCommit ≤ 1
  commitAccepted : ∀ (i : Nat) t, r.transitions[i]? = some t → t.state = .commitAccepted →
    i = 2 ∧ ∃ acceptance, r.latestAcceptance = some acceptance ∧
      t.evidenceSha256 = some acceptance.digest
  dispatched : r.state.dispatchedTerminal = true →
    (∃ a ∈ r.attempts, ∃ o ∈ a.outcome, o.disposition.state = r.state ∧
      r.latestEvidenceSha256 = some o.digest) ∧
    ∀ a ∈ r.attempts, ∀ o ∈ a.outcome, o.disposition.state.terminal = true →
      o.disposition.state = r.state
  fiveTransitions : r.transitions.length ≤ 5

omit [Primitives] in
theorem map_eq_range' {α : Type} {f : α → Nat} {l : List α}
    (h : ∀ (i : Nat) a, l[i]? = some a → f a = i + 1) : l.map f = List.range' 1 l.length := by
  refine List.ext_getElem (by simp) fun i hi _ => ?_
  rw [List.length_map] at hi
  rw [List.getElem_map, List.getElem_range', h i _ (List.getElem?_eq_getElem hi)]
  omega

omit [Primitives] in
theorem EffectDisposition.state_eq_of_forState {d : EffectDisposition} {s : CoordinationState}
    (h : some d = EffectDisposition.forState s) : d.state = s := by
  cases s <;> simp [EffectDisposition.forState] at h <;> subst h <;> rfl

namespace CoordinationJournalRecord.ValidHistory

variable {r : CoordinationJournalRecord}

/-- The acceptance names the one COMMIT_ACCEPTED transition, the third. -/
theorem commitAccepted (h : r.ValidHistory) {i : Nat} {t : CoordinationTransition}
    (ht : r.transitions[i]? = some t) (hstate : t.state = .commitAccepted) :
    i = 2 ∧ ∃ acceptance, r.latestAcceptance = some acceptance ∧
      t.evidenceSha256 = some acceptance.digest := by
  have hindex {k : Nat} {s : CoordinationTransition} (hs : r.transitions[k]? = some s)
      (hstate : s.state = .commitAccepted) : k = 2 :=
    h.legalPath.index_commitAccepted h.head_received (by simp [hs, hstate])
  have hpost : r.hasPostCommitTransition = true :=
    List.any_eq_true.mpr ⟨t, List.mem_of_getElem? ht, by rw [hstate]; rfl⟩
  obtain ⟨acceptance, hacceptance⟩ :=
    Option.ne_none_iff_exists'.mp (h.outcomes.acceptance hpost)
  obtain ⟨s, hs, hsstate, hevidence, -⟩ := h.outcomes.acceptanceBinds acceptance hacceptance
  rw [hindex hs hsstate, Option.mem_def, ← hindex ht hstate, ht, Option.some.injEq] at hs
  exact ⟨hindex ht hstate, acceptance, hacceptance, hs ▸ hevidence⟩

/-- An APPLIED or REJECTED record retains no terminal outcome of another disposition. -/
theorem dispatched (h : r.ValidHistory) (hstate : r.state.dispatchedTerminal = true) :
    (∃ a ∈ r.attempts, ∃ o ∈ a.outcome, o.disposition.state = r.state ∧
      r.latestEvidenceSha256 = some o.digest) ∧
    ∀ a ∈ r.attempts, ∀ o ∈ a.outcome, o.disposition.state.terminal = true →
      o.disposition.state = r.state := by
  obtain ⟨a, ha, o, ho, hdisposition, hevidence⟩ := h.exists_terminal_outcome hstate
  refine ⟨⟨a, ha, o, ho, EffectDisposition.state_eq_of_forState hdisposition, hevidence⟩, ?_⟩
  intro b hb o' ho' hterminal
  cases hd : o'.disposition with
  | applied =>
    have := (h.terminal_outcome_state hb ho' (by rw [hd]; rfl)).2
    exact EffectDisposition.state_eq_of_forState (hd ▸ this)
  | rejected =>
    have := (h.terminal_outcome_state hb ho' (by rw [hd]; rfl)).2
    exact EffectDisposition.state_eq_of_forState (hd ▸ this)
  | unknownEffect =>
    rw [hd] at hterminal
    cases hterminal
  | notDispatched =>
    cases b with
    | prepare b => cases ho'
    | query b =>
      rw [(h.notDispatched_of_query hb ho' hd).1] at hstate
      cases hstate
    | commit b =>
      exact absurd hd (CoordinationAttempt.commit_outcome_dispatched (h.attemptsValid _ hb) ho')

theorem invariant (h : r.ValidHistory) : r.Invariant :=
  { transitionSequence := map_eq_range' h.transitionSequence
    attemptSequence := map_eq_range' fun _ _ ha => h.attempt_sequence ha
    path := h.legalPath
    received := h.head_received
    oneCommit := h.outcomes.oneCommit
    commitAccepted := fun _ _ ht hstate => h.commitAccepted ht hstate
    dispatched := h.dispatched
    fiveTransitions := h.transitions_length_le_five }

end CoordinationJournalRecord.ValidHistory

variable [RecordCodec] {role : JournalRole}

/-- Every record of a reachable journal satisfies the invariant, and no operation on it is
    refused because of `MAX_TRANSITIONS_PER_EFFECT`. -/
theorem Journal.Reachable.record_invariant {j : Journal role} (_ : j.Reachable) :
    (∀ k e, j.records.find? k = some e → e.record.Invariant) ∧
    ∀ (op : JournalOp role) (env : OpEnv) (error : PyError),
      (op.run j env).1 = .error error → error.namesTransitionLimit = false :=
  ⟨fun _ e _ => e.history.invariant, fun op env => op.run_unlimited j env⟩

end Invariant

set_option maxRecDepth 10000 in
open Sample in
theorem record_invariant_prepared :
    (gatewayJournal.runOps preparing).Reachable ∧
    ∃ e, (gatewayJournal.runOps preparing).records.find? samplePrepare.effect.effectId = some e ∧
      e.record.state = .dispatchArmed ∧ e.record.Invariant := by
  obtain ⟨e, hfound, hstate⟩ := (gatewayJournal.runOps preparing).exists_entry
    samplePrepare.effect.effectId (fun e => decide (e.record.state = .dispatchArmed))
    (by decide +kernel)
  have hreachable := reachable_runOps preparing
  exact ⟨hreachable, e, hfound, of_decide_eq_true hstate, hreachable.record_invariant.1 _ e hfound⟩

section Terminal

variable [Primitives] [RecordCodec] {role : JournalRole}

/-- Once a record is terminal, no run changes its state, its transitions or an outcome it
    retains; only an attempt without an outcome can still receive one, and every outcome that
    is new has the disposition of the state. -/
theorem JournalRun.terminal_record_immutable {j j' : Journal role} (hreachable : j.Reachable)
    (hrun : JournalRun j j') {k : EffectId} {e : JournalEntry role}
    (hfound : j.records.find? k = some e) (hterminal : e.record.state.terminal = true) :
    ∃ e', j'.records.find? k = some e' ∧ e'.record.state = e.record.state ∧
      e'.record.transitions = e.record.transitions ∧
      (∀ (i : Nat) a o, e.record.attempts[i]? = some a → a.outcome = some o →
        ∃ b, e'.record.attempts[i]? = some b ∧ b.request = a.request ∧ b.outcome = some o) ∧
      ∀ (i : Nat) b o, e'.record.attempts[i]? = some b → b.outcome = some o →
        (∃ a, e.record.attempts[i]? = some a ∧ a.outcome = some o) ∨
        o.disposition.state = e.record.state := by
  obtain ⟨e', hfound', hext⟩ := (hrun.stepped hreachable.consistent).records.kept k e hfound
  refine ⟨e', hfound', hext.state_eq hterminal, hext.terminal hterminal, ?_, ?_⟩
  · intro i a o ha ho
    obtain ⟨b, hb, hab⟩ := hext.attempts i a ha
    exact ⟨b, hb, hab.request, hab.outcome o ho⟩
  · intro i b o hb ho
    exact (hext.newOutcome i b o hb ho).imp id fun hnew => hnew.2 hterminal

end Terminal

set_option maxRecDepth 10000 in
open Sample in
theorem terminal_record_immutable_closed :
    ∃ e e', (gatewayJournal.runOps closing).records.find? samplePrepare.effect.effectId = some e ∧
      e.record.state = .notDispatched ∧
      ((gatewayJournal.runOps closing).restart.runOps preparing).records.find?
        samplePrepare.effect.effectId = some e' ∧
      e'.record.transitions = e.record.transitions := by
  obtain ⟨e, hfound, hstate⟩ := (gatewayJournal.runOps closing).exists_entry
    samplePrepare.effect.effectId (fun e => decide (e.record.state = .notDispatched))
    (by decide +kernel)
  have hstate := of_decide_eq_true hstate
  have hrun : JournalRun (gatewayJournal.runOps closing)
      ((gatewayJournal.runOps closing).restart.runOps preparing) :=
    .head (.restart _) (JournalRun.runOps _ _)
  obtain ⟨e', hfound', -, htransitions, -⟩ := hrun.terminal_record_immutable
    (reachable_runOps closing) hfound (by rw [hstate]; rfl)
  exact ⟨e, e', hfound, hstate, hfound', htransitions⟩

end AegisOt
