import AegisOt.Coordination.Proofs.AnswerHistory
import AegisOt.Coordination.Proofs.Steps

/-!
# Errors leave a journal unchanged, except for one

An operation that raises anything but the uncertain-update failure leaves the records and the
file as they were, with one exception. `retain_query_outcome` and `answer_query` store a
request-only query attempt before they look at the outcome, so an outcome that is refused
afterwards leaves that attempt behind. `Journal.RefusesLate` says on which arguments and
states this happens, and `JournalOp.atomic_iff` that it happens on no others.
-/

namespace AegisOt

open CoordinationJournalRecord

section

variable [Primitives] {role : JournalRole}

/-! ## Action indexes of a rewritten record -/

/-- The records claim the same agent action for the same effect. -/
def SameAction (r r' : CoordinationJournalRecord) : Prop :=
  r'.effect = r.effect ∧ actionMaterial r' = actionMaterial r

theorem scanActionMaterial_append (material : Option ActionMaterial)
    (attempts : List CoordinationAttempt) {a : CoordinationAttempt} (ha : a.isPrepare = false) :
    scanActionMaterial material (attempts ++ [a]) = scanActionMaterial material attempts := by
  induction attempts generalizing material with
  | nil =>
    cases a with
    | prepare a => cases ha
    | commit a => rfl
    | query a => rfl
  | cons b rest ih => cases b <;> simp [scanActionMaterial, ih]

/-- An attempt at the end that prepares nothing does not touch the action. -/
theorem sameAction_of_append {r r' : CoordinationJournalRecord} {a : CoordinationAttempt}
    (ha : a.isPrepare = false) (heffect : r'.effect = r.effect)
    (hattempts : r'.attempts = r.attempts ++ [a]) : SameAction r r' := by
  refine ⟨heffect, ?_⟩
  rw [actionMaterial, hattempts, scanActionMaterial_append _ _ ha, heffect]
  rfl

/-- A query attempt at the end does not touch the action. -/
theorem sameAction_of_query {r r' : CoordinationJournalRecord} {a : EffectQueryAttempt}
    (heffect : r'.effect = r.effect) (hattempts : r'.attempts = r.attempts ++ [.query a]) :
    SameAction r r' :=
  sameAction_of_append rfl heffect hattempts

/-- Indexes that agree on the effects they name. -/
def IndexesAgree (x y : ActionIndexes) : Prop :=
  (∀ key, (lookupEntry key x.byRequest).map (fun r => r.effect) =
    (lookupEntry key y.byRequest).map (fun r => r.effect)) ∧
  ∀ key, (lookupEntry key x.byActorNonce).map (fun r => r.effect) =
    (lookupEntry key y.byActorNonce).map (fun r => r.effect)

omit [Primitives] in
theorem exists_mem_iff_of_map_eq {α β : Type} {f : α → β} {x y : Option α} {p : β → Prop}
    (h : x.map f = y.map f) : (∃ a ∈ x, p (f a)) ↔ ∃ a ∈ y, p (f a) := by
  cases x <;> cases y <;> simp_all

omit [Primitives] in
theorem lookup_cons_agree {κ : Type} [DecidableEq κ]
    {x y : List (κ × CoordinationJournalRecord)} {k : κ} {r r' : CoordinationJournalRecord}
    (heffect : r'.effect = r.effect)
    (h : ∀ key, (lookupEntry key x).map (fun r => r.effect) =
      (lookupEntry key y).map (fun r => r.effect)) (key : κ) :
    (lookupEntry key ((k, r) :: x)).map (fun r => r.effect) =
      (lookupEntry key ((k, r') :: y)).map (fun r => r.effect) := by
  simp only [lookupEntry]
  split
  · simp [heffect]
  · exact h key

/-- The index loop succeeds on rewritten records where it succeeded before. -/
theorem scanActionIndexes_congr {records records' : List CoordinationJournalRecord}
    (h : List.Forall₂ SameAction records records') {x y : ActionIndexes} (hagree : IndexesAgree x y)
    (hok : ∃ out, scanActionIndexes x records = .ok out) :
    ∃ out, scanActionIndexes y records' = .ok out := by
  induction h generalizing x y with
  | nil => exact ⟨y, rfl⟩
  | @cons r r' rest rest' hsame _ ih =>
    obtain ⟨out, hok⟩ := hok
    simp only [scanActionIndexes, bind_eq_ok] at hok
    obtain ⟨material, hmaterial, ⟨⟩, hrequest, ⟨⟩, hreplay, hrest⟩ := hok
    rw [refuseIf_eq_ok] at hrequest hreplay
    have hnext : IndexesAgree
        ⟨(material.requestSha256, r) :: x.byRequest,
          ((material.actorId, material.proposalNonce), r) :: x.byActorNonce⟩
        ⟨(material.requestSha256, r') :: y.byRequest,
          ((material.actorId, material.proposalNonce), r') :: y.byActorNonce⟩ :=
      ⟨lookup_cons_agree hsame.1 hagree.1, lookup_cons_agree hsame.1 hagree.2⟩
    obtain ⟨out', hout'⟩ := ih hnext ⟨out, hrest⟩
    refine ⟨out', ?_⟩
    simp only [scanActionIndexes, bind_eq_ok]
    refine ⟨material, hsame.2.trans hmaterial, (), refuseIf_neg ?_, (), refuseIf_neg ?_, hout'⟩
    · rw [hsame.1]
      exact fun hex => hrequest ((exists_mem_iff_of_map_eq (p := fun e => e ≠ r.effect)
        (hagree.1 _)).mpr hex)
    · rw [hsame.1]
      exact fun hex => hreplay ((exists_mem_iff_of_map_eq
        (p := fun e => e ≠ r.effect ∨ e.requestSha256 ≠ material.requestSha256)
        (hagree.2 _)).mpr hex)

/-- Overwriting an entry by one with the same action keeps the indexes consistent. -/
theorem actionIndexes_insert {m : RecordMap role} {k : EffectId} {old new : JournalEntry role}
    (hfound : m.find? k = some old) (hsame : SameAction old.record new.record)
    (hok : ∃ indexes, actionIndexes m = .ok indexes) :
    ∃ indexes, actionIndexes (m.insert k new) = .ok indexes := by
  refine scanActionIndexes_congr ?_ ⟨fun _ => rfl, fun _ => rfl⟩ hok
  refine List.forall₂_map_left_iff.mpr (List.forall₂_map_right_iff.mpr ?_)
  exact SortedMap.forall₂_values_insert (R := fun a b => SameAction a.record b.record)
    (fun _ => ⟨rfl, rfl⟩) hfound hsame

/-! ## Atomic results -/

variable [RecordCodec]

/-- The result raised nothing but the uncertain-update failure, or the journal is unchanged. -/
def Journal.Atomic {α : Type} (j : Journal role) (result : Except PyError α × Journal role) :
    Prop :=
  ∀ error, result.1 = .error error → error ≠ .uncertainUpdate →
    result.2.records = j.records ∧ result.2.fileBytes = j.fileBytes

theorem Journal.atomic_self {α : Type} (j : Journal role) (x : Except PyError α) :
    j.Atomic (x, j) :=
  fun _ _ _ => ⟨rfl, rfl⟩

theorem Journal.atomic_map {α β : Type} {j : Journal role}
    {result : Except PyError α × Journal role} (f : α → β) :
    j.Atomic (result.1.map f, result.2) ↔ j.Atomic result := by
  obtain ⟨x, j'⟩ := result
  cases x with
  | ok a => simp [Journal.Atomic, Except.map]
  | error e => simp [Journal.Atomic, Except.map]

theorem Journal.atomic_store (j : Journal role) (record : CoordinationJournalRecord)
    (write : WriteResult) : j.Atomic (j.store record write) := by
  have hcases := j.store_cases record write
  generalize j.store record write = result at hcases
  cases hcases with
  | refused _ error _ => exact j.atomic_self _
  | uncertain entry hentry replaced hwritable =>
    exact fun error herror huncertain => absurd (Except.error.inj herror).symm huncertain
  | stored entry hentry hwritable => exact fun error herror => by cases herror

/-- A plan is stored at most once, so it is atomic. -/
theorem Journal.atomic_carryOut {α : Type} (j : Journal role)
    (plan : Except PyError (Plan role α)) (write : WriteResult) :
    j.Atomic (j.carryOut plan write) := by
  unfold Journal.carryOut
  split
  · exact j.atomic_self _
  · exact j.atomic_self _
  · rename_i record k
    have hstore := j.atomic_store record write
    split
    · rename_i error j' hresult
      rw [hresult] at hstore
      exact fun e he => hstore e (congrArg Except.error (Except.error.inj he))
    · exact fun error herror => by cases herror

/-- A stored record is in the file of a usable journal. -/
theorem Journal.store_written {j : Journal role} {entry : JournalEntry role}
    (hwritable : j.Writable (j.records.insert entry.record.effect.effectId entry)) :
    j.store entry.record .written = (.ok entry, { j with
      records := j.records.insert entry.record.effect.effectId entry
      file := j.records.insert entry.record.effect.effectId entry }) := by
  obtain ⟨⟨indexes, hindexes⟩, hfits⟩ := hwritable
  have hvalidated : validatedRecord role entry.record = .ok entry := validatedRecord_eq_ok.mpr rfl
  simp [Journal.store, hvalidated, hindexes, Journal.persist, hfits]

theorem Journal.store_failed {j : Journal role} {entry : JournalEntry role} (replaced : Bool)
    (hwritable : j.Writable (j.records.insert entry.record.effect.effectId entry)) :
    (j.store entry.record (.failed replaced)).1 = .error .uncertainUpdate := by
  obtain ⟨⟨indexes, hindexes⟩, hfits⟩ := hwritable
  have hvalidated : validatedRecord role entry.record = .ok entry := validatedRecord_eq_ok.mpr rfl
  simp [Journal.store, hvalidated, hindexes, Journal.persist, hfits]

theorem GatewayOp.atomic (op : GatewayOp) (j : Journal .gateway) (env : OpEnv) :
    j.Atomic (op.run j env) := by
  cases op with
  | beginCommit request recordedAt => exact (Journal.atomic_map _).mpr (j.atomic_carryOut _ _)
  | beginQuery request recordedAt => exact (Journal.atomic_map _).mpr (j.atomic_carryOut _ _)
  | completeQuery request outcome recordedAt =>
    simp only [GatewayOp.run, Journal.completeQuery, Journal.completeQueryRecord]
    split
    · exact j.atomic_self _
    · split
      · exact j.atomic_self _
      · exact j.atomic_carryOut _ _
      · exact j.atomic_self _
  | begin request recordedAt => exact j.atomic_carryOut _ _
  | retainPreparation request receipt recordedAt => exact j.atomic_carryOut _ _
  | markCommitUnknown request reason evidence recordedAt => exact j.atomic_carryOut _ _
  | retainCommitOutcome request outcome recordedAt => exact j.atomic_carryOut _ _
  | failQuery request reason evidence recordedAt => exact j.atomic_carryOut _ _
  | closeNotDispatched effect reason evidence recordedAt => exact j.atomic_carryOut _ _

/-! ## Commit admission -/

omit [RecordCodec] in
/-- A commit that was just admitted is reported as new. -/
theorem commitAdmission_created {r : CoordinationJournalRecord}
    {entry : JournalEntry .effectCoordinator} {request : SignedEffectCommitRequest}
    {acceptance : DurableCommitAcceptance} {time : Time}
    (h : committedRecord r request (some acceptance) time = .ok entry.record) :
    commitAdmission request (entry, true) =
      .ok ⟨.new, request, entry.record, acceptance, none⟩ := by
  simp only [committedRecord, bind_unit_eq_ok] at h
  obtain ⟨-, htransition⟩ := h
  have hstate := state_transition htransition
  have hmem : CoordinationAttempt.commit
      ⟨⟨r.attempts.length + 1, request.digest, .requestRetained, time, time⟩, request,
        some acceptance, none, none, none⟩ ∈ entry.record.attempts := by
    rw [attempts_transition htransition]
    simp [appendAttempt]
  have hlatest := entry.history.latestAcceptance_eq hmem
  have hfound := entry.history.commitAttempt_eq hmem
  have hterminal := entry.history.terminalOutcome_none (by rw [hstate]; rfl)
  simp [commitAdmission, hlatest, hterminal, CommitAdmission.requireConsistent, hfound, hstate]

omit [RecordCodec] in
theorem issueAcceptanceFor_some {issue : CommitAcceptanceIssuer}
    {request : SignedEffectCommitRequest} {time : Time}
    {acceptance : Option DurableCommitAcceptance}
    (h : issueAcceptanceFor (some issue) request time = .ok acceptance) :
    ∃ issued, acceptance = some issued := by
  simp only [issueAcceptanceFor, bind_eq_ok, pure_eq_ok, Except.ok.injEq] at h
  obtain ⟨issued, -, -, -, hissued⟩ := h
  exact ⟨issued, hissued.symm⟩

theorem Journal.atomic_beginCommit (j : Journal .effectCoordinator)
    (request : SignedEffectCommitRequest) (issue : CommitAcceptanceIssuer)
    (recordedAt : Option RecordedAt) (now : Time) (write : WriteResult) :
    j.Atomic (j.beginCommit request issue recordedAt now write) := by
  unfold Journal.beginCommit
  have hatomic := j.atomic_carryOut
    (j.guarded (j.beginCommitRecord request (some issue) recordedAt now)) write
  cases hresult : (j.carryOut
      (j.guarded (j.beginCommitRecord request (some issue) recordedAt now)) write).1 with
  | error error =>
    dsimp only
    rw [hresult, error_bind]
    exact fun e he => hatomic e (hresult.trans (congrArg Except.error (Except.error.inj he)))
  | ok result =>
    -- Either nothing was written, or the admission of the stored record cannot fail.
    have hbegun := Journal.commitBegun hresult
    dsimp only
    rw [hresult, ok_bind]
    cases hbegun with
    | retained entry hsame hfound hretained =>
      rw [hsame]
      exact j.atomic_self _
    | created old entry acceptance time htime hold heffect hfresh hstate hissued hrecord hfound =>
      obtain ⟨acceptance, rfl⟩ := issueAcceptanceFor_some hissued
      rw [commitAdmission_created hrecord]
      exact fun e he => by cases he

/-! ## Answering a query -/

/-- A computation that does not lose the journal. -/
abbrev Certain {α : Type} (x : Except PyError α) : Prop := Raises (fun e => e ≠ .uncertainUpdate) x

omit [Primitives] [RecordCodec] in
theorem certain_validating {α : Type} (x : Except ValidationError α) : Certain (validating x) := by
  cases x <;> simp [validating]

omit [Primitives] [RecordCodec] in
theorem certain_transition (r : CoordinationJournalRecord) (target : CoordinationState)
    (evidence : Option Sha256) (reason : String) (time : Time) :
    Certain (r.transition target evidence reason time) := by
  simp [CoordinationJournalRecord.transition, terminalImmutable, certain_validating]

omit [RecordCodec] in
theorem certain_bindOutcomeAcceptance (r : CoordinationJournalRecord)
    (outcome : SignedEffectOutcome) (time : Time) :
    Certain (bindOutcomeAcceptance r outcome time) := by
  have haccept (r : CoordinationJournalRecord) (acceptance : DurableCommitAcceptance) :
      Certain (acceptCommit r acceptance time) := by
    unfold acceptCommit
    split
    · exact certain_transition _ _ _ _ _
    · simp
  unfold bindOutcomeAcceptance
  split
  · simp
  · simp [validateAcceptance, haccept]

omit [RecordCodec] in
/-- Completing a query raises no uncertain-update failure before it stores. -/
theorem certain_completeRetainedQuery (entry : JournalEntry role) (attempt : EffectQueryAttempt)
    (outcome : SignedEffectOutcome) (time : Time) :
    Certain (completeRetainedQuery entry attempt outcome time) := by
  have hsettle (r : CoordinationJournalRecord) : Certain (settleQuery r outcome time) := by
    unfold settleQuery settle
    split
    · simp
    · split
      · simp
      · exact certain_transition _ _ _ _ _
  unfold completeRetainedQuery
  split <;> simp [terminalImmutable, certain_bindOutcomeAcceptance, certain_validating, hsettle]

section Answer

variable {j : Journal .effectCoordinator} {entry : JournalEntry .effectCoordinator}
  {request : SignedEffectQueryRequest} {outcome : SignedEffectOutcome} {time : Time}

/-- The request-only attempt of a new query is recorded. -/
structure Journal.AsksQuery (j : Journal .effectCoordinator)
    (entry : JournalEntry .effectCoordinator) (request : SignedEffectQueryRequest) (time : Time)
    (write : WriteResult) : Prop where
  queryable : requireQueryable .effectCoordinator entry.record true = .ok ()
  capacity : entry.record.attempts.length < maxAttemptsPerEffect
  fits : ∃ asked : JournalEntry .effectCoordinator,
    asked.record = entry.record.appendAttempt (.query (newQueryAttempt entry.record request time)) ∧
    ¬ j.atCapacity (j.records.insert entry.record.effect.effectId asked)
  written : write = .written

/-- Its answer can be retained: the record admits it, the document with it has room, and the
    second write is not refused. -/
structure Journal.KeepsAnswer (j : Journal .effectCoordinator)
    (entry : JournalEntry .effectCoordinator) (request : SignedEffectQueryRequest)
    (outcome : SignedEffectOutcome) (time : Time) (write : WriteResult) : Prop where
  admits : entry.record.AdmitsAnswer outcome time
  fits : ∀ done : JournalEntry .effectCoordinator,
    done.record = entry.record.answered request outcome time →
    ¬ j.atCapacity (j.records.insert entry.record.effect.effectId done)
  accepted : ∀ message, write ≠ .refused message

/-- A new query is recorded and its answer refused. -/
def Journal.RefusesLate (j : Journal .effectCoordinator) (request : SignedEffectQueryRequest)
    (outcome : SignedEffectOutcome) (time : Time) (writes : WriteResult × WriteResult) : Prop :=
  ∃ entry, j.records.find? request.effect.effectId = some entry ∧
    entry.record.effect = request.effect ∧ entry.record.queryAttempt request = none ∧
    validateOutcome (.query request) outcome = .ok () ∧
    (∀ receipt ∈ outcome.receipt, entry.record.retainsReceipt receipt = true) ∧
    j.AsksQuery entry request time writes.1 ∧
    ¬ j.KeepsAnswer entry request outcome time writes.2

omit [RecordCodec] in
/-- The checks before the search for the query attempt. -/
theorem Journal.findQuery_eq_ok {recordedAt : Option RecordedAt} {now : Time}
    {result : JournalEntry .effectCoordinator × Time × Option EffectQueryAttempt} :
    j.findQuery request outcome recordedAt now = .ok result ↔
      validateOutcome (.query request) outcome = .ok () ∧
      j.records.find? request.effect.effectId = some result.1 ∧
      result.1.record.effect = request.effect ∧
      (∀ receipt ∈ outcome.receipt, result.1.record.retainsReceipt receipt = true) ∧
      checkWhen recordedAt now = .ok result.2.1 ∧
      result.1.record.queryAttempt request = result.2.2 := by
  obtain ⟨entry, time, attempt⟩ := result
  simp only [Journal.findQuery, bind_eq_ok, orRaise_eq_ok, refuseIf_eq_ok, exists_const,
    pure_eq_ok, Except.ok.injEq, Prod.mk.injEq, not_exists, not_and, Bool.not_eq_false]
  constructor
  · rintro ⟨⟨⟩, hvalid, found, hlookup, old, rfl, hreceipt, when_, hwhen, rfl, rfl, hattempt⟩
    obtain ⟨hfound, heffect⟩ := Journal.lookup_eq_some.mp hlookup
    exact ⟨hvalid, hfound, heffect, hreceipt, hwhen, hattempt⟩
  · rintro ⟨hvalid, hfound, heffect, hreceipt, hwhen, hattempt⟩
    exact ⟨(), hvalid, some entry, Journal.lookup_eq_some.mpr ⟨hfound, heffect⟩, entry, rfl,
      hreceipt, time, hwhen, rfl, rfl, hattempt⟩

theorem Journal.store_eq_ok {record : CoordinationJournalRecord} {write : WriteResult}
    (h : (j.store record write).1 = .ok entry) :
    entry.record = record ∧ write = .written ∧
      j.Writable (j.records.insert entry.record.effect.effectId entry) := by
  have hcases := j.store_cases record write
  generalize j.store record write = result at hcases h
  cases hcases with
  | refused _ error _ => cases h
  | uncertain stored hentry replaced hwritable => cases h
  | stored stored hentry hwritable =>
    obtain rfl := Except.ok.inj h
    exact ⟨hentry, rfl, hwritable⟩

omit [RecordCodec] in
/-- The plan of a query that is not retained yet. -/
theorem Journal.beginQueryRecord_eq_ok (now : Time)
    {plan : Plan .effectCoordinator (JournalEntry .effectCoordinator × EffectQueryAttempt)}
    (hfound : j.records.find? request.effect.effectId = some entry)
    (heffect : entry.record.effect = request.effect)
    (hnew : entry.record.queryAttempt request = none) :
    j.beginQueryRecord request (some (.aware time)) now true = .ok plan ↔
      requireQueryable .effectCoordinator entry.record true = .ok () ∧
      entry.record.attempts.length < maxAttemptsPerEffect ∧
      (newQueryAttempt entry.record request time).requireExact = .ok () ∧
      plan = .store
        (entry.record.appendAttempt (.query (newQueryAttempt entry.record request time)))
        (fun stored => (stored, newQueryAttempt entry.record request time)) := by
  have hlookup := Journal.lookup_eq_some.mpr ⟨hfound, heffect⟩
  simp only [Journal.beginQueryRecord, hlookup, ok_bind, orRaise, hnew, bind_unit_eq_ok,
    requireAttemptCapacity, refuseIf_eq_ok, checkWhen, validating_eq_ok, raising_eq_ok, pure_eq_ok,
    Except.ok.injEq, not_le, eq_comm (a := plan)]

theorem Journal.asksQuery_of_ok {now : Time} {write : WriteResult}
    {result : JournalEntry .effectCoordinator × EffectQueryAttempt}
    (hfound : j.records.find? request.effect.effectId = some entry)
    (heffect : entry.record.effect = request.effect)
    (hnew : entry.record.queryAttempt request = none)
    (h : (j.carryOut (j.beginQueryRecord request (some (.aware time)) now true) write).1 =
      .ok result) : j.AsksQuery entry request time write := by
  cases hplan : j.beginQueryRecord request (some (.aware time)) now true with
  | error error =>
    rw [hplan] at h
    cases h
  | ok plan =>
    rw [hplan] at h
    obtain ⟨hqueryable, hcapacity, -, rfl⟩ :=
      (Journal.beginQueryRecord_eq_ok now hfound heffect hnew).mp hplan
    simp only [Journal.carryOut] at h
    split at h
    · cases h
    · rename_i asked j' hstored
      obtain ⟨hrecord, hwritten, hwritable⟩ := Journal.store_eq_ok (congrArg Prod.fst hstored)
      have hkey : asked.record.effect = entry.record.effect := by rw [hrecord]; rfl
      rw [hkey] at hwritable
      exact ⟨hqueryable, hcapacity, ⟨asked, hrecord, hwritable.fits⟩, hwritten⟩

theorem Journal.AsksQuery.stored (now : Time) {write : WriteResult}
    (h : j.AsksQuery entry request time write) (hconsistent : j.Consistent)
    (hfound : j.records.find? request.effect.effectId = some entry)
    (heffect : entry.record.effect = request.effect)
    (hnew : entry.record.queryAttempt request = none) :
    ∃ asked : JournalEntry .effectCoordinator, asked.record = entry.record.appendAttempt
        (.query (newQueryAttempt entry.record request time)) ∧
      j.Writable (j.records.insert entry.record.effect.effectId asked) ∧
      j.carryOut (j.beginQueryRecord request (some (.aware time)) now true) write =
        (.ok (asked, newQueryAttempt entry.record request time), { j with
          records := j.records.insert entry.record.effect.effectId asked
          file := j.records.insert entry.record.effect.effectId asked }) := by
  obtain ⟨hqueryable, hcapacity, ⟨asked, hrecord, hfits⟩, rfl⟩ := h
  have hexact := CoordinationAttempt.query_exact (asked.history.attemptsValid
    (.query (newQueryAttempt entry.record request time)) (by simp [hrecord, appendAttempt]))
  have hplan := (Journal.beginQueryRecord_eq_ok now hfound heffect hnew).mpr
    ⟨hqueryable, hcapacity, hexact, rfl⟩
  have hindexed := hconsistent.recordsWritable.indexed
  have hkey : asked.record.effect = entry.record.effect := by rw [hrecord]; rfl
  have hwritable : j.Writable (j.records.insert entry.record.effect.effectId asked) :=
    ⟨actionIndexes_insert (heffect ▸ hfound)
      (sameAction_of_query hkey (by rw [hrecord]; rfl)) hindexed, hfits⟩
  refine ⟨asked, hrecord, hwritable, ?_⟩
  rw [hplan]
  simp only [Journal.carryOut]
  rw [← hrecord, Journal.store_written (hkey ▸ hwritable), hkey]

/-- The journal between the two stores. -/
def Journal.asking (j : Journal .effectCoordinator) (effectId : EffectId)
    (asked : JournalEntry .effectCoordinator) : Journal .effectCoordinator :=
  { j with records := j.records.insert effectId asked, file := j.records.insert effectId asked }

variable {asked : JournalEntry .effectCoordinator}

/-- What the second store needs of a completed entry. -/
theorem Journal.writable_answered {done : JournalEntry .effectCoordinator}
    (hasked : asked.record =
      entry.record.appendAttempt (.query (newQueryAttempt entry.record request time)))
    (hdone : done.record = entry.record.answered request outcome time)
    (hwritable : j.Writable (j.records.insert entry.record.effect.effectId asked))
    (hfits : ¬ j.atCapacity (j.records.insert entry.record.effect.effectId done)) :
    (j.asking entry.record.effect.effectId asked).Writable
      ((j.asking entry.record.effect.effectId asked).records.insert
        done.record.effect.effectId done) := by
  have hkey : done.record.effect = entry.record.effect := by rw [hdone]; rfl
  have haskedAction : SameAction entry.record asked.record :=
    sameAction_of_query (by rw [hasked]; rfl) (by rw [hasked]; rfl)
  have hdoneAction : SameAction entry.record done.record :=
    sameAction_of_query hkey (by rw [hdone]; rfl)
  have hsame : SameAction asked.record done.record :=
    ⟨hdoneAction.1.trans haskedAction.1.symm, hdoneAction.2.trans haskedAction.2.symm⟩
  have hinsert : (j.asking entry.record.effect.effectId asked).records.insert
      done.record.effect.effectId done = j.records.insert entry.record.effect.effectId done := by
    rw [hkey]
    exact SortedMap.insert_insert _ _ _ _
  refine ⟨?_, by rw [hinsert]; exact hfits⟩
  rw [hkey]
  exact actionIndexes_insert (SortedMap.find?_insert_self _ _ _) hsame hwritable.indexed

omit [RecordCodec] in
theorem binds_of_validateOutcome (h : validateOutcome (.query request) outcome = .ok ()) :
    outcome.binds (.query request) := by
  simp only [validateOutcome, bind_unit_eq_ok, refuseIf_eq_ok, not_or, not_not] at h
  exact h.1.2

/-- An answer that can be kept is kept, or the write fails. -/
theorem Journal.KeepsAnswer.completes {write : WriteResult}
    (hkeeps : j.KeepsAnswer entry request outcome time write)
    (hasked : asked.record =
      entry.record.appendAttempt (.query (newQueryAttempt entry.record request time)))
    (hwritable : j.Writable (j.records.insert entry.record.effect.effectId asked))
    (hqueryable : requireQueryable .effectCoordinator entry.record true = .ok ())
    (hretains : entry.record.state = .notDispatched → entry.record.RetainsNotDispatched)
    (hvalidated : validateOutcome (.query request) outcome = .ok ())
    (hreceipt : ∀ receipt ∈ outcome.receipt, entry.record.retainsReceipt receipt = true) :
    Raises (fun e => e = .uncertainUpdate)
      ((j.asking entry.record.effect.effectId asked).carryOut (completeRetainedQuery asked
        (newQueryAttempt entry.record request time) outcome time) write).1 := by
  have hbinds := binds_of_validateOutcome hvalidated
  have hvalid := hkeeps.admits.validHistory entry.history (hasked ▸ asked.history) hqueryable
    hretains hbinds hreceipt
  have hrole : validateRoleHistory .effectCoordinator
      (entry.record.answered request outcome time) = .ok () := by
    rw [validateRoleHistory, refuseIf_eq_ok]
    rintro ⟨-, a, ha, hcommit, hnone⟩
    rcases List.mem_append.mp ha with ha | ha
    · have hrole := entry.roleValid
      rw [validateRoleHistory, refuseIf_eq_ok] at hrole
      exact hrole ⟨rfl, a, ha, hcommit, hnone⟩
    · rw [List.mem_singleton.mp ha] at hcommit
      cases hcommit
  have hplan := completeRetainedQuery_of_admits hkeeps.admits hasked entry.history hqueryable hbinds
  generalize hdone : (⟨_, validate_eq_ok.mpr hvalid, hrole⟩ : JournalEntry .effectCoordinator) =
    done
  have hrecord : done.record = entry.record.answered request outcome time := by rw [← hdone]
  have hstore := Journal.writable_answered hasked hrecord hwritable (hkeeps.fits done hrecord)
  rw [hplan, ← hrecord]
  simp only [Journal.carryOut]
  cases write with
  | written => simp [Journal.store_written hstore]
  | failed replaced =>
    have hfailed := Journal.store_failed replaced hstore
    split
    · rename_i error j' hresult
      rw [hresult] at hfailed
      exact raises_error.mpr (Except.error.inj hfailed)
    · simp
  | refused message => exact absurd rfl (hkeeps.accepted message)

omit [RecordCodec] in
/-- A request-only attempt is completed by a store. -/
theorem completeRetainedQuery_eq_store
    {plan : Plan .effectCoordinator (JournalEntry .effectCoordinator)}
    (h : completeRetainedQuery asked (newQueryAttempt entry.record request time) outcome time =
      .ok plan) : ∃ record, plan = .store record id := by
  simp only [completeRetainedQuery, newQueryAttempt, bind_eq_ok] at h
  obtain ⟨-, -, bound, -, -, -, -, -, updated, -, hplan⟩ := h
  exact ⟨updated, (Except.ok.inj hplan).symm⟩

/-- An answer that cannot be kept is refused after the attempt was stored. -/
theorem Journal.refused_of_not_keeps {write : WriteResult}
    (hkeeps : ¬ j.KeepsAnswer entry request outcome time write)
    (hasked : asked.record =
      entry.record.appendAttempt (.query (newQueryAttempt entry.record request time)))
    (hqueryable : requireQueryable .effectCoordinator entry.record true = .ok ())
    (hvalidated : validateOutcome (.query request) outcome = .ok ()) :
    ∃ error, error ≠ .uncertainUpdate ∧
      (j.asking entry.record.effect.effectId asked).carryOut (completeRetainedQuery asked
        (newQueryAttempt entry.record request time) outcome time) write =
      (.error error, j.asking entry.record.effect.effectId asked) := by
  cases hplan : completeRetainedQuery asked (newQueryAttempt entry.record request time) outcome
      time with
  | error error => exact ⟨error, certain_completeRetainedQuery _ _ _ _ error hplan, rfl⟩
  | ok plan =>
    obtain ⟨record, rfl⟩ := completeRetainedQuery_eq_store hplan
    -- A record that passed the store's checks is an answer that could be kept.
    have hkept (done : JournalEntry .effectCoordinator) (hdone : done.record = record)
        (hwritable : (j.asking entry.record.effect.effectId asked).Writable
          ((j.asking entry.record.effect.effectId asked).records.insert
            done.record.effect.effectId done))
        (haccepted : ∀ message, write ≠ .refused message) : False := by
      have hadmits := admits_of_completeRetainedQuery hasked hplan (hdone ▸ done.history)
      have hanswered := completeRetainedQuery_of_admits hadmits hasked entry.history hqueryable
        (binds_of_validateOutcome hvalidated)
      rw [hplan] at hanswered
      obtain ⟨rfl, -⟩ := Plan.store.inj (Except.ok.inj hanswered)
      refine hkeeps ⟨hadmits, fun other hother => ?_, haccepted⟩
      obtain rfl : other = done := JournalEntry.ext (hother.trans hdone.symm)
      have hkey : other.record.effect = entry.record.effect := by rw [hother]; rfl
      have hfits := hwritable.fits
      rw [hkey] at hfits
      rwa [show (j.asking entry.record.effect.effectId asked).records.insert
        entry.record.effect.effectId other = j.records.insert entry.record.effect.effectId other
        from SortedMap.insert_insert _ _ _ _] at hfits
    simp only [Journal.carryOut]
    have hcases := (j.asking entry.record.effect.effectId asked).store_cases record write
    generalize (j.asking entry.record.effect.effectId asked).store record write = stored at hcases
    cases hcases with
    | refused _ error hcertain => exact ⟨error, hcertain, rfl⟩
    | uncertain done hdone replaced hwritable =>
      exact (hkept done hdone hwritable (by simp)).elim
    | stored done hdone hwritable => exact (hkept done hdone hwritable (by simp)).elim

/-- `_complete_query_record` on the effect side is atomic unless it refuses late. -/
theorem Journal.atomic_completeQueryRecord {recordedAt : Option RecordedAt} {now : Time}
    {writes : WriteResult × WriteResult} (hconsistent : j.Consistent)
    (hretains : ∀ k e, j.records.find? k = some e → e.record.state = .notDispatched →
      e.record.RetainsNotDispatched)
    (hwhen : checkWhen recordedAt now = .ok time) :
    j.Atomic (j.completeQueryRecord request outcome recordedAt now true writes) ↔
      ¬ j.RefusesLate request outcome time writes := by
  cases hquery : j.findQuery request outcome recordedAt now with
  | error error =>
    simp only [Journal.completeQueryRecord, hquery]
    refine iff_of_true (j.atomic_self _) ?_
    rintro ⟨entry, hfound, heffect, hnew, hvalidated, hreceipt, -⟩
    have hok : j.findQuery request outcome recordedAt now = .ok (entry, time, none) :=
      Journal.findQuery_eq_ok.mpr ⟨hvalidated, hfound, heffect, hreceipt, hwhen, hnew⟩
    rw [hquery] at hok
    cases hok
  | ok result =>
    obtain ⟨entry, when_, attempt⟩ := result
    obtain ⟨hvalidated, hfound, heffect, hreceipt, hwhen', hattempt⟩ :=
      Journal.findQuery_eq_ok.mp hquery
    obtain rfl : time = when_ := Except.ok.inj (hwhen.symm.trans hwhen')
    -- The record is determined, so a late refusal is one of this very record.
    have honly (h : j.RefusesLate request outcome time writes) :
        attempt = none ∧ j.AsksQuery entry request time writes.1 ∧
          ¬ j.KeepsAnswer entry request outcome time writes.2 := by
      obtain ⟨other, hother, -, hnew, -, -, hasks, hkeeps⟩ := h
      obtain rfl : other = entry := Option.some.inj (hother.symm.trans hfound)
      exact ⟨hattempt.symm.trans hnew, hasks, hkeeps⟩
    cases attempt with
    | some attempt =>
      simp only [Journal.completeQueryRecord, hquery]
      exact iff_of_true (j.atomic_carryOut _ _) fun h => by cases (honly h).1
    | none =>
      simp only [Journal.completeQueryRecord, hquery, if_true]
      by_cases hasks : j.AsksQuery entry request time writes.1
      · obtain ⟨asked, hasked, hwritable, hstored⟩ :=
          hasks.stored now hconsistent hfound heffect hattempt
        rw [hstored]
        dsimp only
        by_cases hkeeps : j.KeepsAnswer entry request outcome time writes.2
        · refine iff_of_true (fun error herror huncertain => ?_) fun h => (honly h).2.2 hkeeps
          exact absurd (hkeeps.completes hasked hwritable hasks.queryable (hretains _ _ hfound)
            hvalidated hreceipt error herror) huncertain
        · refine iff_of_false (fun hatomic => ?_) (not_not.mpr
            ⟨entry, hfound, heffect, hattempt, hvalidated, hreceipt, hasks, hkeeps⟩)
          obtain ⟨error, hcertain, hresult⟩ :=
            Journal.refused_of_not_keeps hkeeps hasked hasks.queryable hvalidated
          have hsame := (hatomic error (congrArg Prod.fst hresult) hcertain).1
          have hrecords : j.records.insert entry.record.effect.effectId asked = j.records :=
            (congrArg (fun result => result.2.records) hresult).symm.trans hsame
          have hlookup := SortedMap.find?_insert_self j.records entry.record.effect.effectId asked
          rw [hrecords, heffect, hfound, Option.some.injEq] at hlookup
          have := congrArg (fun e => e.record.attempts.length) hlookup
          simp [hasked, appendAttempt] at this
      · have hatomic := j.atomic_carryOut
          (j.beginQueryRecord request (some (.aware time)) now true) writes.1
        refine iff_of_true ?_ fun h => hasks (honly h).2.1
        split
        · rename_i error j' hresult
          rw [hresult] at hatomic
          exact fun e he => hatomic e (congrArg Except.error (Except.error.inj he))
        · rename_i asked attempt j' hresult
          exact absurd (Journal.asksQuery_of_ok hfound heffect hattempt
            (congrArg Prod.fst hresult)) hasks

end Answer

/-! ## Operations -/

omit [Primitives] [RecordCodec] in
theorem EffectOp.not_localClose (op : EffectOp) (committed : Bool) :
    ¬ op.changes.localClose committed := by
  cases op <;> exact id

/-- Every NOT_DISPATCHED record retains the answer that closed it. -/
def CoordinationJournalRecord.CloseRetains (r : CoordinationJournalRecord) : Prop :=
  r.state = .notDispatched → r.RetainsNotDispatched

/-- So it is for the effect coordinator, which has no local close. -/
theorem JournalRun.closeRetains {j j' : Journal .effectCoordinator} (h : JournalRun j j')
    (hconsistent : j.Consistent) (hall : j.Everywhere CloseRetains) :
    j'.Consistent ∧ j'.Everywhere CloseRetains := by
  induction h with
  | refl => exact ⟨hconsistent, hall⟩
  | tail _ hstep ih =>
    refine ⟨(hstep.stepped ih.1).consistent, ?_⟩
    cases hstep with
    | op op env =>
      cases op with
      | effect op =>
        refine (op.run_stepped env ih.1).everywhere (fun r r' hext hr hstate => ?_)
          (fun request receipt time hstate => ?_) ih.2
        · rcases hext.newNotDispatched hstate with hold | hclose | hretains
          · exact hext.retainsNotDispatched (hr hold)
          · exact absurd hclose (op.not_localClose _)
          · exact hretains
        · cases receipt <;> cases hstate
    | close => exact ih.2
    | restart => exact ⟨ih.2.2, ih.2.2⟩

theorem Journal.Reachable.closeRetains {j : Journal .effectCoordinator} (h : j.Reachable) :
    j.Everywhere CloseRetains := by
  obtain ⟨owner, write, j₀, hinit, hrun⟩ := h
  exact (hrun.closeRetains (Journal.consistent_initialized hinit).1
    (Journal.everywhere_initialized hinit)).2

/-- The operation stores a new query and then refuses its answer. -/
def EffectOp.RefusesLate (j : Journal .effectCoordinator) (env : OpEnv) : EffectOp → Prop
  | .retainQueryOutcome request outcome recordedAt =>
      j.assertWriter = .ok () ∧ ∃ time, checkWhen recordedAt env.now = .ok time ∧
        j.RefusesLate request outcome time env.writes
  | .answerQuery request issue recordedAt =>
      j.assertWriter = .ok () ∧ ∃ time, checkWhen recordedAt env.now = .ok time ∧
        ∃ entry, j.records.find? request.effect.effectId = some entry ∧
        ∃ outcome, issue request entry.record time = .ok outcome ∧
        j.RefusesLate request outcome time env.writes
  | .prepareEffect .. | .beginCommit .. | .finishCommit .. | .markCommitUnknown .. => False

def JournalOp.RefusesLate (j : Journal role) (env : OpEnv) : JournalOp role → Prop
  | .gateway _ => False
  | .effect op => op.RefusesLate j env

theorem Journal.atomic_completeQuery {j : Journal .effectCoordinator} (h : j.Reachable)
    (request : SignedEffectQueryRequest) (outcome : SignedEffectOutcome)
    (recordedAt : Option RecordedAt) (env : OpEnv) :
    j.Atomic (j.completeQuery request outcome recordedAt env.now true env.writes) ↔
      ¬ EffectOp.RefusesLate j env (.retainQueryOutcome request outcome recordedAt) := by
  unfold Journal.completeQuery
  split
  · rename_i error hwriter
    refine iff_of_true (j.atomic_self _) ?_
    rintro ⟨hok, -⟩
    rw [hwriter] at hok
    cases hok
  · rename_i hwriter
    cases hwhen : checkWhen recordedAt env.now with
    | error error =>
      refine iff_of_true ?_ ?_
      · cases hquery : j.findQuery request outcome recordedAt env.now with
        | error error =>
          simp only [Journal.completeQueryRecord, hquery]
          exact j.atomic_self _
        | ok result =>
          have := (Journal.findQuery_eq_ok.mp hquery).2.2.2.2.1
          rw [hwhen] at this
          cases this
      · rintro ⟨-, time, htime, -⟩
        rw [hwhen] at htime
        cases htime
    | ok time =>
      rw [Journal.atomic_completeQueryRecord h.consistent h.closeRetains.1 hwhen]
      refine not_congr ⟨fun hlate => ⟨hwriter, time, hwhen, hlate⟩, ?_⟩
      rintro ⟨-, time', htime, hlate⟩
      obtain rfl : time = time' := Except.ok.inj (hwhen.symm.trans htime)
      exact hlate

theorem Journal.atomic_answerQuery {j : Journal .effectCoordinator} (h : j.Reachable)
    (request : SignedEffectQueryRequest) (issue : OutcomeIssuer)
    (recordedAt : Option RecordedAt) (env : OpEnv) :
    j.Atomic (j.answerQuery request issue recordedAt env.now env.writes) ↔
      ¬ EffectOp.RefusesLate j env (.answerQuery request issue recordedAt) := by
  -- A late refusal names the very outcome that `answer_query` issues.
  have hissued (hlate : EffectOp.RefusesLate j env (.answerQuery request issue recordedAt)) :
      ∃ time outcome, j.issueAnswer request issue recordedAt env.now = .ok (.inr (time, outcome)) ∧
        j.RefusesLate request outcome time env.writes := by
    obtain ⟨hwriter, time, hwhen, entry, hfound, outcome, houtcome, hlate⟩ := hlate
    refine ⟨time, outcome, ?_, hlate⟩
    obtain ⟨other, hother, heffect, hnew, -⟩ := hlate
    obtain rfl : other = entry := Option.some.inj (hother.symm.trans hfound)
    simp [Journal.issueAnswer, hwriter, Journal.lookup_eq_some.mpr ⟨hfound, heffect⟩, orRaise,
      hnew, hwhen, calling, houtcome]
  unfold Journal.answerQuery
  split
  · rename_i error hanswer
    refine iff_of_true (j.atomic_self _) fun hlate => ?_
    obtain ⟨time, outcome, hok, -⟩ := hissued hlate
    rw [hanswer] at hok
    cases hok
  · rename_i outcome hanswer
    refine iff_of_true (j.atomic_self _) fun hlate => ?_
    obtain ⟨time, outcome, hok, -⟩ := hissued hlate
    rw [hanswer] at hok
    cases hok
  · rename_i time outcome hanswer
    have hanswered := hanswer
    simp only [Journal.issueAnswer, bind_eq_ok, orRaise_eq_ok] at hanswered
    obtain ⟨⟨⟩, hwriter, found, hlookup, entry, rfl, hanswered⟩ := hanswered
    obtain ⟨hfound, -⟩ := Journal.lookup_eq_some.mp hlookup
    split at hanswered
    · cases hanswered
    · simp only [bind_eq_ok, calling_eq_ok] at hanswered
      obtain ⟨when_, hwhen, issued, houtcome, hanswered⟩ := hanswered
      simp only [pure_eq_ok, Except.ok.injEq, Sum.inr.injEq, Prod.mk.injEq] at hanswered
      obtain ⟨rfl, rfl⟩ := hanswered
      refine (Journal.atomic_map _).trans ((Journal.atomic_completeQueryRecord h.consistent
        h.closeRetains.1 rfl).trans (not_congr
        ⟨fun hlate => ⟨hwriter, when_, hwhen, entry, hfound, issued, houtcome, hlate⟩, ?_⟩))
      intro hlate
      obtain ⟨time, outcome, hok, hlate⟩ := hissued hlate
      rw [hanswer] at hok
      obtain ⟨rfl, rfl⟩ := Prod.mk.inj (Sum.inr.inj (Except.ok.inj hok))
      exact hlate

/-- An operation of a reachable journal leaves records and file unchanged when it raises
    anything but the uncertain-update failure, exactly when it does not refuse late. -/
theorem JournalOp.atomic_iff {j : Journal role} (h : j.Reachable) (op : JournalOp role)
    (env : OpEnv) : j.Atomic (op.run j env) ↔ ¬ op.RefusesLate j env := by
  cases op with
  | gateway op => exact iff_of_true ((Journal.atomic_map _).mpr (op.atomic j env)) id
  | effect op =>
    refine (Journal.atomic_map _).trans ?_
    cases op with
    | prepareEffect request issue recordedAt =>
      exact iff_of_true ((Journal.atomic_map _).mpr (j.atomic_carryOut _ _)) id
    | beginCommit request issue recordedAt =>
      exact iff_of_true ((Journal.atomic_map _).mpr (j.atomic_beginCommit _ _ _ _ _)) id
    | finishCommit request outcome recordedAt =>
      exact iff_of_true ((Journal.atomic_map _).mpr (j.atomic_carryOut _ _)) id
    | markCommitUnknown request reason evidence recordedAt =>
      exact iff_of_true ((Journal.atomic_map _).mpr (j.atomic_carryOut _ _)) id
    | retainQueryOutcome request outcome recordedAt =>
      exact (Journal.atomic_map _).trans (Journal.atomic_completeQuery h _ _ _ _)
    | answerQuery request issue recordedAt =>
      exact (Journal.atomic_map _).trans (Journal.atomic_answerQuery h _ _ _ _)

end

section

open Sample

/-- The coordinator journal with the sample effect prepared. -/
def Sample.prepared : Journal .effectCoordinator :=
  ((JournalOp.effect prepareEffect).run effectJournal (calm 1)).2

/-- An answer signed one tick after the time at which it is to be recorded. -/
def Sample.answerLate : JournalOp .effectCoordinator :=
  .effect (.retainQueryOutcome sampleQuery (notDispatchedOutcome sampleQuery "none" 7)
    (some (.aware 6)))

theorem Sample.reachable_prepared : prepared.Reachable := by
  have hinit : Journal.initialized "coordinator" .written = .ok effectJournal := by
    decide +kernel
  exact ⟨"coordinator", .written, effectJournal, hinit,
    .single (.op effectJournal (.effect prepareEffect) (calm 1))⟩

theorem atomic_iff_prepare :
    effectJournal.Reachable ∧
      effectJournal.Atomic ((JournalOp.effect prepareEffect).run effectJournal (calm 1)) := by
  have hreachable : effectJournal.Reachable :=
    ⟨"coordinator", .written, effectJournal, by decide +kernel, .refl⟩
  exact ⟨hreachable, (JournalOp.atomic_iff hreachable _ _).mpr id⟩

set_option maxRecDepth 10000 in
/-- The refused answer leaves its query attempt in the journal. -/
theorem late_refusal_leaves_attempt :
    ¬ ∀ j : Journal .effectCoordinator, j.Reachable →
      ∀ (op : JournalOp .effectCoordinator) (env : OpEnv), j.Atomic (op.run j env) := by
  intro h
  have hatomic := h prepared reachable_prepared answerLate (calm 8)
  have hraised : (answerLate.run prepared (calm 8)).1 = .error (.value (.other
      "query response retention cannot predate its outcome")) := by decide +kernel
  have hchanged : (answerLate.run prepared (calm 8)).2.records ≠ prepared.records := by
    decide +kernel
  exact hchanged (hatomic _ hraised (by decide)).1

end

end AegisOt
