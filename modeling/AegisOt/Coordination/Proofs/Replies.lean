import AegisOt.Coordination.Proofs.AnswerHistory
import AegisOt.Coordination.Proofs.Retention

/-!
# Repeated requests

`prepare_effect`, `begin_commit` and `answer_query` of the effect side look a request up by its
digest and return what they retain for it. A retained answer stays where it is, at the first
attempt with that digest, through every extension of the record; so a call that was answered
once is answered the same way ever after, in any state of the record and after any restart.
-/

namespace AegisOt

/-! ## First matches -/

section

variable {α β : Type} {f : α → Option β} {b b' : β}

/-- The first match of a list that is rewritten item by item. -/
theorem findSome?_map_eq_some {g : α → α} {items : List α} (h : items.findSome? f = some b)
    (hnone : ∀ x ∈ items, f x = none → f (g x) = none)
    (hsome : ∀ x ∈ items, f x = some b → f (g x) = some b') :
    (items.map g).findSome? f = some b' := by
  induction items with
  | nil => cases h
  | cons x rest ih =>
    rw [List.map_cons, List.findSome?_cons]
    rw [List.findSome?_cons] at h
    cases hx : f x with
    | some c =>
      rw [hx] at h
      obtain rfl := Option.some.inj h
      rw [hsome x List.mem_cons_self hx]
    | none =>
      rw [hx] at h
      rw [hnone x List.mem_cons_self hx]
      exact ih h (fun y hy => hnone y (List.mem_cons_of_mem x hy))
        (fun y hy => hsome y (List.mem_cons_of_mem x hy))

/-- The first match of a list that grows, each item keeping its place. -/
theorem findSome?_grow {R : β → β → Prop} {items items' : List α}
    (h : items.findSome? f = some b)
    (hkept : ∀ (i : Nat) x, items[i]? = some x → ∃ y, items'[i]? = some y ∧
      (f x = none → f y = none) ∧ ∀ c, f x = some c → ∃ c', f y = some c' ∧ R c c') :
    ∃ c, items'.findSome? f = some c ∧ R b c := by
  induction items generalizing items' with
  | nil => cases h
  | cons x rest ih =>
    obtain ⟨y, hy, hnone, hsome⟩ := hkept 0 x rfl
    obtain ⟨rest', rfl⟩ : ∃ rest', items' = y :: rest' := by
      cases items' with
      | nil => cases hy
      | cons z rest' =>
        obtain rfl := Option.some.inj hy
        exact ⟨rest', rfl⟩
    rw [List.findSome?_cons] at h ⊢
    cases hx : f x with
    | some c =>
      rw [hx] at h
      obtain rfl := Option.some.inj h
      obtain ⟨c', hc', hR⟩ := hsome c hx
      exact ⟨c', by rw [hc'], hR⟩
    | none =>
      rw [hx] at h
      rw [hnone hx]
      exact ih h (fun i z hz => hkept (i + 1) z hz)

end

section

variable [Primitives]

open CoordinationJournalRecord

namespace CoordinationJournalRecord

variable {r r' : CoordinationJournalRecord} {changes : Changes}

/-! ## Retained answers -/

/-- The record retains this receipt for the request. -/
def RetainsReceiptFor (r : CoordinationJournalRecord) (request : SignedEffectPrepareRequest)
    (receipt : CoordinationReceipt) : Prop :=
  r.effect = request.effect ∧ ∃ a, r.prepareAttempt request = some a ∧ a.receipt = some receipt

/-- The record retains this acceptance for the request. -/
def RetainsAcceptanceFor (r : CoordinationJournalRecord) (request : SignedEffectCommitRequest)
    (acceptance : DurableCommitAcceptance) : Prop :=
  r.effect = request.effect ∧
    ∃ a, r.commitAttempt request = some a ∧ a.acceptance = some acceptance

/-- The record retains this outcome for the request. -/
def RetainsOutcomeFor (r : CoordinationJournalRecord) (request : SignedEffectQueryRequest)
    (outcome : SignedEffectOutcome) : Prop :=
  r.effect = request.effect ∧ ∃ a, r.queryAttempt request = some a ∧ a.outcome = some outcome

omit [Primitives] in
/-- A search for the first attempt of a kind with a digest finds the same attempt in an
    extension. -/
theorem Extends.findSome?_kind {κ : Type} {kind : CoordinationAttempt → Option κ}
    {sha : κ → Sha256} {R : κ → κ → Prop} {digest : Sha256} {a : κ} (h : r.Extends changes r')
    (hkind : ∀ x y : CoordinationAttempt, x.Extends y → (kind x = none → kind y = none) ∧
      ∀ c, kind x = some c → ∃ c', kind y = some c' ∧ sha c' = sha c ∧ R c c')
    (ha : r.attempts.findSome? (fun x => (kind x).filter (fun c => decide (sha c = digest))) =
      some a) :
    ∃ b, r'.attempts.findSome? (fun x => (kind x).filter (fun c => decide (sha c = digest))) =
      some b ∧ R a b := by
  refine findSome?_grow ha ?_
  intro i x hx
  obtain ⟨y, hy, hext⟩ := h.attempts i x hx
  obtain ⟨hnone, hsome⟩ := hkind x y hext
  refine ⟨y, hy, ?_⟩
  cases hx : kind x with
  | none =>
    rw [hnone hx]
    exact ⟨fun h => h, fun a ha => by cases ha⟩
  | some c =>
    obtain ⟨c', hc', hsha, hR⟩ := hsome c hx
    rw [hc', Option.filter_some, Option.filter_some, hsha]
    by_cases hmatch : decide (sha c = digest) = true
    · rw [if_pos hmatch, if_pos hmatch]
      refine ⟨nofun, ?_⟩
      rintro _ ⟨⟩
      exact ⟨c', rfl, hR⟩
    · rw [if_neg hmatch, if_neg hmatch]
      exact ⟨fun h => h, fun a ha => by cases ha⟩

omit [Primitives] in
theorem prepare?_kept (x y : CoordinationAttempt) (h : x.Extends y) :
    (x.prepare? = none → y.prepare? = none) ∧ ∀ a, x.prepare? = some a →
      ∃ b, y.prepare? = some b ∧ b.requestSha256 = a.requestSha256 ∧
        ∀ receipt ∈ a.receipt, b.receipt = some receipt := by
  have hrequest := h.request
  cases x with
  | prepare x =>
    cases y with
    | prepare y =>
      refine ⟨nofun, ?_⟩
      rintro _ ⟨⟩
      exact ⟨y, rfl, h.requestSha256, h.receipt⟩
    | commit y => cases hrequest
    | query y => cases hrequest
  | commit x => cases y <;> first | cases hrequest | exact ⟨fun h => h, fun a ha => by cases ha⟩
  | query x => cases y <;> first | cases hrequest | exact ⟨fun h => h, fun a ha => by cases ha⟩

omit [Primitives] in
theorem commit?_kept (x y : CoordinationAttempt) (h : x.Extends y) :
    (x.commit? = none → y.commit? = none) ∧ ∀ a, x.commit? = some a →
      ∃ b, y.commit? = some b ∧ b.requestSha256 = a.requestSha256 ∧
        ∀ acceptance ∈ a.acceptance, b.acceptance = some acceptance := by
  have hrequest := h.request
  cases x with
  | commit x =>
    cases y with
    | commit y =>
      refine ⟨nofun, ?_⟩
      rintro _ ⟨⟩
      exact ⟨y, rfl, h.requestSha256, h.acceptance⟩
    | prepare y => cases hrequest
    | query y => cases hrequest
  | prepare x => cases y <;> first | cases hrequest | exact ⟨fun h => h, fun a ha => by cases ha⟩
  | query x => cases y <;> first | cases hrequest | exact ⟨fun h => h, fun a ha => by cases ha⟩

omit [Primitives] in
theorem query?_kept (x y : CoordinationAttempt) (h : x.Extends y) :
    (x.query? = none → y.query? = none) ∧ ∀ a, x.query? = some a →
      ∃ b, y.query? = some b ∧ b.requestSha256 = a.requestSha256 ∧
        ∀ outcome ∈ a.outcome, b.outcome = some outcome := by
  have hrequest := h.request
  cases x with
  | query x =>
    cases y with
    | query y =>
      refine ⟨nofun, ?_⟩
      rintro _ ⟨⟩
      exact ⟨y, rfl, h.requestSha256, h.outcome⟩
    | prepare y => cases hrequest
    | commit y => cases hrequest
  | prepare x => cases y <;> first | cases hrequest | exact ⟨fun h => h, fun a ha => by cases ha⟩
  | commit x => cases y <;> first | cases hrequest | exact ⟨fun h => h, fun a ha => by cases ha⟩

theorem Extends.retainsReceiptFor (h : r.Extends changes r')
    {request : SignedEffectPrepareRequest} {receipt : CoordinationReceipt}
    (hr : r.RetainsReceiptFor request receipt) : r'.RetainsReceiptFor request receipt := by
  obtain ⟨heffect, a, ha, hreceipt⟩ := hr
  obtain ⟨b, hb, hkept⟩ := h.findSome?_kind prepare?_kept ha
  exact ⟨h.effect.trans heffect, b, hb, hkept receipt hreceipt⟩

theorem Extends.retainsAcceptanceFor (h : r.Extends changes r')
    {request : SignedEffectCommitRequest} {acceptance : DurableCommitAcceptance}
    (hr : r.RetainsAcceptanceFor request acceptance) :
    r'.RetainsAcceptanceFor request acceptance := by
  obtain ⟨heffect, a, ha, hacceptance⟩ := hr
  obtain ⟨b, hb, hkept⟩ := h.findSome?_kind commit?_kept ha
  exact ⟨h.effect.trans heffect, b, hb, hkept acceptance hacceptance⟩

theorem Extends.retainsOutcomeFor (h : r.Extends changes r')
    {request : SignedEffectQueryRequest} {outcome : SignedEffectOutcome}
    (hr : r.RetainsOutcomeFor request outcome) : r'.RetainsOutcomeFor request outcome := by
  obtain ⟨heffect, a, ha, houtcome⟩ := hr
  obtain ⟨b, hb, hkept⟩ := h.findSome?_kind query?_kept ha
  exact ⟨h.effect.trans heffect, b, hb, hkept outcome houtcome⟩

omit [Primitives] in
/-- After `_replace_attempt` the search finds the replacement. -/
theorem findSome?_replaceAttempt {κ : Type} {kind : CoordinationAttempt → Option κ}
    {matching : κ → Bool} (hnumbered : r.Numbered) {a x : CoordinationAttempt} {b b' : κ}
    (hfound : r.attempts.findSome? (fun item => (kind item).filter matching) = some b)
    (ha : a ∈ r.attempts) (hkind : kind a = some b) (hmatching : matching b' = true)
    (hx : kind x = some b') (hsequence : x.base.sequence = a.base.sequence)
    (hinjective : ∀ item ∈ r.attempts, kind item = some b → item = a) :
    (r.replaceAttempt x).attempts.findSome? (fun item => (kind item).filter matching) =
      some b' := by
  have hb : matching b = true := (exists_of_findSome?_filter hfound).2
  have hreplaced : (kind x).filter matching = some b' := by
    rw [hx, Option.filter_some, if_pos hmatching]
  refine findSome?_map_eq_some hfound ?_ ?_
  · intro item hitem hnone
    by_cases hsame : item.base.sequence = x.base.sequence
    · -- The item is the replaced attempt, which matches.
      obtain ⟨i, hi⟩ := List.getElem?_of_mem hitem
      obtain ⟨k, hk⟩ := List.getElem?_of_mem ha
      have hposition : i = k := by
        have hik := hnumbered i item hi
        have hkk := hnumbered k a hk
        omega
      rw [hposition, hk] at hi
      obtain rfl := Option.some.inj hi
      rw [hkind, Option.filter_some, if_pos hb] at hnone
      cases hnone
    · rw [if_neg hsame]
      exact hnone
  · intro item hitem hsome
    obtain ⟨hitemKind, -⟩ := Option.filter_eq_some_iff.mp hsome
    obtain rfl := hinjective item hitem hitemKind
    rw [if_pos hsequence.symm]
    exact hreplaced

end CoordinationJournalRecord

end

section

variable [Primitives] [RecordCodec]

open CoordinationJournalRecord

/-! ## What a call leaves behind -/

namespace Journal

variable {j : Journal .effectCoordinator}

omit [RecordCodec] in
theorem retainsReceiptFor_preparedRecord {entry : Option (JournalEntry .effectCoordinator)}
    {request : SignedEffectPrepareRequest} {receipt : CoordinationReceipt} {time : Time}
    {r : CoordinationJournalRecord} (heffect : ∀ e ∈ entry, e.record.effect = request.effect)
    (h : preparedRecord entry (entry.bind (fun e => e.record.prepareAttempt request)) request
      receipt time = .ok r) : r.RetainsReceiptFor request receipt := by
  cases entry with
  | none =>
    obtain rfl := eq_newRecord_of_createRecord h
    refine ⟨rfl, newPrepareAttempt 1 request (some receipt) time, ?_, rfl⟩
    simp [prepareAttempt, newRecord, newPrepareAttempt, CoordinationAttempt.prepare?]
  | some e =>
    rw [Option.bind_some] at h
    cases hattempt : e.record.prepareAttempt request with
    | none =>
      rw [hattempt] at h
      simp only [preparedRecord, appendPreparation, bind_unit_eq_ok, pure_eq_ok,
        Except.ok.injEq] at h
      obtain ⟨-, rfl⟩ := h
      refine ⟨heffect e rfl, newPrepareAttempt (e.record.attempts.length + 1) request
        (some receipt) time, ?_, rfl⟩
      rw [prepareAttempt, appendAttempt, List.findSome?_append,
        show List.findSome? _ e.record.attempts = none from hattempt]
      simp [newPrepareAttempt, CoordinationAttempt.prepare?]
    | some a =>
      rw [hattempt] at h
      simp only [preparedRecord, retainReceipt, bind_unit_eq_ok] at h
      obtain ⟨-, h⟩ := h
      obtain ⟨hmem, hdigest⟩ := mem_of_prepareAttempt hattempt
      have hreplaced : (e.record.replaceAttempt (.prepare { a with
          status := .responseRetained, receipt := some receipt, updatedAt := time })).prepareAttempt
            request = some { a with
          status := .responseRetained, receipt := some receipt, updatedAt := time } := by
        refine findSome?_replaceAttempt e.history.numbered hattempt hmem rfl ?_ rfl rfl ?_
        · exact decide_eq_true hdigest
        · intro item _ hkind
          cases item with
          | prepare b => exact congrArg _ (Option.some.inj hkind)
          | commit b => cases hkind
          | query b => cases hkind
      split at h
      · have hattempts := attempts_transition h
        obtain ⟨-, -, -, rfl⟩ := transition_eq_ok.mp h
        exact ⟨heffect e rfl, _, hreplaced, rfl⟩
      · obtain rfl := Except.ok.inj h
        exact ⟨heffect e rfl, _, hreplaced, rfl⟩

/-- `prepare_effect` returns a receipt that the journal retains for the request. -/
theorem prepareEffect_retains {request : SignedEffectPrepareRequest} {issue : ReceiptIssuer}
    {recordedAt : Option RecordedAt} {now : Time} {write : WriteResult}
    {receipt : CoordinationReceipt}
    (h : (j.carryOut (j.guarded (j.prepareEffect request issue recordedAt now)) write).1 =
      .ok receipt) :
    RecordMap.Holds (j.carryOut (j.guarded (j.prepareEffect request issue recordedAt now))
      write).2.records request.effect.effectId
        (fun r => r.RetainsReceiptFor request receipt) := by
  cases hplan : j.guarded (j.prepareEffect request issue recordedAt now) with
  | error error =>
    rw [hplan] at h
    cases h
  | ok plan =>
    rw [hplan] at h
    simp only [Journal.guarded, Journal.prepareEffect, bind_eq_ok] at hplan
    obtain ⟨⟨⟩, -, found, hlookup, hplan⟩ := hplan
    split at hplan
    · rename_i retained hretained
      obtain rfl := Except.ok.inj hplan
      obtain rfl := Except.ok.inj h
      obtain ⟨a, hfound, hreceipt⟩ := Option.bind_eq_some_iff.mp hretained
      obtain ⟨e, rfl, hattempt⟩ := Option.bind_eq_some_iff.mp hfound
      obtain ⟨hfind, heffect⟩ := Journal.lookup_eq_some.mp hlookup
      exact ⟨e, hfind, heffect, a, hattempt, hreceipt⟩
    · simp only [bind_eq_ok] at hplan
      obtain ⟨⟨⟩, -, time, -, issued, -, ⟨⟩, -, record, hrecord, hplan⟩ := hplan
      obtain rfl := Except.ok.inj hplan
      obtain ⟨stored, rfl, rfl, hstored⟩ := Journal.carryOut_store_ok h
      have heffect : ∀ e ∈ found, e.record.effect = request.effect := by
        rintro e he
        rw [Option.mem_def] at he
        rw [he] at hlookup
        exact (Journal.lookup_eq_some.mp hlookup).2
      have hretains := retainsReceiptFor_preparedRecord heffect hrecord
      rw [hretains.1] at hstored
      exact ⟨stored, hstored, hretains⟩

/-- `begin_commit` returns an acceptance that the journal retains for the request. -/
theorem beginCommit_retains {request : SignedEffectCommitRequest}
    {issue : CommitAcceptanceIssuer} {recordedAt : Option RecordedAt} {now : Time}
    {write : WriteResult} {admission : CommitAdmission}
    (h : (j.beginCommit request issue recordedAt now write).1 = .ok admission) :
    RecordMap.Holds (j.beginCommit request issue recordedAt now write).2.records
      request.effect.effectId
        (fun r => r.RetainsAcceptanceFor request admission.acceptance) := by
  obtain ⟨result, hresult, hadmission⟩ := bind_eq_ok.mp h
  obtain ⟨hfound, heffect, -⟩ := (Journal.commitBegun hresult).found
  simp only [commitAdmission, bind_eq_ok, orRaise_eq_ok, validating_eq_ok,
    raising_eq_ok] at hadmission
  obtain ⟨acceptance, -, ⟨⟩, hconsistent, hadmission⟩ := hadmission
  obtain rfl := Except.ok.inj hadmission
  simp only [CommitAdmission.requireConsistent, bind_eq_ok, orRaise_eq_ok, refuseIf_eq_ok,
    not_not] at hconsistent
  obtain ⟨attempt, hattempt, ⟨⟩, hacceptance, -⟩ := hconsistent
  exact ⟨result.1, hfound, heffect, attempt, hattempt, hacceptance⟩

omit [RecordCodec] in
/-- The one-store part of answering, from the attempt the search finds. -/
theorem retainsOutcomeFor_completeRetainedQuery {old : JournalEntry .effectCoordinator}
    {request : SignedEffectQueryRequest} {attempt : EffectQueryAttempt}
    {outcome : SignedEffectOutcome} {time : Time} {r : CoordinationJournalRecord}
    {k : JournalEntry .effectCoordinator → JournalEntry .effectCoordinator}
    (heffect : old.record.effect = request.effect)
    (hattempt : old.record.queryAttempt request = some attempt)
    (h : completeRetainedQuery old attempt outcome time = .ok (.store r k)) :
    r.RetainsOutcomeFor request outcome := by
  unfold completeRetainedQuery at h
  split at h
  · simp at h
  · cases h
  · simp only [bind_eq_ok] at h
    obtain ⟨⟨⟩, -, bound, hbound, ⟨⟩, -, ⟨⟩, -, updated, hupdated, hplan⟩ := h
    obtain ⟨rfl, -⟩ := Plan.store.inj (Except.ok.inj hplan)
    obtain ⟨rfl, -⟩ := JournalEntry.eq_of_bindOutcomeAcceptance hbound
    obtain ⟨hmem, hdigest⟩ := mem_of_queryAttempt hattempt
    have hext : (old.record.replaceAttempt (.query { attempt with
        status := .responseRetained, outcome := some outcome, failureReason := none,
        failureEvidenceSha256 := none, updatedAt := time })).Extends .any updated :=
      extends_settleQuery hupdated (fun hnd => ⟨_, outcome,
        List.mem_map.mpr ⟨.query attempt, hmem, if_pos rfl⟩, rfl, hnd⟩)
    refine hext.retainsOutcomeFor ⟨heffect, { attempt with
      status := .responseRetained, outcome := some outcome, failureReason := none,
      failureEvidenceSha256 := none, updatedAt := time }, ?_, rfl⟩
    refine findSome?_replaceAttempt old.history.numbered hattempt hmem rfl ?_ rfl rfl ?_
    · exact decide_eq_true hdigest
    · intro item _ hkind
      cases item with
      | query b => exact congrArg _ (Option.some.inj hkind)
      | prepare b => cases hkind
      | commit b => cases hkind

theorem completeRetainedQuery_retains {old : JournalEntry .effectCoordinator}
    {request : SignedEffectQueryRequest} {attempt : EffectQueryAttempt}
    {outcome : SignedEffectOutcome} {time : Time} {write : WriteResult}
    {entry : JournalEntry .effectCoordinator}
    (hfound : j.records.find? request.effect.effectId = some old)
    (heffect : old.record.effect = request.effect)
    (hattempt : old.record.queryAttempt request = some attempt)
    (h : (j.carryOut (completeRetainedQuery old attempt outcome time) write).1 = .ok entry) :
    RecordMap.Holds (j.carryOut (completeRetainedQuery old attempt outcome time) write).2.records
      request.effect.effectId (fun r => r.RetainsOutcomeFor request outcome) := by
  cases hplan : completeRetainedQuery old attempt outcome time with
  | error error =>
    rw [hplan] at h
    cases h
  | ok plan =>
    rw [hplan] at h
    cases plan with
    | retained result =>
      unfold completeRetainedQuery at hplan
      split at hplan
      · simp only [bind_unit_eq_ok, refuseIf_eq_ok, not_not] at hplan
        exact ⟨old, hfound, heffect, attempt, hattempt, hplan.1⟩
      · cases hplan
      · simp at hplan
    | store r k =>
      have hretains := retainsOutcomeFor_completeRetainedQuery heffect hattempt hplan
      obtain ⟨stored, rfl, -, hstored⟩ := Journal.carryOut_store_ok h
      rw [hretains.1] at hstored
      exact ⟨stored, hstored, hretains⟩

/-- `_begin_query_record` leaves behind an entry in which the search finds its attempt. -/
theorem beginQueryRecord_finds {request : SignedEffectQueryRequest}
    {recordedAt : Option RecordedAt} {now : Time} {allowTerminal : Bool} {write : WriteResult}
    {entry : JournalEntry .effectCoordinator} {attempt : EffectQueryAttempt}
    (h : (j.carryOut (j.beginQueryRecord request recordedAt now allowTerminal) write).1 =
      .ok (entry, attempt)) :
    (j.carryOut (j.beginQueryRecord request recordedAt now allowTerminal)
        write).2.records.find? request.effect.effectId = some entry ∧
      entry.record.effect = request.effect ∧
      entry.record.queryAttempt request = some attempt := by
  cases hplan : j.beginQueryRecord request recordedAt now allowTerminal with
  | error error =>
    rw [hplan] at h
    cases h
  | ok plan =>
    rw [hplan] at h
    simp only [Journal.beginQueryRecord, bind_eq_ok, orRaise_eq_ok] at hplan
    obtain ⟨found, hlookup, old, rfl, hplan⟩ := hplan
    obtain ⟨hfound, heffect⟩ := Journal.lookup_eq_some.mp hlookup
    split at hplan
    · rename_i retained hretained
      obtain rfl := Except.ok.inj hplan
      obtain ⟨rfl, rfl⟩ := Prod.mk.inj (Except.ok.inj h)
      exact ⟨hfound, heffect, hretained⟩
    · rename_i hnone
      simp only [bind_eq_ok] at hplan
      obtain ⟨⟨⟩, -, ⟨⟩, -, time, -, ⟨⟩, -, hplan⟩ := hplan
      obtain rfl := Except.ok.inj hplan
      obtain ⟨stored, hrecord, hresult, hstored⟩ := Journal.carryOut_store_ok h
      obtain ⟨rfl, rfl⟩ := Prod.mk.inj hresult
      have hstoredEffect : stored.record.effect = request.effect := by
        rw [hrecord]
        exact heffect
      rw [hstoredEffect] at hstored
      refine ⟨hstored, hstoredEffect, ?_⟩
      rw [hrecord, queryAttempt, appendAttempt, List.findSome?_append,
        show List.findSome? _ old.record.attempts = none from hnone]
      simp [newQueryAttempt, CoordinationAttempt.query?]

/-- `answer_query` returns an outcome that the journal retains for the request. -/
theorem answerQuery_retains {request : SignedEffectQueryRequest} {issue : OutcomeIssuer}
    {recordedAt : Option RecordedAt} {now : Time} {writes : WriteResult × WriteResult}
    {outcome : SignedEffectOutcome}
    (h : (j.answerQuery request issue recordedAt now writes).1 = .ok outcome) :
    RecordMap.Holds (j.answerQuery request issue recordedAt now writes).2.records
      request.effect.effectId (fun r => r.RetainsOutcomeFor request outcome) := by
  unfold Journal.answerQuery at h ⊢
  split at h
  · cases h
  · rename_i retained hanswer
    obtain rfl := Except.ok.inj h
    simp only [Journal.issueAnswer, bind_eq_ok, orRaise_eq_ok] at hanswer
    obtain ⟨⟨⟩, -, found, hlookup, entry, rfl, hanswer⟩ := hanswer
    obtain ⟨hfound, heffect⟩ := Journal.lookup_eq_some.mp hlookup
    split at hanswer
    · rename_i kept hkept
      obtain ⟨attempt, hattempt, houtcome⟩ := Option.bind_eq_some_iff.mp hkept
      obtain rfl := Sum.inl.inj (Except.ok.inj hanswer)
      exact ⟨entry, hfound, heffect, attempt, hattempt, houtcome⟩
    · simp at hanswer
  · rename_i time issued hanswer
    obtain ⟨entry, hok, rfl⟩ := map_eq_ok.mp h
    dsimp only
    unfold Journal.completeQueryRecord at hok ⊢
    split at hok
    · cases hok
    · rename_i old when_ attempt hquery
      simp only [Journal.findQuery, bind_eq_ok, orRaise_eq_ok] at hquery
      obtain ⟨⟨⟩, -, found, hlookup, old, rfl, ⟨⟩, -, time, -, hquery⟩ := hquery
      simp only [pure_eq_ok, Except.ok.injEq, Prod.mk.injEq] at hquery
      obtain ⟨rfl, rfl, hattempt⟩ := hquery
      obtain ⟨hfound, heffect⟩ := Journal.lookup_eq_some.mp hlookup
      exact completeRetainedQuery_retains hfound heffect hattempt hok
    · rw [if_pos rfl] at hok ⊢
      split at hok
      · cases hok
      · rename_i old attempt j' hbegun
        obtain ⟨hfound, heffect, hattempt⟩ := beginQueryRecord_finds (congrArg Prod.fst hbegun)
        rw [hbegun] at hfound
        exact completeRetainedQuery_retains hfound heffect hattempt hok

/-! ## The repeated call -/

/-- Whatever the clock, the disk and the issuer do, the operation gives this reply, or the
    refusal of `_assert_writer`, and touches nothing. -/
def Repeats (j : Journal .effectCoordinator) (op : EffectOp) (reply : EffectReply) : Prop :=
  ∀ env, op.run j env = (j.assertWriter.map (fun _ => reply), j)

/-- A plan that returns what is retained. -/
theorem carryOut_guarded_retained {α : Type} {plan : Except PyError (Plan .effectCoordinator α)}
    {result : α} (h : plan = .ok (.retained result)) (write : WriteResult) :
    j.carryOut (j.guarded plan) write = (j.assertWriter.map (fun _ => result), j) := by
  rw [Journal.guarded, h]
  cases j.assertWriter with
  | error error => rfl
  | ok u => rfl

theorem repeats_prepareEffect {request : SignedEffectPrepareRequest}
    {receipt : CoordinationReceipt} (issue : ReceiptIssuer) (recordedAt : Option RecordedAt)
    (h : RecordMap.Holds j.records request.effect.effectId
      (fun r => r.RetainsReceiptFor request receipt)) :
    j.Repeats (.prepareEffect request issue recordedAt) (.receipt receipt) := by
  obtain ⟨e, hfound, heffect, a, hattempt, hreceipt⟩ := h
  intro env
  have hlookup := Journal.lookup_eq_some.mpr ⟨hfound, heffect⟩
  have hplan : j.prepareEffect request issue recordedAt env.now = .ok (.retained receipt) := by
    simp [Journal.prepareEffect, hlookup, hattempt, hreceipt]
  rw [EffectOp.run, carryOut_guarded_retained hplan]
  cases j.assertWriter with
  | error error => rfl
  | ok u => rfl

omit [RecordCodec] in
/-- A retried commit is admitted with the acceptance it retains, in every later state. -/
theorem commitAdmission_retained {e : JournalEntry .effectCoordinator}
    {request : SignedEffectCommitRequest} {acceptance : DurableCommitAcceptance}
    (h : e.record.RetainsAcceptanceFor request acceptance) :
    ∃ admission, commitAdmission request (e, false) = .ok admission ∧
      admission.acceptance = acceptance := by
  obtain ⟨-, a, hattempt, hacceptance⟩ := h
  have hlatest : e.record.latestAcceptance = some acceptance :=
    (e.history.latestAcceptance_eq (mem_of_commitAttempt hattempt).1).trans hacceptance
  have hpost := e.history.latestAcceptance_ne_none.mp (by simp [hlatest])
  cases hterminal : e.record.state.dispatchedTerminal with
  | true =>
    obtain ⟨o, ho⟩ := e.history.exists_terminalOutcome hterminal
    have hstate := CoordinationState.dispatchedTerminal_terminal hterminal
    refine ⟨⟨.terminal, request, e.record, acceptance, some o⟩, ?_, rfl⟩
    simp [commitAdmission, CommitAdmission.requireConsistent, hlatest, ho, hattempt, hacceptance,
      hstate]
  | false =>
    have hnone := e.history.terminalOutcome_none hterminal
    have hstate : e.record.state = .commitAccepted ∨ e.record.state = .unknownEffect := by
      revert hpost hterminal
      cases e.record.state <;> decide
    refine ⟨⟨.indeterminate, request, e.record, acceptance, none⟩, ?_, rfl⟩
    rcases hstate with hstate | hstate <;>
      simp [commitAdmission, CommitAdmission.requireConsistent, hlatest, hnone, hattempt,
        hacceptance, hstate]

theorem repeats_beginCommit {request : SignedEffectCommitRequest}
    {acceptance : DurableCommitAcceptance} (issue : CommitAcceptanceIssuer)
    (recordedAt : Option RecordedAt)
    (h : RecordMap.Holds j.records request.effect.effectId
      (fun r => r.RetainsAcceptanceFor request acceptance)) :
    ∃ admission : CommitAdmission, admission.acceptance = acceptance ∧
      j.Repeats (.beginCommit request issue recordedAt) (.admission admission) := by
  obtain ⟨e, hfound, hretains⟩ := h
  obtain ⟨admission, hadmission, hacceptance⟩ := commitAdmission_retained hretains
  obtain ⟨heffect, a, hattempt, -⟩ := hretains
  refine ⟨admission, hacceptance, fun env => ?_⟩
  have hlookup := Journal.lookup_eq_some.mpr ⟨hfound, heffect⟩
  have hplan : j.beginCommitRecord request (some issue) recordedAt env.now =
      .ok (.retained (e, false)) := by
    simp [Journal.beginCommitRecord, hlookup, orRaise, hattempt]
  rw [EffectOp.run, Journal.beginCommit, carryOut_guarded_retained hplan]
  cases j.assertWriter with
  | error error => rfl
  | ok u =>
    simp only [Except.map, ok_bind, hadmission]
    rfl

theorem repeats_answerQuery {request : SignedEffectQueryRequest} {outcome : SignedEffectOutcome}
    (issue : OutcomeIssuer) (recordedAt : Option RecordedAt)
    (h : RecordMap.Holds j.records request.effect.effectId
      (fun r => r.RetainsOutcomeFor request outcome)) :
    j.Repeats (.answerQuery request issue recordedAt) (.outcome outcome) := by
  obtain ⟨e, hfound, heffect, a, hattempt, houtcome⟩ := h
  intro env
  have hlookup := Journal.lookup_eq_some.mpr ⟨hfound, heffect⟩
  have hanswer : j.issueAnswer request issue recordedAt env.now =
      j.assertWriter.map (fun _ => .inl outcome) := by
    rw [Journal.issueAnswer]
    cases j.assertWriter with
    | error error => rfl
    | ok u => simp [hlookup, orRaise, hattempt, houtcome, Except.map]
  rw [EffectOp.run, Journal.answerQuery, hanswer]
  cases j.assertWriter with
  | error error => rfl
  | ok u => rfl

end Journal

/-- The two calls carry the same signed request. -/
inductive EffectOp.SameRequest : EffectOp → EffectOp → Prop where
  | prepareEffect (request : SignedEffectPrepareRequest) (issue issue' : ReceiptIssuer)
      (recordedAt recordedAt' : Option RecordedAt) :
      SameRequest (.prepareEffect request issue recordedAt)
        (.prepareEffect request issue' recordedAt')
  | beginCommit (request : SignedEffectCommitRequest) (issue issue' : CommitAcceptanceIssuer)
      (recordedAt recordedAt' : Option RecordedAt) :
      SameRequest (.beginCommit request issue recordedAt)
        (.beginCommit request issue' recordedAt')
  | answerQuery (request : SignedEffectQueryRequest) (issue issue' : OutcomeIssuer)
      (recordedAt recordedAt' : Option RecordedAt) :
      SameRequest (.answerQuery request issue recordedAt)
        (.answerQuery request issue' recordedAt')

/-- The signed artifact of a reply. -/
inductive SignedReply where
  | receipt (receipt : CoordinationReceipt)
  | acceptance (acceptance : DurableCommitAcceptance)
  | outcome (outcome : SignedEffectOutcome)

def EffectReply.signed? : EffectReply → Option SignedReply
  | .receipt r => some (.receipt r)
  | .admission a => some (.acceptance a.acceptance)
  | .record _ => none
  | .outcome o => some (.outcome o)

theorem JournalRun.holds {j j' : Journal .effectCoordinator} (h : JournalRun j j')
    (hconsistent : j.Consistent) {k : EffectId} {P : CoordinationJournalRecord → Prop}
    (hextends : ∀ r r', r.Extends .any r' → P r → P r') (hj : j.Holds k P) : j'.Holds k P :=
  (h.stepped hconsistent).holds hextends hj

/-- A request that was answered once gets the same signed answer ever after. -/
theorem Journal.Reachable.replies_idempotent {j j' : Journal .effectCoordinator}
    (hj : j.Reachable) {op again : EffectOp} {env : OpEnv} {reply : EffectReply}
    (hreply : (op.run j env).1 = .ok reply) (hrun : JournalRun (op.run j env).2 j')
    (hsame : op.SameRequest again) :
    ∃ reply' : EffectReply, reply'.signed? = reply.signed? ∧ j'.Repeats again reply' := by
  have hconsistent := (op.run_stepped env hj.consistent).consistent
  have husable := op.usable_of_ok hreply
  cases hsame with
  | prepareEffect request issue issue' recordedAt recordedAt' =>
    obtain ⟨receipt, hok, rfl⟩ := map_eq_ok.mp hreply
    obtain ⟨e, hfound, hretains⟩ := Journal.prepareEffect_retains hok
    have hlater := hrun.holds hconsistent (fun _ _ hext => hext.retainsReceiptFor)
      (hconsistent.holds husable hfound hretains)
    exact ⟨_, rfl, Journal.repeats_prepareEffect issue' recordedAt' hlater.1⟩
  | beginCommit request issue issue' recordedAt recordedAt' =>
    obtain ⟨admission, hok, rfl⟩ := map_eq_ok.mp hreply
    obtain ⟨e, hfound, hretains⟩ := Journal.beginCommit_retains hok
    have hlater := hrun.holds hconsistent (fun _ _ hext => hext.retainsAcceptanceFor)
      (hconsistent.holds husable hfound hretains)
    obtain ⟨admission', hacceptance, hrepeats⟩ :=
      Journal.repeats_beginCommit issue' recordedAt' hlater.1
    exact ⟨_, by rw [EffectReply.signed?, EffectReply.signed?, hacceptance], hrepeats⟩
  | answerQuery request issue issue' recordedAt recordedAt' =>
    obtain ⟨outcome, hok, rfl⟩ := map_eq_ok.mp hreply
    obtain ⟨e, hfound, hretains⟩ := Journal.answerQuery_retains hok
    have hlater := hrun.holds hconsistent (fun _ _ hext => hext.retainsOutcomeFor)
      (hconsistent.holds husable hfound hretains)
    exact ⟨_, rfl, Journal.repeats_answerQuery issue' recordedAt' hlater.1⟩

end

section

open Sample

/-- The receipt in the reply of an operation, if there is one. -/
def Sample.receiptOf : Except PyError EffectReply → Option CoordinationReceipt
  | .ok (.receipt r) => some r
  | _ => none

set_option maxRecDepth 10000 in
/-- A restarted coordinator returns the receipt it issued, without its issuer. -/
theorem replies_idempotent_restarted :
    ∃ reply', EffectReply.signed? reply' = some (.receipt sampleReceipt) ∧
      (prepareEffect.run effectJournal (calm 1)).2.restart.Repeats
        (.prepareEffect samplePrepare (fun _ _ => .error (.value "the issuer is not called")) none)
        reply' := by
  have hreceipt : receiptOf (prepareEffect.run effectJournal (calm 1)).1 = some sampleReceipt := by
    decide +kernel
  have hreachable : effectJournal.Reachable :=
    ⟨"coordinator", .written, effectJournal, by decide +kernel, .refl⟩
  generalize hreply : (prepareEffect.run effectJournal (calm 1)).1 = result at hreceipt
  rcases result with error | r | a | e | o
  · cases hreceipt
  · obtain rfl := Option.some.inj hreceipt
    exact hreachable.replies_idempotent hreply (.single (.restart _)) (.prepareEffect _ _ _ _ _)
  · cases hreceipt
  · cases hreceipt
  · cases hreceipt

end

end AegisOt
