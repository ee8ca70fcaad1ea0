import AegisOt.Coordination.Proofs.Atomicity
import AegisOt.Coordination.Proofs.Issuing
import AegisOt.Transport.Driver

/-!
# A commit under clock skew

`_prepare` verifies a receipt whose `prepared_at` may be up to `MAX_COORDINATION_FUTURE_SKEW`
ahead of the gateway's clock, and retains it at the later of the two times. `_commit` then
issues its request at the raw reading of the clock, and the model of the request refuses an
issue time before `prepared_at` with a `ValueError` that nothing translates. The main theorem
says that the commit step of a call behaves exactly when its clock has reached `prepared_at`.
-/

namespace AegisOt

open Program PortProgram CoordinationJournalRecord

/-- `CoordinationJournalError`, but not `CoordinationCollisionError`. -/
def PyError.Certain (error : PyError) : Prop :=
  error.isJournalError = true ∧ ∀ message, error ≠ .collision message

/-- The handlers of the port take such an exception for a journal failure. -/
theorem PyError.Certain.translate {cause : PyError} (h : cause.Certain)
    (onCollision onJournal : PortError) :
    (PortError.python cause).translate onCollision onJournal = onJournal := by
  cases cause with
  | collision message => exact absurd rfl (h.2 message)
  | value | callback => cases h.1
  | _ => simp [PortError.translate, PyError.isJournalError]

section

variable [Primitives]

/-! ## Issuing a commit request -/

/-- A signer whose credential admits commit requests at this time. -/
structure WorkloadSigner.CanCommit (signer : WorkloadSigner) (issuedAt : Time) : Prop where
  matching : signer.Matches
  role : signer.credential.credential.role = .gateway
  audience : effectCoordinatorAudience ∈ signer.credential.credential.audiences
  valid : credentialClaimValidAt signer.credential issuedAt = true

namespace SignedEffectCommitRequest

/-- The request `issue` is about to sign. -/
def unsigned (receipt : CoordinationReceipt) (signer : WorkloadSigner) (requestNonce : String)
    (issuedAt expiresAt : Time) : SignedEffectCommitRequest :=
  { effect := receipt.effect
    effectSha256 := receipt.effect.digest
    audience := effectCoordinatorAudience
    senderCredential := signer.credential
    requestNonce := requestNonce
    issuedAt := issuedAt
    expiresAt := expiresAt
    signature := ""
    receipt := receipt
    receiptSha256 := receipt.digest }

/-- What an issued request holds. -/
structure Issued (request : SignedEffectCommitRequest) (receipt : CoordinationReceipt)
    (issuedAt : Time) : Prop where
  effect : request.effect = receipt.effect
  receipt : request.receipt = receipt
  time : request.issuedAt = issuedAt
  signed : request.signature ≠ ""
  verified : request.verify = true

variable {receipt : CoordinationReceipt} {signer : WorkloadSigner} {requestNonce : String}
  {issuedAt expiresAt : Time}

theorem issued_of_issue (hverify : SignaturesVerify) {request : SignedEffectCommitRequest}
    (h : issue receipt signer requestNonce issuedAt expiresAt = .ok request) :
    request.Issued receipt issuedAt := by
  simp only [issue, bind_unit_eq_ok] at h
  obtain ⟨-, hmatch, h⟩ := h
  obtain rfl := Except.ok.inj h
  rw [requireSignerMatch, refuseIf_eq_ok, Bool.not_eq_false] at hmatch
  refine ⟨rfl, rfl, rfl, hverify.nonempty _ _, ?_⟩
  rw [verify, verifyWith, verifySigned, Bool.and_eq_true, decide_eq_true_eq]
  exact ⟨hverify.nonempty _ _, hmatch⟩

/-- With signatures that verify, only the nonce and the preparation time can stop `issue`. -/
theorem exists_issue_iff (hverify : SignaturesVerify) (hsigner : signer.CanCommit issuedAt)
    (heffect : receipt.effect.validate = .ok ())
    (hwindow : issuedAt < expiresAt ∧ expiresAt - issuedAt ≤ maxCoordinationRequestTtl) :
    (∃ request, issue receipt signer requestNonce issuedAt expiresAt = .ok request) ↔
      lengthWithin 16 256 requestNonce = true ∧ receipt.preparedAt ≤ issuedAt := by
  have hmatch := hsigner.matching.requireSignerMatch hverify
  simp only [issue, requireClosedCommit, SignedRequest.validateCommon, validateRequestWindow,
    bind_unit_eq_ok, refuseIf_eq_ok, heffect, hsigner.role, hsigner.valid,
    hsigner.audience, not_lt, ne_eq, not_true_eq_false, not_false_eq_true, true_and, and_true,
    Bool.not_eq_false, pure_eq_ok, exists_and_left]
  constructor
  · rintro ⟨⟨⟨-, hnonce, -⟩, htime⟩, -⟩
    exact ⟨hnonce, htime⟩
  · rintro ⟨hnonce, htime⟩
    exact ⟨⟨⟨by decide, hnonce, not_le.mpr hwindow.1, hwindow.2⟩, htime⟩, hmatch _, _, rfl⟩

end SignedEffectCommitRequest

/-! ## Parts of a call -/

/-- An action that hands a commit request to the transport. -/
def PortAct.SendsCommit : PortAct → Prop
  | .exchange (.commit _) => True
  | _ => False

instance : DecidablePred PortAct.SendsCommit := fun action => by
  unfold PortAct.SendsCommit
  split <;> infer_instance

/-- An action that leaves the journal alone. -/
def PortAct.Quiet : PortAct → Prop
  | .journal _ => False
  | _ => True

namespace CoordinatedPort

theorem quiet_identities (port : CoordinatedPort) (time : Time) (pinned : Bool) :
    (port.identities time pinned).Uses PortAct.Quiet :=
  uses_bind ((uses_call _).mpr trivial) (fun _ => trivial)

theorem quiet_verifyPrepareRequest (port : CoordinatedPort) (request : SignedEffectPrepareRequest)
    (time : Time) : (port.verifyPrepareRequest request time).Uses PortAct.Quiet :=
  uses_bind ((uses_call _).mpr trivial) (fun _ => trivial)

theorem quiet_verifyReceipt (port : CoordinatedPort) (receipt : CoordinationReceipt)
    (request : SignedEffectPrepareRequest) (target : ResolvedWorkloadIdentity) (time : Time) :
    (port.verifyReceipt receipt request target time).Uses PortAct.Quiet :=
  uses_bind ((uses_call _).mpr trivial) (fun _ => trivial)

theorem quiet_raw (request : PortRequest) (consequential : Bool) :
    (raw request consequential).Uses PortAct.Quiet := by
  refine uses_bind ((uses_call _).mpr trivial) ?_
  intro exchanged
  cases exchanged with
  | response response => exact uses_bind (uses_require _ _) (fun _ => trivial)
  | _ => trivial

theorem quiet_drawNonce : drawNonce.Uses PortAct.Quiet :=
  uses_bind ((uses_call _).mpr trivial) (fun _ => uses_bind (uses_require _ _) (fun _ => trivial))

theorem raising_losePrepare (request : SignedEffectPrepareRequest) (error : PortError) :
    (losePrepare request error).Raising := by
  unfold losePrepare
  split
  · exact raising_bind fun _ => raising_bind fun _ => raising_raise _
  · exact raising_raise _

theorem raising_abandonPrepare (request : SignedEffectPrepareRequest)
    (response : HttpExchangeResponse) (recordedAt : Time) (error : PortError) :
    (abandonPrepare request response recordedAt error).Raising := by
  unfold abandonPrepare
  split
  · exact raising_bind fun _ => raising_raise _
  · exact raising_raise _

theorem raising_refusePrepare (request : SignedEffectPrepareRequest)
    (response : HttpExchangeResponse) (retainedAt : Time) :
    (refusePrepare request response retainedAt).Raising :=
  raising_bind fun _ => raising_bind fun _ => raising_raise _

end CoordinatedPort

variable [RecordCodec]

/-! ## The armed record -/

/-- The plan of a guarded operation that returned. -/
theorem Journal.plan_of_carryOut_guarded {role : JournalRole} {α : Type} {j j' : Journal role}
    {plan : Except PyError (Plan role α)} {write : WriteResult} {a : α}
    (h : j.carryOut (j.guarded plan) write = (.ok a, j')) :
    ∃ p, plan = .ok p ∧ j.carryOut (.ok p) write = (.ok a, j') := by
  cases hplan : j.guarded plan with
  | error error =>
    rw [hplan] at h
    cases congrArg Prod.fst h
  | ok p =>
    obtain ⟨⟨⟩, -, hp⟩ := bind_eq_ok.mp hplan
    rw [hplan] at h
    exact ⟨p, hp, h⟩

/-- A store that returned put its record in front of the others. -/
theorem Journal.stored_of_carryOut {role : JournalRole} {α : Type} {j j' : Journal role}
    {record : CoordinationJournalRecord} {k : JournalEntry role → α} {write : WriteResult} {a : α}
    (h : j.carryOut (.ok (.store record k)) write = (.ok a, j')) :
    ∃ entry, entry.record = record ∧ a = k entry ∧
      j'.records = j.records.insert record.effect.effectId entry ∧
      ∃ indexes, actionIndexes j'.records = .ok indexes := by
  have hcases := j.store_cases record write
  simp only [Journal.carryOut] at h
  generalize j.store record write = stored at hcases h
  cases hcases with
  | refused _ error _ => cases congrArg Prod.fst h
  | uncertain entry hentry replaced hwritable => cases congrArg Prod.fst h
  | stored entry hentry hwritable =>
    obtain ⟨hresult, rfl⟩ := Prod.mk.inj h
    subst hentry
    exact ⟨entry, rfl, (Except.ok.inj hresult).symm, rfl, hwritable.indexed⟩

/-- The journal is armed with this receipt and retains no commit for its effect. -/
structure Journal.Armed (j : Journal .gateway) (receipt : CoordinationReceipt) : Prop where
  indexed : ∃ indexes, actionIndexes j.records = .ok indexes
  verified : receipt.verify = true
  armed : ∃ e a, j.records.find? receipt.effect.effectId = some e ∧
    e.record.effect = receipt.effect ∧ e.record.state = .dispatchArmed ∧
    e.record.attempts = [.prepare a] ∧ a.receipt = some receipt

/-- `begin` of an effect that is not recorded creates its record. -/
theorem Journal.created_of_begin {j j' : Journal .gateway} {request : SignedEffectPrepareRequest}
    {time : Time} {env : OpEnv} {e : JournalEntry .gateway}
    (hnone : j.records.find? request.effect.effectId = none)
    (h : GatewayOp.run (.begin request (some (.aware time))) j env = (.ok e, j')) :
    e.record = newRecord request none time ∧
      j'.records.find? request.effect.effectId = some e := by
  obtain ⟨p, hplan, hstore⟩ := Journal.plan_of_carryOut_guarded h
  simp only [Journal.begin, bind_eq_ok] at hplan
  obtain ⟨found, hlookup, hplan⟩ := hplan
  rw [Journal.lookup_eq_none.mpr hnone] at hlookup
  obtain rfl := Except.ok.inj hlookup
  simp only [bind_eq_ok] at hplan
  obtain ⟨⟨⟩, -, when_, hwhen, record, hrecord, hp⟩ := hplan
  obtain rfl : time = when_ := Except.ok.inj hwhen
  obtain rfl := eq_newRecord_of_createRecord hrecord
  obtain rfl := Except.ok.inj hp
  obtain ⟨entry, hentry, rfl, hrecords, -⟩ := Journal.stored_of_carryOut hstore
  refine ⟨hentry, ?_⟩
  rw [hrecords]
  exact SortedMap.find?_insert_self _ _ _

/-- Retaining the receipt arms the record that `begin` created. -/
theorem Journal.armed_of_retainPreparation {j j' : Journal .gateway}
    {request : SignedEffectPrepareRequest} {receipt : CoordinationReceipt} {time recordedAt : Time}
    {env : OpEnv} {e e' : JournalEntry .gateway}
    (hfound : j.records.find? request.effect.effectId = some e)
    (hcreated : e.record = newRecord request none time)
    (h : GatewayOp.run (.retainPreparation request receipt (some (.aware recordedAt))) j env =
      (.ok e', j')) : j'.Armed receipt ∧ receipt.effect = request.effect := by
  have heffect : e.record.effect = request.effect := by rw [hcreated]; rfl
  obtain ⟨p, hplan, hstore⟩ := Journal.plan_of_carryOut_guarded h
  simp only [Journal.retainPreparation, bind_eq_ok] at hplan
  obtain ⟨⟨⟩, hbinds, found, hlookup, entry, hentry, attempt, hattempt, hplan⟩ := hplan
  rw [Journal.lookup_eq_some.mpr ⟨hfound, heffect⟩] at hlookup
  obtain rfl := Except.ok.inj hlookup
  obtain rfl := Except.ok.inj hentry
  obtain ⟨-, hbound⟩ := not_or.mp (refuseIf_eq_ok.mp hbinds)
  obtain ⟨-, hreceipt, -, -, hsame⟩ := not_not.mp hbound
  have hmem := (mem_of_prepareAttempt (orRaise_eq_ok.mp hattempt)).1
  rw [hcreated] at hmem
  obtain rfl : attempt = newPrepareAttempt 1 request none time := by simpa [newRecord] using hmem
  have hnone : (newPrepareAttempt 1 request none time).receipt = none := rfl
  simp only [hnone, bind_eq_ok] at hplan
  obtain ⟨⟨⟩, -, when_, -, updated, hupdated, hp⟩ := hplan
  obtain rfl := Except.ok.inj hp
  simp only [retainReceipt, bind_unit_eq_ok, hcreated, state_replaceAttempt] at hupdated
  have hreceived : (newRecord request none time).state = .received := rfl
  rw [if_pos hreceived] at hupdated
  obtain ⟨stored, rfl, -, hrecords, hindexed⟩ := Journal.stored_of_carryOut hstore
  have hkey : stored.record.effect = request.effect := by
    obtain ⟨-, -, -, hrecord⟩ := transition_eq_ok.mp hupdated.2
    rw [← hrecord]
    rfl
  let answered : EffectPrepareAttempt :=
    { newPrepareAttempt 1 request none time with
      status := .responseRetained
      receipt := some receipt
      updatedAt := when_ }
  have hattempts : stored.record.attempts = [.prepare answered] := by
    rw [attempts_transition hupdated.2]
    rfl
  refine ⟨⟨hindexed, hreceipt, stored, answered, ?_, hkey.trans hsame.symm,
    state_transition hupdated.2, hattempts, rfl⟩, hsame⟩
  rw [hrecords, hkey, hsame]
  exact SortedMap.find?_insert_self _ _ _

theorem Journal.error_of_persist {role : JournalRole} {j : Journal role}
    {records : RecordMap role} {write : WriteResult} {error : PyError}
    (h : (j.persist records write).1 = .error error) : error.Certain := by
  cases write with
  | refused message =>
    obtain rfl := Except.error.inj h
    exact ⟨rfl, fun message heq => by cases heq⟩
  | failed replaced =>
    by_cases hfull : j.atCapacity records
    · simp only [Journal.persist, hfull, if_true] at h
      obtain rfl := Except.error.inj h
      exact ⟨rfl, fun message heq => by cases heq⟩
    · simp only [Journal.persist, hfull, if_false] at h
      obtain rfl := Except.error.inj h
      exact ⟨rfl, fun message heq => by cases heq⟩
  | written =>
    by_cases hfull : j.atCapacity records
    · simp only [Journal.persist, hfull, if_true] at h
      obtain rfl := Except.error.inj h
      exact ⟨rfl, fun message heq => by cases heq⟩
    · simp only [Journal.persist, hfull, if_false] at h
      cases h

/-- A store that raised, although its record keeps the indexes consistent. -/
theorem Journal.error_of_store {role : JournalRole} {j : Journal role}
    {record : CoordinationJournalRecord} {write : WriteResult} {error : PyError}
    (hindexed : ∀ entry : JournalEntry role, entry.record = record →
      ∃ indexes, actionIndexes (j.records.insert entry.record.effect.effectId entry) =
        .ok indexes)
    (h : (j.store record write).1 = .error error) : error.Certain := by
  unfold Journal.store at h
  split at h
  · rename_i invalid hinvalid
    obtain rfl := Except.error.inj h
    exact raises_validatedRecord (P := PyError.Certain) (fun _ => ⟨rfl, fun message heq => by cases heq⟩)
      (fun _ _ => ⟨rfl, fun message heq => by cases heq⟩) _ hinvalid
  · rename_i entry hvalidated
    obtain ⟨indexes, hok⟩ := hindexed entry (validatedRecord_eq_ok.mp hvalidated)
    simp only [hok] at h
    split at h
    · rename_i refused j' hpersist
      obtain rfl := Except.error.inj h
      exact Journal.error_of_persist (congrArg Prod.fst hpersist)
    · cases h

/-- A guarded operation that stores such a record. -/
theorem Journal.error_of_carryOut {role : JournalRole} {α : Type} {j : Journal role}
    {record : CoordinationJournalRecord} {k : JournalEntry role → α} {write : WriteResult}
    {error : PyError}
    (hindexed : ∀ entry : JournalEntry role, entry.record = record →
      ∃ indexes, actionIndexes (j.records.insert entry.record.effect.effectId entry) =
        .ok indexes)
    (h : (j.carryOut (j.guarded (.ok (.store record k))) write).1 = .error error) :
    error.Certain := by
  unfold Journal.guarded Journal.assertWriter at h
  by_cases hunusable : j.unusable = true
  · simp only [refuseIf_pos hunusable, error_bind, Journal.carryOut] at h
    obtain rfl := Except.error.inj h
    exact ⟨rfl, fun message heq => by cases heq⟩
  by_cases hunlocked : j.lockHeld = false
  · simp only [refuseIf_neg hunusable, refuseIf_pos hunlocked, error_bind, ok_bind,
      Journal.carryOut] at h
    obtain rfl := Except.error.inj h
    exact ⟨rfl, fun message heq => by cases heq⟩
  simp only [refuseIf_neg hunusable, refuseIf_neg hunlocked, ok_bind, Journal.carryOut] at h
  cases hstore : j.store record write with
  | mk result j' =>
    rw [hstore] at h
    cases result with
    | ok entry => cases h
    | error refused =>
      obtain rfl := Except.error.inj h
      exact Journal.error_of_store hindexed (congrArg Prod.fst hstore)

/-- The attempt `begin_commit` appends to an armed record. -/
def intentAttempt (request : SignedEffectCommitRequest) (time : Time) : EffectCommitAttempt :=
  { sequence := 2
    requestSha256 := request.digest
    status := .requestRetained
    retainedAt := time
    updatedAt := time
    request := request
    acceptance := none
    outcome := none
    failureReason := none
    failureEvidenceSha256 := none }

omit [RecordCodec] in
theorem requireExact_intentAttempt {request : SignedEffectCommitRequest}
    {receipt : CoordinationReceipt} {time : Time} (hissued : request.Issued receipt time)
    (hverified : receipt.verify = true) : (intentAttempt request time).requireExact = .ok () := by
  simp [EffectCommitAttempt.requireExact, AttemptBase.validateTimes, intentAttempt,
    hissued.signed, hissued.verified, hissued.receipt, hverified, hissued.time,
    maxAttemptsPerEffect]

/-- On an armed journal `begin_commit` raises nothing but journal errors, and no collision. -/
theorem Journal.Armed.beginCommit {j j' : Journal .gateway} {receipt : CoordinationReceipt}
    (harmed : j.Armed receipt) {request : SignedEffectCommitRequest} {time : Time}
    (hissued : request.Issued receipt time) {env : OpEnv} {error : PyError}
    (h : GatewayOp.run (.beginCommit request (some (.aware time))) j env = (.error error, j')) :
    error.Certain := by
  obtain ⟨e, a, hfound, heffect, hstate, hattempts, hreceipt⟩ := harmed.armed
  have hlookup : j.lookup request.effect = .ok (some e) := by
    rw [hissued.effect]
    exact Journal.lookup_eq_some.mpr ⟨hfound, heffect⟩
  have hplan : j.beginCommitRecord request none (some (.aware time)) env.now =
      .ok (.store (e.record.appendAttempt (.commit (intentAttempt request time)))
        (fun stored => (stored, true))) := by
    have hexact := requireExact_intentAttempt hissued harmed.verified
    have hnew : e.record.commitAttempt request = none := by simp [commitAttempt, hattempts]
    have hcommit : e.record.hasCommit = false := by
      simp [hasCommit, hattempts, CoordinationAttempt.isCommit]
    have hretains : e.record.retainsReceipt request.receipt = true := by
      simp [CoordinationJournalRecord.retainsReceipt, hattempts, hissued.receipt,
        CoordinationAttempt.receipt?, hreceipt]
    have hcapacity : e.record.requireAttemptCapacity = .ok () := by
      simp [requireAttemptCapacity, hattempts, maxAttemptsPerEffect]
    have hcommitted : committedRecord e.record request none time =
        .ok (e.record.appendAttempt (.commit (intentAttempt request time))) := by
      have hlength : e.record.attempts.length + 1 = 2 := by rw [hattempts]; rfl
      simp only [committedRecord, hlength]
      change (validating (raising (intentAttempt request time).requireExact) >>= _) = _
      rw [hexact]
      rfl
    simp [Journal.beginCommitRecord, hlookup, hnew, hcommit, hstate, hretains, hcapacity,
      hcommitted, checkWhen, issueAcceptanceFor, CoordinationState.terminal, orRaise]
  have hindexed : ∀ entry : JournalEntry .gateway,
      entry.record = e.record.appendAttempt (.commit (intentAttempt request time)) →
      ∃ indexes, actionIndexes (j.records.insert entry.record.effect.effectId entry) =
        .ok indexes := by
    intro entry hentry
    have hkey : entry.record.effect = e.record.effect := by rw [hentry]; rfl
    have hsame : SameAction e.record entry.record :=
      sameAction_of_append rfl hkey (by rw [hentry]; rfl)
    refine actionIndexes_insert ?_ hsame harmed.indexed
    rw [hkey, heffect]
    exact hfound
  have hrun := congrArg Prod.fst h
  simp only [GatewayOp.run, Journal.beginCommitIntent, hplan] at hrun
  generalize hresult : (j.carryOut (j.guarded (.ok (.store _ _))) env.writes.1).1 = raised at hrun
  cases raised with
  | ok stored => cases hrun
  | error refused =>
    obtain rfl := Except.error.inj hrun
    exact Journal.error_of_carryOut hindexed hresult

/-! ## Preparing -/

abbrev PortTrace := List (Event PortAct PortAct.Reply)

theorem PortState.journal_of_quiet {α : Type} {p : PortProgram α} {s s' : PortState}
    {trace : PortTrace} {result : Except PortError α}
    (h : p.Runs PortState.perform s trace result s') (hp : p.Uses PortAct.Quiet) :
    s'.journal = s.journal := by
  refine h.keeps (Q := fun s₁ => s₁.journal = s.journal) hp ?_ rfl
  intro s₁ action reply s₂ hquiet hperform hs₁
  cases action with
  | journal op => exact hquiet.elim
  | clock =>
    obtain ⟨-, rfl⟩ := hperform
    exact hs₁
  | trust | nonce | exchange =>
    obtain rfl : s₂ = s₁ := hperform
    exact hs₁
  | findAction | get | pending =>
    obtain ⟨-, rfl⟩ := hperform
    exact hs₁

namespace CoordinatedPort

variable {port : CoordinatedPort} {s s' : PortState} {trace : PortTrace}

/-- A journal call that returned. -/
theorem runs_journal {op : GatewayOp} {e : JournalEntry .gateway}
    (h : (journal op).Runs PortState.perform s trace (.ok e) s') :
    ∃ env, op.run s.journal env = (.ok e, s'.journal) := by
  obtain ⟨reply, s₁, after, rfl, ⟨env, hrun, -⟩, hrest⟩ := runs_call_bind h
  obtain ⟨-, hreply, rfl⟩ := runs_done hrest
  cases reply with
  | error error => cases hreply
  | ok entry =>
    obtain rfl := Except.ok.inj hreply
    exact ⟨env, hrun⟩

/-- A quiet part of a call that returned. -/
theorem runs_quiet_bind {α β : Type} {p : PortProgram α} {f : α → PortProgram β} {b : β}
    (hp : p.Uses PortAct.Quiet) (h : (p >>= f).Runs PortState.perform s trace (.ok b) s') :
    ∃ before after a s₁, s₁.journal = s.journal ∧ p.Runs PortState.perform s before (.ok a) s₁ ∧
      (f a).Runs PortState.perform s₁ after (.ok b) s' := by
  rcases runs_bind h with ⟨before, after, a, s₁, -, hfirst, hrest⟩ | ⟨e, -, he⟩
  · exact ⟨before, after, a, s₁, PortState.journal_of_quiet hfirst hp, hfirst, hrest⟩
  · cases he

/-- The retained receipt arms the journal. -/
theorem armed_of_retainReceipt {request : SignedEffectPrepareRequest}
    {response : HttpExchangeResponse} {time retainedAt : Time} {receipt : CoordinationReceipt}
    {e : JournalEntry .gateway} (hcreated : e.record = newRecord request none time)
    (hfound : s.journal.records.find? request.effect.effectId = some e)
    (h : (port.retainReceipt request response retainedAt).Runs PortState.perform s trace
      (.ok receipt) s') : s'.journal.Armed receipt ∧ receipt.effect = request.effect := by
  unfold CoordinatedPort.retainReceipt at h
  split at h
  · obtain ⟨_, he⟩ := (raising_abandonPrepare _ _ _ _).runs h
    cases he
  · rename_i parsed _
    have h := runs_catching_ok (raising_abandonPrepare _ _ _) h
    obtain ⟨_, _, resolved, s₁, hs₁, -, h⟩ := runs_quiet_bind (quiet_identities _ _ _) h
    obtain ⟨_, _, valid, s₂, hs₂, -, h⟩ := runs_quiet_bind (quiet_verifyReceipt _ _ _ _ _) h
    obtain ⟨_, _, u, s₃, hs₃, -, h⟩ := runs_quiet_bind (uses_require _ _) h
    rcases runs_bind h with ⟨before, after, retained, s₄, -, hretain, hrest⟩ | ⟨_, -, he⟩
    · obtain ⟨-, hreceipt, rfl⟩ := runs_done hrest
      obtain rfl := Except.ok.inj hreceipt
      obtain ⟨env, hrun⟩ := runs_journal hretain
      rw [hs₃, hs₂, hs₁] at hrun
      exact Journal.armed_of_retainPreparation hfound hcreated hrun
    · cases he

/-- `_prepare` arms the journal for an effect that was not recorded. -/
theorem armed_of_prepareIssued {request : SignedEffectPrepareRequest} {issuedAt : Time}
    {receipt : CoordinationReceipt}
    (hnone : s.journal.records.find? request.effect.effectId = none)
    (h : (port.prepareIssued request issuedAt).Runs PortState.perform s trace (.ok receipt) s') :
    s'.journal.Armed receipt ∧ receipt.effect = request.effect := by
  obtain ⟨_, _, trusted, s₁, hs₁, -, h⟩ := runs_quiet_bind (quiet_verifyPrepareRequest _ _ _) h
  obtain ⟨_, _, u, s₂, hs₂, -, h⟩ := runs_quiet_bind (uses_require _ _) h
  rcases runs_bind h with ⟨_, _, e, s₃, -, hbegin, h⟩ | ⟨_, -, he⟩
  · obtain ⟨env, hrun⟩ := runs_journal (runs_catching_ok (fun _ => raising_raise _) hbegin)
    rw [hs₂, hs₁] at hrun
    obtain ⟨hcreated, hfound⟩ := Journal.created_of_begin hnone hrun
    rcases runs_bind h with ⟨_, _, response, s₄, -, hraw, h⟩ | ⟨_, -, he⟩
    · have hs₄ := PortState.journal_of_quiet (runs_catching_ok (raising_losePrepare _) hraw)
        (quiet_raw _ _)
      obtain ⟨_, _, retainedAt, s₅, hs₅, -, h⟩ :=
        runs_quiet_bind ((uses_call PortAct.clock).mpr trivial) h
      split at h
      · refine armed_of_retainReceipt hcreated ?_ h
        rw [hs₅, hs₄]
        exact hfound
      · obtain ⟨_, he⟩ := (raising_refusePrepare _ _ _).runs h
        cases he
    · cases he
  · cases he

omit [RecordCodec] in
/-- The signer and the effect of an issued prepare request passed its validator. -/
theorem valid_of_issue {dispatch : SegmentedCapabilityDispatch} {signer : WorkloadSigner}
    {nonce : String} {issuedAt expiresAt : Time} {request : SignedEffectPrepareRequest}
    (h : SignedEffectPrepareRequest.issue dispatch signer nonce issuedAt expiresAt = .ok request) :
    request.effect = EffectIdentity.fromDispatch dispatch ∧ request.effect.validate = .ok () ∧
      signer.credential.credential.role = .gateway ∧
      effectCoordinatorAudience ∈ signer.credential.credential.audiences := by
  simp only [SignedEffectPrepareRequest.issue, bind_unit_eq_ok] at h
  obtain ⟨heffect, hvalid, -, h⟩ := h
  obtain rfl := Except.ok.inj h
  simp only [SignedEffectPrepareRequest.validate, SignedRequest.validateCommon, bind_unit_eq_ok,
    refuseIf_eq_ok, ne_eq, not_not] at hvalid
  obtain ⟨-, ⟨-, -, -, -, -, hrole, haudience, -⟩, -⟩ := hvalid
  exact ⟨rfl, heffect, hrole, haudience⟩

/-- What `_prepare` leaves behind for `_commit`. -/
theorem armed_of_prepare {dispatch : SegmentedCapabilityDispatch} {receipt : CoordinationReceipt}
    (hnone : s.journal.records.find? (EffectIdentity.fromDispatch dispatch).effectId = none)
    (h : (port.prepare dispatch).Runs PortState.perform s trace (.ok receipt) s') :
    s'.journal.Armed receipt ∧ receipt.effect.validate = .ok () ∧
      port.signer.credential.credential.role = .gateway ∧
      effectCoordinatorAudience ∈ port.signer.credential.credential.audiences := by
  obtain ⟨_, _, issuedAt, s₁, hs₁, -, h⟩ :=
    runs_quiet_bind ((uses_call PortAct.clock).mpr trivial) h
  obtain ⟨_, _, resolved, s₂, hs₂, -, h⟩ := runs_quiet_bind (quiet_identities _ _ _) h
  obtain ⟨_, _, nonce, s₃, hs₃, -, h⟩ := runs_quiet_bind quiet_drawNonce h
  rcases runs_result_bind h with ⟨_, -, -, he, -⟩ | ⟨request, hissue, h⟩
  · cases he
  · obtain ⟨heffect, hvalid, hrole, haudience⟩ := valid_of_issue (mapError_eq_ok.mp hissue)
    have hnew : s₃.journal.records.find? request.effect.effectId = none := by
      rw [hs₃, hs₂, hs₁, heffect]
      exact hnone
    obtain ⟨harmed, hsame⟩ := armed_of_prepareIssued hnew h
    exact ⟨harmed, hsame ▸ hvalid, hrole, haudience⟩

/-- The lookups of `execute` found nothing. -/
theorem unrecorded_of_retained {dispatch : SegmentedCapabilityDispatch}
    (h : (retained dispatch).Runs PortState.perform s trace (.ok none) s') :
    s'.journal.records.find? (EffectIdentity.fromDispatch dispatch).effectId = none := by
  obtain ⟨_, _, u, s₁, -, -, h⟩ := runs_quiet_bind (uses_require _ _) h
  obtain ⟨_, _, u, s₂, -, -, h⟩ := runs_quiet_bind (uses_result _) h
  obtain ⟨action, s₃, _, -, -, h⟩ := runs_call_bind h
  obtain ⟨_, _, retainedAction, s₄, -, -, h⟩ := runs_quiet_bind (uses_result _) h
  cases retainedAction with
  | some record =>
    obtain ⟨_, _, u, s₅, -, -, h⟩ := runs_quiet_bind (uses_require _ _) h
    obtain ⟨-, hnone, -⟩ := runs_done h
    cases hnone
  | none =>
    obtain ⟨found, s₅, _, -, ⟨hfound, hs₅⟩, h⟩ := runs_call_bind h
    rcases runs_result_bind h with ⟨_, -, -, he, -⟩ | ⟨existing, hexisting, h⟩
    · cases he
    · cases existing with
      | some entry =>
        obtain ⟨_, _, u, s₆, -, -, h⟩ := runs_quiet_bind (uses_require _ _) h
        obtain ⟨-, hnone, -⟩ := runs_done h
        cases hnone
      | none =>
        obtain ⟨-, -, rfl⟩ := runs_done h
        rw [mapError_eq_ok.mp hexisting] at hfound
        obtain ⟨⟨⟩, -, hlookup⟩ := bind_eq_ok.mp hfound.symm
        rw [hs₅]
        exact Journal.lookup_eq_none.mp hlookup

/-! ## Committing -/

/-- `execute` reached `_commit` with a receipt that `_prepare` returned. -/
def Prepared (port : CoordinatedPort) (dispatch : SegmentedCapabilityDispatch) (s : PortState)
    (before : PortTrace) (receipt : CoordinationReceipt) (s₂ : PortState) : Prop :=
  ∃ s₁ first rest, before = first ++ rest ∧
    (retained dispatch).Runs PortState.perform s first (.ok none) s₁ ∧
    (port.prepare dispatch).Runs PortState.perform s₁ rest (.ok receipt) s₂

/-- The identities of `_commit` resolve, and the signer holds the key and a credential that is
    still valid. -/
structure IdentitiesValid (port : CoordinatedPort) (view : TrustView) (time : Time) : Prop where
  resolved : ∃ identities, port.currentIdentities view time true = .ok identities
  matching : port.signer.Matches
  valid : credentialClaimValidAt port.signer.credential time = true

omit [Primitives] [RecordCodec] in
theorem callWindow (port : CoordinatedPort) (issuedAt : Time) :
    issuedAt < issuedAt + port.callTtl ∧
      issuedAt + port.callTtl - issuedAt ≤ maxCoordinationRequestTtl := by
  obtain ⟨hpositive, hbound⟩ := port.callTtl_bounds
  rw [add_sub_cancel_left]
  exact ⟨lt_add_of_pos_right _ hpositive, hbound⟩

variable {receipt : CoordinationReceipt} {dispatch : SegmentedCapabilityDispatch}
  {before after : PortTrace} {s₂ : PortState} {result : Except PortError PlcCommandAcknowledgment}

theorem Prepared.runs_execute (hprepared : port.Prepared dispatch s before receipt s₂)
    (hcommit : (port.commit receipt).Runs PortState.perform s₂ after result s') :
    (port.execute dispatch).Runs PortState.perform s (before ++ after) result s' := by
  obtain ⟨s₁, first, rest, rfl, hretained, hprepare⟩ := hprepared
  rw [List.append_assoc]
  exact hretained.bind (hprepare.bind hcommit)

theorem Prepared.armed (hprepared : port.Prepared dispatch s before receipt s₂) :
    s₂.journal.Armed receipt ∧ receipt.effect.validate = .ok () ∧
      port.signer.credential.credential.role = .gateway ∧
      effectCoordinatorAudience ∈ port.signer.credential.credential.audiences := by
  obtain ⟨s₁, first, rest, -, hretained, hprepare⟩ := hprepared
  exact armed_of_prepare (unrecorded_of_retained hretained) hprepare

/-- A commit step hands its request to the transport, or it ends in one of the two exceptions
    that say no effect was dispatched. -/
def CommitReported (after : PortTrace) (result : Except PortError PlcCommandAcknowledgment) :
    Prop :=
  (∃ event ∈ after, event.action.SendsCommit) ∨
    (∃ message, result = .error (.preDispatchUnavailable message)) ∨
    ∃ reason statusCode, result = .error (.rejected reason statusCode 0)

/-- Once the intent is retained, the request is handed to the transport. -/
theorem sends_of_commitRetained {request : SignedEffectCommitRequest}
    (h : (port.commitRetained request).Runs PortState.perform s trace result s') :
    ∃ event ∈ trace, event.action.SendsCommit := by
  cases h with
  | act hperform hnext => exact ⟨_, List.mem_cons_self, trivial⟩

/-- With an armed journal, an issued commit is reported. -/
theorem reported_of_commitIssued {request : SignedEffectCommitRequest} {issuedAt : Time}
    (harmed : s.journal.Armed receipt) (hissued : request.Issued receipt issuedAt)
    (h : (port.commitIssued request issuedAt).Runs PortState.perform s trace result s') :
    CommitReported trace result := by
  rcases runs_bind h with ⟨_, _, entry, s₁, rfl, -, hretained⟩ | ⟨error, hraised, rfl⟩
  · obtain ⟨event, hmem, hsends⟩ := sends_of_commitRetained hretained
    exact .inl ⟨event, List.mem_append_right _ hmem, hsends⟩
  · rcases runs_catching hraised with ⟨_, ⟨⟩, -⟩ | ⟨_, _, error', s₁, -, hjournal, hhandler⟩
    obtain ⟨reply, s₃, _, -, ⟨env, hrun, -⟩, hrest⟩ := runs_call_bind hjournal
    obtain ⟨-, hreply, -⟩ := runs_done hrest
    obtain ⟨cause, rfl, rfl⟩ := mapError_eq_error.mp hreply.symm
    have hcertain := harmed.beginCommit hissued hrun
    obtain ⟨-, htranslated, -⟩ := runs_done hhandler
    obtain rfl := Except.error.inj htranslated
    exact .inr (.inl ⟨_, congrArg _ (hcertain.translate _ _)⟩)

omit [RecordCodec] in
theorem CommitReported.cons {event : Event PortAct PortAct.Reply}
    (h : CommitReported after result) : CommitReported (event :: after) result := by
  rcases h with ⟨event, hmem, hsends⟩ | hresult
  · exact .inl ⟨event, List.mem_cons_of_mem _ hmem, hsends⟩
  · exact .inr hresult

/-- A sequence that begins with a nonce raises, or goes on with one within the bound. -/
theorem runs_drawNonce_bind {α : Type} {f : String → PortProgram α} {ended : Except PortError α}
    (h : (drawNonce >>= f).Runs PortState.perform s trace ended s') :
    ∃ nonce rest, trace = ⟨.nonce, nonce⟩ :: rest ∧
      ((lengthWithin 16 256 nonce = false ∧ rest = [] ∧
          ∃ message, ended = .error (.value message)) ∨
        (lengthWithin 16 256 nonce = true ∧ (f nonce).Runs PortState.perform s rest ended s')) := by
  rcases runs_bind h with ⟨_, rest, nonce, s₁, rfl, hdrawn, hnext⟩ | ⟨error, hdrawn, rfl⟩
  · obtain ⟨drawn, s₂, _, rfl, rfl, hchecked⟩ := runs_call_bind hdrawn
    rcases runs_require_bind hchecked with ⟨-, -, he, -⟩ | ⟨hnonce, hreturned⟩
    · cases he
    · obtain ⟨rfl, hreply, rfl⟩ := runs_done hreturned
      obtain rfl := Except.ok.inj hreply
      exact ⟨nonce, rest, rfl, .inr ⟨eq_true_of_ne_false hnonce, hnext⟩⟩
  · obtain ⟨drawn, s₂, rest, rfl, rfl, hchecked⟩ := runs_call_bind hdrawn
    rcases runs_require_bind hchecked with ⟨hnonce, rfl, he, -⟩ | ⟨-, hreturned⟩
    · obtain rfl := Except.error.inj he
      exact ⟨drawn, [], rfl, .inl ⟨hnonce, rfl, _, rfl⟩⟩
    · obtain ⟨-, he, -⟩ := runs_done hreturned
      cases he

omit [RecordCodec] in
/-- A `ValueError` before the exchange is not what the claim asks. -/
theorem not_reported {issuedAt : Time} {view : TrustView} {nonce message : String}
    (hresult : result = .error (.value message)) :
    ¬ CommitReported [⟨.clock, issuedAt⟩, ⟨.trust, view⟩, ⟨.nonce, nonce⟩] result := by
  subst hresult
  rintro (hsent | ⟨_, he⟩ | ⟨_, _, he⟩)
  · simp [PortAct.SendsCommit] at hsent
  · cases he
  · cases he

/-- The commit step of a call with valid identities is reported exactly when the nonce it
    draws is within its bound and the clock it reads has reached the receipt's `prepared_at`. -/
theorem commit_reported_iff (hverify : SignaturesVerify)
    (hprepared : port.Prepared dispatch s before receipt s₂)
    (hcommit : (port.commit receipt).Runs PortState.perform s₂ after result s') :
    (port.execute dispatch).Runs PortState.perform s (before ++ after) result s' ∧
      ∃ (issuedAt : Time) (view : TrustView) (tail : PortTrace),
        after = ⟨.clock, issuedAt⟩ :: ⟨.trust, view⟩ :: tail ∧
        (port.IdentitiesValid view issuedAt →
          ∃ (nonce : String) (rest : PortTrace), tail = ⟨.nonce, nonce⟩ :: rest ∧
            (CommitReported after result ↔
              lengthWithin 16 256 nonce = true ∧ receipt.preparedAt ≤ issuedAt)) := by
  refine ⟨hprepared.runs_execute hcommit, ?_⟩
  obtain ⟨issuedAt, s₃, rest, rfl, ⟨-, rfl⟩, h⟩ := runs_call_bind hcommit
  obtain ⟨view, s₄, tail, rfl, rfl, h⟩ := runs_call_bind h
  refine ⟨issuedAt, view, tail, rfl, ?_⟩
  intro hvalid
  obtain ⟨harmed, heffect, hrole, haudience⟩ := hprepared.armed
  obtain ⟨identities, hidentities⟩ := hvalid.resolved
  have hsigner : port.signer.CanCommit issuedAt :=
    ⟨hvalid.matching, hrole, haudience, hvalid.valid⟩
  rcases runs_result_bind h with ⟨_, hraised, -⟩ | ⟨_, -, h⟩
  · rw [hidentities] at hraised
    cases hraised
  obtain ⟨nonce, rest, rfl, hdrawn⟩ := runs_drawNonce_bind h
  refine ⟨nonce, rest, rfl, ?_⟩
  rcases hdrawn with ⟨hnonce, rfl, message, hresult⟩ | ⟨hnonce, h⟩
  · refine ⟨fun hreported => absurd hreported (not_reported hresult), ?_⟩
    rintro ⟨htrue, -⟩
    rw [hnonce] at htrue
    cases htrue
  · refine Iff.trans ?_ (SignedEffectCommitRequest.exists_issue_iff hverify hsigner heffect
      (port.callWindow issuedAt))
    rcases runs_result_bind h with ⟨_, hraised, rfl, hresult, -⟩ | ⟨request, hissue, h⟩
    · obtain ⟨message, hissue, rfl⟩ := mapError_eq_error.mp hraised
      refine ⟨fun hreported => absurd hreported (not_reported hresult), ?_⟩
      rintro ⟨request, hok⟩
      rw [hissue] at hok
      cases hok
    · have hissue := mapError_eq_ok.mp hissue
      refine ⟨fun _ => ⟨request, hissue⟩, fun _ => ?_⟩
      have hissued := SignedEffectCommitRequest.issued_of_issue hverify hissue
      have hreported : CommitReported rest result :=
        reported_of_commitIssued (by exact harmed) hissued h
      exact hreported.cons.cons.cons

end CoordinatedPort

end

namespace Sample

/-- The lookups of the sample call. -/
def lookedUp := PortProgram.runWith (callAt 0 0 "") (CoordinatedPort.retained (dispatch "action-1"))
  ⟨gatewayJournal, 0⟩

/-- A coordinator whose clock is 0.6 s ahead prepares the effect. -/
def preparedAhead := PortProgram.runWith (callAt 0 600000 "prepare-nonce-01")
  (port.prepare (dispatch "action-1")) lookedUp.2.2

def aheadReceipt : CoordinationReceipt := receipt samplePrepare 600000

/-- The commit at a reading of the gateway's clock. -/
def committedAt (time : Time) := PortProgram.runWith (callAt time 600000 "commit-nonce-001")
  (port.commit aheadReceipt) preparedAhead.2.2

theorem signaturesVerify_port : SignaturesVerify :=
  ⟨fun _ _ => rfl, fun _ _ => show signature ≠ "" by decide⟩

theorem prepared_ahead : port.Prepared (dispatch "action-1") ⟨gatewayJournal, 0⟩
    (lookedUp.1 ++ preparedAhead.1) aheadReceipt preparedAhead.2.2 := by
  have hlooked : lookedUp.2.1 = .ok none := by decide +kernel
  have hreceived : preparedAhead.2.1 = .ok aheadReceipt := by decide +kernel
  refine ⟨lookedUp.2.2, lookedUp.1, preparedAhead.1, rfl, ?_, ?_⟩
  · exact hlooked ▸ PortProgram.runs_runWith _ _ _
  · exact hreceived ▸ PortProgram.runs_runWith _ _ _

/-- The first two events of a commit. -/
theorem commit_start (env : PortEnvironment) (s : PortState) :
    ∃ rest, (PortProgram.runWith env (port.commit aheadReceipt) s).1 =
      ⟨.clock, (max s.now env.clock : Time)⟩ :: ⟨.trust, env.trust⟩ :: rest :=
  ⟨_, rfl⟩

theorem identitiesValid_at {time : Time}
    (hvalid : credentialClaimValidAt gatewayCredential time = true)
    (hresolved : (port.currentIdentities trustView time true).toOption.isSome = true) :
    port.IdentitiesValid trustView time := by
  obtain ⟨identities, hidentities⟩ := Option.isSome_iff_exists.mp hresolved
  refine ⟨⟨identities, ?_⟩, rfl, hvalid⟩
  cases hcurrent : port.currentIdentities trustView time true with
  | error error => simp [hcurrent, Except.toOption] at hidentities
  | ok current => exact congrArg _ (by simpa [hcurrent, Except.toOption] using hidentities)

end Sample

section

open Sample

/-- The clock has passed the receipt, and the commit is sent. -/
theorem commit_reported_after_receipt :
    CoordinatedPort.CommitReported (committedAt 700000).1 (committedAt 700000).2.1 := by
  obtain ⟨-, issuedAt, view, tail, htrace, hreported⟩ := CoordinatedPort.commit_reported_iff
    signaturesVerify_port prepared_ahead (PortProgram.runs_runWith (callAt 700000 600000
      "commit-nonce-001") (port.commit aheadReceipt) preparedAhead.2.2)
  obtain ⟨rest, hstart⟩ := commit_start (callAt 700000 600000 "commit-nonce-001")
    preparedAhead.2.2
  have hread := List.cons.inj (hstart.symm.trans htrace)
  have htrusted := List.cons.inj hread.2
  have hnow : max preparedAhead.2.2.now 700000 = 700000 := by decide +kernel
  obtain rfl : issuedAt = 700000 := (eq_of_heq (Event.mk.inj hread.1).2).symm.trans hnow
  obtain rfl : trustView = view := eq_of_heq (Event.mk.inj htrusted.1).2
  obtain ⟨nonce, _, rfl, hiff⟩ := hreported (identitiesValid_at (by decide) (by decide +kernel))
  have hmem : (⟨.nonce, nonce⟩ : Event PortAct PortAct.Reply) ∈ (committedAt 700000).1 := by
    rw [committedAt, htrace]
    simp
  obtain ⟨_, hnonce⟩ := PortProgram.reply_of_runWith hmem
  obtain rfl : nonce = "commit-nonce-001" := hnonce
  exact hiff.mpr ⟨by decide, by decide⟩

/-- 0.1 s after the call began the receipt is 0.5 s ahead, which `_prepare` allows. The commit
    ends in a `ValueError`: nothing was sent, nothing says so, and the record stays armed. -/
theorem commit_refused_before_receipt :
    port.Prepared (dispatch "action-1") ⟨gatewayJournal, 0⟩ (lookedUp.1 ++ preparedAhead.1)
        aheadReceipt preparedAhead.2.2 ∧
      (port.commit aheadReceipt).Runs PortState.perform preparedAhead.2.2 (committedAt 100000).1
        (committedAt 100000).2.1 (committedAt 100000).2.2 ∧
      port.IdentitiesValid trustView 100000 ∧
      aheadReceipt.preparedAt ≤ 100000 + maxCoordinationFutureSkew ∧
      (committedAt 100000).2.1 =
        .error (.value "effect commit cannot precede preparation") ∧
      ((committedAt 100000).2.2.journal.records.find? aheadReceipt.effect.effectId).map
        (fun e => e.record.state) = some .dispatchArmed ∧
      ¬ CoordinatedPort.CommitReported (committedAt 100000).1 (committedAt 100000).2.1 := by
  have hread : (committedAt 100000).2.1 =
        .error (.value "effect commit cannot precede preparation") ∧
      ((committedAt 100000).2.2.journal.records.find? aheadReceipt.effect.effectId).map
        (fun e => e.record.state) = some .dispatchArmed ∧
      ∀ event ∈ (committedAt 100000).1, ¬ event.action.SendsCommit := by
    decide +kernel
  obtain ⟨hresult, hstate, hquiet⟩ := hread
  refine ⟨prepared_ahead, PortProgram.runs_runWith _ _ _,
    identitiesValid_at (by decide) (by decide +kernel), by decide, hresult, hstate, ?_⟩
  rintro (⟨event, hmem, hsends⟩ | ⟨_, he⟩ | ⟨_, _, he⟩)
  · exact hquiet event hmem hsends
  · rw [hresult] at he
    cases he
  · rw [hresult] at he
    cases he

end

end AegisOt
