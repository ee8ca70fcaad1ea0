import AegisOt.Coordination.Proofs.FinishHistory
import AegisOt.Coordination.Proofs.Issuing
import AegisOt.Runtime.Proofs.OtExecution

/-!
# An outcome the coordinator held

`commit_effect` signs the outcome after the device has acted, under the window of the commit
request and the limits of the outcome's own model; when that fails the acknowledgment is
dropped and an unknown outcome is retained instead. `SignableAt` says when it does not fail,
and the main theorem that this is exactly when the record ends in the state the device reported.
-/

namespace AegisOt

open Program CoordinationJournalRecord

section

variable [Primitives]

/-! ## Traces -/

abbrev OtTrace := List (Event OtAct OtAct.Reply)

namespace OtTrace

/-- What the clock answered, in order. -/
def clockReadings : OtTrace → List Time
  | [] => []
  | ⟨.clock, time⟩ :: rest => time :: clockReadings rest
  | _ :: rest => clockReadings rest

/-- The answer of the device to its first call, and the trace after it. -/
def fromExecution : OtTrace → Option (Option PlcCommandAcknowledgment × OtTrace)
  | [] => none
  | ⟨.execute _, answer⟩ :: rest => some (answer, rest)
  | _ :: rest => fromExecution rest

theorem fromExecution_append {before : OtTrace} (after : OtTrace)
    (h : ∀ event ∈ before, event.action.Harmless) :
    fromExecution (before ++ after) = fromExecution after := by
  induction before with
  | nil => rfl
  | cons event rest ih =>
    have hrest := ih (fun event hevent => h event (List.mem_cons_of_mem _ hevent))
    have hevent := h event List.mem_cons_self
    obtain ⟨action, reply⟩ := event
    cases action with
    | execute request => exact hevent.elim
    | _ => exact hrest

end OtTrace

variable [RecordCodec]

/-! ## A journal that can be written -/

namespace OtState

/-- What an action does and replies while every journal write succeeds. -/
def steadily (s : OtState) : (action : OtAct) → action.Reply → OtState → Prop
  | .journal op, reply, s' => reply ≠ .error entriesAtCapacity ∧
      ∃ now, op.exec s.journal ⟨now, (.written, .written)⟩ = (reply, s'.journal) ∧
        s' = { s with journal := s'.journal }
  | .clock, reply, s' => s.perform .clock reply s'
  | .trust, reply, s' => s.perform .trust reply s'
  | .admission phase effectId digest time, reply, s' =>
      s.perform (.admission phase effectId digest time) reply s'
  | .plant, reply, s' => s.perform .plant reply s'
  | .marker, reply, s' => s.perform .marker reply s'
  | .setMarker marker, reply, s' => s.perform (.setMarker marker) reply s'
  | .records, reply, s' => s.perform .records reply s'
  | .pending, reply, s' => s.perform .pending reply s'
  | .get effect, reply, s' => s.perform (.get effect) reply s'
  | .execute request, reply, s' => s.perform (.execute request) reply s'
  | .terminalHook, reply, s' => s.perform .terminalHook reply s'

theorem perform_of_steadily {s s' : OtState} {action : OtAct} {reply : action.Reply}
    (h : s.steadily action reply s') : s.perform action reply s' := by
  cases action with
  | journal op =>
    obtain ⟨-, now, hexec, hs'⟩ := h
    refine ⟨⟨now, (.written, .written)⟩, ?_, ?_⟩
    · rw [op.run_eq_exec, hexec]
      rfl
    · rw [op.run_eq_exec, hexec]
      exact hs'
  | _ => exact h

/-- A passive action leaves the journal alone. -/
theorem journal_of_passive {s s' : OtState} {action : OtAct} {reply : action.Reply}
    (hpassive : action.Passive) (h : s.steadily action reply s') : s'.journal = s.journal := by
  cases action with
  | journal op => exact hpassive.elim
  | execute request => exact hpassive.elim
  | setMarker marker =>
    obtain rfl : s' = { s with marker := marker } := h
    rfl
  | clock | trust | admission | plant | terminalHook =>
    obtain rfl : s' = s := h
    rfl
  | marker | records | pending | get =>
    obtain ⟨-, rfl⟩ := h
    rfl

end OtState

/-- The journal did not refuse for lack of space. -/
def OtAct.stored : (action : OtAct) → action.Reply → Bool
  | .journal _, .error error => decide (error ≠ entriesAtCapacity)
  | _, _ => true

/-- A scripted run on a disk that works. -/
theorem OtProgram.runs_runWith {α : Type} {env : OtEnvironment}
    (hwrites : env.writes = (.written, .written)) (p : OtProgram α) (n : Nat) (s : OtState)
    (hstored : (traceWith env p n s).all (fun event => event.action.stored event.reply) = true) :
    p.Runs OtState.steadily s (traceWith env p n s) (runWith env p n s).1
      (runWith env p n s).2 := by
  induction p generalizing n s with
  | done result => exact .done result s
  | act action next ih =>
    rw [traceWith, List.all_cons, Bool.and_eq_true] at hstored
    refine .act ?_ (ih _ _ _ hstored.2)
    have hperform := s.perform_react env n action
    cases action with
    | journal op =>
      refine ⟨?_, env.clock n, ?_, rfl⟩
      · intro hfull
        have hfits := hstored.1
        rw [hfull] at hfits
        have hfits : decide (entriesAtCapacity ≠ entriesAtCapacity) = true := hfits
        exact absurd rfl (of_decide_eq_true hfits)
      · rw [← hwrites]
        rfl
    | _ => exact hperform

/-- A run to the end of a handler is a run of the system. -/
theorem Program.Runs.otRun {config : OtConfig} {p : OtProgram OtReply} {s s' : OtState}
    {trace : OtTrace} {result : Except RuntimeError OtReply}
    (h : p.Runs OtState.steadily s trace result s') :
    OtRun ⟨config, s, some p⟩ ⟨config, s', some (.done result)⟩ := by
  induction h with
  | done result s => exact .refl
  | act hperform hnext ih =>
    exact .head (.act config _ _ _ _ _ (OtState.perform_of_steadily hperform)) ih

/-! ## Signing -/

/-- `verify_for_transaction` accepts the acknowledgment for the transaction of the commit. -/
def SignedEffectCommitRequest.acknowledgedBy (request : SignedEffectCommitRequest)
    (acknowledgment : PlcCommandAcknowledgment) : Bool :=
  let dispatch := request.receipt.prepareRequest.dispatch
  acknowledgment.verifyForTransaction request.receipt.coordinatorCredential.credential.publicKey
    dispatch.request dispatch.permit dispatch.preObservation dispatch.permit.targetPlcId
    dispatch.permit.targetPlcKeyId dispatch.permit.targetPlcBootEpoch

/-- An outcome that carries the acknowledgment can be signed at this time: the commit request
    and the coordinator's credential have not expired, the clock has reached the
    acknowledgment, and its reason fits the outcome. -/
structure SignedEffectCommitRequest.SignableAt (request : SignedEffectCommitRequest)
    (acknowledgment : PlcCommandAcknowledgment) (signedAt : Time) : Prop where
  window : signedAt < request.expiresAt
  credential : signedAt < request.receipt.coordinatorCredential.credential.expiresAt
  acknowledged : acknowledgment.acknowledgedAt ≤ signedAt
  reason : lengthWithin 1 512 acknowledgment.reason = true

section Signing

variable {request : SignedEffectCommitRequest} {signer : WorkloadSigner}
  {acceptedAt signedAt : Time} {acceptance : DurableCommitAcceptance}
  {acknowledgment : PlcCommandAcknowledgment}

omit [Primitives] [RecordCodec] in
theorem ofStatus_known (h : acknowledgment.status = .applied ∨ acknowledgment.status = .rejected) :
    (EffectDisposition.ofStatus acknowledgment.status).dispatchedTerminal = true ∧
      EffectDisposition.ofStatus acknowledgment.status ≠ .notDispatched ∧
      EffectDisposition.ofStatus acknowledgment.status ≠ .unknownEffect ∧
      (EffectDisposition.ofStatus acknowledgment.status).expectedStatus =
        some acknowledgment.status := by
  rcases h with h | h
  · rw [h]
    decide
  · rw [h]
    decide

omit [RecordCodec] in
/-- The signing of a known outcome fails only on the conditions of `SignableAt`. -/
theorem signable_iff (hverify : SignaturesVerify) (hsigner : signer.Matches)
    (hissue : DurableCommitAcceptance.issue request signer acceptedAt = .ok acceptance)
    (hlater : acceptedAt ≤ signedAt)
    (hstatus : acknowledgment.status = .applied ∨ acknowledgment.status = .rejected)
    (hverified : request.acknowledgedBy acknowledgment = true)
    (hnotBefore : acceptedAt ≤ acknowledgment.acknowledgedAt) :
    (∃ o, SignedEffectOutcome.issue (.commit request)
        (EffectDisposition.ofStatus acknowledgment.status) acknowledgment.reason signer signedAt
        (some acceptance) (some acknowledgment) = .ok o) ↔
      request.SignableAt acknowledgment signedAt := by
  have hissued := DurableCommitAcceptance.issued_of_issue hissue
  obtain ⟨-, hdispatched, hknown, hexpected⟩ := ofStatus_known hstatus
  have hcredential := hissued.credential
  have hsignedBy := hissued.signedBy
  rw [hissued.receiptSigner] at hcredential hsignedBy
  simp only [credentialClaimValidAt, decide_eq_true_eq] at hcredential
  have htransaction : SignedEffectOutcome.acknowledgmentTransactionValid acceptance
      acknowledgment = true := by
    rw [SignedEffectOutcome.acknowledgmentTransactionValid, hissued.commitRequest,
      hissued.receiptSigner]
    exact hverified
  have hclosed := @SignedEffectOutcome.requireClosedOutcome_dispatched _
    (.unsigned (.commit request) (.ofStatus acknowledgment.status) acknowledgment.reason signer
      signedAt (some acceptance) (some acknowledgment)) acceptance rfl hdispatched
  simp only [SignedEffectOutcome.issue_eq_ok hverify hsigner, hclosed]
  constructor
  · rintro ⟨o, hissuable, ⟨hdescribed, hevidence⟩, -⟩
    have hvalid : credentialClaimValidAt signer.credential signedAt = true := hdescribed.credential
    rw [← hsignedBy] at hvalid
    simp only [credentialClaimValidAt, decide_eq_true_eq] at hvalid
    exact ⟨hissuable.window.2, hvalid.2.2, (hevidence.chronology _ rfl).2, hdescribed.reason⟩
  · intro h
    have hrole := hissued.role
    have haudience := hissued.audience
    rw [hissued.signedBy] at hrole haudience
    have hvalid : credentialClaimValidAt signer.credential signedAt = true := by
      rw [← hsignedBy]
      simp only [credentialClaimValidAt, decide_eq_true_eq]
      exact ⟨hcredential.1, hcredential.2.1.trans hlater, h.credential⟩
    refine ⟨_, ⟨⟨hissued.window.1.trans hlater, h.window⟩, ?_, ?_, ?_, ?_⟩,
      ⟨⟨h.reason, rfl, hrole, haudience, hvalid⟩, ?_⟩, rfl⟩
    · simp [OutcomeRequest.commitSatisfies, hissued.commitRequest]
    · exact fun hnd => absurd hnd hdispatched
    · intro _
      simp [hissued.effect, OutcomeRequest.signedRequest]
    · rintro a ⟨rfl⟩
      exact DurableCommitAcceptance.verify_of_issue hverify hissue
    · refine
        { effect := hissued.effect
          accepted := by rw [hissued.time]; exact hlater
          subject := by rw [hissued.signedBy]; rfl
          terminal := fun _ => hexpected.symm
          unknown := fun hunknown => absurd hunknown hknown
          chronology := ?_
          transaction := ?_ }
      · rintro a ⟨rfl⟩
        rw [hissued.time]
        exact ⟨hnotBefore, h.acknowledged⟩
      · rintro a ⟨rfl⟩
        exact htransaction

end Signing

/-! ## The accepted commit -/

theorem Journal.lockHeld_store {role : JournalRole} (j : Journal role)
    (record : CoordinationJournalRecord) (write : WriteResult) :
    (j.store record write).2.lockHeld = j.lockHeld := by
  have hcases := j.store_cases record write
  generalize j.store record write = result at hcases
  cases hcases with
  | refused => rfl
  | uncertain => rfl
  | stored => rfl

theorem Journal.lockHeld_carryOut {role : JournalRole} {α : Type} (j : Journal role)
    (plan : Except PyError (Plan role α)) (write : WriteResult) :
    (j.carryOut plan write).2.lockHeld = j.lockHeld := by
  unfold Journal.carryOut
  split
  · rfl
  · rfl
  · rename_i record k
    have hstore := j.lockHeld_store record write
    split
    · rename_i hresult
      rw [hresult] at hstore
      exact hstore
    · rename_i hresult
      rw [hresult] at hstore
      exact hstore

/-- `issue_acceptance` of `commit_effect`. -/
abbrev OtProgram.acceptanceIssuer (signer : WorkloadSigner) : CommitAcceptanceIssuer :=
  fun exactRequest acceptedAt =>
    (DurableCommitAcceptance.issue exactRequest signer acceptedAt).mapError .value

/-- The journal right after it accepted a commit. -/
structure Journal.Accepted (j : Journal .effectCoordinator) (request : SignedEffectCommitRequest)
    (signer : WorkloadSigner) (acceptedAt : Time) (acceptance : DurableCommitAcceptance)
    (e : JournalEntry .effectCoordinator) (earlier : List CoordinationAttempt)
    (a : EffectCommitAttempt) : Prop where
  consistent : j.Consistent
  writer : j.assertWriter = .ok ()
  found : j.records.find? request.effect.effectId = some e
  effect : e.record.effect = request.effect
  last : e.record.CommitAcceptedLast earlier a
  attemptRequest : a.request = request
  attemptAcceptance : a.acceptance = some acceptance
  updated : a.updatedAt = acceptedAt
  recorded : ∀ t ∈ e.record.transitions.getLast?, t.recordedAt = acceptedAt
  issue : DurableCommitAcceptance.issue request signer acceptedAt = .ok acceptance

/-- A new admission leaves such a journal. -/
theorem Journal.accepted_beginCommit {j : Journal .effectCoordinator}
    {request : SignedEffectCommitRequest} {signer : WorkloadSigner} {acceptedAt now : Time}
    {write : WriteResult} {admission : CommitAdmission} (hconsistent : j.Consistent)
    (h : (j.beginCommit request (OtProgram.acceptanceIssuer signer) (some (.aware acceptedAt)) now
      write).1 = .ok admission) (hnew : admission.status = .new) :
    ∃ e earlier a, (j.beginCommit request (OtProgram.acceptanceIssuer signer)
      (some (.aware acceptedAt)) now write).2.Accepted request signer acceptedAt
        admission.acceptance e earlier a := by
  obtain ⟨entry, created, hrecord, hlatest, hcreated, hbegun⟩ := Journal.beginCommit_begun h
  obtain rfl := hcreated hnew
  obtain ⟨hfound, heffect, -⟩ := hbegun.found
  have hreply : ((EffectOp.beginCommit request (OtProgram.acceptanceIssuer signer)
      (some (.aware acceptedAt))).run j ⟨now, (write, write)⟩).1 =
        .ok (.admission admission) := map_eq_ok.mpr ⟨admission, h, rfl⟩
  have hstepped := EffectOp.run_stepped (.beginCommit request (OtProgram.acceptanceIssuer signer)
    (some (.aware acceptedAt))) ⟨now, (write, write)⟩ hconsistent
  have husable : (j.beginCommit request (OtProgram.acceptanceIssuer signer)
      (some (.aware acceptedAt)) now write).2.unusable = false := EffectOp.usable_of_ok _ hreply
  have hwriter : (j.beginCommit request (OtProgram.acceptanceIssuer signer)
      (some (.aware acceptedAt)) now write).2.assertWriter = .ok () := by
    obtain ⟨result, hresult, -⟩ := bind_eq_ok.mp h
    have hheld : j.lockHeld = true := by
      cases hguard : j.assertWriter with
      | error error =>
        rw [Journal.guarded, hguard] at hresult
        cases hresult
      | ok u =>
        simp only [Journal.assertWriter, bind_unit_eq_ok, refuseIf_eq_ok] at hguard
        simpa using hguard.2
    simp only [Journal.assertWriter, bind_unit_eq_ok, refuseIf_eq_ok]
    refine ⟨by rw [husable]; simp, ?_⟩
    rw [Journal.beginCommit, Journal.lockHeld_carryOut, hheld]
    simp
  cases hbegun with
  | created old _ acceptance time htime hold _ hfresh hstate hissued hcommitted hstored =>
    obtain rfl := htime acceptedAt rfl
    obtain ⟨issued, rfl⟩ := issueAcceptanceFor_some hissued
    simp only [issueAcceptanceFor, bind_eq_ok, calling_eq_ok, mapError_eq_ok, pure_eq_ok,
      Except.ok.injEq, Option.some.injEq] at hissued
    obtain ⟨_, hissue, -, -, rfl⟩ := hissued
    simp only [committedRecord, bind_unit_eq_ok] at hcommitted
    obtain ⟨-, htransition⟩ := hcommitted
    have hattempts := attempts_transition htransition
    have hmoved := state_transition htransition
    obtain ⟨-, -, -, hentry⟩ := transition_eq_ok.mp htransition
    have hlast : entry.record.CommitAcceptedLast old.record.attempts _ :=
      ⟨entry.history, hattempts, rfl, hmoved⟩
    have hacceptance := hlatest.symm.trans (entry.history.latestAcceptance_eq hlast.mem)
    obtain rfl := Option.some.inj hacceptance
    refine ⟨entry, old.record.attempts, _, hstepped.consistent, hwriter, hfound, heffect, hlast,
      rfl, rfl, rfl, ?_, hissue⟩
    intro t ht
    rw [← hentry] at ht
    obtain rfl := Option.some.inj (List.getLast?_concat.symm.trans ht)
    rfl

/-! ## Settled records -/

/-- The record is in the state the acknowledgment reports and retains it, and no outcome it
    retains says otherwise. -/
structure CoordinationJournalRecord.SettledBy (r : CoordinationJournalRecord)
    (acknowledgment : PlcCommandAcknowledgment) : Prop where
  state : r.state = (EffectDisposition.ofStatus acknowledgment.status).state
  retained : ∃ o, r.RetainsOutcome o ∧ o.acknowledgment = some acknowledgment
  agreed : ∀ o, r.RetainsOutcome o →
    o.disposition = EffectDisposition.ofStatus acknowledgment.status

section Settled

variable {j : Journal .effectCoordinator} {request : SignedEffectCommitRequest}
  {signer : WorkloadSigner} {acceptedAt signedAt : Time} {acceptance : DurableCommitAcceptance}
  {acknowledgment : PlcCommandAcknowledgment} {o : SignedEffectOutcome}
  {e : JournalEntry .effectCoordinator} {earlier : List CoordinationAttempt}
  {a : EffectCommitAttempt}

omit [Primitives] [RecordCodec] in
theorem EffectDisposition.state_injective {d d' : EffectDisposition} (h : d.state = d'.state) :
    d = d' := by
  cases d <;> cases d' <;> first | rfl | cases h

omit [Primitives] [RecordCodec] in
/-- A settled record stays settled. -/
theorem CoordinationJournalRecord.SettledBy.extends {r r' : CoordinationJournalRecord}
    (h : r.SettledBy acknowledgment)
    (hstatus : acknowledgment.status = .applied ∨ acknowledgment.status = .rejected)
    (hextends : r.Extends .any r') : r'.SettledBy acknowledgment := by
  have hterminal : r.state.terminal = true := by
    rw [h.state]
    rcases hstatus with hstatus | hstatus
    · rw [hstatus]
      rfl
    · rw [hstatus]
      rfl
  obtain ⟨o, ho, hacknowledged⟩ := h.retained
  refine ⟨(hextends.state_eq hterminal).trans h.state, ⟨o, hextends.retainsOutcome ho,
    hacknowledged⟩, ?_⟩
  rintro p ⟨b, hb, hp⟩
  obtain ⟨i, hi⟩ := List.getElem?_of_mem hb
  rcases hextends.newOutcome i b p hi hp with ⟨c, hc, hpc⟩ | ⟨-, hstate⟩
  · exact h.agreed p ⟨c, List.mem_of_getElem? hc, hpc⟩
  · exact EffectDisposition.state_injective ((hstate hterminal).trans h.state)

/-- The accepted commit admits the outcome that was issued for it. -/
theorem Journal.Accepted.admits (h : j.Accepted request signer acceptedAt acceptance e earlier a)
    (hverify : SignaturesVerify) (hsigner : signer.Matches) (hlater : acceptedAt ≤ signedAt)
    (hissue : SignedEffectOutcome.issue (.commit request)
      (EffectDisposition.ofStatus acknowledgment.status) acknowledgment.reason signer signedAt
      (some acceptance) (some acknowledgment) = .ok o) :
    e.record.AdmitsOutcome a o o.signedAt := by
  obtain ⟨-, hclosed, rfl⟩ := (SignedEffectOutcome.issue_eq_ok hverify hsigner).mp hissue
  have hissued := DurableCommitAcceptance.issued_of_issue h.issue
  have hattempt := e.history.attemptsValid _ h.last.mem
  simp only [CoordinationAttempt.validate, bind_unit_eq_ok, h.attemptAcceptance] at hattempt
  refine
    { valid := SignedEffectOutcome.validate_signedBy ?_ ?_ hclosed
      binds := ?_
      acceptance := h.attemptAcceptance.symm
      signed := le_rfl
      updated := h.updated.le.trans hlater
      chronology := fun t ht => (h.recorded t ht).le.trans hlater }
  · have hvalid := e.history.effectValid
    rw [h.effect] at hvalid
    exact hvalid
  · rintro b ⟨rfl⟩
    exact hattempt.2.1
  · rw [h.attemptRequest]
    refine SignedEffectOutcome.binds_signedBy hverify hsigner ?_
    simp [OutcomeRequest.commitSatisfies, hissued.commitRequest]

/-- Retaining a known outcome settles the record. -/
theorem Journal.Accepted.settled (h : j.Accepted request signer acceptedAt acceptance e earlier a)
    (hverify : SignaturesVerify) (hsigner : signer.Matches) (hlater : acceptedAt ≤ signedAt)
    (hissue : SignedEffectOutcome.issue (.commit request)
      (EffectDisposition.ofStatus acknowledgment.status) acknowledgment.reason signer signedAt
      (some acceptance) (some acknowledgment) = .ok o) (now : Time)
    (hfits : ((EffectOp.finishCommit request o (some (.aware o.signedAt))).exec j
      ⟨now, (.written, .written)⟩).1 ≠ .error entriesAtCapacity) :
    ((EffectOp.finishCommit request o (some (.aware o.signedAt))).exec j
      ⟨now, (.written, .written)⟩).2.Holds request.effect.effectId
        (fun r => r.SettledBy acknowledgment) := by
  have hadmits := h.admits hverify hsigner hlater hissue
  obtain ⟨-, -, ho⟩ := (SignedEffectOutcome.issue_eq_ok hverify hsigner).mp hissue
  have hrequest := h.attemptRequest
  subst hrequest
  obtain ⟨done, hdone, hstored⟩ := Journal.finishCommit_stored now h.consistent h.writer h.found
    h.effect h.last hadmits hfits
  have hsettled : done.record.SettledBy acknowledgment := by
    have hdisposition : o.disposition = EffectDisposition.ofStatus acknowledgment.status := by
      rw [ho]
      rfl
    have hacknowledged : o.acknowledgment = some acknowledgment := by
      rw [ho]
      rfl
    rw [hdone]
    refine ⟨by rw [state_finished, hdisposition], ⟨o, ⟨.commit (finishedAttempt a o o.signedAt),
      List.mem_append_right _ (List.mem_singleton.mpr rfl), rfl⟩, hacknowledged⟩, ?_⟩
    rintro p ⟨b, hb, hp⟩
    rcases List.mem_append.mp hb with hb | hb
    · rw [h.last.outcome_none hb] at hp
      cases hp
    · obtain rfl := List.mem_singleton.mp hb
      obtain rfl : o = p := Option.some.inj hp
      exact hdisposition
  have hexec : (EffectOp.finishCommit a.request o (some (.aware o.signedAt))).exec j
      ⟨now, (.written, .written)⟩ = _ := hstored
  rw [hexec]
  exact ⟨⟨done, SortedMap.find?_insert_self .., hsettled⟩,
    ⟨done, SortedMap.find?_insert_self .., hsettled⟩⟩

/-- Unknown outcomes alone settle nothing. -/
theorem Journal.Accepted.not_settled {j' : Journal .effectCoordinator}
    (h : j.Accepted request signer acceptedAt acceptance e earlier a)
    (hstepped : j.Stepped (.answering (fun o => o.disposition = .unknownEffect)) j')
    (hstatus : acknowledgment.status = .applied ∨ acknowledgment.status = .rejected) :
    ¬ j'.Holds request.effect.effectId (fun r => r.SettledBy acknowledgment) := by
  rintro ⟨⟨e', he', hsettled⟩, -⟩
  obtain ⟨_, hkept, hextends⟩ := hstepped.records.kept _ _ h.found
  obtain rfl := Option.some.inj (he'.symm.trans hkept)
  obtain ⟨o, ⟨b, hb, ho⟩, -⟩ := hsettled.retained
  obtain ⟨i, hi⟩ := List.getElem?_of_mem hb
  rcases hextends.newOutcome i b o hi ho with ⟨c, hc, hold⟩ | ⟨hunknown, -⟩
  · -- The accepted record retains no outcome.
    have hmem := List.mem_of_getElem? hc
    rw [h.last.attempts] at hmem
    rcases List.mem_append.mp hmem with hmem | hmem
    · rw [h.last.outcome_none hmem] at hold
      cases hold
    · obtain rfl := List.mem_singleton.mp hmem
      have hnone := e.commit_outcome_none h.last.mem (by rw [h.last.status]; simp)
      rw [CoordinationAttempt.outcome, hnone] at hold
      cases hold
  · have hdisposition := hsettled.agreed o ⟨b, hb, ho⟩
    rw [hunknown] at hdisposition
    exact (ofStatus_known hstatus).2.2.1 hdisposition.symm

end Settled

/-! ## The handler -/

namespace OtProgram

/-- What the fallback of `commit_effect` may do. -/
def Unknowing : OtAct → Prop
  | .journal op => op.changes.Within (.answering (fun o => o.disposition = .unknownEffect))
  | .execute _ => False
  | _ => True

omit [RecordCodec] in
theorem disposition_of_issue {request : OutcomeRequest} {disposition : EffectDisposition}
    {reason : String} {signer : WorkloadSigner} {signedAt : Time}
    {acceptance : Option DurableCommitAcceptance}
    {acknowledgment : Option PlcCommandAcknowledgment} {o : SignedEffectOutcome}
    (h : SignedEffectOutcome.issue request disposition reason signer signedAt acceptance
      acknowledgment = .ok o) : o.disposition = disposition ∧ o.signedAt = signedAt := by
  simp only [SignedEffectOutcome.issue, bind_unit_eq_ok] at h
  obtain ⟨-, -, -, -, -, -, -, h⟩ := h
  obtain rfl := Except.ok.inj h
  exact ⟨rfl, rfl⟩

omit [RecordCodec] in
theorem unknowing_retainUnknownCommitOutcome (request : SignedEffectCommitRequest)
    (acceptance : DurableCommitAcceptance) (context : Context) :
    (retainUnknownCommitOutcome request acceptance context).Uses Unknowing := by
  refine uses_bind (uses_perform trivial) (fun signedAt => ?_)
  split
  · refine uses_bind (uses_perform ?_) (fun marked => ?_)
    · exact ⟨fun _ h => h.elim, fun _ h => h.elim, fun _ h => h.elim⟩
    · split
      · trivial
      · trivial
  · rename_i outcome hissue
    have hunknown := (disposition_of_issue hissue).1
    refine uses_bind (uses_perform ?_) (fun finished => ?_)
    · exact CoordinationJournalRecord.Changes.answering_within (fun o ho => ho ▸ hunknown)
    · exact uses_bind (uses_result _) (fun _ => uses_pure _)

/-- The fallback brings in no known outcome. -/
theorem stepped_retainUnknownCommitOutcome {request : SignedEffectCommitRequest}
    {acceptance : DurableCommitAcceptance} {context : Context} {s s' : OtState} {trace : OtTrace}
    {result : Except RuntimeError SignedEffectOutcome} (hconsistent : s.journal.Consistent)
    (h : (retainUnknownCommitOutcome request acceptance context).Runs OtState.steadily s trace
      result s') :
    s.journal.Stepped (.answering (fun o => o.disposition = .unknownEffect)) s'.journal := by
  refine h.keeps (Q := fun s₁ => s.journal.Stepped
    (.answering (fun o => o.disposition = .unknownEffect)) s₁.journal)
    (unknowing_retainUnknownCommitOutcome request acceptance context) ?_ (.refl hconsistent)
  intro s₁ action reply s₂ hunknowing hperform hstepped
  by_cases hpassive : action.Passive
  · rw [OtState.journal_of_passive hpassive hperform]
    exact hstepped
  · cases action with
    | journal op =>
      obtain ⟨-, now, hexec, -⟩ := hperform
      have hrun := op.run_stepped ⟨now, (.written, .written)⟩ hstepped.consistent
      rw [op.run_eq_exec, hexec] at hrun
      exact hstepped.trans (hrun.weaken hunknowing)
    | execute request => exact hunknowing.elim
    | _ => exact absurd trivial hpassive

/-- The part of a handler before the call of the device. -/
theorem runs_passive_bind {α β : Type} {p : OtProgram α} {f : α → OtProgram β}
    {s s' : OtState} {trace : OtTrace} {result : Except RuntimeError β}
    {executed : Option PlcCommandAcknowledgment × OtTrace} (hp : p.Uses OtAct.Passive)
    (h : (p >>= f).Runs OtState.steadily s trace result s')
    (hexecuted : trace.fromExecution = some executed) :
    ∃ before after a s₁, p.Runs OtState.steadily s before (.ok a) s₁ ∧
      s₁.journal = s.journal ∧ (f a).Runs OtState.steadily s₁ after result s' ∧
      OtTrace.fromExecution after = some executed := by
  rcases runs_bind h with ⟨before, after, a, s₁, rfl, hfirst, hrest⟩ | ⟨error, hraised, -⟩
  · rw [OtTrace.fromExecution_append after (hfirst.uses hp.harmless)] at hexecuted
    refine ⟨before, after, a, s₁, hfirst, ?_, hrest, hexecuted⟩
    exact hfirst.keeps (Q := fun s₁ => s₁.journal = s.journal) hp
      (fun _ _ _ _ hpassive hperform hsame =>
        (OtState.journal_of_passive hpassive hperform).trans hsame) rfl
  · have hnone := OtTrace.fromExecution_append [] (hraised.uses hp.harmless)
    rw [List.append_nil, hexecuted] at hnone
    cases hnone

omit [RecordCodec] in
/-- A resolved context signs with the key its credential names. -/
theorem matches_of_resolveContext {cfg : OtConfig} {view : TrustView} {time : Time}
    {context : Context} (h : resolveContext cfg view time = .ok context) :
    context.signer.Matches := by
  unfold resolveContext at h
  dsimp only at h
  split at h
  · cases h
  · cases h
  · rename_i gateway localIdentity hresolved
    simp only [bind_unit_eq_ok] at h
    obtain ⟨-, h⟩ := h
    obtain rfl := Except.ok.inj h
    simp only [bind_eq_ok, pure_eq_ok, Except.ok.injEq, Prod.mk.injEq] at hresolved
    obtain ⟨_, -, resolved, hlocal, -, rfl⟩ := hresolved
    simp only [LocalWorkloadIdentity.resolve, bind_eq_ok, refuseIf_eq_ok, exists_const, not_not,
      ne_eq, pure_eq_ok, Except.ok.injEq] at hlocal
    obtain ⟨_, hbinding, -, hmatch, rfl⟩ := hlocal
    simp only [WorkloadCredentialBinding.resolve, bind_eq_ok, pure_eq_ok,
      Except.ok.injEq] at hbinding
    obtain ⟨credential, -, publicKey, hverified, rfl⟩ := hbinding
    simp only [WorkloadIdentityVerifier.verifyCredential, bind_eq_ok, pure_eq_ok,
      Except.ok.injEq] at hverified
    obtain ⟨_, -, _, -, _, -, rfl⟩ := hverified
    exact hmatch

omit [RecordCodec] in
theorem harmless_exposeRetainedOutcome (cfg : OtConfig) (request : SignedEffectCommitRequest)
    (context : Context) (admission : CommitAdmission) (evaluatedAt : Time) :
    (exposeRetainedOutcome cfg request context admission evaluatedAt).Uses OtAct.Harmless := by
  refine uses_bind (uses_result _) (fun _ => ?_)
  refine uses_bind (uses_require _ _) (fun _ => ?_)
  exact uses_bind (passive_refreshCoordinationRecovery cfg).harmless (fun _ => uses_pure _)

/-- A handler that reached the device has accepted the commit at its first clock reading. -/
theorem commitEffect_executes {cfg : OtConfig} {request : SignedEffectCommitRequest}
    {s s' : OtState} {trace : OtTrace} {result : Except RuntimeError SignedEffectOutcome}
    {executed : Option PlcCommandAcknowledgment × OtTrace} (hconsistent : s.journal.Consistent)
    (hcall : (commitEffect cfg request).Runs OtState.steadily s trace result s')
    (hreached : trace.fromExecution = some executed) :
    ∃ acceptedAt rest context acceptance s₁ after e earlier a,
      trace = ⟨.clock, acceptedAt⟩ :: rest ∧ context.signer.Matches ∧
      s₁.journal.Accepted request context.signer acceptedAt acceptance e earlier a ∧
      (executeCommit cfg request acceptance context).Runs OtState.steadily s₁ after result s' ∧
      OtTrace.fromExecution after = some executed := by
  obtain ⟨acceptedAt, s₁, rest, rfl, hclock, h⟩ := runs_call_bind hcall
  obtain rfl : s₁ = s := hclock
  have hexecuted : OtTrace.fromExecution rest = some executed := hreached
  refine ⟨acceptedAt, rest, ?_⟩
  obtain ⟨_, _, context, s₂, hcontext, hjournal₂, h, hexecuted⟩ :=
    runs_passive_bind (passive_coordinationContext cfg acceptedAt) h hexecuted
  have hmatches : context.signer.Matches := by
    rcases runs_bind hcontext with ⟨_, _, _, _, -, -, hresolved⟩ | ⟨error, -, hraised⟩
    · obtain ⟨view, _, _, -, -, hview⟩ := runs_call_bind hresolved
      obtain ⟨-, hview, -⟩ := runs_done hview
      exact matches_of_resolveContext hview.symm
    · cases hraised
  obtain ⟨_, _, -, s₃, -, hjournal₃, h, hexecuted⟩ :=
    runs_passive_bind (uses_require _ _) h hexecuted
  obtain ⟨_, _, -, s₄, -, hjournal₄, h, hexecuted⟩ :=
    runs_passive_bind (passive_requireAnchorAdmission cfg _ _ _ _) h hexecuted
  obtain ⟨_, _, -, s₅, -, hjournal₅, h, hexecuted⟩ :=
    runs_passive_bind (passive_requireCoordinationAlignment cfg _) h hexecuted
  obtain ⟨begun, s₆, rest₆, rfl, hbegin, h⟩ := runs_call_bind h
  have hexecuted : OtTrace.fromExecution rest₆ = some executed := hexecuted
  obtain ⟨_, _, -, s₇, -, hjournal₇, h, hexecuted⟩ :=
    runs_passive_bind ((uses_call (OtAct.setMarker none)).mpr trivial) h hexecuted
  obtain ⟨_, _, admission, s₈, hadmission, hjournal₈, h, hexecuted⟩ :=
    runs_passive_bind (uses_result _) h hexecuted
  obtain ⟨_, _, -, s₉, -, hjournal₉, h, hexecuted⟩ :=
    runs_passive_bind (uses_require _ _) h hexecuted
  obtain ⟨-, hadmission, -⟩ := runs_done hadmission
  have hbegun : begun = .ok admission := mapError_eq_ok.mp hadmission.symm
  obtain ⟨-, now, hexec, -⟩ := hbegin
  have hjournal : s₅.journal = s₁.journal :=
    hjournal₅.trans (hjournal₄.trans (hjournal₃.trans hjournal₂))
  cases hstatus : admission.status with
  | terminal =>
    rw [hstatus] at h
    have hnone := OtTrace.fromExecution_append []
      (h.uses (harmless_exposeRetainedOutcome cfg request context admission acceptedAt))
    rw [List.append_nil, hexecuted] at hnone
    cases hnone
  | indeterminate =>
    rw [hstatus] at h
    obtain ⟨rfl, -, -⟩ := runs_done h
    cases hexecuted
  | new =>
    rw [hstatus] at h
    rw [hjournal, hbegun] at hexec
    obtain ⟨e, earlier, a, haccepted⟩ := Journal.accepted_beginCommit hconsistent
      (congrArg Prod.fst hexec) hstatus
    refine ⟨context, admission.acceptance, s₉, _, e, earlier, a, rfl, hmatches, ?_, h, hexecuted⟩
    have hafter : (s₁.journal.beginCommit request (acceptanceIssuer context.signer)
        (some (.aware acceptedAt)) now .written).2 = s₆.journal := congrArg Prod.snd hexec
    rw [hjournal₉, hjournal₈, hjournal₇, ← hafter]
    exact haccepted

/-- The handler from the call of the device on. -/
theorem executeCommit_settles_iff {cfg : OtConfig} {request : SignedEffectCommitRequest}
    {context : Context} {acceptance : DurableCommitAcceptance} {s s' : OtState}
    {trace after : OtTrace} {result : Except RuntimeError SignedEffectOutcome}
    {acknowledgment : PlcCommandAcknowledgment}
    {acceptedAt signedAt : Time} {e : JournalEntry .effectCoordinator}
    {earlier : List CoordinationAttempt} {a : EffectCommitAttempt} (hverify : SignaturesVerify)
    (hsigner : context.signer.Matches)
    (haccepted : s.journal.Accepted request context.signer acceptedAt acceptance e earlier a)
    (hrun : (executeCommit cfg request acceptance context).Runs OtState.steadily s trace result s')
    (hexecuted : trace.fromExecution = some (some acknowledgment, after))
    (hsigned : (OtTrace.clockReadings after).head? = some signedAt)
    (hlater : acceptedAt ≤ signedAt)
    (hstatus : acknowledgment.status = .applied ∨ acknowledgment.status = .rejected)
    (hverified : request.acknowledgedBy acknowledgment = true)
    (hnotBefore : acceptedAt ≤ acknowledgment.acknowledgedAt) :
    s'.journal.Holds request.effect.effectId (fun r => r.SettledBy acknowledgment) ↔
      request.SignableAt acknowledgment signedAt := by
  obtain ⟨answer, s₁, rest, rfl, hexecute, h⟩ := runs_call_bind hrun
  obtain ⟨rfl, rfl⟩ := Prod.mk.inj (Option.some.inj hexecuted)
  obtain rfl : s₁ = { s with executed := request :: s.executed } := hexecute
  obtain ⟨time, s₂, rest₂, rfl, hclock, h⟩ := runs_call_bind h
  obtain rfl : time = signedAt := Option.some.inj hsigned
  obtain rfl : s₂ = { s with executed := request :: s.executed } := hclock
  have hsignable := signable_iff hverify hsigner haccepted.issue hlater hstatus hverified hnotBefore
  cases hissue : SignedEffectOutcome.issue (.commit request)
      (EffectDisposition.ofStatus acknowledgment.status) acknowledgment.reason context.signer time
      (some acceptance) (some acknowledgment) with
  | error error =>
    -- The acknowledgment is dropped.
    rw [hissue] at h hsignable
    refine iff_of_false ?_ (fun hsign => by obtain ⟨_, ⟨⟩⟩ := hsignable.mpr hsign)
    exact haccepted.not_settled (stepped_retainUnknownCommitOutcome
      (s := { s with executed := request :: s.executed }) haccepted.consistent h) hstatus
  | ok o =>
    rw [hissue] at h
    refine iff_of_true ?_ (hsignable.mp ⟨o, hissue⟩)
    obtain ⟨finished, s₃, rest₃, rfl, hfinish, h⟩ := runs_call_bind h
    obtain ⟨hfits, now, hexec, -⟩ := hfinish
    have hsettled := haccepted.settled hverify hsigner hlater hissue
      now (by rw [hexec]; exact hfits)
    rw [hexec] at hsettled
    -- What follows does not touch the journal.
    have hpassive : (do
        let _ ← Program.result (finished.mapError (fun _ => commitIndeterminate))
        runIf (o.disposition.dispatchedTerminal = true) do
          let _ ← refreshCoordinationRecovery cfg
          let returned ← runCoordinationTerminalHook
          require (returned = false) (.other "terminal hook raised")
        pure o : OtProgram SignedEffectOutcome).Uses OtAct.Passive := by
      refine uses_bind (uses_result _) (fun _ => ?_)
      refine uses_bind (uses_runIf ?_) (fun _ => uses_pure _)
      refine uses_bind (passive_refreshCoordinationRecovery cfg) (fun _ => ?_)
      exact uses_bind (uses_perform trivial) (fun _ => uses_require _ _)
    have hsame : s'.journal = s₃.journal := h.keeps (Q := fun s₄ => s₄.journal = s₃.journal)
      hpassive (fun _ _ _ _ hpassive hperform hsame =>
        (OtState.journal_of_passive hpassive hperform).trans hsame) rfl
    rw [hsame]
    exact hsettled

end OtProgram

omit [RecordCodec] in
/-- The readings after the call of the device are the last ones. -/
theorem OtTrace.clockReadings_fromExecution {trace after : OtTrace}
    {answer : Option PlcCommandAcknowledgment}
    (h : trace.fromExecution = some (answer, after)) :
    ∃ before, clockReadings trace = before ++ clockReadings after := by
  induction trace with
  | nil => cases h
  | cons event rest ih =>
    obtain ⟨action, reply⟩ := event
    cases action with
    | execute request =>
      obtain ⟨-, rfl⟩ := Prod.mk.inj (Option.some.inj h)
      exact ⟨[], rfl⟩
    | clock =>
      obtain ⟨before, hbefore⟩ := ih h
      exact ⟨reply :: before, congrArg (List.cons reply) hbefore⟩
    | _ => exact ih h

/-- A call of `commit_effect` that got a known acknowledgment settles the record, and every later
    answer about the effect says so, exactly when the outcome could be signed. -/
theorem OtRun.known_outcome_retained_iff (hverify : SignaturesVerify) {init : OtSystem}
    (hinit : init.Initial) {cfg : OtConfig} {s s' : OtState} (hrun : OtRun init ⟨cfg, s, none⟩)
    {request : SignedEffectCommitRequest} {trace after : OtTrace}
    {result : Except RuntimeError OtReply}
    (hcall : ((OtRequest.commit request).handle cfg).Runs OtState.steadily s trace result s')
    (hclock : (OtTrace.clockReadings trace).Pairwise (· ≤ ·))
    {acknowledgment : PlcCommandAcknowledgment} {acceptedAt signedAt : Time}
    (hexecuted : trace.fromExecution = some (some acknowledgment, after))
    (haccepted : (OtTrace.clockReadings trace).head? = some acceptedAt)
    (hsigned : (OtTrace.clockReadings after).head? = some signedAt)
    (hstatus : acknowledgment.status = .applied ∨ acknowledgment.status = .rejected)
    (hverified : request.acknowledgedBy acknowledgment = true)
    (hnotBefore : acceptedAt ≤ acknowledgment.acknowledgedAt) :
    (s'.journal.Holds request.effect.effectId (fun r => r.SettledBy acknowledgment) ∧
      ∀ later, OtRun ⟨cfg, s'.answer result, none⟩ later → ∀ o ∈ later.state.answered,
        o.effect.effectId = request.effect.effectId →
          o.disposition = EffectDisposition.ofStatus acknowledgment.status) ↔
      request.SignableAt acknowledgment signedAt := by
  have hsafe := OtRun.safe hrun hinit.safe
  have hcommit : ∃ returned, (OtProgram.commitEffect cfg request).Runs OtState.steadily s trace
      returned s' := by
    rcases runs_bind hcall with ⟨before, rest, o, s₁, rfl, hcommit, hdone⟩ | ⟨error, hcommit, -⟩
    · obtain ⟨rfl, -, rfl⟩ := runs_done hdone
      rw [List.append_nil]
      exact ⟨_, hcommit⟩
    · exact ⟨_, hcommit⟩
  obtain ⟨returned, hcommit⟩ := hcommit
  obtain ⟨first, rest, context, acceptance, s₁, reached, e, earlier, a, rfl, hsigner, hjournal,
    hexecute, hreached⟩ := OtProgram.commitEffect_executes hsafe.sound.consistent hcommit hexecuted
  obtain rfl : acceptedAt = first := (Option.some.inj haccepted).symm
  have hlater : acceptedAt ≤ signedAt := by
    have hrest : OtTrace.fromExecution rest = some (_, after) := hexecuted
    obtain ⟨before, hbefore⟩ := OtTrace.clockReadings_fromExecution hrest
    have hmem : signedAt ∈ OtTrace.clockReadings rest := by
      rw [hbefore]
      exact List.mem_append_right _ (List.mem_of_head? hsigned)
    exact (List.pairwise_cons.mp hclock).1 signedAt hmem
  have hsettles := OtProgram.executeCommit_settles_iff hverify hsigner hjournal hexecute hreached
    hsigned hlater hstatus hverified hnotBefore
  rw [← hsettles]
  refine ⟨And.left, fun hsettled => ⟨hsettled, ?_⟩⟩
  intro later hlaterRun o ho heffect
  -- The answered outcome is retained in a record that stays settled.
  have hended : OtRun ⟨cfg, s, none⟩ ⟨cfg, s'.answer result, none⟩ :=
    .head (.start cfg s (.commit request)) (.tail hcall.otRun (.finish cfg s' result))
  have hsafeEnd := OtRun.safe hended hsafe
  have hfile : RecordMap.Holds later.state.journal.file request.effect.effectId
      (fun r => r.SettledBy acknowledgment) := by
    refine OtRun.holds_file hlaterRun hsafeEnd (fun _ _ hextends h => h.extends hstatus hextends) ?_
    rw [OtState.journal_answer]
    exact hsettled.2
  obtain ⟨f, hf, hsettledLater⟩ := hfile
  obtain ⟨-, g, hg, hretains⟩ := (OtRun.safe hlaterRun hsafeEnd).sound.retained o ho
  rw [heffect] at hg
  obtain rfl := Option.some.inj (hf.symm.trans hg)
  exact hsettledLater.agreed o hretains

end

namespace Sample

/-- The sample effect is prepared. -/
def otPrepared : OtSystem := otSystem.serveAll otPreparing

/-- The PLC applied the sample command at time 4. -/
def sampleAcknowledgment : PlcCommandAcknowledgment :=
  appliedAcknowledgment "action-1" "acknowledgment-1" 4

/-- The commit is accepted at time 3 and the clock then stands at another time. -/
def deviceApplies (signedAt : Time) : OtEnvironment :=
  { calmAt 3 (some sampleAcknowledgment) with clock := fun n => if n = 0 then 3 else signedAt }

/-- The trace of the sample commit in that environment. -/
def appliedTrace (signedAt : Time) : OtTrace :=
  OtProgram.traceWith (deviceApplies signedAt) ((OtRequest.commit sampleCommit).handle otConfig) 0
    otPrepared.state

/-- Its result and the state it leaves. -/
def appliedEnd (signedAt : Time) : Except RuntimeError OtReply × OtState :=
  OtProgram.runWith (deviceApplies signedAt) ((OtRequest.commit sampleCommit).handle otConfig) 0
    otPrepared.state

theorem signaturesVerify : SignaturesVerify :=
  ⟨fun _ _ => rfl, fun _ _ => show signature ≠ "" by decide⟩

theorem run_otPrepared : OtRun otSystem ⟨otConfig, otPrepared.state, none⟩ :=
  OtSystem.run_serveAll otPreparing rfl

theorem runs_applied {signedAt : Time}
    (hstored : (appliedTrace signedAt).all (fun event => event.action.stored event.reply) = true) :
    ((OtRequest.commit sampleCommit).handle otConfig).Runs OtState.steadily otPrepared.state
      (appliedTrace signedAt) (appliedEnd signedAt).1 (appliedEnd signedAt).2 :=
  OtProgram.runs_runWith rfl _ 0 _ hstored

/-- What the statements below read off a trace. -/
def readings (trace : OtTrace) : Bool × List Time ×
    Option (Option PlcCommandAcknowledgment × Option Time) :=
  (trace.all (fun event => event.action.stored event.reply), OtTrace.clockReadings trace,
    (OtTrace.fromExecution trace).map (fun x => (x.1, (OtTrace.clockReadings x.2).head?)))

set_option maxRecDepth 10000 in
theorem readings_in_time :
    readings (appliedTrace 5) = (true, [3, 5], some (some sampleAcknowledgment, some 5)) := by
  decide +kernel

set_option maxRecDepth 10000 in
theorem readings_late : readings (appliedTrace (20 * second)) =
    (true, [3, 20 * second, 20 * second],
      some (some sampleAcknowledgment, some (20 * second))) := by
  decide +kernel

end Sample

section

open Sample

/-- The device answered in time, and the record is applied. -/
theorem known_outcome_retained_iff_in_time :
    (appliedEnd 5).2.journal.Holds sampleCommit.effect.effectId
      (fun r => r.SettledBy sampleAcknowledgment) := by
  obtain ⟨hstored, hreadings⟩ := Prod.mk.inj readings_in_time
  obtain ⟨hclock, hexecuted⟩ := Prod.mk.inj hreadings
  obtain ⟨⟨answer, after⟩, hexecuted, hafter⟩ := Option.map_eq_some_iff.mp hexecuted
  obtain ⟨rfl, hsigned⟩ := Prod.mk.inj hafter
  have haccepted : (OtTrace.clockReadings (appliedTrace 5)).head? = some 3 := by
    rw [hclock]
    rfl
  have hordered : (OtTrace.clockReadings (appliedTrace 5)).Pairwise (· ≤ ·) := by
    rw [hclock]
    decide
  exact ((OtRun.known_outcome_retained_iff signaturesVerify initial_otSystem run_otPrepared
    (runs_applied hstored) hordered hexecuted haccepted hsigned (.inl rfl) (by decide +kernel)
    (by decide)).mpr ⟨by decide, by decide, by decide, by decide⟩).1

set_option maxRecDepth 10000 in
/-- The device answered after the commit request had expired: the command was applied and the
    acknowledgment verifies, but the record says that the effect is unknown. -/
theorem late_acknowledgment_dropped :
    ∃ after signedAt,
      OtRun otSystem ⟨otConfig, otPrepared.state, none⟩ ∧
      ((OtRequest.commit sampleCommit).handle otConfig).Runs OtState.steadily otPrepared.state
        (appliedTrace (20 * second)) (appliedEnd (20 * second)).1 (appliedEnd (20 * second)).2 ∧
      (OtTrace.clockReadings (appliedTrace (20 * second))).Pairwise (· ≤ ·) ∧
      (appliedTrace (20 * second)).fromExecution = some (some sampleAcknowledgment, after) ∧
      (OtTrace.clockReadings (appliedTrace (20 * second))).head? = some 3 ∧
      (OtTrace.clockReadings after).head? = some signedAt ∧
      sampleAcknowledgment.status = .applied ∧
      sampleCommit.acknowledgedBy sampleAcknowledgment = true ∧
      3 ≤ sampleAcknowledgment.acknowledgedAt ∧
      ¬ (appliedEnd (20 * second)).2.journal.Holds sampleCommit.effect.effectId
        (fun r => r.SettledBy sampleAcknowledgment) := by
  obtain ⟨hstored, hreadings⟩ := Prod.mk.inj readings_late
  obtain ⟨hclock, hexecuted⟩ := Prod.mk.inj hreadings
  obtain ⟨⟨answer, after⟩, hexecuted, hafter⟩ := Option.map_eq_some_iff.mp hexecuted
  obtain ⟨rfl, hsigned⟩ := Prod.mk.inj hafter
  refine ⟨after, 20 * second, run_otPrepared, runs_applied hstored, ?_, hexecuted, ?_, hsigned,
    rfl, by decide +kernel, by decide, ?_⟩
  · rw [hclock]
    decide
  · rw [hclock]
    rfl
  · rintro ⟨⟨e, he, hsettled⟩, -⟩
    have hunknown : ((appliedEnd (20 * second)).2.journal.records.find?
        sampleCommit.effect.effectId).map (fun e => e.record.state) = some .unknownEffect := by
      decide +kernel
    rw [he, Option.map_some, hsettled.state] at hunknown
    cases hunknown

end

end AegisOt
