import AegisOt.Coordination.Operations
import Mathlib.Data.List.Chain

/-!
# What a valid record says

The loops of `require_legal_history` read backwards. The attempt loop is a fold of
`AttemptScan.next` whose turns are all admitted (`scanAttempts_eq_ok`), so every accumulator is
the set of contributions of the attempts. From there each clause of the validator becomes a
statement about the record's own transitions and attempts; `ValidHistory` collects them.
-/

namespace AegisOt

/-! ## The state table -/

namespace CoordinationState

/-- How far a state is along its path. -/
def rank : CoordinationState → Nat
  | .received => 0
  | .dispatchArmed => 1
  | .commitAccepted => 2
  | .unknownEffect => 3
  | .notDispatched | .applied | .rejected => 4

theorem rank_le_four (s : CoordinationState) : s.rank ≤ 4 := by
  cases s <;> simp [rank]

theorem rank_lt_of_canTransitionTo {s t : CoordinationState}
    (h : s.canTransitionTo t = true) : s.rank < t.rank := by
  revert h
  cases s <;> cases t <;> decide

theorem canTransitionTo_terminal {s : CoordinationState} (h : s.terminal = true)
    (t : CoordinationState) : s.canTransitionTo t = false := by
  revert h
  cases s <;> cases t <;> decide

theorem eq_dispatchArmed_of_to_commitAccepted {s : CoordinationState}
    (h : s.canTransitionTo .commitAccepted = true) : s = .dispatchArmed := by
  revert h
  cases s <;> decide

theorem eq_received_of_to_dispatchArmed {s : CoordinationState}
    (h : s.canTransitionTo .dispatchArmed = true) : s = .received := by
  revert h
  cases s <;> decide

theorem not_to_received (s : CoordinationState) : s.canTransitionTo .received = false := by
  cases s <;> decide

theorem postCommit_of_canTransitionTo {s t : CoordinationState} (hs : s.postCommit = true)
    (h : s.canTransitionTo t = true) : t.postCommit = true := by
  revert hs h
  cases s <;> cases t <;> decide

theorem dispatchedTerminal_terminal {s : CoordinationState} (h : s.dispatchedTerminal = true) :
    s.terminal = true := by
  revert h
  cases s <;> decide

theorem dispatchedTerminal_postCommit {s : CoordinationState}
    (h : s.dispatchedTerminal = true) : s.postCommit = true := by
  revert h
  cases s <;> decide

end CoordinationState

theorem EffectDisposition.dispatchedTerminal_of_forState {d : EffectDisposition}
    {s : CoordinationState} (h : some d = EffectDisposition.forState s) :
    d.dispatchedTerminal = s.dispatchedTerminal := by
  cases s <;> cases h <;> rfl

/-- A path of the legal transition table. -/
abbrev LegalPath (states : List CoordinationState) : Prop :=
  states.IsChain (fun s t => s.canTransitionTo t = true)

/-- Ranks grow by at least one at each transition. -/
theorem LegalPath.length_le_rank {s : CoordinationState} {states : List CoordinationState}
    (h : LegalPath (s :: states)) : ∀ last ∈ (s :: states).getLast?,
      s.rank + states.length ≤ last.rank := by
  induction states generalizing s with
  | nil => simp
  | cons t rest ih =>
    obtain ⟨hst, hrest⟩ := List.isChain_cons_cons.mp h
    intro last hlast
    have hlast' : last ∈ (t :: rest).getLast? := by simpa using hlast
    have := ih hrest last hlast'
    have := CoordinationState.rank_lt_of_canTransitionTo hst
    simp only [List.length_cons]
    omega

/-- No path of the table has more than five states. -/
theorem LegalPath.length_le_five {states : List CoordinationState} (h : LegalPath states) :
    states.length ≤ 5 := by
  cases states with
  | nil => simp
  | cons s rest =>
    obtain ⟨last, hlast⟩ := Option.isSome_iff_exists.mp
      (show (s :: rest).getLast?.isSome from by simp)
    have := h.length_le_rank last hlast
    have := last.rank_le_four
    simp only [List.length_cons]
    omega

/-- Two neighbours of a path are a legal transition. -/
theorem LegalPath.getElem_succ {states : List CoordinationState} (h : LegalPath states)
    {i : Nat} {s t : CoordinationState} (hs : states[i]? = some s)
    (ht : states[i + 1]? = some t) : s.canTransitionTo t = true := by
  obtain ⟨hi, rfl⟩ := List.getElem?_eq_some_iff.mp ht
  obtain ⟨_, rfl⟩ := List.getElem?_eq_some_iff.mp hs
  exact List.isChain_iff_getElem.mp h i hi

/-- After durable commit acceptance a path never leaves the post-commit states. -/
theorem LegalPath.postCommit_getLast {states : List CoordinationState} (h : LegalPath states)
    {s : CoordinationState} (hmem : s ∈ states) (hs : s.postCommit = true) :
    ∀ last ∈ states.getLast?, last.postCommit = true := by
  induction states generalizing s with
  | nil => simp at hmem
  | cons t rest ih =>
    intro last hlast
    cases rest with
    | nil =>
      obtain rfl : t = last := by simpa using hlast
      obtain rfl : s = t := by simpa using hmem
      exact hs
    | cons u rest =>
      obtain ⟨htu, hrest⟩ := List.isChain_cons_cons.mp h
      have hlast' : last ∈ (u :: rest).getLast? := by simpa using hlast
      rcases List.mem_cons.mp hmem with rfl | hmem
      · exact ih hrest List.mem_cons_self
          (CoordinationState.postCommit_of_canTransitionTo hs htu) last hlast'
      · exact ih hrest hmem hs last hlast'

/-- COMMIT_ACCEPTED is reached in exactly two transitions from RECEIVED. -/
theorem LegalPath.index_commitAccepted {states : List CoordinationState} (h : LegalPath states)
    (hhead : states.head? = some .received) {i : Nat}
    (hi : states[i]? = some .commitAccepted) : i = 2 := by
  have hzero : states[0]? = some .received := by simpa [List.head?_eq_getElem?] using hhead
  -- The predecessors are forced: DISPATCH_ARMED, then RECEIVED, which has none.
  match i with
  | 0 => simp [hzero] at hi
  | 1 =>
    have := h.getElem_succ hzero hi
    simp [CoordinationState.canTransitionTo, CoordinationState.legalTransitions] at this
  | 2 => rfl
  | k + 3 =>
    have hlen := (List.getElem?_eq_some_iff.mp hi).1
    obtain ⟨a, ha⟩ : ∃ a, states[k]? = some a := ⟨_, List.getElem?_eq_getElem (by omega)⟩
    obtain ⟨b, hb⟩ : ∃ b, states[k + 1]? = some b := ⟨_, List.getElem?_eq_getElem (by omega)⟩
    obtain ⟨c, hc⟩ : ∃ c, states[k + 2]? = some c := ⟨_, List.getElem?_eq_getElem (by omega)⟩
    have hcArmed := CoordinationState.eq_dispatchArmed_of_to_commitAccepted (h.getElem_succ hc hi)
    have hbReceived := CoordinationState.eq_received_of_to_dispatchArmed
      (hcArmed ▸ h.getElem_succ hb hc)
    have := h.getElem_succ ha hb
    rw [hbReceived, CoordinationState.not_to_received] at this
    cases this

/-! ## Attempts -/

section ExactAttempts

variable [Primitives]

theorem EffectPrepareAttempt.requestSha256_eq {a : EffectPrepareAttempt}
    (h : a.requireExact = .ok ()) : a.requestSha256 = a.request.digest := by
  simp only [requireExact, bind_unit_eq_ok, refuseIf_eq_ok, not_or, not_not, ne_eq] at h
  exact h.2.1.1

theorem EffectCommitAttempt.requestSha256_eq {a : EffectCommitAttempt}
    (h : a.requireExact = .ok ()) : a.requestSha256 = a.request.digest := by
  simp only [requireExact, bind_unit_eq_ok, refuseIf_eq_ok, not_or, not_not, ne_eq] at h
  exact h.2.2.1.1

theorem EffectQueryAttempt.requestSha256_eq {a : EffectQueryAttempt}
    (h : a.requireExact = .ok ()) : a.requestSha256 = a.request.digest := by
  simp only [requireExact, bind_unit_eq_ok, refuseIf_eq_ok, not_or, not_not, ne_eq] at h
  exact h.2.2.1.1

/-- Only a commit attempt with a retained response has an outcome, bound to its request and its
    acceptance. -/
theorem EffectCommitAttempt.outcome_spec {a : EffectCommitAttempt}
    (h : a.requireExact = .ok ()) {o : SignedEffectOutcome} (ho : a.outcome = some o) :
    a.status = .responseRetained ∧ o.binds (.commit a.request) ∧ a.acceptance ≠ none ∧
      o.acceptance = a.acceptance := by
  simp only [requireExact, bind_unit_eq_ok] at h
  obtain ⟨-, -, -, -, -, -, h⟩ := h
  cases hstatus : a.status with
  | responseRetained =>
    simp only [hstatus, bind_unit_eq_ok, refuseIf_eq_ok, not_not] at h
    obtain ⟨⟨o', ho', hbinds, hacceptance, hsame⟩, -⟩ := h
    obtain rfl : o = o' := Option.some.inj (ho.symm.trans ho')
    exact ⟨rfl, hbinds, hacceptance, hsame⟩
  | outcomeUnknown => simp [hstatus, ho] at h
  | requestRetained => simp [hstatus, ho] at h

/-- The checks every query attempt passes. -/
def EffectQueryAttempt.RequestExact (a : EffectQueryAttempt) : Prop :=
  a.requestSha256 = a.request.digest ∧ a.request.signature ≠ "" ∧ a.request.verify = true

theorem EffectQueryAttempt.requireExact_requestRetained {a : EffectQueryAttempt}
    (hstatus : a.status = .requestRetained) :
    a.requireExact = .ok () ↔
      (∀ reason ∈ a.failureReason, lengthWithin 1 512 reason = true) ∧
      a.toAttemptBase.validateTimes = .ok () ∧ a.RequestExact ∧
      a.request.issuedAt ≤ a.retainedAt ∧
      a.outcome = none ∧ a.failureReason = none ∧ a.failureEvidenceSha256 = none := by
  simp only [requireExact, hstatus, bind_unit_eq_ok, refuseIf_eq_ok, RequestExact, not_exists,
    not_and, Bool.not_eq_false, not_or, not_not, ne_eq, not_lt]

theorem EffectQueryAttempt.requireExact_responseRetained {a : EffectQueryAttempt}
    (hstatus : a.status = .responseRetained) :
    a.requireExact = .ok () ↔
      (∀ reason ∈ a.failureReason, lengthWithin 1 512 reason = true) ∧
      a.toAttemptBase.validateTimes = .ok () ∧ a.RequestExact ∧
      a.request.issuedAt ≤ a.retainedAt ∧
      (∃ outcome ∈ a.outcome, outcome.binds (.query a.request)) ∧
      (a.failureReason = none ∧ a.failureEvidenceSha256 = none) ∧
      ∀ outcome ∈ a.outcome, outcome.signedAt ≤ a.updatedAt := by
  simp only [requireExact, hstatus, bind_unit_eq_ok, refuseIf_eq_ok, RequestExact, not_or,
    not_not, ne_eq]
  simp only [not_exists, not_and, Bool.not_eq_false, not_lt]

/-- Only a query attempt with a retained response has an outcome, bound to its request. -/
theorem EffectQueryAttempt.outcome_spec {a : EffectQueryAttempt}
    (h : a.requireExact = .ok ()) {o : SignedEffectOutcome} (ho : a.outcome = some o) :
    a.status = .responseRetained ∧ o.binds (.query a.request) := by
  simp only [requireExact, bind_unit_eq_ok] at h
  obtain ⟨-, -, -, -, h⟩ := h
  cases hstatus : a.status with
  | responseRetained =>
    simp only [hstatus, bind_unit_eq_ok, refuseIf_eq_ok, not_not] at h
    obtain ⟨⟨o', ho', hbinds⟩, -⟩ := h
    obtain rfl : o = o' := Option.some.inj (ho.symm.trans ho')
    exact ⟨rfl, hbinds⟩
  | outcomeUnknown => simp [hstatus, ho] at h
  | requestRetained => simp [hstatus, ho] at h

theorem EffectCommitAttempt.acceptance_binds {a : EffectCommitAttempt}
    (h : a.requireExact = .ok ()) {acceptance : DurableCommitAcceptance}
    (hacceptance : a.acceptance = some acceptance) : acceptance.binds a.request := by
  simp only [requireExact, bind_unit_eq_ok, refuseIf_eq_ok] at h
  obtain ⟨-, -, -, -, hbinds, -⟩ := h
  by_contra hnot
  exact hbinds ⟨acceptance, hacceptance, hnot⟩

theorem CoordinationAttempt.prepare_exact {a : EffectPrepareAttempt}
    (h : (CoordinationAttempt.prepare a).validate = .ok ()) : a.requireExact = .ok () := by
  simp only [CoordinationAttempt.validate, bind_unit_eq_ok] at h
  exact h.2.2

theorem CoordinationAttempt.commit_exact {a : EffectCommitAttempt}
    (h : (CoordinationAttempt.commit a).validate = .ok ()) : a.requireExact = .ok () := by
  simp only [CoordinationAttempt.validate, bind_unit_eq_ok] at h
  exact h.2.2.2

theorem CoordinationAttempt.query_exact {a : EffectQueryAttempt}
    (h : (CoordinationAttempt.query a).validate = .ok ()) : a.requireExact = .ok () := by
  simp only [CoordinationAttempt.validate, bind_unit_eq_ok] at h
  exact h.2.2

theorem SignedEffectOutcome.closed_of_validate {o : SignedEffectOutcome}
    (h : o.validate = .ok ()) : o.requireClosedOutcome = .ok () := by
  cases hacceptance : o.acceptance with
  | none =>
    simp only [validate, hacceptance, bind_unit_eq_ok] at h
    exact h.2
  | some acceptance =>
    simp only [validate, hacceptance, bind_unit_eq_ok] at h
    exact h.2.2

/-- What a dispatched outcome holds of the acceptance it carries. -/
structure SignedEffectOutcome.Evidences (o : SignedEffectOutcome)
    (acceptance : DurableCommitAcceptance) : Prop where
  effect : acceptance.effect = o.effect
  accepted : acceptance.acceptedAt ≤ o.signedAt
  subject : o.coordinatorCredential.credential.subject =
    acceptance.coordinatorCredential.credential.subject
  terminal : o.disposition.dispatchedTerminal = true →
    o.acknowledgment.map (fun a => a.status) = o.disposition.expectedStatus
  unknown : o.disposition = .unknownEffect →
    ∀ a, o.acknowledgment = some a → a.status = .unknownEffect
  chronology : ∀ a, o.acknowledgment = some a →
    acceptance.acceptedAt ≤ a.acknowledgedAt ∧ a.acknowledgedAt ≤ o.signedAt
  transaction : ∀ a, o.acknowledgment = some a →
    SignedEffectOutcome.acknowledgmentTransactionValid acceptance a = true

theorem SignedEffectOutcome.evidences_of_required {o : SignedEffectOutcome}
    {acceptance : DurableCommitAcceptance}
    (h : o.requireDispatchedEvidence acceptance = .ok ()) : o.Evidences acceptance := by
  simp only [requireDispatchedEvidence, bind_unit_eq_ok, refuseIf_eq_ok, not_not, ne_eq, not_lt,
    not_and] at h
  obtain ⟨heffect, haccepted, hsubject, hterminal, hunknown, hrest⟩ := h
  refine ⟨heffect, haccepted, hsubject, hterminal, ?_, ?_, ?_⟩
  · intro hdisposition a ha
    have hnone := hunknown hdisposition
    rw [ha] at hnone
    simpa using hnone
  · intro a ha
    rw [ha] at hrest
    simp only [bind_unit_eq_ok, refuseIf_eq_ok] at hrest
    have hordered := hrest.1
    rw [Classical.not_imp, not_not] at hordered
    exact hordered
  · intro a ha
    rw [ha] at hrest
    simp only [bind_unit_eq_ok, refuseIf_eq_ok, Bool.not_eq_false] at hrest
    exact hrest.2

/-- A closed outcome denies any dispatch or evidences one. -/
theorem SignedEffectOutcome.closed_cases {o : SignedEffectOutcome} (h : o.validate = .ok ()) :
    (o.disposition = .notDispatched ∧ o.requestKind = .query ∧ o.acceptance = none ∧
        o.acknowledgment = none) ∨
      (o.disposition ≠ .notDispatched ∧ ∃ acceptance, o.acceptance = some acceptance ∧
        o.Evidences acceptance) := by
  have hclosed := closed_of_validate h
  by_cases hnd : o.disposition = .notDispatched
  · simp only [requireClosedOutcome, bind_unit_eq_ok, hnd, if_true, refuseIf_eq_ok, not_or,
      not_not, ne_eq] at hclosed
    obtain ⟨-, -, -, -, -, hkind, hacceptance, hacknowledgment⟩ := hclosed
    exact .inl ⟨hnd, hkind, hacceptance, hacknowledgment⟩
  · simp only [requireClosedOutcome, bind_unit_eq_ok, hnd, if_false, refuseIf_eq_ok] at hclosed
    obtain ⟨-, -, -, -, -, hclosed⟩ := hclosed
    simp only [bind_eq_ok, orRaise_eq_ok] at hclosed
    obtain ⟨acceptance, hacceptance, hevidence⟩ := hclosed
    exact .inr ⟨hnd, acceptance, hacceptance, evidences_of_required hevidence⟩

/-- The coordinator's credential holds when the outcome is signed. -/
theorem SignedEffectOutcome.credential_valid {o : SignedEffectOutcome}
    (h : o.validate = .ok ()) :
    credentialClaimValidAt o.coordinatorCredential o.signedAt = true := by
  have hclosed := closed_of_validate h
  simp only [requireClosedOutcome, bind_unit_eq_ok, refuseIf_eq_ok, Bool.not_eq_false] at hclosed
  exact hclosed.2.2.2.2.1

/-- A commit is never answered NOT_DISPATCHED. -/
theorem CoordinationAttempt.commit_outcome_dispatched {a : EffectCommitAttempt}
    (h : (CoordinationAttempt.commit a).validate = .ok ()) {o : SignedEffectOutcome}
    (ho : a.outcome = some o) : o.disposition ≠ .notDispatched := by
  obtain ⟨-, -, hacceptance, hsame⟩ := EffectCommitAttempt.outcome_spec (commit_exact h) ho
  simp only [CoordinationAttempt.validate, bind_unit_eq_ok, ho, validateSome] at h
  have hclosed := SignedEffectOutcome.closed_of_validate h.2.2.1
  intro hnd
  simp only [SignedEffectOutcome.requireClosedOutcome, bind_unit_eq_ok, hnd, if_true,
    refuseIf_eq_ok, not_or, not_not, ne_eq] at hclosed
  exact hacceptance (hsame.symm.trans hclosed.2.2.2.2.2.2.1)

end ExactAttempts

namespace CoordinationJournalRecord

section Transitions

/-- The transition loop, read backwards. -/
theorem scanTransitions_eq_ok {n : Nat} {prior : Option CoordinationTransition}
    {transitions : List CoordinationTransition} :
    scanTransitions n prior transitions = .ok () ↔
      (∀ i t, transitions[i]? = some t → t.sequence = n + i) ∧
      (prior.toList ++ transitions).IsChain
        (fun s t => s.recordedAt ≤ t.recordedAt ∧ s.state.canTransitionTo t.state = true) := by
  induction transitions generalizing n prior with
  | nil =>
    cases prior <;> simp [scanTransitions]
  | cons t rest ih =>
    simp only [scanTransitions, bind_eq_ok, refuseIf_eq_ok, ih, exists_const]
    constructor
    · rintro ⟨hseq, hold, hlegal, hrest, hchain⟩
      refine ⟨?_, ?_⟩
      · intro i s hs
        cases i with
        | zero =>
          obtain rfl : t = s := by simpa using hs
          simpa using hseq
        | succ i =>
          have := hrest i s (by simpa using hs)
          omega
      · cases prior with
        | none => simpa using hchain
        | some p =>
          have hp : p.recordedAt ≤ t.recordedAt ∧ p.state.canTransitionTo t.state = true := by
            simp only [Option.mem_def, Option.some.injEq, exists_eq_left', not_lt,
              Bool.not_eq_false] at hold hlegal
            exact ⟨hold, hlegal⟩
          exact List.isChain_cons_cons.mpr ⟨hp, by simpa using hchain⟩
    · rintro ⟨hseq, hchain⟩
      have hrest : (t :: rest).IsChain (fun s t => s.recordedAt ≤ t.recordedAt ∧
          s.state.canTransitionTo t.state = true) := by
        cases prior with
        | none => simpa using hchain
        | some p => exact (List.isChain_cons_cons.mp hchain).2
      refine ⟨?_, ?_, ?_, ?_, ?_⟩
      · have := hseq 0 t rfl
        simpa using this
      · cases prior with
        | none => simp
        | some p => simpa using (List.isChain_cons_cons.mp hchain).1.1
      · cases prior with
        | none => simp
        | some p => simpa using (List.isChain_cons_cons.mp hchain).1.2
      · intro i s hs
        have := hseq (i + 1) s (by simpa using hs)
        omega
      · simpa using hrest

end Transitions

variable [Primitives]

section Attempts

/-- What one admitted turn of the attempt loop adds. -/
def AttemptScan.next (scan : AttemptScan) (attempt : CoordinationAttempt) : AttemptScan :=
  let outcome := attempt.outcome.toList
  { priorRetainedAt := some attempt.base.retainedAt
    retainedReceipts :=
      attempt.receipt?.toList.map CoordinationReceipt.digest ++ scan.retainedReceipts
    commitRequests := (match attempt with
      | .commit a => [a.request.digest]
      | .prepare _ | .query _ => []) ++ scan.commitRequests
    commitAttemptCount := scan.commitAttemptCount + if attempt.isCommit then 1 else 0
    retainedAcceptances := (match attempt with
      | .commit a => a.acceptance.toList.map (fun acceptance => (a.request.digest, acceptance))
      | .prepare _ | .query _ => []) ++ scan.retainedAcceptances
    notDispatchedOutcomeDigests := (match attempt with
      | .query _ => (outcome.filter (fun o => decide (o.disposition = .notDispatched))).map
          SignedEffectOutcome.digest
      | .prepare _ | .commit _ => []) ++ scan.notDispatchedOutcomeDigests
    terminalOutcomes := (outcome.filter (fun o => o.disposition.dispatchedTerminal)).map
      (fun o => (o.disposition, o.digest)) ++ scan.terminalOutcomes }

/-- The checks of one turn of the attempt loop. -/
structure AttemptScan.Admits (effect : EffectIdentity) (n : Nat) (scan : AttemptScan)
    (attempt : CoordinationAttempt) : Prop where
  sequence : attempt.base.sequence = n
  sameEffect : attempt.signedRequest.effect = effect
  chronology : ∀ prior ∈ scan.priorRetainedAt, prior ≤ attempt.base.retainedAt
  commitReceipt : ∀ a, attempt = .commit a → a.request.receipt.digest ∈ scan.retainedReceipts
  queryOutcome : ∀ a, attempt = .query a → ∀ o ∈ a.outcome, o.disposition ≠ .notDispatched →
    (∃ receipt ∈ o.receipt, receipt.digest ∈ scan.retainedReceipts) ∧
    ∃ acceptance ∈ o.acceptance,
      lookupEntry acceptance.commitRequest.digest scan.retainedAcceptances = some acceptance

theorem addKind_prepare {scan scan' : AttemptScan} {a : EffectPrepareAttempt} :
    ({ scan with priorRetainedAt := some a.retainedAt } : AttemptScan).addKind (.prepare a) =
      .ok scan' ↔ scan.next (.prepare a) = scan' := by
  cases hreceipt : a.receipt <;>
    simp [AttemptScan.addKind, AttemptScan.next, CoordinationAttempt.receipt?, hreceipt,
      CoordinationAttempt.outcome, CoordinationAttempt.isCommit, CoordinationAttempt.base]

theorem addKind_commit {scan scan' : AttemptScan} {a : EffectCommitAttempt} :
    ({ scan with priorRetainedAt := some a.retainedAt } : AttemptScan).addKind (.commit a) =
      .ok scan' ↔
      a.request.receipt.digest ∈ scan.retainedReceipts ∧ scan.next (.commit a) = scan' := by
  cases houtcome : a.outcome with
  | none =>
    cases hacceptance : a.acceptance <;>
      simp [AttemptScan.addKind, AttemptScan.next, CoordinationAttempt.receipt?, houtcome,
        CoordinationAttempt.outcome, CoordinationAttempt.isCommit, CoordinationAttempt.base,
        hacceptance]
  | some o =>
    cases hacceptance : a.acceptance <;> cases hterminal : o.disposition.dispatchedTerminal <;>
      simp [AttemptScan.addKind, AttemptScan.next, CoordinationAttempt.receipt?, houtcome,
        CoordinationAttempt.outcome, CoordinationAttempt.isCommit, CoordinationAttempt.base,
        AttemptScan.addTerminal, hterminal, hacceptance]

theorem addKind_query {scan scan' : AttemptScan} {a : EffectQueryAttempt} :
    ({ scan with priorRetainedAt := some a.retainedAt } : AttemptScan).addKind (.query a) =
      .ok scan' ↔
      (∀ o ∈ a.outcome, o.disposition ≠ .notDispatched →
        (∃ receipt ∈ o.receipt, receipt.digest ∈ scan.retainedReceipts) ∧
        ∃ acceptance ∈ o.acceptance,
          lookupEntry acceptance.commitRequest.digest scan.retainedAcceptances =
            some acceptance) ∧
      scan.next (.query a) = scan' := by
  cases houtcome : a.outcome with
  | none =>
    simp [AttemptScan.addKind, AttemptScan.next, CoordinationAttempt.receipt?, houtcome,
      CoordinationAttempt.outcome, CoordinationAttempt.isCommit, CoordinationAttempt.base]
  | some o =>
    by_cases hnd : o.disposition = .notDispatched
    · simp [AttemptScan.addKind, AttemptScan.next, CoordinationAttempt.receipt?, houtcome,
        CoordinationAttempt.outcome, CoordinationAttempt.isCommit, CoordinationAttempt.base,
        hnd, EffectDisposition.dispatchedTerminal]
    · cases hterminal : o.disposition.dispatchedTerminal <;>
        simp [AttemptScan.addKind, AttemptScan.next, CoordinationAttempt.receipt?, houtcome,
          CoordinationAttempt.outcome, CoordinationAttempt.isCommit, CoordinationAttempt.base,
          AttemptScan.addTerminal, hnd, hterminal, and_assoc]

/-- One turn of the attempt loop, read backwards. -/
theorem add_eq_ok {effect : EffectIdentity} {n : Nat} {scan scan' : AttemptScan}
    {attempt : CoordinationAttempt} :
    scan.add effect n attempt = .ok scan' ↔
      scan.Admits effect n attempt ∧ scan.next attempt = scan' := by
  simp only [AttemptScan.add, bind_eq_ok, refuseIf_eq_ok, exists_const, not_not, ne_eq,
    not_exists, not_and, not_lt]
  constructor
  · rintro ⟨hsequence, heffect, hchronology, hkind⟩
    cases attempt with
    | prepare a =>
      exact ⟨⟨hsequence, heffect, hchronology, by simp, by simp⟩, addKind_prepare.mp hkind⟩
    | commit a =>
      obtain ⟨hreceipt, hnext⟩ := addKind_commit.mp hkind
      exact ⟨⟨hsequence, heffect, hchronology, by rintro b ⟨rfl⟩; exact hreceipt, by simp⟩,
        hnext⟩
    | query a =>
      obtain ⟨houtcome, hnext⟩ := addKind_query.mp hkind
      exact ⟨⟨hsequence, heffect, hchronology, by simp, by rintro b ⟨rfl⟩; exact houtcome⟩,
        hnext⟩
  · rintro ⟨hadmits, hnext⟩
    refine ⟨hadmits.sequence, hadmits.sameEffect, hadmits.chronology, ?_⟩
    cases attempt with
    | prepare a => exact addKind_prepare.mpr hnext
    | commit a => exact addKind_commit.mpr ⟨hadmits.commitReceipt a rfl, hnext⟩
    | query a => exact addKind_query.mpr ⟨hadmits.queryOutcome a rfl, hnext⟩

/-- The attempt loop runs turn by turn. -/
theorem scanAttempts_append (effect : EffectIdentity) (n : Nat) (scan : AttemptScan)
    (xs ys : List CoordinationAttempt) :
    scanAttempts effect n scan (xs ++ ys) =
      scanAttempts effect n scan xs >>= fun s => scanAttempts effect (n + xs.length) s ys := by
  induction xs generalizing n scan with
  | nil => simp [scanAttempts]
  | cons x xs ih =>
    simp only [List.cons_append, scanAttempts, List.length_cons]
    cases scan.add effect n x with
    | error e => rfl
    | ok s => simpa [Nat.add_assoc, Nat.add_comm 1] using ih (n + 1) s

/-- A successful attempt loop is the fold of its turns. -/
theorem eq_foldl_of_scanAttempts {effect : EffectIdentity} {n : Nat} {scan scan' : AttemptScan}
    {attempts : List CoordinationAttempt}
    (h : scanAttempts effect n scan attempts = .ok scan') :
    scan' = attempts.foldl AttemptScan.next scan := by
  induction attempts generalizing n scan with
  | nil => simpa [scanAttempts, eq_comm] using h
  | cons a rest ih =>
    simp only [scanAttempts, bind_eq_ok, add_eq_ok] at h
    obtain ⟨s, ⟨-, rfl⟩, hrest⟩ := h
    exact ih hrest

/-- An accumulator that every turn extends holds what the attempts contributed. -/
theorem mem_foldl_next {β : Type} (field : AttemptScan → List β)
    (contribution : CoordinationAttempt → List β)
    (hfield : ∀ scan attempt, field (scan.next attempt) = contribution attempt ++ field scan)
    {x : β} {attempts : List CoordinationAttempt} {scan : AttemptScan} :
    x ∈ field (attempts.foldl AttemptScan.next scan) ↔
      x ∈ field scan ∨ ∃ a ∈ attempts, x ∈ contribution a := by
  induction attempts generalizing scan with
  | nil => simp
  | cons a rest ih =>
    simp only [List.foldl_cons, ih, hfield, List.mem_append, List.mem_cons, exists_eq_or_imp]
    tauto

/-- The scan a valid record's attempts produce. -/
def finalScan (attempts : List CoordinationAttempt) : AttemptScan :=
  attempts.foldl AttemptScan.next .start

theorem finalScan_append (attempts : List CoordinationAttempt) (a : CoordinationAttempt) :
    finalScan (attempts ++ [a]) = (finalScan attempts).next a := by
  simp [finalScan]

theorem mem_retainedReceipts {attempts : List CoordinationAttempt} {digest : Sha256} :
    digest ∈ (finalScan attempts).retainedReceipts ↔
      ∃ a ∈ attempts, ∃ receipt ∈ a.receipt?, receipt.digest = digest := by
  rw [finalScan, mem_foldl_next AttemptScan.retainedReceipts
    (fun a => a.receipt?.toList.map CoordinationReceipt.digest) (fun _ _ => rfl)]
  simp [AttemptScan.start]

theorem mem_terminalOutcomes {attempts : List CoordinationAttempt}
    {entry : EffectDisposition × Sha256} :
    entry ∈ (finalScan attempts).terminalOutcomes ↔
      ∃ a ∈ attempts, ∃ o ∈ a.outcome, o.disposition.dispatchedTerminal = true ∧
        entry = (o.disposition, o.digest) := by
  rw [finalScan, mem_foldl_next AttemptScan.terminalOutcomes
    (fun a => (a.outcome.toList.filter (fun o => o.disposition.dispatchedTerminal)).map
      (fun o => (o.disposition, o.digest))) (fun _ _ => rfl)]
  simp only [AttemptScan.start, List.not_mem_nil, false_or, List.mem_map, List.mem_filter,
    Option.mem_toList, and_assoc]
  simp only [Option.mem_def, eq_comm (a := entry)]

theorem mem_notDispatchedOutcomeDigests {attempts : List CoordinationAttempt}
    {digest : Sha256} :
    digest ∈ (finalScan attempts).notDispatchedOutcomeDigests ↔
      ∃ a, CoordinationAttempt.query a ∈ attempts ∧ ∃ o ∈ a.outcome,
        o.disposition = .notDispatched ∧ o.digest = digest := by
  rw [finalScan, mem_foldl_next AttemptScan.notDispatchedOutcomeDigests
    (fun attempt => match attempt with
      | .query a => (a.outcome.toList.filter (fun o =>
          decide (o.disposition = .notDispatched))).map SignedEffectOutcome.digest
      | .prepare _ | .commit _ => [])
    (fun scan attempt => by cases attempt <;> rfl)]
  simp only [AttemptScan.start, List.not_mem_nil, false_or]
  constructor
  · rintro ⟨attempt, hmem, hdigest⟩
    cases attempt with
    | query a =>
      refine ⟨a, hmem, ?_⟩
      simpa [and_assoc] using hdigest
    | prepare a => simp at hdigest
    | commit a => simp at hdigest
  · rintro ⟨a, hmem, o, ho, hnd, hdigest⟩
    exact ⟨.query a, hmem, by simpa using ⟨o, ⟨ho, hnd⟩, hdigest⟩⟩

theorem mem_retainedAcceptances {attempts : List CoordinationAttempt} {digest : Sha256}
    {acceptance : DurableCommitAcceptance} :
    (digest, acceptance) ∈ (finalScan attempts).retainedAcceptances ↔
      ∃ a, CoordinationAttempt.commit a ∈ attempts ∧ a.request.digest = digest ∧
        a.acceptance = some acceptance := by
  rw [finalScan, mem_foldl_next AttemptScan.retainedAcceptances
    (fun attempt => match attempt with
      | .commit a => a.acceptance.toList.map (fun acc => (a.request.digest, acc))
      | .prepare _ | .query _ => [])
    (fun scan attempt => by cases attempt <;> rfl)]
  simp only [AttemptScan.start, List.not_mem_nil, false_or]
  constructor
  · rintro ⟨attempt, hmem, hentry⟩
    cases attempt with
    | commit a =>
      obtain ⟨acc, hacc, hpair⟩ : ∃ acc, a.acceptance = some acc ∧
          (a.request.digest, acc) = (digest, acceptance) := by simpa using hentry
      obtain ⟨rfl, rfl⟩ := Prod.mk.inj hpair
      exact ⟨a, hmem, rfl, hacc⟩
    | prepare a => simp at hentry
    | query a => simp at hentry
  · rintro ⟨a, hmem, rfl, hacc⟩
    exact ⟨.commit a, hmem, by simp [hacc]⟩

theorem mem_commitRequests {attempts : List CoordinationAttempt} {digest : Sha256} :
    digest ∈ (finalScan attempts).commitRequests ↔
      ∃ a, CoordinationAttempt.commit a ∈ attempts ∧ a.request.digest = digest := by
  rw [finalScan, mem_foldl_next AttemptScan.commitRequests
    (fun attempt => match attempt with
      | .commit a => [a.request.digest]
      | .prepare _ | .query _ => [])
    (fun scan attempt => by cases attempt <;> rfl)]
  simp only [AttemptScan.start, List.not_mem_nil, false_or]
  constructor
  · rintro ⟨attempt, hmem, hdigest⟩
    cases attempt with
    | commit a => exact ⟨a, hmem, by simpa [eq_comm] using hdigest⟩
    | prepare a => simp at hdigest
    | query a => simp at hdigest
  · rintro ⟨a, hmem, rfl⟩
    exact ⟨.commit a, hmem, by simp⟩

theorem commitAttemptCount_finalScan (attempts : List CoordinationAttempt) :
    (finalScan attempts).commitAttemptCount = attempts.countP CoordinationAttempt.isCommit := by
  have hfold (scan : AttemptScan) : (attempts.foldl AttemptScan.next scan).commitAttemptCount =
      scan.commitAttemptCount + attempts.countP CoordinationAttempt.isCommit := by
    induction attempts generalizing scan with
    | nil => simp
    | cons a rest ih =>
      rw [List.foldl_cons, ih, List.countP_cons]
      simp only [AttemptScan.next]
      omega
  simpa [finalScan, AttemptScan.start] using hfold .start

/-- Every attempt of a scanned list was admitted at its position. -/
theorem admits_of_scanAttempts {effect : EffectIdentity} {n : Nat} {scan scan' : AttemptScan}
    {attempts : List CoordinationAttempt}
    (h : scanAttempts effect n scan attempts = .ok scan') {i : Nat} {a : CoordinationAttempt}
    (ha : attempts[i]? = some a) :
    ((attempts.take i).foldl AttemptScan.next scan).Admits effect (n + i) a := by
  induction attempts generalizing n scan i with
  | nil => simp at ha
  | cons b rest ih =>
    simp only [scanAttempts, bind_eq_ok, add_eq_ok] at h
    obtain ⟨s, ⟨hadmits, rfl⟩, hrest⟩ := h
    cases i with
    | zero =>
      obtain rfl : b = a := by simpa using ha
      simpa using hadmits
    | succ i =>
      have := ih hrest (i := i) (by simpa using ha)
      simpa [Nat.add_assoc, Nat.add_comm 1] using this

end Attempts

section Validate

omit [Primitives] in
theorem validateAll_eq_ok {ε α : Type} {validate : α → Except ε Unit} {items : List α} :
    validateAll validate items = .ok () ↔ ∀ item ∈ items, validate item = .ok () := by
  induction items with
  | nil => simp [validateAll]
  | cons item rest ih => simp [validateAll, ih]

/-- The clauses of `require_legal_history` after the loops, over the record itself. -/
structure OutcomeHistory (r : CoordinationJournalRecord) : Prop where
  beginsWithPrepare : r.attempts.head?.any CoordinationAttempt.isPrepare = true
  oneCommit : r.attempts.countP CoordinationAttempt.isCommit ≤ 1
  oneCommitRequest : (finalScan r.attempts).commitRequests.eraseDups.length ≤ 1
  receipt : r.state ≠ .received → r.state ≠ .notDispatched →
    (finalScan r.attempts).retainedReceipts ≠ []
  commitIntent : r.hasPostCommitTransition = true →
    (finalScan r.attempts).commitRequests ≠ []
  acceptance : r.hasPostCommitTransition = true → r.latestAcceptance ≠ none
  acceptanceBinds : ∀ acceptance ∈ r.latestAcceptance, r.acceptanceTransitionBinds acceptance
  terminal : r.state.dispatchedTerminal = true →
    (∀ entry ∈ (finalScan r.attempts).terminalOutcomes,
      some entry.1 = EffectDisposition.forState r.state) ∧
    ∃ entry ∈ (finalScan r.attempts).terminalOutcomes, r.latestEvidenceSha256 = some entry.2
  nonterminal : r.state.dispatchedTerminal = false →
    (finalScan r.attempts).terminalOutcomes = []
  notDispatched : (finalScan r.attempts).notDispatchedOutcomeDigests ≠ [] →
    r.state = .notDispatched ∧
    ∃ digest ∈ (finalScan r.attempts).notDispatchedOutcomeDigests,
      r.latestEvidenceSha256 = some digest

theorem acceptanceTransitionBinds_lt {r : CoordinationJournalRecord}
    {acceptance : DurableCommitAcceptance} (h : r.acceptanceTransitionBinds acceptance) :
    acceptance.transitionSequence - 1 < r.transitions.length := by
  obtain ⟨t, ht, -⟩ := h
  exact (List.getElem?_eq_some_iff.mp ht).1

omit [Primitives] in
theorem requireTerminalEvidence_eq_ok {r : CoordinationJournalRecord} {scan : AttemptScan} :
    r.requireTerminalEvidence scan = .ok () ↔
      (r.state.dispatchedTerminal = true →
        (∀ entry ∈ scan.terminalOutcomes, some entry.1 = EffectDisposition.forState r.state) ∧
        ∃ entry ∈ scan.terminalOutcomes, r.latestEvidenceSha256 = some entry.2) ∧
      (r.state.dispatchedTerminal = false → scan.terminalOutcomes = []) := by
  simp only [requireTerminalEvidence, ite_eq_ok, bind_unit_eq_ok, refuseIf_eq_ok, not_not,
    ne_eq, Bool.not_eq_true]
  simp only [not_or, not_exists, not_and, not_not]
  constructor
  · rintro ⟨hterminal, hnone⟩
    refine ⟨fun h => ?_, hnone⟩
    obtain ⟨⟨-, hall⟩, hbound⟩ := hterminal h
    obtain ⟨entry, hentry, -, hevidence⟩ := hbound
    exact ⟨hall, entry, hentry, hevidence⟩
  · rintro ⟨hterminal, hnone⟩
    refine ⟨fun h => ?_, hnone⟩
    obtain ⟨hall, entry, hentry, hevidence⟩ := hterminal h
    refine ⟨⟨?_, hall⟩, entry, hentry, hall entry hentry, hevidence⟩
    intro hnil
    simp [hnil] at hentry

theorem requireOutcomeHistory_eq_ok {r : CoordinationJournalRecord} :
    r.requireOutcomeHistory (finalScan r.attempts) = .ok () ↔ r.OutcomeHistory := by
  simp only [requireOutcomeHistory, bind_unit_eq_ok, refuseIf_eq_ok,
    requireTerminalEvidence_eq_ok, commitAttemptCount_finalScan, not_and, not_not, ne_eq]
  simp only [not_exists, not_and, not_not, not_or, not_lt, not_le, Bool.not_eq_false]
  constructor
  · rintro ⟨hfirst, ⟨hcommit, hrequests⟩, hreceipt, hintent, hacceptance, -, hbinds,
      ⟨hterminal, hnonterminal⟩, hstate, hevidence⟩
    exact
      { beginsWithPrepare := hfirst
        oneCommit := hcommit
        oneCommitRequest := hrequests
        receipt := hreceipt
        commitIntent := hintent
        acceptance := hacceptance
        acceptanceBinds := hbinds
        terminal := hterminal
        nonterminal := hnonterminal
        notDispatched := fun h => ⟨hstate h, hevidence h⟩ }
  · intro h
    exact ⟨h.beginsWithPrepare, ⟨h.oneCommit, h.oneCommitRequest⟩, h.receipt, h.commitIntent,
      h.acceptance, fun a ha => acceptanceTransitionBinds_lt (h.acceptanceBinds a ha),
      h.acceptanceBinds, ⟨h.terminal, h.nonterminal⟩, fun hne => (h.notDispatched hne).1,
      fun hne => (h.notDispatched hne).2⟩

/-- Everything `model_validate_json` checks of a record. -/
structure ValidHistory (r : CoordinationJournalRecord) : Prop where
  effectValid : r.effect.validate = .ok ()
  transitionCount : 1 ≤ r.transitions.length ∧ r.transitions.length ≤ maxTransitionsPerEffect
  transitionsValid : ∀ t ∈ r.transitions, t.validate = .ok ()
  attemptCount : 1 ≤ r.attempts.length ∧ r.attempts.length ≤ maxAttemptsPerEffect
  attemptsValid : ∀ a ∈ r.attempts, a.validate = .ok ()
  effectSha256 : r.effectSha256 = r.effect.digest
  received : ∃ t ∈ r.transitions.head?, t.state = .received
  transitionSequence : ∀ i t, r.transitions[i]? = some t → t.sequence = i + 1
  transitionChain : r.transitions.IsChain
    (fun s t => s.recordedAt ≤ t.recordedAt ∧ s.state.canTransitionTo t.state = true)
  scanned : scanAttempts r.effect 1 .start r.attempts = .ok (finalScan r.attempts)
  outcomes : r.OutcomeHistory

theorem requireLegalHistory_eq_ok {r : CoordinationJournalRecord} :
    r.requireLegalHistory = .ok () ↔
      r.effectSha256 = r.effect.digest ∧ (∃ t ∈ r.transitions.head?, t.state = .received) ∧
      ((∀ i t, r.transitions[i]? = some t → t.sequence = i + 1) ∧
        r.transitions.IsChain
          (fun s t => s.recordedAt ≤ t.recordedAt ∧ s.state.canTransitionTo t.state = true)) ∧
      scanAttempts r.effect 1 .start r.attempts = .ok (finalScan r.attempts) ∧
      r.OutcomeHistory := by
  simp only [requireLegalHistory, bind_unit_eq_ok, refuseIf_eq_ok, not_not, ne_eq,
    scanTransitions_eq_ok, Option.toList_none, List.nil_append, Nat.add_comm 1]
  simp only [bind_eq_ok]
  constructor
  · rintro ⟨hsha, hreceived, htransitions, scan, hscan, houtcomes⟩
    obtain rfl : scan = finalScan r.attempts := eq_foldl_of_scanAttempts hscan
    exact ⟨hsha, hreceived, htransitions, hscan, requireOutcomeHistory_eq_ok.mp houtcomes⟩
  · rintro ⟨hsha, hreceived, htransitions, hscan, houtcomes⟩
    exact ⟨hsha, hreceived, htransitions, _, hscan, requireOutcomeHistory_eq_ok.mpr houtcomes⟩

theorem validate_eq_ok {r : CoordinationJournalRecord} :
    r.validate = .ok () ↔ r.ValidHistory := by
  simp only [validate, bind_unit_eq_ok, refuseIf_eq_ok, not_not, validateAll_eq_ok,
    raising_eq_ok, requireLegalHistory_eq_ok]
  constructor
  · rintro ⟨heffect, hcount, htransitions, hattempts, hvalid, hsha, hreceived,
      ⟨hsequence, hchain⟩, hscan, houtcomes⟩
    exact ⟨heffect, hcount, htransitions, hattempts, hvalid, hsha, hreceived, hsequence, hchain,
      hscan, houtcomes⟩
  · intro h
    exact ⟨h.effectValid, h.transitionCount, h.transitionsValid, h.attemptCount,
      h.attemptsValid, h.effectSha256, h.received, ⟨h.transitionSequence, h.transitionChain⟩,
      h.scanned, h.outcomes⟩

end Validate

section Facts

variable {r : CoordinationJournalRecord}

omit [Primitives] in
theorem eq_of_countP_le_one {α : Type} {p : α → Bool} {l : List α} (h : l.countP p ≤ 1)
    {x y : α} (hx : x ∈ l) (hy : y ∈ l) (hpx : p x = true) (hpy : p y = true) : x = y := by
  induction l with
  | nil => simp at hx
  | cons z rest ih =>
    rw [List.countP_cons] at h
    have hpos {w : α} (hw : w ∈ rest) (hpw : p w = true) : 0 < rest.countP p :=
      List.countP_pos_iff.mpr ⟨w, hw, hpw⟩
    rcases List.mem_cons.mp hx with hxz | hxr <;> rcases List.mem_cons.mp hy with hyz | hyr
    · rw [hxz, hyz]
    · have := hpos hyr hpy
      simp only [← hxz, hpx, if_true] at h
      omega
    · have := hpos hxr hpx
      simp only [← hyz, hpy, if_true] at h
      omega
    · exact ih (by omega) hxr hyr

namespace ValidHistory

/-- The states of a valid record are a legal path. -/
theorem legalPath (h : r.ValidHistory) : LegalPath (r.transitions.map (fun t => t.state)) := by
  rw [LegalPath, List.isChain_map]
  exact h.transitionChain.imp fun _ _ hst => hst.2

theorem head_received (h : r.ValidHistory) :
    (r.transitions.map (fun t => t.state)).head? = some .received := by
  obtain ⟨t, ht, hstate⟩ := h.received
  rw [List.head?_map, show r.transitions.head? = some t from ht, Option.map_some, hstate]

theorem transitions_length_le_five (h : r.ValidHistory) : r.transitions.length ≤ 5 := by
  simpa using h.legalPath.length_le_five

omit [Primitives] in
theorem state_eq {t : CoordinationTransition} (ht : r.transitions.getLast? = some t) :
    r.state = t.state := by
  simp [state, ht]

/-- The last transition of a valid record. -/
theorem exists_last (h : r.ValidHistory) : ∃ t, r.transitions.getLast? = some t := by
  have hne : r.transitions ≠ [] := by
    intro hnil
    have := h.transitionCount.1
    simp [hnil] at this
  exact ⟨_, List.getLast?_eq_some_getLast hne⟩

theorem commit_unique (h : r.ValidHistory) {a b : EffectCommitAttempt}
    (ha : .commit a ∈ r.attempts) (hb : .commit b ∈ r.attempts) : a = b := by
  have := eq_of_countP_le_one h.outcomes.oneCommit ha hb rfl rfl
  exact CoordinationAttempt.commit.inj this

theorem attempt_sequence (h : r.ValidHistory) {i : Nat} {a : CoordinationAttempt}
    (ha : r.attempts[i]? = some a) : a.base.sequence = i + 1 := by
  have := (admits_of_scanAttempts h.scanned ha).sequence
  omega

theorem attempt_effect (h : r.ValidHistory) {a : CoordinationAttempt} (ha : a ∈ r.attempts) :
    a.signedRequest.effect = r.effect := by
  obtain ⟨i, hi⟩ := List.getElem?_of_mem ha
  exact (admits_of_scanAttempts h.scanned hi).sameEffect

omit [Primitives] in
theorem mem_of_latestAcceptance {acceptance : DurableCommitAcceptance}
    (ha : r.latestAcceptance = some acceptance) :
    ∃ a, CoordinationAttempt.commit a ∈ r.attempts ∧ a.acceptance = some acceptance := by
  obtain ⟨attempt, hmem, hacc⟩ := List.exists_of_findSome?_eq_some ha
  cases attempt with
  | commit a => exact ⟨a, by simpa using hmem, hacc⟩
  | prepare a => cases hacc
  | query a => cases hacc

/-- The acceptance of the one commit attempt is the latest acceptance. -/
theorem latestAcceptance_eq (h : r.ValidHistory) {a : EffectCommitAttempt}
    (ha : .commit a ∈ r.attempts) : r.latestAcceptance = a.acceptance := by
  cases hlatest : r.latestAcceptance with
  | some acceptance =>
    obtain ⟨b, hb, hacc⟩ := mem_of_latestAcceptance hlatest
    rw [h.commit_unique ha hb, hacc]
  | none =>
    have := List.findSome?_eq_none_iff.mp hlatest (.commit a) (by simpa using ha)
    exact this.symm

/-- `retained_acceptances` has the one acceptance under its commit request. -/
theorem lookup_retainedAcceptances (h : r.ValidHistory) {a : EffectCommitAttempt}
    (ha : .commit a ∈ r.attempts) {acceptance : DurableCommitAcceptance}
    (hacceptance : a.acceptance = some acceptance) :
    lookupEntry acceptance.commitRequest.digest (finalScan r.attempts).retainedAcceptances =
      some acceptance := by
  have hexact := CoordinationAttempt.commit_exact (h.attemptsValid _ ha)
  have hrequest := (a.acceptance_binds hexact hacceptance).2.2.1
  refine lookupEntry_of_unique ?_ fun other hother => ?_
  · exact mem_retainedAcceptances.mpr ⟨a, ha, by rw [hrequest], hacceptance⟩
  · obtain ⟨b, hb, -, hretained⟩ := mem_retainedAcceptances.mp hother
    rw [h.commit_unique hb ha, hacceptance] at hretained
    exact (Option.some.inj hretained).symm

/-- An acceptance is retained exactly in the post-commit states. -/
theorem latestAcceptance_ne_none (h : r.ValidHistory) :
    r.latestAcceptance ≠ none ↔ r.state.postCommit = true := by
  obtain ⟨last, hlast⟩ := h.exists_last
  rw [state_eq hlast]
  constructor
  · intro hne
    obtain ⟨acceptance, hacceptance⟩ := Option.ne_none_iff_exists'.mp hne
    obtain ⟨t, ht, hstate, -⟩ := h.outcomes.acceptanceBinds acceptance hacceptance
    have hmem : t ∈ r.transitions := List.mem_of_getElem? ht
    refine h.legalPath.postCommit_getLast (List.mem_map_of_mem hmem)
      (by rw [hstate]; rfl) last.state ?_
    simp [List.getLast?_map, hlast]
  · intro hpost
    refine h.outcomes.acceptance ?_
    rw [hasPostCommitTransition, List.any_eq_true]
    exact ⟨last, List.mem_of_getLast? hlast, hpost⟩

/-- Every retained APPLIED or REJECTED outcome has the disposition of the state. -/
theorem terminal_outcome_state (h : r.ValidHistory) {a : CoordinationAttempt}
    {o : SignedEffectOutcome} (ha : a ∈ r.attempts) (ho : a.outcome = some o)
    (hterminal : o.disposition.dispatchedTerminal = true) :
    r.state.dispatchedTerminal = true ∧
      some o.disposition = EffectDisposition.forState r.state := by
  have hmem : (o.disposition, o.digest) ∈ (finalScan r.attempts).terminalOutcomes :=
    mem_terminalOutcomes.mpr ⟨a, ha, o, ho, hterminal, rfl⟩
  cases hstate : r.state.dispatchedTerminal with
  | true => exact ⟨rfl, (h.outcomes.terminal hstate).1 _ hmem⟩
  | false => simp [h.outcomes.nonterminal hstate] at hmem

/-- An APPLIED or REJECTED state is bound to a retained outcome of that disposition. -/
theorem exists_terminal_outcome (h : r.ValidHistory) (hstate : r.state.dispatchedTerminal = true) :
    ∃ a ∈ r.attempts, ∃ o ∈ a.outcome,
      some o.disposition = EffectDisposition.forState r.state ∧
      r.latestEvidenceSha256 = some o.digest := by
  obtain ⟨hall, entry, hentry, hevidence⟩ := h.outcomes.terminal hstate
  obtain ⟨a, ha, o, ho, -, rfl⟩ := mem_terminalOutcomes.mp hentry
  exact ⟨a, ha, o, ho, hall _ hentry, hevidence⟩

/-- Only an APPLIED or REJECTED record has a terminal outcome. -/
theorem terminalOutcome_none (h : r.ValidHistory) (hstate : r.state.dispatchedTerminal = false) :
    r.terminalOutcome = none := by
  refine List.findSome?_eq_none_iff.mpr fun a ha => ?_
  cases houtcome : a.outcome with
  | none => rfl
  | some o =>
    rw [Option.filter_some, if_neg]
    intro hterminal
    have := (h.terminal_outcome_state (List.mem_reverse.mp ha) houtcome hterminal).1
    rw [hstate] at this
    cases this

/-- And such a record has one, of the state's disposition. -/
theorem exists_terminalOutcome (h : r.ValidHistory) (hstate : r.state.dispatchedTerminal = true) :
    ∃ o, r.terminalOutcome = some o := by
  obtain ⟨a, ha, o, ho, hdisposition, -⟩ := h.exists_terminal_outcome hstate
  cases hfound : r.terminalOutcome with
  | some o => exact ⟨o, rfl⟩
  | none =>
    have hnone := List.findSome?_eq_none_iff.mp hfound a (List.mem_reverse.mpr ha)
    rw [Option.mem_def] at ho
    have hterminal : o.disposition.dispatchedTerminal = true :=
      (EffectDisposition.dispatchedTerminal_of_forState hdisposition).trans hstate
    rw [ho, Option.filter_some, if_pos hterminal] at hnone
    cases hnone

/-- A retained NOT_DISPATCHED query outcome puts the record in that state, bound to such an
    outcome. -/
theorem notDispatched_of_query (h : r.ValidHistory) {a : EffectQueryAttempt}
    {o : SignedEffectOutcome} (ha : .query a ∈ r.attempts) (ho : a.outcome = some o)
    (hnd : o.disposition = .notDispatched) :
    r.state = .notDispatched ∧ ∃ b, .query b ∈ r.attempts ∧ ∃ o' ∈ b.outcome,
      o'.disposition = .notDispatched ∧ r.latestEvidenceSha256 = some o'.digest := by
  have hmem : o.digest ∈ (finalScan r.attempts).notDispatchedOutcomeDigests :=
    mem_notDispatchedOutcomeDigests.mpr ⟨a, ha, o, ho, hnd, rfl⟩
  obtain ⟨hstate, digest, hdigest, hevidence⟩ :=
    h.outcomes.notDispatched (List.ne_nil_of_mem hmem)
  obtain ⟨b, hb, o', ho', hnd', rfl⟩ := mem_notDispatchedOutcomeDigests.mp hdigest
  exact ⟨hstate, b, hb, o', ho', hnd', hevidence⟩

end ValidHistory

end Facts

end CoordinationJournalRecord

/-- The history of a journal entry. -/
theorem JournalEntry.history [Primitives] {role : JournalRole} (e : JournalEntry role) :
    e.record.ValidHistory :=
  CoordinationJournalRecord.validate_eq_ok.mp e.valid

end AegisOt
