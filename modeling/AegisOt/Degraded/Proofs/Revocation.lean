import AegisOt.Degraded.Gate
import AegisOt.Misc.Interleaving

/-!
# Monotone leases and final revocation

Any number of gates share one store. Its history is the list of the transitions that changed its
state; a store is consistent if the state is what the history says: the active lease is the last one
activated, and every revoked digest has a signed reversal. Each call is proved alone against
`Advances`, what any other call can do to the store, and `Interleaving` carries that to every run.
-/

namespace AegisOt

section

variable [DegradedPrimitives]

/-- The shared store, with the transitions that changed its state, oldest first. -/
structure DegradedStore where
  state : DegradedOperationState
  history : List StateTransition
  deriving DecidableEq

/-- The leases that were activated, oldest first. -/
def activations (history : List StateTransition) : List DegradedModeAuthorization :=
  history.filterMap (fun transition =>
    match transition with
    | .acceptAuthorization _ authorization => some authorization
    | .applyReversal _ _ _ _ => none)

/-- The most recently activated lease. -/
def lastActivated (history : List StateTransition) : Option DegradedModeAuthorization :=
  (activations history).getLast?

/-- A reversal that carries the signature of the authority of its gate took effect on the digest. -/
def RevokedIn (history : List StateTransition) (digest : Sha256) : Prop :=
  ∃ gate reversal authorization,
    .applyReversal gate reversal authorization [] ∈ history ∧ authorization.digest = digest ∧
      reversal.authorizationSha256 = digest ∧ reversal.signedBy gate.authorityPublicKey = true

omit [DegradedPrimitives] in
theorem activations_append (history : List StateTransition) (transition : StateTransition) :
    activations (history ++ [transition]) =
      activations history ++ activations [transition] := by
  simp [activations]

theorem RevokedIn.append {history : List StateTransition} {digest : Sha256}
    (h : RevokedIn history digest) (transition : StateTransition) :
    RevokedIn (history ++ [transition]) digest := by
  obtain ⟨gate, reversal, authorization, hmem, hrest⟩ := h
  exact ⟨gate, reversal, authorization, List.mem_append_left _ hmem, hrest⟩

namespace DegradedStore

def initial (authorityId : String) : DegradedStore := ⟨.initial authorityId, []⟩

/-- The store after a transition was written. -/
def commit (s : DegradedStore) (transition : StateTransition) (updated : DegradedOperationState) :
    DegradedStore :=
  if updated = s.state then s else ⟨updated, s.history ++ [transition]⟩

/-- `update`: the store raises before the closure runs, the closure raises, the new state is not
    written or is written before something raises, or it is written and returned. -/
inductive Update (transition : StateTransition) (s : DegradedStore) :
    UpdateReply → DegradedStore → Prop where
  | unavailable : Update transition s ⟨true, [], false⟩ s
  | raised : Update transition s
      ⟨true, (transition.run s.state).reasons, (transition.run s.state).applied⟩ s
  | written {updated : DegradedOperationState} {raised : Bool}
      (hresult : (transition.run s.state).result = .ok updated)
      (hauthority : updated.authorityId = s.state.authorityId) :
      Update transition s
        ⟨raised, (transition.run s.state).reasons, (transition.run s.state).applied⟩
        (s.commit transition updated)

/-- The store answers a call. -/
def Perform (s : DegradedStore) : (action : StoreAct) → action.Reply → DegradedStore → Prop
  | .read, reply, s' => s' = s ∧ ((reply : Option DegradedOperationState) = none ∨
      (reply : Option DegradedOperationState) = some s.state)
  | .update transition, reply, s' => Update transition s reply s'

/-- How the store may change. -/
structure Advances (s s' : DegradedStore) : Prop where
  history : s.history <+: s'.history
  authorization : s.state.highestAuthorizationSequence ≤ s'.state.highestAuthorizationSequence
  reversal : s.state.highestReversalSequence ≤ s'.state.highestReversalSequence
  revoked : ∀ digest, s.state.revokedAuthorizationSha256.has digest = true →
    s'.state.revokedAuthorizationSha256.has digest = true

omit [DegradedPrimitives] in
theorem Advances.refl (s : DegradedStore) : s.Advances s :=
  ⟨List.prefix_refl _, le_refl _, le_refl _, fun _ h => h⟩

omit [DegradedPrimitives] in
theorem Advances.trans {s s₁ s₂ : DegradedStore} (h : s.Advances s₁) (h' : s₁.Advances s₂) :
    s.Advances s₂ where
  history := h.history.trans h'.history
  authorization := h.authorization.trans h'.authorization
  reversal := h.reversal.trans h'.reversal
  revoked digest hdigest := h'.revoked digest (h.revoked digest hdigest)

/-- The state is what the history says. -/
structure Consistent (s : DegradedStore) : Prop where
  active : s.state.activeAuthorizationSha256 =
    (lastActivated s.history).map DegradedModeAuthorization.digest
  highest : ∀ authorization ∈ activations s.history,
    authorization.sequence ≤ s.state.highestAuthorizationSequence
  increasing : (activations s.history).Pairwise (fun a b => a.sequence < b.sequence)
  revoked : ∀ digest, s.state.revokedAuthorizationSha256.has digest = true →
    RevokedIn s.history digest

theorem consistent_initial (authorityId : String) : (initial authorityId).Consistent where
  active := rfl
  highest := by simp [initial, activations]
  increasing := List.Pairwise.nil
  revoked digest h := by
    simp [initial, DegradedOperationState.initial, DigestSet.has] at h

end DegradedStore

/-! ## What a transition can do -/

namespace StateTransition

/-- Only reversals whose signature was verified come without reasons. -/
def Honest : StateTransition → Prop
  | .acceptAuthorization _ _ => True
  | .applyReversal gate reversal authorization reasons =>
      reasons = [] → reversal.signedBy gate.authorityPublicKey = true ∧
        reversal.authorizationSha256 = authorization.digest

/-- A transition returns the state it was given, activates a later lease or revokes one. -/
theorem run_cases {transition : StateTransition} {s updated : DegradedOperationState}
    (h : (transition.run s).result = .ok updated) :
    updated = s ∨
    (∃ gate authorization hlater, transition = .acceptAuthorization gate authorization ∧
      updated = s.activate authorization hlater) ∨
    ∃ gate reversal authorization hroom,
      transition = .applyReversal gate reversal authorization [] ∧
        s.highestReversalSequence < reversal.sequence ∧
          updated = s.revoke reversal authorization hroom := by
  cases transition with
  | acceptAuthorization gate authorization =>
    simp only [run, acceptOn] at h
    split at h
    · cases h
    · split at h
      · exact .inl (Except.ok.inj h).symm
      · split at h
        · exact .inl (Except.ok.inj h).symm
        · split at h
          · rename_i hlater
            exact .inr (.inl ⟨gate, authorization, hlater, rfl, (Except.ok.inj h).symm⟩)
          · exact .inl (Except.ok.inj h).symm
  | applyReversal gate reversal authorization reasons =>
    simp only [run, reverseOn] at h
    split at h
    · cases h
    · split at h
      · exact .inl (Except.ok.inj h).symm
      · rename_i hreasons
        obtain ⟨hnone, hstate⟩ := List.append_eq_nil_iff.mp (not_not.mp hreasons)
        have hsequence : s.highestReversalSequence < reversal.sequence := by
          by_contra hle
          simp [reversalStateReasons, not_lt.mp hle] at hstate
        split at h
        · rename_i hroom
          exact .inr (.inr ⟨gate, reversal, authorization, hroom, by rw [hnone], hsequence,
            (Except.ok.inj h).symm⟩)
        · exact .inl (Except.ok.inj h).symm

end StateTransition

namespace DegradedStore

/-- A lease is activated. -/
theorem Consistent.activate {s : DegradedStore} (hs : s.Consistent) (gate : DegradedOperationGate)
    (authorization : DegradedModeAuthorization)
    (hlater : s.state.highestAuthorizationSequence < authorization.sequence) :
    Consistent ⟨s.state.activate authorization hlater,
      s.history ++ [.acceptAuthorization gate authorization]⟩ where
  active := by simp [DegradedOperationState.activate, lastActivated, activations]
  highest lease hlease := by
    rw [activations_append] at hlease
    rcases List.mem_append.mp hlease with hold | hnew
    · exact (hs.highest lease hold).trans hlater.le
    · rw [List.mem_singleton.mp hnew]
      exact le_refl _
  increasing := by
    rw [activations_append]
    apply List.pairwise_append.mpr
    refine ⟨hs.increasing, List.pairwise_singleton _ _, ?_⟩
    intro lease hold next hnext
    rw [List.mem_singleton.mp hnext]
    exact lt_of_le_of_lt (hs.highest lease hold) hlater
  revoked digest hdigest := (hs.revoked digest hdigest).append _

/-- A lease is revoked by a reversal that was found valid. -/
theorem Consistent.revoke {s : DegradedStore} (hs : s.Consistent) (gate : DegradedOperationGate)
    (reversal : DegradedModeReversal) (authorization : DegradedModeAuthorization)
    (hroom : s.state.acceptedReversalNonceSha256.size < maxDegradedStateEntries ∧
      s.state.revokedAuthorizationSha256.size < maxDegradedStateEntries)
    (hhonest : StateTransition.Honest (.applyReversal gate reversal authorization [])) :
    Consistent ⟨s.state.revoke reversal authorization hroom,
      s.history ++ [.applyReversal gate reversal authorization []]⟩ := by
  have hkept : activations (s.history ++ [.applyReversal gate reversal authorization []]) =
      activations s.history := by
    simp [activations]
  constructor
  · simp only [lastActivated, hkept]
    exact hs.active
  · rw [hkept]
    exact hs.highest
  · rw [hkept]
    exact hs.increasing
  · intro digest hdigest
    rcases (DigestSet.has_insert _ _ _).mp hdigest with hnew | hold
    · obtain ⟨hsigned, hbound⟩ := hhonest rfl
      exact ⟨gate, reversal, authorization, by simp, hnew, hbound.trans hnew, hsigned⟩
    · exact (hs.revoked digest hold).append _

/-- A written transition advances the store and keeps it consistent. -/
theorem commit_advances {s : DegradedStore} (hs : s.Consistent) {transition : StateTransition}
    (hhonest : transition.Honest) {updated : DegradedOperationState}
    (h : (transition.run s.state).result = .ok updated) :
    (s.commit transition updated).Consistent ∧ s.Advances (s.commit transition updated) := by
  unfold commit
  split
  · exact ⟨hs, Advances.refl s⟩
  · rename_i hchanged
    rcases StateTransition.run_cases h with hsame | hactivated | hrevoked
    · exact absurd hsame hchanged
    · obtain ⟨gate, authorization, hlater, rfl, rfl⟩ := hactivated
      refine ⟨hs.activate gate authorization hlater, ?_⟩
      exact ⟨List.prefix_append _ _, hlater.le, le_refl _, fun _ hdigest => hdigest⟩
    · obtain ⟨gate, reversal, authorization, hroom, rfl, hsequence, rfl⟩ := hrevoked
      refine ⟨hs.revoke gate reversal authorization hroom hhonest, ?_⟩
      refine ⟨List.prefix_append _ _, le_refl _, hsequence.le, ?_⟩
      intro digest hdigest
      exact (DigestSet.has_insert _ _ _).mpr (.inr hdigest)

/-- The calls of the store that the gates make. -/
def Allowed : StoreAct → Prop
  | .read => True
  | .update transition => transition.Honest

/-- Every call of the store advances it and keeps it consistent. -/
theorem Perform.advances {s s' : DegradedStore} {action : StoreAct} {reply : action.Reply}
    (hs : s.Consistent) (hallowed : Allowed action) (h : s.Perform action reply s') :
    s'.Consistent ∧ s.Advances s' := by
  cases action with
  | read =>
    obtain ⟨rfl, -⟩ := h
    exact ⟨hs, Advances.refl _⟩
  | update transition =>
    cases h with
    | unavailable => exact ⟨hs, Advances.refl _⟩
    | raised => exact ⟨hs, Advances.refl _⟩
    | written hresult hauthority => exact commit_advances hs hallowed hresult

end DegradedStore

/-- The process-local store, which never fails on its own. -/
def answerInMemory (s : DegradedStore) : (action : StoreAct) → action.Reply × DegradedStore
  | .read => (some s.state, s)
  | .update transition =>
      ((updateInMemory transition s.state).1,
        s.commit transition (updateInMemory transition s.state).2)

/-- It is a store. -/
theorem DegradedStore.perform_inMemory (s : DegradedStore) (action : StoreAct) :
    s.Perform action (answerInMemory s action).1 (answerInMemory s action).2 := by
  have hsame (transition : StateTransition) : s.commit transition s.state = s := if_pos rfl
  cases action with
  | read => exact ⟨rfl, .inr rfl⟩
  | update transition =>
    change Update transition s (updateInMemory transition s.state).1
      (s.commit transition (updateInMemory transition s.state).2)
    unfold updateInMemory
    dsimp only
    split
    · rw [hsame]
      exact .raised
    · rename_i updated hresult
      by_cases hauthority : updated.authorityId = s.state.authorityId
      · rw [if_neg (not_not.mpr hauthority)]
        exact .written hresult hauthority
      · rw [if_pos hauthority, hsame]
        exact .raised

/-! ## Calls -/

/-- A call of a gate, with what its sources answer. -/
inductive DegradedRequest where
  | evaluate (gate : DegradedOperationGate) (proposal : ActionProposal) (now : DateTime)
      (snapshot : SourceAnswer DegradedRuntimeSnapshot)
      (authorization : SourceAnswer (Option DegradedModeAuthorization))
  | applyReversal (gate : DegradedOperationGate) (reversal : DegradedModeReversal)
      (authorization : DegradedModeAuthorization) (now : DateTime)

inductive DegradedAnswer where
  | admission (result : DegradedAdmissionResult)
  | reversal (result : DegradedReversalResult)
  deriving DecidableEq

namespace DegradedRequest

def program : DegradedRequest → DegradedProgram DegradedAnswer
  | evaluate gate proposal now snapshot authorization => do
      let result ← gate.evaluate proposal now snapshot authorization
      pure (.admission result)
  | applyReversal gate reversal authorization now => do
      let result ← gate.applyReversal reversal authorization now
      pure (.reversal result)

/-- What `evaluate` promises of a result that lets a proposal continue. `started` is the store when
    the call began, `s` the store when it returns. -/
structure Continues (now : DateTime) (snapshot : SourceAnswer DegradedRuntimeSnapshot)
    (gate : DegradedOperationGate) (started : DegradedStore) (result : DegradedAdmissionResult)
    (s : DegradedStore) : Prop where
  notRevoked : ∀ digest, started.state.revokedAuthorizationSha256.has digest = true →
    result.authorizationSha256 ≠ some digest
  /-- For a healthy snapshot the lease counts that was the last one when the state was read. -/
  lastRevoked : ∀ view instant, snapshot = .value view → now = .aware instant →
    view.healthy gate instant → result.authorizationSha256 = none ∧
      ∃ moment, started.history <+: moment ∧ moment <+: s.history ∧
        ∀ lease, lastActivated moment = some lease → RevokedIn moment lease.digest

/-- How a call ends. -/
def Post (request : DegradedRequest) (started : DegradedStore) :
    Except String DegradedAnswer → DegradedStore → Prop :=
  match request with
  | evaluate gate _ now snapshot _ =>
      Program.Returns (fun answer s => ∀ result, answer = .admission result →
        result.outcome = .continuePrimaryAssurance →
          Continues now snapshot gate started result s)
  | applyReversal _ _ _ _ => fun _ _ => True

end DegradedRequest

/-- Gates that share one store. A gate that dies leaves the store as it is. -/
def degradedGates (ι : Type) : Interleaving.Processes ι DegradedStore StoreAct StoreAct.Reply
    DegradedRequest String DegradedAnswer where
  program _ := DegradedRequest.program
  perform _ := DegradedStore.Perform
  crash _ s s' := s' = s

def degradedDiscipline (ι : Type) : Interleaving.Discipline ι DegradedStore StoreAct
    DegradedRequest String DegradedAnswer where
  invariant := DegradedStore.Consistent
  advances := DegradedStore.Advances
  rely _ := DegradedStore.Advances
  allowed _ _ := DegradedStore.Allowed
  idle _ _ := True
  post _ := DegradedRequest.Post

/-! ## Each call alone -/

section Calls

variable {ι : Type} {i : ι} {s : DegradedStore}

/-- A reversal without reasons against it is signed and names its lease. -/
theorem reversalReasons_eq_nil {gate : DegradedOperationGate} {reversal : DegradedModeReversal}
    {authorization : DegradedModeAuthorization} {evaluatedAt : Time}
    (h : gate.reversalReasons reversal authorization evaluatedAt = []) :
    reversal.signedBy gate.authorityPublicKey = true ∧
      reversal.authorizationSha256 = authorization.digest := by
  simp only [DegradedOperationGate.reversalReasons, List.append_eq_nil_iff] at h
  obtain ⟨⟨⟨⟨⟨⟨-, hsigned⟩, -⟩, -⟩, hdigest⟩, -⟩, -⟩ := h
  constructor
  · by_contra hunsigned
    simp [hunsigned] at hsigned
  · by_contra hother
    simp [hother] at hdigest

theorem guarded_applyReversal (gate : DegradedOperationGate) (reversal : DegradedModeReversal)
    (authorization : DegradedModeAuthorization) (now : DateTime) :
    (gate.applyReversal reversal authorization now).Guarded
      ((degradedDiscipline ι).contract (degradedGates ι) i)
        (Program.Returns fun _ _ => True) s := by
  unfold DegradedOperationGate.applyReversal
  apply Program.guarded_result_bind
  intro evaluatedAt _
  apply Program.guarded_returns_bind (Q := fun _ _ => True)
  · apply Program.guarded_call.mpr
    intro s₁ _ _
    refine ⟨?_, fun _ _ _ _ => trivial⟩
    intro hreasons
    exact reversalReasons_eq_nil hreasons
  · intro _ _ _
    trivial

theorem acceptedResult_authorization (proposal : ActionProposal)
    (snapshot : DegradedRuntimeSnapshot) (authorization : DegradedModeAuthorization)
    (reasons : List String) (evaluatedAt : Time) :
    (DegradedOperationGate.acceptedResult proposal snapshot authorization reasons
      evaluatedAt).authorizationSha256 = some authorization.digest := by
  unfold DegradedOperationGate.acceptedResult
  dsimp only
  split
  · rfl
  · rfl
  · split <;> rfl

/-- Whatever `admitLease` returns is about its lease. -/
theorem guarded_admitLease (gate : DegradedOperationGate) (proposal : ActionProposal)
    (snapshot : DegradedRuntimeSnapshot) (authorization : DegradedModeAuthorization)
    (reasons : List String) (evaluatedAt : Time) :
    (gate.admitLease proposal snapshot authorization reasons evaluatedAt).Guarded
      ((degradedDiscipline ι).contract (degradedGates ι) i)
      (Program.Returns fun result _ => result.authorizationSha256 = some authorization.digest)
      s := by
  unfold DegradedOperationGate.admitLease
  dsimp only
  split
  · rfl
  · apply Program.guarded_returns_bind (Q := fun _ _ => True)
    · apply Program.guarded_call.mpr
      intro s₁ _ _
      exact ⟨trivial, fun _ _ _ _ => trivial⟩
    · intro reply _ _
      generalize reply.reasons ++ (if reply.raised = true then
        ["degraded_operation_state_unavailable"] else []) = added
      split
      · rfl
      · exact acceptedResult_authorization _ _ _ _ _

/-- A healthy snapshot continues only without an active lease that is not revoked. -/
theorem healthyResult_continues {state : DegradedOperationState}
    {snapshot : DegradedRuntimeSnapshot} {authorization : Option DegradedModeAuthorization}
    {evaluatedAt : Time}
    (h : (DegradedOperationGate.healthyResult state snapshot authorization evaluatedAt).outcome =
      .continuePrimaryAssurance) :
    (DegradedOperationGate.healthyResult state snapshot authorization
        evaluatedAt).authorizationSha256 = none ∧
      ∀ digest, state.activeAuthorizationSha256 = some digest →
        state.revokedAuthorizationSha256.has digest = true := by
  unfold DegradedOperationGate.healthyResult at h ⊢
  dsimp only at h ⊢
  split at h
  · cases h
  · rename_i hactive
    rw [if_neg hactive]
    refine ⟨rfl, ?_⟩
    intro digest hdigest
    simpa [hdigest] using hactive

/-- `evaluate` from the state it read on. -/
theorem guarded_evaluateOn {gate : DegradedOperationGate} {proposal : ActionProposal}
    {snapshot : DegradedRuntimeSnapshot} {authorization : Option DegradedModeAuthorization}
    {sourceUnavailable : Bool} {evaluatedAt : Time} {started : DegradedStore}
    (hadvances : started.Advances s) (hs : s.Consistent) :
    (gate.evaluateOn proposal snapshot authorization sourceUnavailable s.state
      evaluatedAt).Guarded ((degradedDiscipline ι).contract (degradedGates ι) i)
      (Program.Returns fun result s' => result.outcome = .continuePrimaryAssurance →
        DegradedRequest.Continues (.aware evaluatedAt) (.value snapshot) gate started result s')
      s := by
  unfold DegradedOperationGate.evaluateOn
  dsimp only
  split
  · intro hcontinue
    obtain ⟨hnone, hactive⟩ := healthyResult_continues hcontinue
    constructor
    · intro digest _
      rw [hnone]
      nofun
    · intro view instant _ _ _
      refine ⟨hnone, s.history, hadvances.history, List.prefix_refl _, ?_⟩
      intro lease hlease
      apply hs.revoked
      apply hactive
      rw [hs.active, hlease]
      rfl
  · rename_i hunhealthy
    have hlast {result : DegradedAdmissionResult} {s' : DegradedStore}
        (view : DegradedRuntimeSnapshot) (instant : Time)
        (hview : SourceAnswer.value snapshot = .value view)
        (hinstant : DateTime.aware evaluatedAt = .aware instant)
        (hhealthy : view.healthy gate instant) : result.authorizationSha256 = none ∧
          ∃ moment, started.history <+: moment ∧ moment <+: s'.history ∧
            ∀ lease, lastActivated moment = some lease → RevokedIn moment lease.digest := by
      obtain rfl := SourceAnswer.value.inj hview
      obtain rfl := DateTime.aware.inj hinstant
      exact absurd hhealthy hunhealthy
    cases authorization with
    | none => nofun
    | some lease =>
      dsimp only
      split
      · nofun
      · rename_i hkept
        refine Program.guarded_mono ?_
          (guarded_admitLease gate proposal snapshot lease _ evaluatedAt)
        intro result s' hresult
        cases result with
        | error e => trivial
        | ok result =>
          intro _
          refine ⟨?_, hlast⟩
          intro digest hrevoked hsame
          have hdigest := Option.some.inj (Eq.trans hresult.symm hsame)
          rw [hdigest] at hkept
          exact hkept (hadvances.revoked digest hrevoked)

theorem guarded_evaluateSnapshot (gate : DegradedOperationGate) (proposal : ActionProposal)
    (snapshot : DegradedRuntimeSnapshot) (authorization : Option DegradedModeAuthorization)
    (sourceUnavailable : Bool) (evaluatedAt : Time) :
    (gate.evaluateSnapshot proposal snapshot authorization sourceUnavailable
      evaluatedAt).Guarded ((degradedDiscipline ι).contract (degradedGates ι) i)
      (Program.Returns fun result s' => result.outcome = .continuePrimaryAssurance →
        DegradedRequest.Continues (.aware evaluatedAt) (.value snapshot) gate s result s') s := by
  unfold DegradedOperationGate.evaluateSnapshot
  apply Program.guarded_returns_bind
    (Q := fun reply s' => s.Advances s' ∧ s'.Consistent ∧ (reply = none ∨ reply = some s'.state))
  · apply Program.guarded_call.mpr
    intro s₁ hrely hconsistent
    refine ⟨trivial, ?_⟩
    rintro reply s' ⟨rfl, hreply⟩ _
    exact ⟨hrely, hconsistent, hreply⟩
  · rintro reply s' ⟨hadvances, hconsistent, hreply⟩
    rcases hreply with rfl | rfl
    · nofun
    · dsimp only
      split
      · nofun
      · exact guarded_evaluateOn hadvances hconsistent

theorem guarded_evaluate (gate : DegradedOperationGate) (proposal : ActionProposal)
    (now : DateTime) (snapshot : SourceAnswer DegradedRuntimeSnapshot)
    (authorization : SourceAnswer (Option DegradedModeAuthorization)) :
    (gate.evaluate proposal now snapshot authorization).Guarded
      ((degradedDiscipline ι).contract (degradedGates ι) i)
      (Program.Returns fun result s' => result.outcome = .continuePrimaryAssurance →
        DegradedRequest.Continues now snapshot gate s result s') s := by
  unfold DegradedOperationGate.evaluate
  apply Program.guarded_result_bind
  intro evaluatedAt hnow
  cases now with
  | naive => cases hnow
  | aware instant =>
    obtain rfl : instant = evaluatedAt := Except.ok.inj hnow
    cases snapshot with
    | raised => nofun
    | invalid => nofun
    | value snapshot =>
      cases authorization with
      | raised => exact guarded_evaluateSnapshot gate proposal snapshot none true _
      | invalid => exact guarded_evaluateSnapshot gate proposal snapshot none true _
      | value authorization =>
        exact guarded_evaluateSnapshot gate proposal snapshot authorization false _

theorem guarded_program (request : DegradedRequest) :
    request.program.Guarded ((degradedDiscipline ι).contract (degradedGates ι) i)
      (request.Post s) s := by
  cases request with
  | evaluate gate proposal now snapshot authorization =>
    apply Program.guarded_returns_bind
      (guarded_evaluate gate proposal now snapshot authorization)
    intro result s' hresult answer hanswer hcontinue
    obtain rfl := DegradedAnswer.admission.inj hanswer
    exact hresult hcontinue
  | applyReversal gate reversal authorization now =>
    have hguarded : (DegradedRequest.applyReversal gate reversal authorization now).program.Guarded
        ((degradedDiscipline ι).contract (degradedGates ι) i) (Program.Returns fun _ _ => True)
        s := by
      apply Program.guarded_returns_bind
        (guarded_applyReversal gate reversal authorization now)
      intro _ _ _
      trivial
    exact Program.guarded_mono (fun _ _ _ => trivial) hguarded

end Calls

/-! ## All calls together -/

theorem DegradedRequest.Continues.advances {now : DateTime}
    {snapshot : SourceAnswer DegradedRuntimeSnapshot} {gate : DegradedOperationGate}
    {started s s' : DegradedStore} {result : DegradedAdmissionResult}
    (h : DegradedRequest.Continues now snapshot gate started result s) (hs : s.Advances s') :
    DegradedRequest.Continues now snapshot gate started result s' where
  notRevoked := h.notRevoked
  lastRevoked view instant hview hinstant hhealthy := by
    obtain ⟨hnone, moment, hstarted, hmoment, hlast⟩ :=
      h.lastRevoked view instant hview hinstant hhealthy
    exact ⟨hnone, moment, hstarted, hmoment.trans hs.history, hlast⟩

theorem degraded_sound (ι : Type) :
    Interleaving.Sound (degradedGates ι) (degradedDiscipline ι) where
  advances_refl := DegradedStore.Advances.refl
  advances_trans := DegradedStore.Advances.trans
  rely_refl := DegradedStore.Advances.refl
  rely_trans := DegradedStore.Advances.trans
  act hs hallowed hperform := by
    obtain ⟨hconsistent, hadvances⟩ := hperform.advances hs hallowed
    exact ⟨hconsistent, hadvances, fun _ _ => hadvances⟩
  crash hs hcrash := by
    obtain rfl := hcrash
    exact ⟨hs, DegradedStore.Advances.refl _, trivial, fun _ _ => DegradedStore.Advances.refl _⟩
  idle_stable _ _ := trivial
  post_stable := by
    intro i request started result s s' hs hpost
    cases request with
    | evaluate gate proposal now snapshot authorization =>
      cases result with
      | error e => trivial
      | ok answer =>
        intro result hanswer hcontinue
        exact (hpost result hanswer hcontinue).advances hs
    | applyReversal gate reversal authorization now => trivial
  idle_of_post _ := trivial
  begin request _ _ := guarded_program request

/-- No lease digest shares its sequence number with another activated one. -/
theorem DegradedStore.Consistent.digest_unique {s : DegradedStore} (hs : s.Consistent)
    {a b : DegradedModeAuthorization} (ha : a ∈ activations s.history)
    (hb : b ∈ activations s.history) (hsequence : a.sequence = b.sequence) :
    a.digest = b.digest := by
  have hdistinct : ((activations s.history).map (fun lease => lease.sequence)).Nodup :=
    List.pairwise_map.mpr (hs.increasing.imp (fun hlt => hlt.ne))
  rw [List.inj_on_of_nodup_map hdistinct ha hb hsequence]

/-- In every run of any number of gates over one store, sequences and revocations only grow, a
    sequence number is activated for one digest, no call that began after a lease was revoked
    continues on it, and a healthy snapshot continues only if the last activated lease was revoked
    by a signed reversal. -/
theorem DegradedOperationGate.revocation_final {ι : Type} [DecidableEq ι] (authorityId : String)
    {w w' : Interleaving.World ι DegradedStore StoreAct StoreAct.Reply DegradedRequest String
      DegradedAnswer}
    (hreached : (degradedGates ι).Steps (.quiet (.initial authorityId)) w)
    (hlater : (degradedGates ι).Steps w w') :
    w.shared.state.highestAuthorizationSequence ≤ w'.shared.state.highestAuthorizationSequence ∧
    w.shared.state.highestReversalSequence ≤ w'.shared.state.highestReversalSequence ∧
    (∀ digest, w.shared.state.revokedAuthorizationSha256.has digest = true →
      w'.shared.state.revokedAuthorizationSha256.has digest = true) ∧
    (∀ a ∈ activations w'.shared.history, ∀ b ∈ activations w'.shared.history,
      a.sequence = b.sequence → a.digest = b.digest) ∧
    ∀ i gate proposal now snapshot authorization started result,
      w'.calls i = some ⟨.evaluate gate proposal now snapshot authorization, started,
        .done (.ok (.admission result))⟩ →
      result.outcome = .continuePrimaryAssurance →
        DegradedRequest.Continues now snapshot gate started result w'.shared := by
  have hinitial : Interleaving.Governed (degradedGates ι) (degradedDiscipline ι)
      (.quiet (.initial authorityId)) :=
    Interleaving.Governed.quiet (DegradedStore.consistent_initial authorityId) (fun _ => trivial)
  obtain ⟨hgoverned, -⟩ := hinitial.steps (degraded_sound ι) hreached
  obtain ⟨hgoverned', hadvances⟩ := hgoverned.steps (degraded_sound ι) hlater
  refine ⟨hadvances.authorization, hadvances.reversal, hadvances.revoked, ?_, ?_⟩
  · intro a ha b hb hsequence
    exact DegradedStore.Consistent.digest_unique hgoverned'.invariant ha hb hsequence
  · intro i gate proposal now snapshot authorization started result hcall hcontinue
    obtain ⟨-, hpost⟩ := hgoverned'.ended hcall
    exact hpost result rfl hcontinue

end

namespace Sample

/-- Digests that tell the sample artifacts apart, and one signature. -/
scoped instance sampleDegradedPrimitives : DegradedPrimitives where
  sha256
    | .snapshot view => Fin.ofNat (2 ^ 256) (10 + view.snapshotId.length)
    | .authorization lease => Fin.ofNat (2 ^ 256) (1000 + lease.sequence)
    | .reversal reversal => Fin.ofNat (2 ^ 256) (2000 + reversal.sequence)
    | .admission _ => 1
    | .reversalResult _ => 2
  textSha256 text := Fin.ofNat (2 ^ 256) text.length
  verifyBytes _ _ signature := decide (signature = "sample-signature")

def degradedGate : DegradedOperationGate :=
  ⟨"authority-1", "authority-key", 5 * second, 300 * second⟩

/-- Every role in this condition but the management path. -/
def runtimeView (management : RoleCondition) : DegradedRuntimeSnapshot where
  snapshotId := "snapshot-00000001"
  capturedAt := 0
  roleConditions _ := .healthy
  communicationConditions
    | .management => management
    | _ => .healthy
  unresolvedEffect := false

/-- A lease for the loss of the management path. -/
def lease : DegradedModeAuthorization where
  authorizationId := "authorization-01"
  sequence := 1
  authorityId := "authority-1"
  modeName := "island"
  behavior := .missionPreserving
  affectedRoles := [.management]
  allowedActorIds := ["agent-1"]
  allowedMissionIds := ["mission-1"]
  allowedResources := ["battery-1"]
  allowedOperations := [.dispatchBattery]
  maximumRiskScore := 50
  snapshotSha256 := (runtimeView .unavailable).digest
  recoveryCheckpointId := "checkpoint-000001"
  nonce := "lease-nonce-0001"
  issuedAt := 0
  expiresAt := 60 * second
  signature := "sample-signature"

def leaseReversal : DegradedModeReversal where
  reversalId := "reversal-00000001"
  sequence := 1
  authorityId := "authority-1"
  authorizationId := "authorization-01"
  authorizationSha256 := lease.digest
  recoveryCheckpointId := "checkpoint-000001"
  reasonCode := "management_restored"
  nonce := "reversal-nonce-01"
  issuedAt := second
  signature := "sample-signature"

/-- An agent's proposal while the lease is in force. -/
def leasedProposal : ActionProposal where
  proposalId := "proposal-1"
  actorId := "agent-1"
  missionId := "mission-1"
  resource := "battery-1"
  operation := .dispatchBattery
  parameters := []
  observedStateVersion := 0
  observedAt := 0
  submittedAt := 0
  nonce := "proposal-nonce-1"
  confidence := 1
  riskScore := 10
  delegationChain := ["agent-1"]
  humanApprovalId := none

/-- `evaluate` while the management path is in this condition. -/
def evaluating (management : RoleCondition) (now : Time) : DegradedRequest :=
  .evaluate degradedGate leasedProposal (.aware now) (.value (runtimeView management))
    (.value (some lease))

/-- The lease is activated, and then revoked by a second process. -/
def leasedWorld : Interleaving.World Nat DegradedStore StoreAct StoreAct.Reply DegradedRequest
    String DegradedAnswer :=
  (Interleaving.World.quiet (.initial "authority-1")).after answerInMemory (degradedGates Nat) 0
    (evaluating .unavailable second)

def revokedWorld : Interleaving.World Nat DegradedStore StoreAct StoreAct.Reply DegradedRequest
    String DegradedAnswer :=
  leasedWorld.after answerInMemory (degradedGates Nat) 1
    (.applyReversal degradedGate leaseReversal lease (.aware (2 * second)))

/-- A third process evaluates the healthy view. -/
def restoredWorld : Interleaving.World Nat DegradedStore StoreAct StoreAct.Reply DegradedRequest
    String DegradedAnswer :=
  revokedWorld.after answerInMemory (degradedGates Nat) 2 (evaluating .healthy (3 * second))

/-- What the third process answers. -/
def restoredResult : DegradedAdmissionResult :=
  DegradedOperationGate.healthyResult revokedWorld.shared.state (runtimeView .healthy) (some lease)
    (3 * second)

end Sample

open Sample in
/-- The lease was activated and revoked, and the restored view continues. -/
theorem revocation_final_restored :
    lastActivated restoredWorld.shared.history = some lease ∧
      restoredResult.outcome = .continuePrimaryAssurance ∧
      DegradedRequest.Continues (.aware (3 * second)) (.value (runtimeView .healthy)) degradedGate
        revokedWorld.shared restoredResult restoredWorld.shared := by
  have hleased : (degradedGates Nat).Steps (.quiet (.initial "authority-1")) leasedWorld :=
    Interleaving.World.steps_after DegradedStore.perform_inMemory rfl _
  have hrevoked : (degradedGates Nat).Steps leasedWorld revokedWorld :=
    Interleaving.World.steps_after DegradedStore.perform_inMemory rfl _
  have hrestored : (degradedGates Nat).Steps revokedWorld restoredWorld :=
    Interleaving.World.steps_after DegradedStore.perform_inMemory rfl _
  have hcontinue : restoredResult.outcome = .continuePrimaryAssurance := by decide
  refine ⟨by decide, hcontinue, ?_⟩
  exact (DegradedOperationGate.revocation_final "authority-1" hleased
    (hrevoked.trans hrestored)).2.2.2.2 2 degradedGate leasedProposal (.aware (3 * second))
    (.value (runtimeView .healthy)) (.value (some lease)) revokedWorld.shared restoredResult rfl
    hcontinue

end AegisOt
