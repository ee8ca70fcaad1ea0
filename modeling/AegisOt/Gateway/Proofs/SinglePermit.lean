import AegisOt.Gateway.Sample
import Mathlib.Tactic.Linarith

/-!
# One permit for one observation

`reserve` forgets a nonce when its retention has passed, so the gateway may permit the same nonce
again. By then the observation of the first permit is too old: a permitted proposal names an
observation that is at most `maximum_state_age` old, and the retention is at least that.
`Covers` is the invariant of the ledger between the two calls.
-/

namespace AegisOt

namespace Gateway.ReplayLedger

/-- A reservation made at `since` is still held at `now`, or its retention has passed. -/
def Covers (ledger : ReplayLedger) (nonce : String) (since now : Time) : Prop :=
  (∃ time, since ≤ time ∧ (nonce, time) ∈ ledger.seen) ∨ ledger.retention < now - since

variable {ledger : ReplayLedger} {nonce : String} {since now : Time}

@[simp] theorem retention_reserve (ledger : ReplayLedger) (nonce : String) (now : Time) :
    (ledger.reserve nonce now).2.retention = ledger.retention := by
  unfold reserve
  dsimp only
  split <;> rfl

theorem mem_remaining {entry : String × Time} :
    entry ∈ ledger.remaining now ↔ entry ∈ ledger.seen ∧ now - ledger.retention ≤ entry.2 := by
  simp [remaining]

/-- What remains is still there after the call. -/
theorem mem_reserve {entry : String × Time} (h : entry ∈ ledger.remaining now) (nonce : String) :
    entry ∈ (ledger.reserve nonce now).2.seen := by
  unfold reserve
  dsimp only
  split
  · exact h
  · exact List.mem_append_left _ h

/-- A nonce is reserved only when no earlier reservation of it is held. -/
theorem expired_of_reserve (h : (ledger.reserve nonce now).1 = true) {time : Time}
    (hmem : (nonce, time) ∈ ledger.seen) : ledger.retention < now - time := by
  unfold reserve at h
  dsimp only at h
  split at h
  · cases h
  · rename_i hfree
    rw [Option.isSome_iff_ne_none, not_not, lookupEntry_eq_none_iff] at hfree
    by_contra hheld
    apply hfree time
    apply mem_remaining.mpr
    refine ⟨hmem, ?_⟩
    linarith

theorem covers_reserve (h : (ledger.reserve nonce now).1 = true) :
    (ledger.reserve nonce now).2.Covers nonce now now := by
  left
  refine ⟨now, le_refl _, ?_⟩
  unfold reserve at h ⊢
  dsimp only at h ⊢
  split
  · rename_i hheld
    rw [if_pos hheld] at h
    cases h
  · simp

theorem Covers.mono (h : ledger.Covers nonce since now) {later : Time} (hlater : now ≤ later) :
    ledger.Covers nonce since later := by
  rcases h with hheld | hexpired
  · exact .inl hheld
  · right
    linarith

/-- Another call keeps a reservation covered. -/
theorem Covers.reserve (h : ledger.Covers nonce since now) (other : String) :
    (ledger.reserve other now).2.Covers nonce since now := by
  unfold Covers
  rw [retention_reserve]
  rcases h with ⟨time, hsince, hmem⟩ | hexpired
  · by_cases hheld : now - ledger.retention ≤ time
    · left
      exact ⟨time, hsince, mem_reserve (mem_remaining.mpr ⟨hmem, hheld⟩) other⟩
    · right
      linarith
  · exact .inr hexpired

/-- A covered nonce is reserved again only after its retention. -/
theorem Covers.expired (h : ledger.Covers nonce since now)
    (hreserve : (ledger.reserve nonce now).1 = true) : ledger.retention < now - since := by
  rcases h with ⟨time, hsince, hmem⟩ | hexpired
  · have htime := expired_of_reserve hreserve hmem
    linarith
  · exact hexpired

end Gateway.ReplayLedger

namespace AegisGateway

section

variable [EvidencePayload GatewayEvidence] [EvidencePrimitives] [GatewayPrimitives]

/-! ## One call -/

omit [GatewayPrimitives] in
/-- Recording a decision changes the evidence alone. -/
theorem record_spec (call : GatewayCall) (proposalId : String) (provisional : Decision)
    (payload : GatewayEvidence) (gateway : AegisGateway) :
    let ended := Method.call (record call proposalId provisional payload) gateway
    ended.2.replay = gateway.replay ∧ ended.2.maximumStateAge = gateway.maximumStateAge ∧
      ∀ decision, ended.1 = .ok decision → decision.outcome = provisional.outcome := by
  unfold record
  cases hevidence : call.evidence with
  | error e =>
    rw [Method.call_bind, Method.call_check]
    exact ⟨rfl, rfl, nofun⟩
  | ok u =>
    rw [Method.call_bind, Method.call_check]
    dsimp only
    rw [Method.call_self_bind, Method.call_assign_bind, Method.call_pure]
    refine ⟨rfl, rfl, ?_⟩
    rintro decision hdecision
    rw [← Except.ok.inj hdecision]

omit [EvidencePayload GatewayEvidence] [EvidencePrimitives] [GatewayPrimitives] in
/-- The nonce is looked at only for an authenticated actor. -/
theorem call_reserveNonce (gateway : AegisGateway) (call : GatewayCall)
    (identityVerified : Bool) :
    Method.call (reserveNonce call identityVerified) gateway =
      (.ok (if identityVerified ∧
          (gateway.replay.reserve call.proposal.nonce call.evaluatedAt).1 = false then
        ["replayed_nonce"] else []),
      { gateway with replay :=
          if identityVerified then (gateway.replay.reserve call.proposal.nonce call.evaluatedAt).2
          else gateway.replay }) := by
  unfold reserveNonce
  cases identityVerified with
  | false => simp
  | true =>
    rw [if_pos rfl, Method.call_self_bind, Method.call_assign_bind, Method.call_pure]
    cases (gateway.replay.reserve call.proposal.nonce call.evaluatedAt).1 <;> simp

/-- All the reasons of a call that was admitted to authentication. -/
def reasonsOf (gateway : AegisGateway) (call : GatewayCall) (identityVerified : Bool)
    (delegation policy safety : List String) : List String :=
  (if identityVerified then [] else ["identity_not_verified"]) ++ delegation ++
    call.observationReasons gateway.maximumStateAge ++ policy ++ safety ++
    if identityVerified ∧
        (gateway.replay.reserve call.proposal.nonce call.evaluatedAt).1 = false then
      ["replayed_nonce"] else []

/-- The call asked every object of the gateway and got these answers. -/
structure Asked (call : GatewayCall) (identityVerified : Bool) (delegation policy : List String)
    (safety : SafetyResult) : Prop where
  degraded : call.degradedReasons = []
  identity : call.identity = .ok identityVerified
  delegation : call.delegation = .ok delegation
  policy : call.policy = .ok policy
  safety : call.safety = .ok safety

/-- What a call does: the degraded-operation gate denies, something raises before the nonce is
    looked at, or every object was asked. -/
theorem decide_cases (gateway : AegisGateway) (call : GatewayCall) :
    (gateway.after call).maximumStateAge = gateway.maximumStateAge ∧
    ((call.degradedReasons ≠ [] ∧ (gateway.after call).replay = gateway.replay ∧
        ∀ decision, gateway.decision call = .ok decision → decision.outcome = .deny) ∨
      ((gateway.after call).replay = gateway.replay ∧ ∃ e, gateway.decision call = .error e) ∨
      ∃ identityVerified delegation policy safety,
        Asked call identityVerified delegation policy safety ∧
        (gateway.after call).replay =
          (if identityVerified then
            (gateway.replay.reserve call.proposal.nonce call.evaluatedAt).2
          else gateway.replay) ∧
        ∀ decision, gateway.decision call = .ok decision → decision.outcome = outcomeOf
          (gateway.reasonsOf call identityVerified delegation policy safety.reasons)) := by
  unfold after decision decide
  by_cases hdegraded : call.degradedReasons ≠ []
  · rw [if_pos hdegraded]
    obtain ⟨hreplay, hage, houtcome⟩ := record_spec call _ _ _ gateway
    exact ⟨hage, .inl ⟨hdegraded, hreplay, houtcome⟩⟩
  · rw [if_neg hdegraded, Method.call_self_bind]
    cases hidentity : call.identity with
    | error e => exact ⟨rfl, .inr (.inl ⟨rfl, e, rfl⟩)⟩
    | ok identityVerified =>
      cases hdelegation : call.delegation with
      | error e => exact ⟨rfl, .inr (.inl ⟨rfl, e, rfl⟩)⟩
      | ok delegation =>
        cases hpolicy : call.policy with
        | error e => exact ⟨rfl, .inr (.inl ⟨rfl, e, rfl⟩)⟩
        | ok policy =>
          cases hsafety : call.safety with
          | error e => exact ⟨rfl, .inr (.inl ⟨rfl, e, rfl⟩)⟩
          | ok safety =>
            have hasked : Asked call identityVerified delegation policy safety :=
              ⟨not_not.mp hdegraded, hidentity, hdelegation, hpolicy, hsafety⟩
            simp only [Method.call_bind, Method.call_check, call_reserveNonce]
            obtain ⟨hreplay, hage, houtcome⟩ := record_spec call _ _ _ _
            exact ⟨hage, .inr (.inr ⟨identityVerified, delegation, policy, safety, hasked,
              hreplay, houtcome⟩)⟩

/-! ## Permits -/

omit [EvidencePayload GatewayEvidence] [EvidencePrimitives] [GatewayPrimitives] in
theorem outcomeOf_eq_permit {reasons : List String} :
    outcomeOf reasons = .permit ↔ reasons = [] := by
  unfold outcomeOf
  by_cases happroval : reasons = ["human_approval_required"]
  · simp [happroval]
  · by_cases hnone : reasons = []
    · simp [hnone]
    · simp [happroval, hnone]

/-- No check of the call has anything against it. -/
structure Unobjected (gateway : AegisGateway) (call : GatewayCall) : Prop where
  degraded : call.degradedReasons = []
  identity : call.identity = .ok true
  delegation : call.delegation = .ok []
  observation : call.observationReasons gateway.maximumStateAge = []
  policy : call.policy = .ok []
  safety : ∃ safety, call.safety = .ok safety ∧ safety.reasons = []
  replay : (gateway.replay.reserve call.proposal.nonce call.evaluatedAt).1 = true

omit [EvidencePayload GatewayEvidence] [EvidencePrimitives] [GatewayPrimitives] in
/-- The reasons of a call that asked every object are empty exactly if none has any. -/
theorem Asked.reasonsOf_eq_nil {gateway : AegisGateway} {call : GatewayCall}
    {identityVerified : Bool} {delegation policy : List String} {safety : SafetyResult}
    (h : Asked call identityVerified delegation policy safety) :
    gateway.reasonsOf call identityVerified delegation policy safety.reasons = [] ↔
      gateway.Unobjected call := by
  simp only [reasonsOf, List.append_eq_nil_iff]
  constructor
  · rintro ⟨⟨⟨⟨⟨hidentity, rfl⟩, hobservation⟩, rfl⟩, hsafety⟩, hreplay⟩
    have hverified : identityVerified = true := by
      by_contra hnot
      simp [hnot] at hidentity
    subst hverified
    refine ⟨h.degraded, h.identity, h.delegation, hobservation, h.policy,
      ⟨safety, h.safety, hsafety⟩, ?_⟩
    by_contra hnot
    simp [hnot] at hreplay
  · intro hclear
    have hidentity := h.identity.symm.trans hclear.identity
    have hdelegation := h.delegation.symm.trans hclear.delegation
    have hpolicy := h.policy.symm.trans hclear.policy
    obtain ⟨safety', hsafety', hreasons⟩ := hclear.safety
    have hsafety := h.safety.symm.trans hsafety'
    obtain rfl := Except.ok.inj hidentity
    obtain rfl := Except.ok.inj hdelegation
    obtain rfl := Except.ok.inj hpolicy
    obtain rfl := Except.ok.inj hsafety
    simp [hclear.observation, hreasons, hclear.replay]

/-- A permit is returned exactly if no check had a reason against it. -/
theorem permit_iff {gateway : AegisGateway} {call : GatewayCall} {decision : Decision}
    (h : gateway.decision call = .ok decision) :
    decision.outcome = .permit ↔ gateway.Unobjected call := by
  obtain ⟨-, hdenied | hraised | ⟨identityVerified, delegation, policy, safety, hasked, -,
    houtcome⟩⟩ := gateway.decide_cases call
  · obtain ⟨hdegraded, -, houtcome⟩ := hdenied
    rw [houtcome decision h]
    constructor
    · nofun
    · intro hclear
      exact absurd hclear.degraded hdegraded
  · obtain ⟨-, e, hraised⟩ := hraised
    rw [hraised] at h
    cases h
  · rw [houtcome decision h, outcomeOf_eq_permit]
    exact hasked.reasonsOf_eq_nil

/-- What a call without an objection does to the ledger. -/
theorem Unobjected.replay_after {gateway : AegisGateway} {call : GatewayCall}
    (h : gateway.Unobjected call) {decision : Decision}
    (hdecision : gateway.decision call = .ok decision) :
    (gateway.after call).replay =
      (gateway.replay.reserve call.proposal.nonce call.evaluatedAt).2 := by
  obtain ⟨-, hdenied | hraised | ⟨identityVerified, delegation, policy, safety, hasked, hreplay,
    -⟩⟩ := gateway.decide_cases call
  · exact absurd h.degraded hdenied.1
  · obtain ⟨-, e, hraised⟩ := hraised
    rw [hraised] at hdecision
    cases hdecision
  · obtain rfl := Except.ok.inj (hasked.identity.symm.trans h.identity)
    exact hreplay

/-- A call leaves the ledger alone or reserves its nonce. -/
theorem replay_after (gateway : AegisGateway) (call : GatewayCall) :
    (gateway.after call).replay = gateway.replay ∨
      (gateway.after call).replay =
        (gateway.replay.reserve call.proposal.nonce call.evaluatedAt).2 := by
  obtain ⟨-, hdenied | hraised | ⟨identityVerified, delegation, policy, safety, -, hreplay, -⟩⟩ :=
    gateway.decide_cases call
  · exact .inl hdenied.2.1
  · exact .inl hraised.1
  · cases identityVerified with
    | false => exact .inl hreplay
    | true => exact .inr hreplay

theorem retention_after (gateway : AegisGateway) (call : GatewayCall) :
    (gateway.after call).replay.retention = gateway.replay.retention := by
  rcases gateway.replay_after call with h | h
  · rw [h]
  · rw [h, Gateway.ReplayLedger.retention_reserve]

theorem maximumStateAge_after (gateway : AegisGateway) (call : GatewayCall) :
    (gateway.after call).maximumStateAge = gateway.maximumStateAge :=
  (gateway.decide_cases call).1

/-- The nonce is not touched before authentication succeeds. -/
theorem replay_after_of_unauthenticated {gateway : AegisGateway} {call : GatewayCall}
    (h : call.degradedReasons ≠ [] ∨ call.identity ≠ .ok true) :
    (gateway.after call).replay = gateway.replay := by
  obtain ⟨-, hdenied | hraised | ⟨identityVerified, delegation, policy, safety, hasked, hreplay,
    -⟩⟩ := gateway.decide_cases call
  · exact hdenied.2.1
  · exact hraised.1
  · cases identityVerified with
    | false => exact hreplay
    | true =>
      rcases h with hdegraded | hidentity
      · exact absurd hasked.degraded hdegraded
      · exact absurd hasked.identity hidentity

/-! ## Sequences of calls -/

/-- The first call of a sequence is permitted, or the permits are those of the rest. -/
theorem permitted_cons (gateway : AegisGateway) (call : GatewayCall) (rest : List GatewayCall) :
    (gateway.permitted (call :: rest) = call :: (gateway.after call).permitted rest ∧
      gateway.Unobjected call ∧ (gateway.after call).replay =
        (gateway.replay.reserve call.proposal.nonce call.evaluatedAt).2) ∨
    gateway.permitted (call :: rest) = (gateway.after call).permitted rest := by
  rw [permitted]
  cases hdecision : gateway.decision call with
  | error e => exact .inr rfl
  | ok decision =>
    by_cases hpermit : decision.outcome = .permit
    · left
      have hclear := (permit_iff hdecision).mp hpermit
      refine ⟨?_, hclear, hclear.replay_after hdecision⟩
      simp [Except.toOption, hpermit]
    · right
      simp [Except.toOption, hpermit]

/-- While a nonce is covered, later permits of it come after its retention. The induction is on the
    calls; every call keeps the nonce covered. -/
theorem retention_lt_of_covers {nonce : String} {since : Time} {calls : List GatewayCall} :
    ∀ {gateway : AegisGateway} {now : Time}, gateway.replay.Covers nonce since now →
      (∀ call ∈ calls, now ≤ call.evaluatedAt) →
        calls.Pairwise (fun a b => a.evaluatedAt ≤ b.evaluatedAt) →
          ∀ call ∈ gateway.permitted calls, call.proposal.nonce = nonce →
            gateway.replay.retention < call.evaluatedAt - since := by
  induction calls with
  | nil =>
    intro gateway now _ _ _ call hcall
    rw [permitted] at hcall
    cases hcall
  | cons first rest ih =>
    intro gateway now hcovers hnow hsorted call hcall hnonce
    obtain ⟨hfirst, hrest⟩ := List.pairwise_cons.mp hsorted
    have hcovers' := hcovers.mono (hnow first List.mem_cons_self)
    have hafter : (gateway.after first).replay.Covers nonce since first.evaluatedAt := by
      rcases gateway.replay_after first with h | h
      · rw [h]
        exact hcovers'
      · rw [h]
        exact hcovers'.reserve _
    have hlater := ih hafter hfirst hrest
    rw [gateway.retention_after first] at hlater
    rcases gateway.permitted_cons first rest with ⟨hpermitted, hclear, -⟩ | hpermitted
    · rw [hpermitted] at hcall
      rcases List.mem_cons.mp hcall with rfl | hcall
      · rw [← hnonce] at hcovers'
        exact hcovers'.expired hclear.replay
      · exact hlater call hcall hnonce
    · rw [hpermitted] at hcall
      exact hlater call hcall hnonce

omit [EvidencePayload GatewayEvidence] [EvidencePrimitives] [GatewayPrimitives] in
/-- The observation of a permitted proposal. -/
theorem Unobjected.observed {gateway : AegisGateway} {call : GatewayCall}
    (h : gateway.Unobjected call) :
    call.proposal.observedAt ≤ call.evaluatedAt ∧
      call.evaluatedAt - gateway.maximumStateAge ≤ call.proposal.observedAt := by
  have hobservation := h.observation
  simp only [GatewayCall.observationReasons, List.append_eq_nil_iff] at hobservation
  obtain ⟨hfresh, hsame⟩ := hobservation
  have hobserved : call.proposal.observedAt = call.state.observedAt := by
    by_contra hne
    simp [hne] at hsame
  have hage : ¬ (call.evaluatedAt - call.state.observedAt < 0 ∨
      gateway.maximumStateAge < call.evaluatedAt - call.state.observedAt) := by
    intro hstale
    rw [if_pos hstale] at hfresh
    cases hfresh
  rw [not_or, not_lt, not_lt] at hage
  rw [hobserved]
  constructor <;> linarith [hage.1, hage.2]

/-- Every permitted proposal names an observation of at most the maximum age. -/
theorem observed_of_permitted {calls : List GatewayCall} :
    ∀ {gateway : AegisGateway}, ∀ call ∈ gateway.permitted calls,
      call.proposal.observedAt ≤ call.evaluatedAt ∧
        call.evaluatedAt - gateway.maximumStateAge ≤ call.proposal.observedAt := by
  induction calls with
  | nil =>
    intro gateway call hcall
    rw [permitted] at hcall
    cases hcall
  | cons first rest ih =>
    intro gateway call hcall
    have hlater := @ih (gateway.after first) call
    rw [gateway.maximumStateAge_after first] at hlater
    rcases gateway.permitted_cons first rest with ⟨hpermitted, hclear, -⟩ | hpermitted
    · rw [hpermitted] at hcall
      rcases List.mem_cons.mp hcall with rfl | hcall
      · exact hclear.observed
      · exact hlater hcall
    · rw [hpermitted] at hcall
      exact hlater hcall

/-- Two permits of one nonce are more than the retention apart. -/
theorem permitted_apart {calls : List GatewayCall} :
    ∀ {gateway : AegisGateway}, calls.Pairwise (fun a b => a.evaluatedAt ≤ b.evaluatedAt) →
      (gateway.permitted calls).Pairwise (fun a b => a.proposal.nonce = b.proposal.nonce →
        gateway.replay.retention < b.evaluatedAt - a.evaluatedAt) := by
  induction calls with
  | nil => intro gateway _; exact List.Pairwise.nil
  | cons first rest ih =>
    intro gateway hsorted
    obtain ⟨hfirst, hrest⟩ := List.pairwise_cons.mp hsorted
    have hlater := @ih (gateway.after first) hrest
    rw [gateway.retention_after first] at hlater
    rcases gateway.permitted_cons first rest with ⟨hpermitted, hclear, hreplay⟩ | hpermitted
    · rw [hpermitted]
      refine List.pairwise_cons.mpr ⟨?_, hlater⟩
      intro call hcall hnonce
      have hcovers : (gateway.after first).replay.Covers first.proposal.nonce first.evaluatedAt
          first.evaluatedAt := by
        rw [hreplay]
        exact Gateway.ReplayLedger.covers_reserve hclear.replay
      have hexpired := retention_lt_of_covers hcovers hfirst hrest call hcall hnonce.symm
      rw [gateway.retention_after first] at hexpired
      exact hexpired
    · rw [hpermitted]
      exact hlater

/-- Two permits of one nonce concern different observations, more than the retention apart; a call
    that fails before or in authentication leaves every nonce as it was; and a permit is returned
    exactly if no check had a reason against it. -/
theorem single_permit (gateway : AegisGateway) (calls : List GatewayCall)
    (hsorted : calls.Pairwise (fun a b => a.evaluatedAt ≤ b.evaluatedAt))
    (hretention : gateway.maximumStateAge ≤ gateway.replay.retention) :
    (gateway.permitted calls).Pairwise (fun a b => a.proposal.nonce = b.proposal.nonce →
      gateway.replay.retention < b.evaluatedAt - a.evaluatedAt ∧
        a.proposal.observedAt < b.proposal.observedAt) ∧
    (∀ (gateway : AegisGateway) (call : GatewayCall),
      call.degradedReasons ≠ [] ∨ call.identity ≠ .ok true →
        (gateway.after call).replay = gateway.replay) ∧
    ∀ (gateway : AegisGateway) (call : GatewayCall) (decision : Decision),
      gateway.decision call = .ok decision →
        (decision.outcome = .permit ↔ gateway.Unobjected call) := by
  refine ⟨?_, fun _ _ => replay_after_of_unauthenticated, fun _ _ _ => permit_iff⟩
  apply (permitted_apart hsorted).imp_of_mem
  intro a b ha hb hapart hnonce
  have hretained := hapart hnonce
  refine ⟨hretained, ?_⟩
  have hold := (observed_of_permitted a ha).1
  have hnew := (observed_of_permitted b hb).2
  linarith

end

end AegisGateway

open Sample in
theorem permitted_repeatedCalls : aegisGateway.permitted repeatedCalls = repeatedCalls := rfl

open Sample in
/-- The second permit comes an hour and a second after the first. -/
theorem single_permit_repeated :
    aegisGateway.replay.retention < 3601 * second ∧
      (gatewayProposal 0).observedAt < (gatewayProposal (3601 * second)).observedAt := by
  have hsorted : repeatedCalls.Pairwise (fun a b => a.evaluatedAt ≤ b.evaluatedAt) := by decide
  have hpermits := (AegisGateway.single_permit aegisGateway repeatedCalls hsorted (by decide)).1
  rw [permitted_repeatedCalls] at hpermits
  have hpair := (List.pairwise_cons.mp hpermits).1 (gatewayCall (3601 * second))
    List.mem_cons_self rfl
  exact hpair

open Sample in
/-- One actor is permitted twice with one nonce. -/
theorem nonce_permitted_again :
    ¬ ∀ (gateway : AegisGateway) (calls : List GatewayCall),
      calls.Pairwise (fun a b => a.evaluatedAt ≤ b.evaluatedAt) →
        gateway.maximumStateAge ≤ gateway.replay.retention →
          (gateway.permitted calls).Pairwise (fun a b =>
            ¬ (a.proposal.actorId = b.proposal.actorId ∧ a.proposal.nonce = b.proposal.nonce)) := by
  intro h
  have hdistinct := h aegisGateway repeatedCalls (by decide) (by decide)
  rw [permitted_repeatedCalls] at hdistinct
  exact absurd hdistinct (by decide)

end AegisOt
