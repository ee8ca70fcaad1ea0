import AegisOt.Coordination.Proofs.Invariant
import AegisOt.Runtime.Proofs.OtExecution
import AegisOt.Transport.Proofs.GatewayCommits

/-!
# The gateway and the OT runtime agree

What the two journals say of one effect, over every run of both processes. The OT runtime
executes only what the gateway has sent, and so only what the gateway's journal retains; the
gateway closes an effect on the evidence of an outcome that the OT journal retains, or before its
commit exists. `CoordinationSystem.Safe` puts the invariants of the two sides together with these
two links.
-/

namespace AegisOt

open Program CoordinationJournalRecord

section

variable [Primitives] [RecordCodec]

/-! ## Handlers under a weaker licence -/

/-- A handler that may execute less may execute more. -/
theorem guarded_handled_mono {α : Type} {handled handled' : SignedEffectCommitRequest → Prop}
    {p : OtProgram α} {post : Except RuntimeError α → OtState → Prop} {s : OtState}
    (hsub : ∀ m, handled m → handled' m) (hp : p.Guarded (otContract handled) post s) :
    p.Guarded (otContract handled') post s := by
  induction p generalizing s with
  | done result => exact hp
  | act action next ih =>
    rintro s₁ hrely hsound
    obtain ⟨hallowed, hnext⟩ := hp s₁ hrely hsound
    refine ⟨?_, fun reply s' hperform hsound' => ih reply (hnext reply s' hperform hsound')⟩
    cases action with
    | execute request => exact ⟨hsub _ hallowed.1, hallowed.2⟩
    | _ => trivial

/-- A handler that does not call the device needs no licence. -/
theorem guarded_handled_harmless {α : Type} {handled handled' : SignedEffectCommitRequest → Prop}
    {p : OtProgram α} {post : Except RuntimeError α → OtState → Prop} {s : OtState}
    (hharmless : p.Uses OtAct.Harmless) (hp : p.Guarded (otContract handled) post s) :
    p.Guarded (otContract handled') post s := by
  induction p generalizing s with
  | done result => exact hp
  | act action next ih =>
    rintro s₁ hrely hsound
    obtain ⟨-, hnext⟩ := hp s₁ hrely hsound
    exact ⟨otContract_allowed hharmless.1, fun reply s' hperform hsound' =>
      ih reply (hharmless.2 reply) (hnext reply s' hperform hsound')⟩

namespace OtProgram

omit [RecordCodec] in
/-- What follows `_coordination_context` runs in a context that a trust bundle resolved. -/
theorem uses_coordinationContext_bind {α : Type} {P : OtAct → Prop} (htrust : P .trust)
    (cfg : OtConfig) (evaluatedAt : Time) {f : Context → OtProgram α}
    (hf : ∀ view context, resolveContext cfg view evaluatedAt = .ok context → (f context).Uses P) :
    (coordinationContext cfg evaluatedAt >>= f).Uses P := by
  unfold coordinationContext
  by_cases hdisabled : cfg.coordinationRequired = false
  · rw [require, if_pos hdisabled]
    trivial
  · rw [require, if_neg hdisabled]
    refine ⟨htrust, fun view => ?_⟩
    change Uses P (Program.bind (result (resolveContext cfg view evaluatedAt)) f)
    cases hresolved : resolveContext cfg view evaluatedAt with
    | error error => trivial
    | ok context => exact hf view context hresolved

omit [RecordCodec] in
/-- A commit request that is not authenticated never reaches the device. -/
theorem harmless_commitEffect (cfg : OtConfig) {request : SignedEffectCommitRequest}
    (hrefused : ¬ cfg.Admits request) : (commitEffect cfg request).Uses OtAct.Harmless := by
  refine uses_bind (uses_perform trivial) (fun evaluatedAt => ?_)
  refine uses_coordinationContext_bind trivial cfg evaluatedAt (fun view context hresolved => ?_)
  have hunverified : request.verifyCompleteForAdmission context.verifier context.gateway.subject
      context.localIdentity.subject (currentIdentities cfg) evaluatedAt = false := by
    by_contra hverified
    exact hrefused ⟨view, context, evaluatedAt, hresolved, by simpa using hverified⟩
  rw [require, if_pos (Or.inr (Or.inl hunverified))]
  trivial

omit [RecordCodec] in
theorem harmless_queryEffect (cfg : OtConfig) (request : SignedEffectQueryRequest) :
    (queryEffect cfg request).Uses OtAct.Harmless := by
  refine uses_bind (uses_perform trivial) (fun _ => ?_)
  refine uses_bind (passive_coordinationContext cfg _).harmless (fun _ => ?_)
  refine uses_bind (uses_require _ _) (fun _ => ?_)
  refine uses_bind (passive_requireCoordinationAlignment cfg _).harmless (fun _ => ?_)
  refine uses_bind (uses_perform trivial) (fun _ => ?_)
  refine uses_bind (uses_result _) (fun _ => ?_)
  refine uses_bind (uses_perform trivial) (fun _ => ?_)
  refine uses_bind (uses_result _) (fun _ => ?_)
  refine uses_bind (uses_require _ _) (fun _ => ?_)
  refine uses_bind (uses_perform trivial) (fun _ => ?_)
  refine uses_bind (uses_result _) (fun _ => ?_)
  refine uses_bind (uses_result _) (fun _ => ?_)
  refine uses_bind (uses_runIf (passive_clearAnsweredMarker cfg request).harmless) (fun _ => ?_)
  exact uses_pure _

end OtProgram

open OtProgram in
/-- A handler executes only a commit that was sent, given that no other is admitted. -/
theorem OtRequest.handle_guarded_sent (cfg : OtConfig) (request : OtRequest) (s : OtState)
    {sent : SignedEffectCommitRequest → Prop}
    (hauthentic : ∀ m, request = .commit m → cfg.Admits m → sent m) :
    (request.handle cfg).Guarded (otContract sent) (Returns OtReply.Durable) s := by
  have hguarded := request.handle_guarded cfg s
  cases request with
  | prepare request =>
    exact guarded_handled_harmless
      (uses_bind (harmless_prepareEffect cfg request) (fun _ => uses_pure _)) hguarded
  | query request =>
    exact guarded_handled_harmless
      (uses_bind (harmless_queryEffect cfg request) (fun _ => uses_pure _)) hguarded
  | commit m =>
    by_cases hadmits : cfg.Admits m
    · refine guarded_handled_mono ?_ hguarded
      rintro _ ⟨⟩
      exact hauthentic m rfl hadmits
    · exact guarded_handled_harmless
        (uses_bind (harmless_commitEffect cfg hadmits) (fun _ => uses_pure _)) hguarded

/-! ## What only grows -/

theorem GatewayStep.commits_subset {g g' : GatewaySystem} (h : GatewayStep g g')
    {m : SignedEffectCommitRequest} (hm : m ∈ g.state.commits) : m ∈ g'.state.commits := by
  cases h with
  | act port s s' action next reply hlocal hperform =>
    have hsent : s'.sent = s.sent := by
      cases action with
      | exchange request => exact absurd rfl (hlocal request)
      | nonce =>
        obtain ⟨-, rfl⟩ := hperform
        rfl
      | _ =>
        obtain ⟨p, -, rfl⟩ := hperform
        rfl
    rw [GatewayState.commits, hsent]
    exact hm
  | handOver port s request next =>
    rw [GatewayState.commits_handOver]
    exact List.mem_append_right _ hm
  | _ => exact hm

omit [RecordCodec] in
theorem OtState.answered_answer (s : OtState) (result : Except RuntimeError OtReply)
    {o : SignedEffectOutcome} (ho : o ∈ s.answered) : o ∈ (s.answer result).answered := by
  rcases result with error | receipt | outcome
  · exact ho
  · exact ho
  · exact List.mem_cons_of_mem _ ho

omit [RecordCodec] in
theorem OtState.executed_answer (s : OtState) (result : Except RuntimeError OtReply) :
    (s.answer result).executed = s.executed := by
  rcases result with error | receipt | outcome
  · rfl
  · rfl
  · rfl

/-! ## The joint invariant -/

/-- The invariants of the two sides and what links them: everything executed was sent, and
    everything the gateway trusts was answered. -/
structure CoordinationSystem.Safe (sys : CoordinationSystem) : Prop where
  gateway : sys.gateway.Safe
  ot : sys.ot.state.Sound
  running : ∀ p, sys.ot.running = some p →
    p.Guarded (otContract (fun m => m ∈ sys.gateway.state.commits)) (Returns OtReply.Durable)
      sys.ot.state
  sent : ∀ m ∈ sys.ot.state.executed, m ∈ sys.gateway.state.commits
  authentic : ∀ port o, (port, o) ∈ sys.gateway.state.received → port.Trusts o →
    o ∈ sys.ot.state.answered

theorem CoordinationSystem.Initial.safe {sys : CoordinationSystem} (h : sys.Initial) :
    sys.Safe := by
  obtain ⟨-, -, -, hreceived, -, -⟩ := h.1
  obtain ⟨-, -, hexecuted, -, hrunning⟩ := h.2
  refine ⟨h.1.safe, h.2.safe.sound, ?_, ?_, ?_⟩
  · simp [hrunning]
  · simp [hexecuted]
  · simp [hreceived]

/-- A step of the OT runtime that starts nothing keeps the joint invariant. -/
theorem CoordinationSystem.Safe.otStep {g : GatewaySystem} {ot ot' : OtSystem}
    (hsafe : Safe ⟨g, ot⟩) (hstep : OtStep ot ot')
    (hworking : ot.running = none → ot'.running = none) : Safe ⟨g, ot'⟩ := by
  cases hstep with
  | start config s request => cases hworking rfl
  | act config s s' action next reply hperform =>
    obtain ⟨hallowed, hnext⟩ := hsafe.running _ rfl s rfl hsafe.ot
    have hsound : s'.Sound := OtState.sound_perform hsafe.ot hallowed hperform
    refine ⟨hsafe.gateway, hsound, ?_, ?_, ?_⟩
    · rintro p ⟨⟩
      exact hnext reply s' hperform hsound
    · by_cases hharmless : action.Harmless
      · rw [(OtState.grows_perform hsafe.ot hharmless hperform).executed]
        exact hsafe.sent
      · cases action with
        | execute request =>
          obtain rfl : s' = { s with executed := request :: s.executed } := hperform
          intro m hm
          rcases List.mem_cons.mp hm with rfl | hm
          · exact hallowed.1
          · exact hsafe.sent m hm
        | _ => exact absurd trivial hharmless
    · by_cases hharmless : action.Harmless
      · rw [(OtState.grows_perform hsafe.ot hharmless hperform).answered]
        exact hsafe.authentic
      · cases action with
        | execute request =>
          obtain rfl : s' = { s with executed := request :: s.executed } := hperform
          exact hsafe.authentic
        | _ => exact absurd trivial hharmless
  | finish config s result =>
    refine ⟨hsafe.gateway, hsafe.ot.answer (hsafe.running _ rfl), by simp, ?_, ?_⟩
    · rw [OtState.executed_answer]
      exact hsafe.sent
    · intro port o hreceived htrusts
      exact s.answered_answer result (hsafe.authentic port o hreceived htrusts)
  | restart config =>
    exact ⟨hsafe.gateway, hsafe.ot.restart, by simp, hsafe.sent, hsafe.authentic⟩

theorem CoordinationStep.safe {sys sys' : CoordinationSystem} (h : CoordinationStep sys sys')
    (hsafe : sys.Safe) : sys'.Safe := by
  cases h with
  | gateway g g' ot hstep hauthentic =>
    refine ⟨hstep.safe hsafe.gateway, hsafe.ot, ?_, ?_, ?_⟩
    · intro p hp
      exact guarded_handled_mono (fun _ => hstep.commits_subset) (hsafe.running p hp)
    · exact fun m hm => hstep.commits_subset (hsafe.sent m hm)
    · intro port o hreceived htrusts
      rcases hauthentic port o hreceived with hold | hnew
      · exact hsafe.authentic port o hold htrusts
      · exact hnew htrusts
  | deliver g config s request hauthentic =>
    refine ⟨hsafe.gateway, hsafe.ot, ?_, hsafe.sent, hsafe.authentic⟩
    rintro p ⟨⟩
    exact request.handle_guarded_sent config s hauthentic
  | ot g ot ot' hstep hworking => exact hsafe.otStep hstep hworking

theorem CoordinationRun.safe {sys sys' : CoordinationSystem} (h : CoordinationRun sys sys')
    (hsafe : sys.Safe) : sys'.Safe := by
  induction h with
  | refl => exact hsafe
  | tail _ hstep ih => exact hstep.safe ih

/-! ## Agreement -/

omit [RecordCodec] in
/-- A retained outcome that closes an effect closes it with its own disposition. -/
theorem JournalEntry.state_of_retains {role : JournalRole} (e : JournalEntry role)
    {o : SignedEffectOutcome} (h : e.record.RetainsOutcome o)
    (hterminal : o.disposition.state.terminal = true) : e.record.state = o.disposition.state := by
  obtain ⟨a, ha, ho⟩ := h
  cases hdisposition : o.disposition with
  | notDispatched => exact e.notDispatched_of_retains ⟨a, ha, ho⟩ hdisposition
  | unknownEffect =>
    rw [hdisposition] at hterminal
    cases hterminal
  | applied =>
    have hstate := (e.history.terminal_outcome_state ha ho (by rw [hdisposition]; rfl)).2
    exact hdisposition ▸ (EffectDisposition.state_eq_of_forState hstate).symm
  | rejected =>
    have hstate := (e.history.terminal_outcome_state ha ho (by rw [hdisposition]; rfl)).2
    exact hdisposition ▸ (EffectDisposition.state_eq_of_forState hstate).symm

namespace CoordinationSystem.Safe

variable {sys : CoordinationSystem}

/-- What the gateway retains as closing an effect, the OT journal has closed the same way. -/
theorem ot_state (hsafe : sys.Safe) {k : EffectId} {e : JournalEntry .gateway}
    (hfound : sys.gateway.state.journal.file.find? k = some e) {o : SignedEffectOutcome}
    (hretains : e.record.RetainsOutcome o) (hterminal : o.disposition.state.terminal = true) :
    sys.ot.state.journal.Holds k (fun r => r.state = o.disposition.state) := by
  obtain ⟨port, hreceived, htrusts⟩ := hsafe.gateway.sound.authentic.2 k e hfound o hretains
  have hanswered := hsafe.authentic port o hreceived htrusts
  have hkey : o.effect.effectId = k := by
    rw [e.outcome_effect hretains]
    exact hsafe.gateway.sound.consistent.fileKeyed k e hfound
  obtain ⟨⟨e₁, he₁, ho₁⟩, e₂, he₂, ho₂⟩ := hsafe.ot.retained o hanswered
  rw [hkey] at he₁ he₂
  exact ⟨⟨e₁, he₁, e₁.state_of_retains ho₁ hterminal⟩,
    e₂, he₂, e₂.state_of_retains ho₂ hterminal⟩

/-- What memory holds in a terminal state the file holds in the same state. -/
theorem file_of_terminal (hsafe : sys.Safe) {k : EffectId} {e : JournalEntry .gateway}
    (hfound : sys.gateway.state.journal.records.find? k = some e)
    (hterminal : e.record.state.terminal = true) :
    ∃ e', sys.gateway.state.journal.file.find? k = some e' ∧
      e'.record.state = e.record.state := by
  obtain ⟨e', he', hextends⟩ := hsafe.gateway.sound.consistent.ahead.kept k e hfound
  exact ⟨e', he', hextends.state_eq hterminal⟩

/-- An effect that the gateway's file closes as NOT_DISPATCHED was not executed. -/
theorem unexecuted (hsafe : sys.Safe) {k : EffectId} {e : JournalEntry .gateway}
    (hfound : sys.gateway.state.journal.file.find? k = some e)
    (hclosed : e.record.state = .notDispatched) : sys.ot.state.Unexecuted k := by
  intro m hm hkey
  -- The commit was sent, so the record has a commit attempt and was closed by an answer.
  obtain ⟨-, e', he', hcommit⟩ := hsafe.gateway.sound.retained m (hsafe.sent m hm)
  rw [hkey, hfound] at he'
  obtain rfl := Option.some.inj he'
  obtain ⟨q, o, hq, ho, hnd⟩ :=
    hsafe.gateway.sound.closed.2 k e hfound hcommit.hasCommit hclosed
  obtain ⟨-, e₂, he₂, hstate⟩ := hsafe.ot_state hfound ⟨_, hq, ho⟩ (by rw [hnd]; rfl)
  obtain ⟨-, e₃, he₃, hexecuted⟩ := hsafe.ot.committed m hm
  rw [hkey, he₂] at he₃
  obtain rfl := Option.some.inj he₃
  rw [hnd] at hstate
  rw [e₂.not_committed hstate] at hexecuted
  cases hexecuted

end CoordinationSystem.Safe

/-- The gateway's file keeps what every extension of a record keeps. -/
theorem GatewayStep.holds_file {g g' : GatewaySystem} (h : GatewayStep g g') (hsafe : g.Safe)
    {k : EffectId} {P : CoordinationJournalRecord → Prop}
    (hextends : ∀ r r', r.Extends .any r' → P r → P r')
    (hfile : RecordMap.Holds g.state.journal.file k P) :
    RecordMap.Holds g'.state.journal.file k P := by
  cases h with
  | act port s s' action next reply hlocal hperform =>
    have hnocommit : action.NoCommit := by
      cases action with
      | exchange request => exact absurd rfl (hlocal request)
      | _ => trivial
    exact (GatewayState.grows_perform hsafe.sound hnocommit hperform).journal.file.holds hextends
      hfile
  | _ => exact hfile

theorem CoordinationRun.holds_file {sys sys' : CoordinationSystem}
    (h : CoordinationRun sys sys') (hsafe : sys.Safe) {k : EffectId}
    {P : CoordinationJournalRecord → Prop} (hextends : ∀ r r', r.Extends .any r' → P r → P r')
    (hfile : RecordMap.Holds sys.gateway.state.journal.file k P) :
    RecordMap.Holds sys'.gateway.state.journal.file k P := by
  induction h with
  | refl => exact hfile
  | tail hrun hstep ih =>
    have hbefore := CoordinationRun.safe hrun hsafe
    cases hstep with
    | gateway g g' ot hstep hauthentic => exact hstep.holds_file hbefore.gateway hextends ih
    | deliver g config s request hauthentic => exact ih
    | ot g ot ot' hstep hworking => exact ih

/-- When the gateway holds an effect as APPLIED or REJECTED, so does the OT runtime, in memory
    and in its file. -/
theorem CoordinationRun.dispatched_agree {init sys : CoordinationSystem} (hinit : init.Initial)
    (hrun : CoordinationRun init sys) {k : EffectId} {e : JournalEntry .gateway}
    (hfound : sys.gateway.state.journal.records.find? k = some e)
    (hdispatched : e.record.state.dispatchedTerminal = true) :
    sys.ot.state.journal.Holds k (fun r => r.state = e.record.state) := by
  have hsafe := CoordinationRun.safe hrun hinit.safe
  obtain ⟨e', he', hsame⟩ :=
    hsafe.file_of_terminal hfound (CoordinationState.dispatchedTerminal_terminal hdispatched)
  rw [← hsame] at hdispatched ⊢
  obtain ⟨⟨a, ha, o, ho, hstate, -⟩, -⟩ := e'.history.dispatched hdispatched
  rw [← hstate]
  refine hsafe.ot_state he' ⟨a, ha, ho⟩ ?_
  rw [hstate]
  exact CoordinationState.dispatchedTerminal_terminal hdispatched

/-- When the gateway holds an effect as NOT_DISPATCHED, the device was not called for it and
    never will be. -/
theorem CoordinationRun.not_dispatched_unexecuted {init sys sys' : CoordinationSystem}
    (hinit : init.Initial) (hrun : CoordinationRun init sys) (hlater : CoordinationRun sys sys')
    {k : EffectId} {e : JournalEntry .gateway}
    (hfound : sys.gateway.state.journal.records.find? k = some e)
    (hclosed : e.record.state = .notDispatched) : sys'.ot.state.Unexecuted k := by
  have hsafe := CoordinationRun.safe hrun hinit.safe
  have hterminal : e.record.state.terminal = true := by rw [hclosed]; rfl
  obtain ⟨e', he', hsame⟩ := hsafe.file_of_terminal hfound hterminal
  obtain ⟨e'', he'', hclosed''⟩ := CoordinationRun.holds_file hlater hsafe
    (P := fun r => r.state = .notDispatched)
    (fun r r' hextends hr => (hextends.state_eq (by rw [hr]; rfl)).trans hr)
    ⟨e', he', hsame.trans hclosed⟩
  exact (CoordinationRun.safe hlater hsafe).unexecuted he'' hclosed''

/-- Whatever the device was called for, the gateway's file retains the very commit request, under
    an effect that it has not closed as NOT_DISPATCHED. -/
theorem CoordinationRun.executed_retained {init sys : CoordinationSystem} (hinit : init.Initial)
    (hrun : CoordinationRun init sys) {m : SignedEffectCommitRequest}
    (hm : m ∈ sys.ot.state.executed) :
    RecordMap.Holds sys.gateway.state.journal.file m.effect.effectId
      (fun r => r.RetainsCommit m ∧ r.state ≠ .notDispatched) := by
  have hsafe := CoordinationRun.safe hrun hinit.safe
  obtain ⟨-, e, he, hretains⟩ := hsafe.gateway.sound.retained m (hsafe.sent m hm)
  exact ⟨e, he, hretains, fun hclosed => hsafe.unexecuted he hclosed m hm rfl⟩

end

section

open CoordinationSample Sample

theorem dispatched_agree_applied :
    coordinationExecuted.ot.state.journal.Holds sampleEffectId (fun r => r.state = .applied) := by
  obtain ⟨-, -, happlied⟩ := evaluated_coordinationExecuted
  obtain ⟨e, he, hstate⟩ := Option.map_eq_some_iff.mp happlied
  have hagree := CoordinationRun.dispatched_agree initial_coordinationSystem
    run_coordinationExecuted he (by rw [hstate]; rfl)
  rwa [hstate] at hagree

theorem executed_retained_applied :
    ∃ m ∈ coordinationExecuted.ot.state.executed,
      RecordMap.Holds coordinationExecuted.gateway.state.journal.file m.effect.effectId
        (fun r => r.RetainsCommit m ∧ r.state ≠ .notDispatched) := by
  obtain ⟨-, hlength, -⟩ := evaluated_coordinationExecuted
  obtain ⟨m, hm⟩ := List.length_eq_one_iff.mp hlength
  have hmem : m ∈ coordinationExecuted.ot.state.executed := by
    rw [hm]
    exact List.mem_singleton.mpr rfl
  exact ⟨m, hmem, CoordinationRun.executed_retained initial_coordinationSystem
    run_coordinationExecuted hmem⟩

set_option maxRecDepth 10000 in
/-- The lost request arrives after the effect was closed. -/
theorem not_dispatched_unexecuted_late :
    ∃ request ∈ coordinationClosed.gateway.state.sent,
      (CoordinationSystem.serve (calmAt 7 none) coordinationClosed.ot
        request.toOt).2.state.Unexecuted sampleEffectId := by
  have hfacts : coordinationClosed.gateway.state.sent.length = 1 ∧
      (coordinationClosed.gateway.state.journal.records.find? sampleEffectId).map
        (fun e => e.record.state) = some .notDispatched := by decide +kernel
  obtain ⟨hlength, hclosed⟩ := hfacts
  obtain ⟨request, hsent⟩ := List.length_eq_one_iff.mp hlength
  obtain ⟨e, he, hstate⟩ := Option.map_eq_some_iff.mp hclosed
  have hmem : request ∈ coordinationClosed.gateway.state.sent := by
    rw [hsent]
    exact List.mem_singleton.mpr rfl
  have hlater := CoordinationSystem.run_serve (calmAt 7 none) request.toOt
    run_coordinationClosed.2.ot (fun m hm _ => CoordinationSystem.mem_commits_of_sent hmem hm)
  exact ⟨request, hmem, CoordinationRun.not_dispatched_unexecuted initial_coordinationSystem
    run_coordinationClosed.1 hlater he hstate⟩

end

end AegisOt
