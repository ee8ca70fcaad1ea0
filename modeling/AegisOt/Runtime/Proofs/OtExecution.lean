import AegisOt.Coordination.Proofs.Retention
import AegisOt.Runtime.Driver

/-!
# What the OT runtime executes

The device is called only after a commit attempt was made durable by the same handler, so the
attempt fences off every later call for the effect: `OtState.Sound` is the invariant, kept by
every action of every handler and by a crash between any two of them. Handlers are judged with
the rules of `AegisOt.Misc.Program`; since the coordination lock serializes them nothing happens
between two of their actions.
-/

namespace AegisOt

open Program

section

variable [Primitives] [RecordCodec]

namespace OtState

/-- The invariant of the OT side. -/
structure Sound (s : OtState) : Prop where
  consistent : s.journal.Consistent
  once : (s.executed.map (fun m => m.effect.effectId)).Nodup
  committed : ∀ m ∈ s.executed,
    s.journal.Holds m.effect.effectId (fun r => r.hasCommit = true)
  retained : ∀ o ∈ s.answered, s.journal.Retains o

/-- No commit of this effect was executed. -/
def Unexecuted (s : OtState) (k : EffectId) : Prop :=
  ∀ m ∈ s.executed, m.effect.effectId ≠ k

/-- What any action but `execute` does. -/
structure Grows (s s' : OtState) : Prop where
  journal : s.journal.Stepped .any s'.journal
  executed : s'.executed = s.executed
  answered : s'.answered = s.answered

theorem Grows.refl {s : OtState} (h : s.Sound) : s.Grows s :=
  ⟨.refl h.consistent, rfl, rfl⟩

end OtState

/-- Every action but the call of the device. -/
def OtAct.Harmless : OtAct → Prop
  | .execute _ => False
  | _ => True

/-- Every action that leaves the journal and the device alone. -/
def OtAct.Passive : OtAct → Prop
  | .execute _ | .journal _ => False
  | _ => True

omit [Primitives] [RecordCodec] in
theorem OtAct.Passive.harmless {action : OtAct} (h : action.Passive) : action.Harmless := by
  cases action with
  | execute request => exact h.elim
  | _ => trivial

omit [RecordCodec] in
theorem Program.Uses.harmless {α : Type} {p : OtProgram α} (h : p.Uses OtAct.Passive) :
    p.Uses OtAct.Harmless :=
  uses_mono (fun _ => OtAct.Passive.harmless) h

namespace OtState

theorem grows_perform {s s' : OtState} {action : OtAct} {reply : action.Reply} (hs : s.Sound)
    (hharmless : action.Harmless) (h : s.perform action reply s') : s.Grows s' := by
  cases action with
  | execute request => exact hharmless.elim
  | clock | trust | admission | plant | terminalHook =>
    obtain rfl : s' = s := h
    exact .refl hs
  | marker | records | pending | get =>
    obtain ⟨-, rfl⟩ := h
    exact .refl hs
  | setMarker marker =>
    obtain rfl : s' = { s with marker := marker } := h
    exact ⟨.refl hs.consistent, rfl, rfl⟩
  | journal op =>
    obtain ⟨env, -, rfl⟩ := h
    exact ⟨(op.run_stepped env hs.consistent).weaken
      (CoordinationJournalRecord.Changes.within_any _), rfl, rfl⟩

/-- A record property that extensions keep is held on. -/
theorem Grows.holds {s s' : OtState} (h : s.Grows s') {k : EffectId}
    {P : CoordinationJournalRecord → Prop} (hextends : ∀ r r', r.Extends .any r' → P r → P r')
    (hs : s.journal.Holds k P) : s'.journal.Holds k P :=
  h.journal.holds hextends hs

theorem Grows.retains {s s' : OtState} (h : s.Grows s') {o : SignedEffectOutcome}
    (hs : s.journal.Retains o) : s'.journal.Retains o :=
  h.holds (fun _ _ hext => hext.retainsOutcome) hs

theorem Grows.unexecuted {s s' : OtState} (h : s.Grows s') {k : EffectId} (hs : s.Unexecuted k) :
    s'.Unexecuted k := by
  rw [Unexecuted, h.executed]
  exact hs

theorem Grows.sound {s s' : OtState} (h : s.Grows s') (hs : s.Sound) : s'.Sound := by
  refine ⟨h.journal.consistent, ?_, ?_, ?_⟩
  · rw [h.executed]
    exact hs.once
  · intro m hm
    rw [h.executed] at hm
    exact h.holds (fun _ _ hext => hext.hasCommit) (hs.committed m hm)
  · intro o ho
    rw [h.answered] at ho
    exact h.retains (hs.retained o ho)

end OtState

/-! ## The contract of a handler -/

/-- The device may be called for a commit that this handler was given, whose attempt is
    durable, and whose effect was never executed. -/
def otContract (handled : SignedEffectCommitRequest → Prop) :
    Contract OtState OtAct OtAct.Reply where
  invariant := OtState.Sound
  rely := Eq
  perform := OtState.perform
  allowed s
    | .execute request => handled request ∧ s.Unexecuted request.effect.effectId ∧
        s.journal.Holds request.effect.effectId (fun r => r.hasCommit = true)
    | _ => True

variable {handled : SignedEffectCommitRequest → Prop} {s : OtState}

theorem otContract_allowed {action : OtAct} (h : action.Harmless) :
    (otContract handled).allowed s action := by
  cases action with
  | execute request => exact h.elim
  | _ => trivial

/-- An allowed action keeps the invariant. -/
theorem OtState.sound_perform {s' : OtState} {action : OtAct} {reply : action.Reply}
    (hs : s.Sound) (hallowed : (otContract handled).allowed s action)
    (h : s.perform action reply s') : s'.Sound := by
  by_cases hharmless : action.Harmless
  · exact (OtState.grows_perform hs hharmless h).sound hs
  · cases action with
    | execute request =>
      obtain ⟨-, hunexecuted, hholds⟩ := hallowed
      obtain rfl : s' = { s with executed := request :: s.executed } := h
      refine ⟨hs.consistent, ?_, ?_, hs.retained⟩
      · rw [List.map_cons, List.nodup_cons]
        refine ⟨?_, hs.once⟩
        intro hmem
        obtain ⟨m, hm, hsame⟩ := List.mem_map.mp hmem
        exact hunexecuted m hm hsame
      · intro m hm
        rcases List.mem_cons.mp hm with rfl | hm
        · exact hholds
        · exact hs.committed m hm
    | _ => exact absurd trivial hharmless

/-- A property that growth keeps survives a program that does not call the device. -/
theorem guarded_lasting_bind {α β : Type} {p : OtProgram α} {f : α → OtProgram β}
    {Q : β → OtState → Prop} {P : OtState → Prop} (hp : p.Uses OtAct.Harmless)
    (hP : ∀ s s', s.Grows s' → P s → P s') (hs : P s)
    (hf : ∀ a s', P s' → (f a).Guarded (otContract handled) (Returns Q) s') :
    (p >>= f).Guarded (otContract handled) (Returns Q) s := by
  have hkeeps : p.Uses ((otContract handled).Keeps P) := by
    refine uses_mono ?_ hp
    intro action hharmless s hsound hPs
    refine ⟨otContract_allowed hharmless, ?_⟩
    intro reply s' hperform _
    exact hP s s' (OtState.grows_perform hsound hharmless hperform) hPs
  refine guarded_keeps_bind ?_ hkeeps hs hf
  rintro s _ rfl _ hPs
  exact hPs

/-- A part of a handler that does not call the device, and whose result needs no account. -/
theorem guarded_harmless_bind {α β : Type} {p : OtProgram α} {f : α → OtProgram β}
    {Q : β → OtState → Prop} (hp : p.Uses OtAct.Harmless)
    (hf : ∀ a s', (f a).Guarded (otContract handled) (Returns Q) s') :
    (p >>= f).Guarded (otContract handled) (Returns Q) s :=
  guarded_lasting_bind hp (fun _ _ _ _ => trivial) trivial (fun a s' _ => hf a s')

/-! ## Handlers -/

namespace OtProgram

omit [RecordCodec] in
theorem uses_perform {P : OtAct → Prop} {action : OtAct} (h : P action) : (perform action).Uses P :=
  (uses_call action).mpr h

omit [RecordCodec] in
theorem passive_coordinationContext (cfg : OtConfig) (evaluatedAt : Time) :
    (coordinationContext cfg evaluatedAt).Uses OtAct.Passive := by
  refine uses_bind (uses_require _ _) (fun _ => ?_)
  exact uses_bind (uses_perform trivial) (fun _ => uses_result _)

omit [RecordCodec] in
theorem passive_requireAnchorAdmission (cfg : OtConfig)
    (phase : CoordinationAnchorAdmissionPhase) (effectId : EffectId) (requestSha256 : Sha256)
    (evaluatedAt : Time) :
    (requireAnchorAdmission cfg phase effectId requestSha256 evaluatedAt).Uses
      OtAct.Passive := by
  unfold requireAnchorAdmission
  split
  · exact uses_bind (uses_perform trivial) (fun _ => uses_require _ _)
  · trivial

omit [RecordCodec] in
theorem passive_refreshCoordinationRecovery (cfg : OtConfig) :
    (refreshCoordinationRecovery cfg).Uses OtAct.Passive := by
  refine uses_bind (uses_perform trivial) (fun _ => ?_)
  refine uses_bind (uses_result _) (fun _ => ?_)
  refine uses_bind (uses_require _ _) (fun _ => ?_)
  refine uses_bind (uses_perform trivial) (fun _ => ?_)
  refine uses_bind (uses_result _) (fun _ => ?_)
  refine uses_bind (uses_perform trivial) (fun _ => ?_)
  refine uses_bind (uses_runIf (uses_perform trivial)) (fun _ => ?_)
  exact uses_bind (uses_require _ _) (fun _ => uses_pure _)

omit [RecordCodec] in
theorem passive_requireCoordinationAlignment (cfg : OtConfig) (purpose : AlignmentFor) :
    (requireCoordinationAlignment cfg purpose).Uses OtAct.Passive := by
  refine uses_bind (passive_refreshCoordinationRecovery cfg) (fun _ => ?_)
  split
  · trivial
  · cases purpose with
    | queryOnly => trivial
    | prepare request => exact uses_bind (uses_perform trivial) (fun _ => uses_require _ _)
    | commit request => exact uses_bind (uses_perform trivial) (fun _ => uses_require _ _)

omit [RecordCodec] in
theorem harmless_prepareEffect (cfg : OtConfig) (request : SignedEffectPrepareRequest) :
    (prepareEffect cfg request).Uses OtAct.Harmless := by
  refine uses_bind (uses_perform trivial) (fun _ => ?_)
  refine uses_bind (passive_coordinationContext cfg _).harmless (fun _ => ?_)
  refine uses_bind (uses_require _ _) (fun _ => ?_)
  refine uses_bind (passive_requireAnchorAdmission cfg _ _ _ _).harmless (fun _ => ?_)
  refine uses_bind (passive_requireCoordinationAlignment cfg _).harmless (fun _ => ?_)
  refine uses_bind (uses_perform trivial) (fun _ => ?_)
  refine uses_bind (uses_result _) (fun _ => ?_)
  refine uses_bind (uses_require _ _) (fun _ => ?_)
  refine uses_bind (uses_perform trivial) (fun _ => ?_)
  refine uses_bind (uses_result _) (fun _ => ?_)
  refine uses_bind (uses_perform trivial) (fun _ => ?_)
  refine uses_bind (uses_result _) (fun _ => ?_)
  refine uses_bind (uses_require _ _) (fun _ => ?_)
  exact uses_bind (uses_runIf (uses_perform trivial)) (fun _ => uses_pure _)

omit [RecordCodec] in
theorem passive_clearAnsweredMarker (cfg : OtConfig) (request : SignedEffectQueryRequest) :
    (clearAnsweredMarker cfg request).Uses OtAct.Passive := by
  refine uses_bind (uses_perform trivial) (fun _ => ?_)
  refine uses_bind (uses_runIf (uses_perform trivial)) (fun _ => ?_)
  exact uses_bind (passive_refreshCoordinationRecovery cfg) (fun _ => uses_pure _)

omit [RecordCodec] in
/-- What a handler does with the reply of a journal call is judged for every success. -/
theorem guarded_orFail_bind {σ α β : Type} {c : Contract σ OtAct OtAct.Reply} {s : σ}
    {otherwise : String} {x : Except PyError α} {f : α → OtProgram β} {Q : β → σ → Prop}
    (h : ∀ a, x = .ok a → (f a).Guarded c (Returns Q) s) :
    (orFail otherwise x >>= f).Guarded c (Returns Q) s :=
  guarded_result_bind (fun a ha => h a (mapError_eq_ok.mp ha))

/-- A journal call leaves behind what its operation establishes. -/
theorem guarded_journal {op : EffectOp} {Q : op.Result → OtState → Prop}
    (h : ∀ (s : OtState) env reply, s.Sound → (op.run s.journal env).1 = .ok (op.reply reply) →
      Q reply { s with journal := (op.run s.journal env).2 }) :
    (perform (.journal op)).Guarded (otContract handled)
      (Returns fun reply s => ∀ a, reply = .ok a → Q a s) s := by
  rintro s₁ rfl hsound
  refine ⟨trivial, ?_⟩
  rintro reply s' ⟨env, hreply, rfl⟩ _ a rfl
  exact h s env a hsound hreply

/-- The end of a handler that returns an outcome it has retained. -/
theorem guarded_retained {o : SignedEffectOutcome} {p : OtProgram Unit}
    (hp : p.Uses OtAct.Harmless) (hs : s.journal.Retains o) :
    (p >>= fun _ => pure o).Guarded (otContract handled)
      (Returns fun o s => s.journal.Retains o) s :=
  guarded_lasting_bind hp (fun _ _ h => h.retains) hs (fun _ _ h => h)

theorem retains_finishCommit (request : SignedEffectCommitRequest) (o : SignedEffectOutcome)
    (time : Time) :
    (journalFinishCommit request o time).Guarded (otContract handled)
      (Returns fun reply s => ∀ entry, reply = .ok entry → s.journal.Retains o) s := by
  refine guarded_journal ?_
  intro s env entry hsound h
  obtain ⟨entry', hok, -⟩ := map_eq_ok.mp h
  obtain ⟨hfound, ho⟩ := Journal.finishCommitRecord_found hok
  exact (EffectOp.run_stepped (.finishCommit request o _) env
    hsound.consistent).consistent.retains (EffectOp.usable_of_ok _ h) hfound ho

theorem retains_answerQuery (request : SignedEffectQueryRequest) (issue : OutcomeIssuer)
    (time : Time) :
    (journalAnswerQuery request issue time).Guarded (otContract handled)
      (Returns fun reply s => ∀ o, reply = .ok o → s.journal.Retains o) s := by
  refine guarded_journal ?_
  intro s env o hsound h
  obtain ⟨o', hok, hsame⟩ := map_eq_ok.mp h
  obtain rfl : o' = o := EffectReply.outcome.inj hsame
  obtain ⟨entry, hfound, ho⟩ := Journal.answerQuery_found hok
  exact (EffectOp.run_stepped (.answerQuery request issue _) env
    hsound.consistent).consistent.retains (EffectOp.usable_of_ok _ h) hfound ho

/-- What `begin_commit` established when it returned the admission. -/
structure Admitted (request : SignedEffectCommitRequest) (admission : CommitAdmission)
    (s : OtState) : Prop where
  committed : s.journal.Holds request.effect.effectId (fun r => r.hasCommit = true)
  retained : ∀ o, admission.record.RetainsOutcome o → s.journal.Retains o
  unexecuted : admission.status = .new → s.Unexecuted request.effect.effectId

theorem Admitted.grows {request : SignedEffectCommitRequest} {admission : CommitAdmission}
    {s' : OtState} (h : Admitted request admission s) (hgrows : s.Grows s') :
    Admitted request admission s' :=
  ⟨hgrows.holds (fun _ _ hext => hext.hasCommit) h.committed,
    fun o ho => hgrows.retains (h.retained o ho), fun hnew => hgrows.unexecuted (h.unexecuted hnew)⟩

theorem admitted_beginCommit (request : SignedEffectCommitRequest)
    (issue : CommitAcceptanceIssuer) (time : Time) :
    (journalBeginCommit request issue time).Guarded (otContract handled)
      (Returns fun reply s => ∀ admission, reply = .ok admission →
        Admitted request admission s) s := by
  refine guarded_journal ?_
  intro s env admission hsound h
  obtain ⟨admission', hok, hsame⟩ := map_eq_ok.mp h
  obtain rfl : admission' = admission := EffectReply.admission.inj hsame
  obtain ⟨entry, hrecord, hcommit, hfound, hnew⟩ := Journal.beginCommit_found hok
  have hconsistent := (EffectOp.run_stepped (.beginCommit request issue (some (.aware time))) env
    hsound.consistent).consistent
  have husable := EffectOp.usable_of_ok _ h
  refine ⟨hconsistent.holds husable hfound hcommit, ?_, ?_⟩
  · intro o ho
    rw [hrecord] at ho
    have hkey := hconsistent.recordsKeyed _ _ hfound
    exact hconsistent.retains husable (hkey ▸ hfound) ho
  · intro hstatus m hm hsame
    -- An executed commit of this effect would be in the record that was without one.
    obtain ⟨old, hold, hfresh⟩ := hnew hstatus
    obtain ⟨⟨e, he, hcommitted⟩, -⟩ := hsound.committed m hm
    rw [hsame, hold] at he
    obtain rfl := Option.some.inj he
    rw [hfresh] at hcommitted
    cases hcommitted

omit [RecordCodec] in
theorem retainsOutcome_of_retainedCommitOutcome {r : CoordinationJournalRecord}
    {request : SignedEffectCommitRequest} {o : SignedEffectOutcome}
    (h : retainedCommitOutcome r request = some o) : r.RetainsOutcome o := by
  obtain ⟨attempt, hattempt, ho⟩ := Option.bind_eq_some_iff.mp h
  obtain ⟨item, hmem, hitem⟩ := List.exists_of_findSome?_eq_some hattempt
  obtain ⟨hcommit, -⟩ := Option.filter_eq_some_iff.mp hitem
  refine ⟨item, List.mem_reverse.mp hmem, ?_⟩
  cases item with
  | prepare a => cases hcommit
  | query a => cases hcommit
  | commit a =>
    obtain rfl := Option.some.inj hcommit
    exact ho

theorem exposeRetainedOutcome_guarded (cfg : OtConfig) (request : SignedEffectCommitRequest)
    (context : Context) {admission : CommitAdmission} (evaluatedAt : Time)
    (hadmitted : Admitted request admission s) :
    (exposeRetainedOutcome cfg request context admission evaluatedAt).Guarded
      (otContract handled) (Returns fun o s => s.journal.Retains o) s := by
  refine guarded_result_bind (fun o ho => ?_)
  have hretains := hadmitted.retained o
    (retainsOutcome_of_retainedCommitOutcome (orRaise_eq_ok.mp ho))
  refine guarded_require_bind (fun _ => ?_)
  exact guarded_lasting_bind (passive_refreshCoordinationRecovery cfg).harmless
    (fun _ _ h => h.retains) hretains (fun _ _ h => h)

/-- Retaining an outcome and returning it. -/
theorem finishCommit_guarded (request : SignedEffectCommitRequest) (o : SignedEffectOutcome)
    (time : Time) {p : OtProgram SignedEffectOutcome}
    (hp : ∀ s : OtState, s.journal.Retains o →
      p.Guarded (otContract handled) (Returns fun o s => s.journal.Retains o) s) :
    (do
      let finished ← journalFinishCommit request o time
      let _ ← result (finished.mapError (fun _ => commitIndeterminate))
      p : OtProgram SignedEffectOutcome).Guarded (otContract handled)
        (Returns fun o s => s.journal.Retains o) s := by
  refine guarded_returns_bind (retains_finishCommit request o time) ?_
  intro finished s hfinished
  cases finished with
  | error e => trivial
  | ok entry => exact hp s (hfinished entry rfl)

theorem retainUnknownCommitOutcome_guarded (request : SignedEffectCommitRequest)
    (acceptance : DurableCommitAcceptance) (context : Context) :
    (retainUnknownCommitOutcome request acceptance context).Guarded (otContract handled)
      (Returns fun o s => s.journal.Retains o) s := by
  refine guarded_harmless_bind (uses_perform trivial) (fun signedAt s => ?_)
  split
  · refine guarded_harmless_bind (uses_perform trivial) (fun marked s => ?_)
    split
    · trivial
    · trivial
  · rename_i o _
    exact finishCommit_guarded request o signedAt (fun s hretains => hretains)

theorem executeCommit_guarded (cfg : OtConfig) {request : SignedEffectCommitRequest}
    {admission : CommitAdmission} (context : Context) (hhandled : handled request)
    (hadmitted : Admitted request admission s) (hnew : admission.status = .new) :
    (executeCommit cfg request admission.acceptance context).Guarded (otContract handled)
      (Returns fun o s => s.journal.Retains o) s := by
  refine guarded_returns_bind (Q := fun _ _ => True) ?_ (fun acknowledgment s _ => ?_)
  · -- The one call of the device.
    rintro s₁ rfl _
    refine ⟨⟨hhandled, hadmitted.unexecuted hnew, hadmitted.committed⟩, ?_⟩
    intro reply s' _ _
    trivial
  · refine guarded_harmless_bind ?_ (fun issued s => ?_)
    · cases acknowledgment with
      | none => trivial
      | some acknowledgment => exact uses_bind (uses_perform trivial) (fun _ => uses_pure _)
    · cases issued with
      | none => exact retainUnknownCommitOutcome_guarded request _ context
      | some o =>
        refine finishCommit_guarded request o _ (fun s hretains => guarded_retained ?_ hretains)
        refine uses_runIf
          (uses_bind (passive_refreshCoordinationRecovery cfg).harmless (fun _ => ?_))
        exact uses_bind (uses_perform trivial) (fun _ => uses_require _ _)

theorem commitEffect_guarded (cfg : OtConfig) {request : SignedEffectCommitRequest}
    (hhandled : handled request) :
    (commitEffect cfg request).Guarded (otContract handled)
      (Returns fun o s => s.journal.Retains o) s := by
  refine guarded_harmless_bind (uses_perform trivial) (fun evaluatedAt s => ?_)
  refine guarded_harmless_bind (passive_coordinationContext cfg _).harmless (fun context s => ?_)
  refine guarded_harmless_bind (uses_require _ _) (fun _ s => ?_)
  refine guarded_harmless_bind (passive_requireAnchorAdmission cfg _ _ _ _).harmless (fun _ s => ?_)
  refine guarded_harmless_bind (passive_requireCoordinationAlignment cfg _).harmless (fun _ s => ?_)
  refine guarded_returns_bind (admitted_beginCommit request _ evaluatedAt) ?_
  intro begun s hbegun
  -- Clearing the marker changes nothing that was admitted.
  refine guarded_lasting_bind
    (P := fun s => ∀ admission, begun = .ok admission → Admitted request admission s)
    (uses_perform trivial) ?_ hbegun ?_
  · intro s s' hgrows h admission hok
    exact (h admission hok).grows hgrows
  · intro _ s hbegun
    refine guarded_orFail_bind (fun admission hok => ?_)
    refine guarded_lasting_bind (uses_require _ _) (fun _ _ hgrows h => Admitted.grows h hgrows)
      (hbegun admission hok) (fun _ s hadmitted => ?_)
    cases hstatus : admission.status with
    | terminal => exact exposeRetainedOutcome_guarded cfg request context evaluatedAt hadmitted
    | indeterminate => trivial
    | new => exact executeCommit_guarded cfg context hhandled hadmitted hstatus

theorem queryEffect_guarded (cfg : OtConfig) (request : SignedEffectQueryRequest) :
    (queryEffect cfg request).Guarded (otContract handled)
      (Returns fun o s => s.journal.Retains o) s := by
  refine guarded_harmless_bind (uses_perform trivial) (fun evaluatedAt s => ?_)
  refine guarded_harmless_bind (passive_coordinationContext cfg _).harmless (fun context s => ?_)
  refine guarded_harmless_bind (uses_require _ _) (fun _ s => ?_)
  refine guarded_harmless_bind (passive_requireCoordinationAlignment cfg _).harmless (fun _ s => ?_)
  refine guarded_returns_bind (retains_answerQuery request _ evaluatedAt) ?_
  intro answered s hanswered
  refine guarded_orFail_bind (fun o hok => ?_)
  -- What follows reads the journal and clears the marker.
  have hkept : ∀ s s' : OtState, s.Grows s' → s.journal.Retains o → s'.journal.Retains o :=
    fun _ _ h => h.retains
  refine guarded_lasting_bind (uses_perform trivial) hkept (hanswered o hok) (fun _ s h => ?_)
  refine guarded_lasting_bind (uses_result _) hkept h (fun _ s h => ?_)
  refine guarded_lasting_bind (uses_require _ _) hkept h (fun _ s h => ?_)
  refine guarded_lasting_bind (uses_perform trivial) hkept h (fun _ s h => ?_)
  refine guarded_lasting_bind (uses_result _) hkept h (fun _ s h => ?_)
  refine guarded_lasting_bind (uses_result _) hkept h (fun _ s h => ?_)
  exact guarded_retained (uses_runIf (passive_clearAnsweredMarker cfg request).harmless) h

end OtProgram

/-- What a handler leaves behind when it returns. -/
def OtReply.Durable (reply : OtReply) (s : OtState) : Prop :=
  ∀ o, reply = .outcome o → s.journal.Retains o

open OtProgram in
/-- Every handler calls the device only for the commit it was given, and only as allowed. -/
theorem OtRequest.handle_guarded (cfg : OtConfig) (request : OtRequest) (s : OtState) :
    (request.handle cfg).Guarded (otContract (fun m => request = .commit m))
      (Returns OtReply.Durable) s := by
  have houtcome : ∀ (o : SignedEffectOutcome) (s : OtState), s.journal.Retains o →
      (OtReply.outcome o).Durable s := by
    rintro o s h _ ⟨⟩
    exact h
  cases request with
  | prepare request =>
    refine guarded_harmless_bind (harmless_prepareEffect cfg request) (fun receipt s => ?_)
    rintro o ⟨⟩
  | commit request =>
    exact guarded_returns_bind (commitEffect_guarded cfg rfl) houtcome
  | query request =>
    exact guarded_returns_bind (queryEffect_guarded cfg request) houtcome

/-! ## Runs -/

theorem OtState.Sound.restart {s : OtState} (h : s.Sound) : s.restart.Sound :=
  ⟨Journal.consistent_restart h.consistent, h.once,
    fun m hm => Journal.holds_restart (h.committed m hm),
    fun o ho => Journal.holds_restart (h.retained o ho)⟩

theorem OtState.Sound.answer {s : OtState} (h : s.Sound) {result : Except RuntimeError OtReply}
    (hresult : Returns OtReply.Durable result s) : (s.answer result).Sound := by
  rcases result with error | receipt | outcome
  · exact h
  · exact h
  · refine ⟨h.consistent, h.once, h.committed, ?_⟩
    intro o ho
    rcases List.mem_cons.mp ho with rfl | ho
    · exact hresult o rfl
    · exact h.retained o ho

omit [RecordCodec] in
theorem OtState.journal_answer (s : OtState) (result : Except RuntimeError OtReply) :
    (s.answer result).journal = s.journal := by
  rcases result with error | receipt | outcome
  · rfl
  · rfl
  · rfl

/-- The invariant of an OT process: the state is sound and the running handler, if any, will
    keep it so. -/
structure OtSystem.Safe (sys : OtSystem) : Prop where
  sound : sys.state.Sound
  running : ∀ p, sys.running = some p → ∃ handled,
    p.Guarded (otContract handled) (Returns OtReply.Durable) sys.state

theorem OtSystem.Initial.safe {sys : OtSystem} (h : sys.Initial) : sys.Safe := by
  obtain ⟨⟨owner, write, hinit⟩, -, hexecuted, hanswered, hrunning⟩ := h
  refine ⟨⟨(Journal.consistent_initialized hinit).1, ?_, ?_, ?_⟩, ?_⟩
  · simp [hexecuted]
  · simp [hexecuted]
  · simp [hanswered]
  · simp [hrunning]

theorem OtStep.safe {sys sys' : OtSystem} (h : OtStep sys sys') (hsafe : sys.Safe) : sys'.Safe := by
  cases h with
  | start config s request =>
    refine ⟨hsafe.sound, ?_⟩
    rintro p ⟨⟩
    exact ⟨_, request.handle_guarded config s⟩
  | act config s s' action next reply hperform =>
    obtain ⟨handled, hguarded⟩ := hsafe.running _ rfl
    obtain ⟨hallowed, hnext⟩ := hguarded s rfl hsafe.sound
    have hsound : s'.Sound := OtState.sound_perform hsafe.sound hallowed hperform
    refine ⟨hsound, ?_⟩
    rintro p ⟨⟩
    exact ⟨handled, hnext reply s' hperform hsound⟩
  | finish config s result =>
    obtain ⟨handled, hguarded⟩ := hsafe.running _ rfl
    exact ⟨hsafe.sound.answer hguarded, by simp⟩
  | restart config => exact ⟨hsafe.sound.restart, by simp⟩

theorem OtRun.safe {sys sys' : OtSystem} (h : OtRun sys sys') (hsafe : sys.Safe) : sys'.Safe := by
  induction h with
  | refl => exact hsafe
  | tail _ hstep ih => exact hstep.safe ih

/-- The file keeps what every extension of a record keeps. -/
theorem OtStep.holds_file {sys sys' : OtSystem} (h : OtStep sys sys') (hsafe : sys.Safe)
    {k : EffectId} {P : CoordinationJournalRecord → Prop}
    (hextends : ∀ r r', r.Extends .any r' → P r → P r')
    (hfile : RecordMap.Holds sys.state.journal.file k P) :
    RecordMap.Holds sys'.state.journal.file k P := by
  cases h with
  | start config s request => exact hfile
  | act config s s' action next reply hperform =>
    by_cases hharmless : action.Harmless
    · have hgrows := OtState.grows_perform hsafe.sound hharmless hperform
      exact hgrows.journal.file.holds hextends hfile
    · cases action with
      | execute request =>
        obtain rfl : s' = { s with executed := request :: s.executed } := hperform
        exact hfile
      | _ => exact absurd trivial hharmless
  | finish config s result =>
    rw [OtState.journal_answer]
    exact hfile
  | restart config => exact hfile

theorem OtRun.holds_file {sys sys' : OtSystem} (h : OtRun sys sys') (hsafe : sys.Safe)
    {k : EffectId} {P : CoordinationJournalRecord → Prop}
    (hextends : ∀ r r', r.Extends .any r' → P r → P r')
    (hfile : RecordMap.Holds sys.state.journal.file k P) :
    RecordMap.Holds sys'.state.journal.file k P := by
  induction h with
  | refl => exact hfile
  | tail hrun hstep ih => exact hstep.holds_file (OtRun.safe hrun hsafe) hextends ih

/-- The device is called at most once for each effect. -/
theorem OtRun.executes_at_most_once {init sys : OtSystem} (hinit : init.Initial)
    (hrun : OtRun init sys) : (sys.state.executed.map (fun m => m.effect.effectId)).Nodup :=
  (OtRun.safe hrun hinit.safe).sound.once

end

section

open Sample

set_option maxRecDepth 10000 in
/-- A commit that is delivered twice is executed once. -/
theorem executes_at_most_once_repeated :
    (otSystem.serveAll otCommitting).state.executed = [sampleCommit] ∧
      ((otSystem.serveAll otCommitting).state.executed.map
        (fun m => m.effect.effectId)).Nodup :=
  ⟨by decide +kernel, OtRun.executes_at_most_once initial_otSystem
    (OtSystem.run_serveAll otCommitting rfl)⟩

end

section

variable [Primitives] [RecordCodec]

/-- An outcome that is retained in memory or in the file, or that a handler returned. -/
def OtState.Exposes (s : OtState) (o : SignedEffectOutcome) : Prop :=
  RecordMap.Holds s.journal.records o.effect.effectId (fun r => r.RetainsOutcome o) ∨
    RecordMap.Holds s.journal.file o.effect.effectId (fun r => r.RetainsOutcome o) ∨
    o ∈ s.answered

/-- Every exposed outcome is in the file. -/
theorem OtState.Sound.file_of_exposes {s : OtState} (h : s.Sound) {o : SignedEffectOutcome}
    (ho : s.Exposes o) :
    RecordMap.Holds s.journal.file o.effect.effectId (fun r => r.RetainsOutcome o) := by
  rcases ho with hrecords | hfile | hanswered
  · exact h.consistent.ahead.holds (fun _ _ hext => hext.retainsOutcome) hrecords
  · exact hfile
  · exact (h.retained o hanswered).2

/-- Once an effect is known as NOT_DISPATCHED the device was not and will not be called
    for it. -/
theorem OtRun.not_dispatched_is_final {init sys sys' : OtSystem} (hinit : init.Initial)
    (hrun : OtRun init sys) (hlater : OtRun sys sys') {o : SignedEffectOutcome}
    (ho : sys.state.Exposes o) (hnd : o.disposition = .notDispatched) :
    sys.state.Unexecuted o.effect.effectId ∧ sys'.state.Unexecuted o.effect.effectId := by
  have hunexecuted : ∀ sys : OtSystem, sys.Safe →
      RecordMap.Holds sys.state.journal.file o.effect.effectId (fun r => r.RetainsOutcome o) →
      sys.state.Unexecuted o.effect.effectId := by
    rintro sys hsafe ⟨e, he, hretains⟩ m hm hsame
    obtain ⟨-, e', he', hcommit⟩ := hsafe.sound.committed m hm
    rw [hsame, he] at he'
    obtain rfl := Option.some.inj he'
    rw [e.not_committed (e.notDispatched_of_retains hretains hnd)] at hcommit
    cases hcommit
  have hsafe := OtRun.safe hrun hinit.safe
  have hfile := hsafe.sound.file_of_exposes ho
  exact ⟨hunexecuted sys hsafe hfile, hunexecuted sys' (OtRun.safe hlater hsafe)
    (OtRun.holds_file hlater hsafe (fun _ _ hext => hext.retainsOutcome) hfile)⟩

end

section

open Sample

set_option maxRecDepth 10000 in
/-- The commit that arrives after the query was answered is not executed. -/
theorem not_dispatched_is_final_queried :
    ∃ o, (otSystem.serveAll otQuerying).state.answered = [o] ∧ o.disposition = .notDispatched ∧
      ((otSystem.serveAll otQuerying).serve (calmAt 4 none) (.commit sampleCommit)).state.Unexecuted
        o.effect.effectId := by
  have hanswered : ((otSystem.serveAll otQuerying).state.answered.map
      (fun o => o.disposition)) = [.notDispatched] := by decide +kernel
  obtain ⟨o, hanswered, hnd⟩ := List.map_eq_singleton_iff.mp hanswered
  refine ⟨o, hanswered, hnd, ?_⟩
  have hrun := @OtSystem.run_serveAll _ _ otSystem otQuerying rfl
  have hlater := @OtSystem.run_serve _ _ (calmAt 4 none) (otSystem.serveAll otQuerying)
    (.commit sampleCommit) rfl
  have hexposes : (otSystem.serveAll otQuerying).state.Exposes o :=
    .inr (.inr (by rw [hanswered]; exact List.mem_singleton.mpr rfl))
  exact (OtRun.not_dispatched_is_final initial_otSystem hrun hlater hexposes hnd).2

end

end AegisOt
