import AegisOt.Transport.CoordinationDriver
import AegisOt.Transport.Proofs.GatewaySound

/-!
# What a gateway commits

Every entry point of the coordinated port is judged against `portContract`. From the judgement:
over any run of a gateway, crashes included, at most one commit request is handed to the transport
for each effect.
-/

namespace AegisOt

open Program CoordinationJournalRecord

section

variable [Primitives] [RecordCodec] {port : CoordinatedPort} {s : GatewayState}

/-! ## Parts of a call -/

namespace PortProgram

omit [RecordCodec] in
theorem uses_act {P : PortAct → Prop} {action : PortAct} (h : P action) :
    (perform action).Uses P :=
  (uses_call action).mpr h

/-- A journal operation that is allowed leaves behind what it establishes. -/
theorem guarded_journal {op : GatewayOp} {Q : JournalEntry .gateway → GatewayState → Prop}
    (hallowed : (portContract port).allowed s (.journal op))
    (hQ : ∀ s' env entry, s.Sound → s'.journal = (op.run s.journal env).2 →
      (op.run s.journal env).1 = .ok entry → s.Grows s' → Q entry s') :
    (journal op).Guarded (portContract port) (Returns Q) s := by
  refine guarded_returns_bind (Q := fun reply s' => ∀ entry, reply = .ok entry → Q entry s') ?_ ?_
  · rintro s₁ rfl hsound
    refine ⟨hallowed, ?_⟩
    intro reply s' hperform _ entry hok
    have hperformed : s.perform port (.journal op) reply s' := hperform
    have hnocommit : PortAct.NoCommit (.journal op) := trivial
    have hgrows := GatewayState.grows_perform hsound hnocommit hperformed
    obtain ⟨p, ⟨env, hrun, -⟩, rfl⟩ := hperform
    exact hQ _ env entry hsound (congrArg Prod.snd hrun).symm
      ((congrArg Prod.fst hrun).trans hok) hgrows
  · intro reply s' hreply
    cases reply with
    | error e => trivial
    | ok entry => exact hreply entry rfl

omit [RecordCodec] in
theorem harmless_journal {op : GatewayOp} (h : op.Quiet) :
    (journal op).Uses PortAct.Harmless :=
  uses_bind (uses_act h) (fun _ => uses_result _)

/-- A nonce that was drawn is fresh. -/
theorem fresh_drawNonce :
    drawNonce.Guarded (portContract port) (Returns fun value s => s.Fresh value) s := by
  refine guarded_returns_bind (Q := fun value s => s.Fresh value) ?_ ?_
  · rintro s₁ rfl hsound
    refine ⟨trivial, ?_⟩
    rintro value s' ⟨hnew, rfl⟩ _
    refine ⟨List.mem_cons_self, ?_⟩
    rintro m hm rfl
    exact hnew (hsound.drawn m hm)
  · intro value s' hfresh
    exact guarded_require_bind (fun _ => hfresh)

omit [RecordCodec] in
theorem passive_drawNonce : drawNonce.Uses PortAct.Passive :=
  uses_bind (uses_act trivial) (fun _ => uses_bind (uses_require _ _) (fun _ => uses_pure _))

/-- The outcome of the response is logged. -/
def Arrived (port : CoordinatedPort) (response : HttpExchangeResponse) (s : GatewayState) : Prop :=
  ∀ o, response.outcome = some o → (port, o) ∈ s.received

theorem Arrived.grows {response : HttpExchangeResponse} (s s' : GatewayState) (h : s.Grows s')
    (harrived : Arrived port response s) : Arrived port response s' :=
  fun o ho => h.received _ (harrived o ho)

theorem arrived_raw {request : PortRequest} {consequential : Bool}
    (hallowed : (portContract port).allowed s (.exchange request)) :
    (raw request consequential).Guarded (portContract port) (Returns (Arrived port)) s := by
  refine guarded_returns_bind
    (Q := fun reply s' => ∀ o, reply.outcome? = some o → (port, o) ∈ s'.received) ?_ ?_
  · rintro s₁ rfl _
    refine ⟨hallowed, ?_⟩
    rintro reply s' rfl _ o ho
    exact List.mem_append_left _ (by rw [ho]; exact List.mem_singleton.mpr rfl)
  · intro reply s' harrived
    cases reply with
    | response exchanged => exact guarded_require_bind (fun _ => harrived)
    | outcomeUnknown message => trivial
    | protocol message => trivial
    | unavailable => trivial

end PortProgram

/-! ## Programs that may run at any time -/

namespace CoordinatedPort

open PortProgram

variable (port)

omit [RecordCodec] in
theorem passive_identities (evaluatedAt : Time) (pinned : Bool) :
    (port.identities evaluatedAt pinned).Uses PortAct.Passive :=
  uses_bind (uses_act trivial) (fun _ => uses_result _)

omit [RecordCodec] in
theorem harmless_markCommitAmbiguous (request : SignedEffectCommitRequest) (reason : String)
    (evidence : Sha256) (recordedAt : Time) :
    (markCommitAmbiguous request reason evidence recordedAt).Uses PortAct.Harmless := by
  refine uses_bind (uses_catching (harmless_journal trivial) (fun _ => trivial)) (fun _ => ?_)
  exact uses_pure _

omit [RecordCodec] in
theorem harmless_loseCommit (request : SignedEffectCommitRequest) (error : PortError) :
    (loseCommit request error).Uses PortAct.Harmless := by
  unfold loseCommit
  split
  · refine uses_bind (uses_act trivial) (fun _ => ?_)
    exact uses_bind (harmless_markCommitAmbiguous _ _ _ _) (fun _ => trivial)
  · trivial

omit [RecordCodec] in
theorem raising_loseCommit (request : SignedEffectCommitRequest) (error : PortError) :
    (loseCommit request error).Raising := by
  unfold loseCommit
  split
  · exact raising_bind (fun _ => raising_bind (fun _ => raising_raise _))
  · exact raising_raise _

omit [RecordCodec] in
theorem harmless_abandonCommit (request : SignedEffectCommitRequest)
    (response : HttpExchangeResponse) (evaluatedAt : Time) (error : PortError) :
    (abandonCommit request response evaluatedAt error).Uses PortAct.Harmless := by
  unfold abandonCommit
  split
  · exact uses_bind (harmless_markCommitAmbiguous _ _ _ _) (fun _ => trivial)
  · trivial

omit [RecordCodec] in
theorem raising_abandonCommit (request : SignedEffectCommitRequest)
    (response : HttpExchangeResponse) (evaluatedAt : Time) (error : PortError) :
    (abandonCommit request response evaluatedAt error).Raising := by
  unfold abandonCommit
  split
  · exact raising_bind (fun _ => raising_raise _)
  · exact raising_raise _

omit [RecordCodec] in
theorem harmless_failQuery (request : SignedEffectQueryRequest) (reason : String)
    (evidence : Sha256) (recordedAt : Time) (lost reported : PortError) :
    (failQuery request reason evidence recordedAt lost reported).Uses PortAct.Harmless := by
  refine uses_bind (uses_catching (harmless_journal trivial) (fun _ => trivial)) (fun _ => ?_)
  trivial

omit [RecordCodec] in
theorem harmless_loseQuery (request : SignedEffectQueryRequest) (error : PortError) :
    (loseQuery request error).Uses PortAct.Harmless := by
  unfold loseQuery
  split
  · refine uses_bind (uses_act trivial) (fun _ => ?_)
    exact uses_bind (harmless_failQuery _ _ _ _ _ _) (fun _ => trivial)
  · trivial

omit [RecordCodec] in
theorem raising_loseQuery (request : SignedEffectQueryRequest) (error : PortError) :
    (loseQuery request error).Raising := by
  unfold loseQuery
  split
  · exact raising_bind (fun _ => raising_bind (fun _ => raising_raise _))
  · exact raising_raise _

omit [RecordCodec] in
theorem harmless_abandonQuery (request : SignedEffectQueryRequest)
    (response : HttpExchangeResponse) (evaluatedAt : Time) (error : PortError) :
    (abandonQuery request response evaluatedAt error).Uses PortAct.Harmless := by
  unfold abandonQuery
  split
  · exact uses_bind (harmless_failQuery _ _ _ _ _ _) (fun _ => trivial)
  · trivial

omit [RecordCodec] in
theorem raising_abandonQuery (request : SignedEffectQueryRequest)
    (response : HttpExchangeResponse) (evaluatedAt : Time) (error : PortError) :
    (abandonQuery request response evaluatedAt error).Raising := by
  unfold abandonQuery
  split
  · exact raising_bind (fun _ => raising_raise _)
  · exact raising_raise _

omit [RecordCodec] in
theorem passive_verifyRetainedTerminalOutcome (record : CoordinationJournalRecord)
    (outcome : SignedEffectOutcome) :
    (port.verifyRetainedTerminalOutcome record outcome).Uses PortAct.Passive := by
  refine uses_bind (uses_result _) (fun _ => ?_)
  refine uses_bind (uses_act trivial) (fun _ => ?_)
  refine uses_bind (uses_catching (port.passive_identities _ _) (fun _ => ?_)) (fun _ => ?_)
  · trivial
  · exact uses_bind (uses_act trivial) (fun _ => uses_require _ _)

omit [RecordCodec] in
theorem passive_exposeTerminal (record : CoordinationJournalRecord) :
    (port.exposeTerminal record).Uses PortAct.Passive := by
  refine uses_bind (uses_result _) (fun _ => ?_)
  exact uses_bind (port.passive_verifyRetainedTerminalOutcome _ _) (fun _ => uses_result _)

omit [RecordCodec] in
theorem passive_readRecord (effect : EffectIdentity) :
    (readRecord effect).Uses PortAct.Passive := by
  refine uses_bind (uses_act trivial) (fun _ => ?_)
  exact uses_bind (uses_result _) (fun _ => uses_pure _)

omit [RecordCodec] in
theorem passive_orUnverified {p : PortProgram Unit} (h : p.Uses PortAct.Passive) :
    (orUnverified p).Uses PortAct.Passive :=
  uses_catching h (fun _ => trivial)

omit [RecordCodec] in
theorem passive_verifyReconciliationEvidence (evidence : ReconciliationEvidence) :
    (port.verifyReconciliationEvidence evidence).Uses PortAct.Passive := by
  refine uses_bind (uses_act trivial) (fun _ => ?_)
  refine uses_bind (passive_orUnverified ?_) (fun _ => ?_)
  · exact uses_bind (port.passive_identities _ _) (fun _ => uses_pure _)
  · exact uses_bind (uses_act trivial) (fun _ => uses_require _ _)

omit [RecordCodec] in
theorem passive_resolutionFromRecord (record : CoordinationJournalRecord) :
    (port.resolutionFromRecord record).Uses PortAct.Passive := by
  refine uses_bind (uses_result _) (fun _ => ?_)
  refine uses_bind (passive_orUnverified (port.passive_verifyRetainedTerminalOutcome _ _))
    (fun _ => ?_)
  exact uses_bind (port.passive_verifyReconciliationEvidence _) (fun _ => uses_pure _)

omit [RecordCodec] in
theorem passive_requirePending (record : CoordinationJournalRecord) :
    (port.requirePending record).Uses PortAct.Passive := by
  refine uses_bind (uses_bind (uses_result _) (fun evidence => ?_)) (fun pending => ?_)
  · cases evidence with
    | none => trivial
    | some evidence =>
      exact uses_bind (port.passive_verifyReconciliationEvidence _) (fun _ => uses_pure _)
  · cases pending with
    | none => trivial
    | some pending => trivial

omit [RecordCodec] in
theorem passive_recoverQuery (effect : EffectIdentity) (error : PortError) :
    (port.recoverQuery effect error).Uses PortAct.Passive := by
  unfold recoverQuery
  split
  · refine uses_bind (passive_readRecord _) (fun _ => ?_)
    exact uses_bind (uses_require _ _) (fun _ => trivial)
  · split
    · refine uses_bind (passive_readRecord _) (fun updated => ?_)
      cases updated with
      | none => trivial
      | some record => exact port.passive_requirePending record
    · trivial

omit [RecordCodec] in
theorem passive_concludeQuery (effect : EffectIdentity) :
    (port.concludeQuery effect).Uses PortAct.Passive := by
  refine uses_bind (passive_readRecord _) (fun _ => ?_)
  refine uses_bind (uses_result _) (fun _ => ?_)
  split
  · exact port.passive_resolutionFromRecord _
  · exact port.passive_requirePending _

end CoordinatedPort

/-! ## Preparing and closing -/

/-- The actions of a call on an effect that has no commit attempt. -/
def PortAct.BeforeCommit (k : EffectId) : PortAct → Prop
  | .exchange request => PortAct.NoCommit (.exchange request)
  | .journal (.closeNotDispatched effect _ _ _) => effect.effectId = k
  | .journal op => op.BeforeCommit
  | _ => True

omit [Primitives] [RecordCodec] in
theorem PortAct.Passive.beforeCommit {k : EffectId} {action : PortAct} (h : action.Passive) :
    action.BeforeCommit k := by
  cases action with
  | journal op => exact h.elim
  | exchange request => exact h.elim
  | _ => trivial

/-- They may be performed while the effect has no commit attempt, and leave it so. -/
theorem keeps_beforeCommit (k : EffectId) (action : PortAct) (h : action.BeforeCommit k) :
    (portContract port).Keeps (fun s => s.journal.Uncommitted k) action := by
  intro s hsound hs
  by_cases hpassive : action.Passive
  · refine ⟨portContract_allowed hpassive, ?_⟩
    intro reply s' hperform _
    have hperformed : s.perform port action reply s' := hperform
    rw [(GatewayState.grows_passive hsound hpassive hperformed).2]
    exact hs
  · cases action with
    | exchange request =>
      refine ⟨portContract_harmless h, ?_⟩
      rintro reply s' rfl _
      exact hs
    | journal op =>
      have hop : op.BeforeCommit := by
        cases op with
        | closeNotDispatched => trivial
        | _ => exact h
      refine ⟨⟨?_, ?_⟩, ?_⟩
      · cases op with
        | closeNotDispatched effect reason evidence recordedAt =>
          obtain rfl : effect.effectId = k := h
          exact fun e he _ => hs e he
        | _ => trivial
      · intro o ho
        cases op with
        | completeQuery => exact hop.elim
        | retainCommitOutcome => exact hop.elim
        | _ => exact ho.elim
      · rintro reply s' ⟨p, ⟨env, hrun, -⟩, rfl⟩ _
        have hafter : (op.run s.journal env).2.Uncommitted k :=
          GatewayOp.uncommitted_run hop hs
        rw [hrun] at hafter
        exact hafter
    | _ => exact absurd trivial hpassive

theorem guarded_beforeCommit {α : Type} {k : EffectId} {p : PortProgram α}
    (hp : p.Uses (PortAct.BeforeCommit k)) (hs : s.journal.Uncommitted k) :
    p.Guarded (portContract port) (Returns fun _ _ => True) s := by
  refine guarded_mono ?_ (guarded_of_keeps (P := fun s => s.journal.Uncommitted k) ?_
    (uses_mono (keeps_beforeCommit k) hp) hs)
  · intro result _ _
    cases result with
    | ok a => trivial
    | error e => trivial
  · rintro s _ rfl _ h
    exact h

omit [RecordCodec] in
theorem Program.Uses.beforeCommit {α : Type} {k : EffectId} {p : PortProgram α}
    (h : p.Uses PortAct.Passive) : p.Uses (PortAct.BeforeCommit k) :=
  uses_mono (fun _ => PortAct.Passive.beforeCommit) h

namespace CoordinatedPort

open PortProgram

omit [RecordCodec] in
theorem beforeCommit_close {effect : EffectIdentity} (reason : String) (evidence : Sha256)
    (recordedAt : Time) :
    (closeBeforeCommit effect reason evidence recordedAt).Uses
      (PortAct.BeforeCommit effect.effectId) := by
  refine uses_bind (uses_catching ?_ (fun _ => trivial)) (fun _ => uses_pure _)
  exact uses_bind (uses_act rfl) (fun _ => uses_result _)

omit [RecordCodec] in
theorem beforeCommit_refusePrepare (request : SignedEffectPrepareRequest)
    (response : HttpExchangeResponse) (retainedAt : Time) :
    (refusePrepare request response retainedAt).Uses
      (PortAct.BeforeCommit request.effect.effectId) := by
  refine uses_bind (beforeCommit_close _ _ _) (fun _ => ?_)
  exact uses_bind (uses_require _ _) (fun _ => trivial)

omit [RecordCodec] in
theorem beforeCommit_abandonPrepare (request : SignedEffectPrepareRequest)
    (response : HttpExchangeResponse) (recordedAt : Time) (error : PortError) :
    (abandonPrepare request response recordedAt error).Uses
      (PortAct.BeforeCommit request.effect.effectId) := by
  unfold abandonPrepare
  split
  · exact uses_bind (beforeCommit_close _ _ _) (fun _ => trivial)
  · trivial

omit [RecordCodec] in
theorem beforeCommit_losePrepare (request : SignedEffectPrepareRequest) (error : PortError) :
    (losePrepare request error).Uses (PortAct.BeforeCommit request.effect.effectId) := by
  unfold losePrepare
  split
  · refine uses_bind (uses_act trivial) (fun _ => ?_)
    exact uses_bind (beforeCommit_close _ _ _) (fun _ => trivial)
  · trivial

variable (port)

omit [RecordCodec] in
theorem beforeCommit_retainReceipt (request : SignedEffectPrepareRequest)
    (response : HttpExchangeResponse) (retainedAt : Time) :
    (port.retainReceipt request response retainedAt).Uses
      (PortAct.BeforeCommit request.effect.effectId) := by
  unfold retainReceipt
  split
  · exact beforeCommit_abandonPrepare _ _ _ _
  · refine uses_catching ?_ (fun _ => beforeCommit_abandonPrepare _ _ _ _)
    refine uses_bind (port.passive_identities _ _).beforeCommit (fun _ => ?_)
    refine uses_bind (uses_bind (uses_act trivial) (fun _ => uses_pure _)) (fun _ => ?_)
    refine uses_bind (uses_require _ _) (fun _ => ?_)
    refine uses_bind (uses_bind (uses_act trivial) (fun _ => uses_result _)) (fun _ => ?_)
    exact uses_pure _

omit [RecordCodec] in
theorem beforeCommit_raw {k : EffectId} {request : PortRequest} {consequential : Bool}
    (h : PortAct.NoCommit (.exchange request)) :
    (raw request consequential).Uses (PortAct.BeforeCommit k) := by
  refine uses_bind (uses_act h) (fun reply => ?_)
  cases reply with
  | response exchanged => exact uses_bind (uses_require _ _) (fun _ => uses_pure _)
  | outcomeUnknown message => trivial
  | protocol message => trivial
  | unavailable => trivial

omit [RecordCodec] in
theorem beforeCommit_prepareIssued (request : SignedEffectPrepareRequest) (issuedAt : Time) :
    (port.prepareIssued request issuedAt).Uses (PortAct.BeforeCommit request.effect.effectId) := by
  refine uses_bind (uses_bind (uses_act trivial) (fun _ => uses_pure _)) (fun _ => ?_)
  refine uses_bind (uses_require _ _) (fun _ => ?_)
  refine uses_bind (uses_catching ?_ (fun _ => trivial)) (fun _ => ?_)
  · exact uses_bind (uses_act trivial) (fun _ => uses_result _)
  · refine uses_bind (uses_catching (beforeCommit_raw trivial)
      (fun _ => beforeCommit_losePrepare _ _)) (fun response => ?_)
    refine uses_bind (uses_act trivial) (fun _ => ?_)
    split
    · exact port.beforeCommit_retainReceipt _ _ _
    · exact beforeCommit_refusePrepare _ _ _

/-! ## Outcomes -/

omit [RecordCodec] in
theorem outcome_of_parseOutcome {response : HttpExchangeResponse} {o : SignedEffectOutcome}
    (h : parseOutcome response = .ok o) : response.outcome = some o := by
  simp only [parseOutcome, bind_eq_ok, orRaise_eq_ok] at h
  obtain ⟨parsed, hparsed, -, -, hsame⟩ := h
  rw [hparsed, Except.ok.inj hsame]

/-- `_verify_outcome` accepts only what the port trusts. -/
theorem trusts_verifyOutcome (o : SignedEffectOutcome) (request : OutcomeRequest)
    (target : ResolvedWorkloadIdentity) (evaluatedAt : Time) {P : GatewayState → Prop}
    (hP : ∀ s s', s.Grows s' → P s → P s') (hs : P s) :
    (port.verifyOutcome o request target evaluatedAt).Guarded (portContract port)
      (Returns fun valid s => P s ∧ (valid = true → port.Trusts o)) s := by
  refine guarded_harmless_keeps (uses_act trivial) hP hs (fun view s' hs' => ?_)
  refine ⟨hs', fun hvalid => ?_⟩
  exact ⟨view, request, evaluatedAt, (Bool.and_eq_true_iff.mp hvalid).2⟩

/-- The parse, check and retention that `_commit` and `_query` make of a response. -/
theorem guarded_retaining {response : HttpExchangeResponse} (request : OutcomeRequest)
    (evaluatedAt : Time) (message : String) (op : SignedEffectOutcome → GatewayOp)
    (hop : ∀ o (j : Journal .gateway), (op o).closesUncommitted j)
    (hbrings : ∀ o (j : Journal .gateway) o', ((op o).changes j).outcome o' → o' = o)
    (harrived : Arrived port response s) :
    (do
      let outcome ← result (parseOutcome response)
      let resolved ← port.identities evaluatedAt false
      let valid ← port.verifyOutcome outcome request resolved.2 evaluatedAt
      require (valid = false) (.protocol message)
      let _ ← journal (op outcome)
      pure outcome : PortProgram SignedEffectOutcome).Guarded (portContract port)
        (Returns fun _ _ => True) s := by
  refine guarded_result_bind (fun o ho => ?_)
  have hparsed := outcome_of_parseOutcome ho
  have hkept : ∀ s s' : GatewayState, s.Grows s' → Arrived port response s →
      Arrived port response s' := Arrived.grows
  refine guarded_harmless_keeps (port.passive_identities _ _).portHarmless hkept harrived
    (fun resolved s harrived => ?_)
  refine guarded_returns_bind
    (port.trusts_verifyOutcome o request resolved.2 evaluatedAt hkept harrived) ?_
  rintro valid s ⟨harrived, htrusts⟩
  refine guarded_require_bind (fun hvalid => ?_)
  have hauthentic : s.Authentic o :=
    ⟨port, harrived o hparsed, htrusts (by simpa using hvalid)⟩
  refine guarded_returns_bind (Q := fun _ _ => True)
    (guarded_journal ⟨hop o _, ?_⟩ (fun _ _ _ _ _ _ _ => trivial)) (fun _ _ _ => trivial)
  intro o' ho'
  rw [hbrings o _ o' ho']
  exact hauthentic

theorem guarded_retainOutcome (request : SignedEffectCommitRequest)
    {response : HttpExchangeResponse} (evaluatedAt : Time) (harrived : Arrived port response s) :
    (port.retainOutcome request response evaluatedAt).Guarded (portContract port)
      (Returns fun _ _ => True) s := by
  refine guarded_catching_raising ?_ (harmless_abandonCommit _ _ _) (raising_abandonCommit _ _ _)
  exact port.guarded_retaining (.commit request) evaluatedAt _
    (fun o => .retainCommitOutcome request o (some (.aware (max evaluatedAt o.signedAt))))
    (fun _ _ => trivial) (fun _ _ _ h => h) harrived

theorem guarded_completeQuery (request : SignedEffectQueryRequest)
    {response : HttpExchangeResponse} (evaluatedAt : Time) (harrived : Arrived port response s) :
    (port.completeQuery request response evaluatedAt).Guarded (portContract port)
      (Returns fun _ _ => True) s := by
  refine guarded_catching_raising ?_ (harmless_abandonQuery _ _ _) (raising_abandonQuery _ _ _)
  exact port.guarded_retaining (.query request) evaluatedAt _
    (fun o => .completeQuery request o (some (.aware (max evaluatedAt o.signedAt))))
    (fun _ _ => trivial) (fun _ _ _ h => h) harrived

/-! ## Commit and query -/

/-- The commit is sent, and its outcome retained. -/
theorem guarded_commitRetained (request : SignedEffectCommitRequest)
    (hfresh : s.Fresh request.requestNonce)
    (hretained : s.journal.Holds request.effect.effectId (fun r => r.RetainsCommit request)) :
    (port.commitRetained request).Guarded (portContract port) (Returns fun _ _ => True) s := by
  refine guarded_returns_bind (guarded_catching_raising (arrived_raw ⟨hfresh, hretained⟩)
    (harmless_loseCommit request) (raising_loseCommit request)) (fun response s harrived => ?_)
  refine guarded_harmless_keeps (uses_act trivial) Arrived.grows harrived
    (fun evaluatedAt s harrived => ?_)
  refine guarded_returns_bind (port.guarded_retainOutcome request evaluatedAt harrived)
    (fun outcome s _ => ?_)
  exact guarded_harmless (uses_result _)

theorem guarded_commitIssued (request : SignedEffectCommitRequest) (issuedAt : Time)
    (hfresh : s.Fresh request.requestNonce) :
    (port.commitIssued request issuedAt).Guarded (portContract port)
      (Returns fun _ _ => True) s := by
  refine guarded_returns_bind (Q := fun _ s => s.Fresh request.requestNonce ∧
    s.journal.Holds request.effect.effectId (fun r => r.RetainsCommit request))
    (guarded_catching_raising (guarded_journal ⟨trivial, fun _ ho => ho.elim⟩ ?_)
      (fun _ => trivial) (fun _ => raising_raise _)) ?_
  · intro s' env entry hsound hjournal hok hgrows
    refine ⟨hgrows.fresh hfresh, ?_⟩
    rw [hjournal]
    exact Journal.retainsCommit_begun hsound.consistent hok
  · rintro entry s ⟨hfresh, hretained⟩
    exact port.guarded_commitRetained request hfresh hretained

omit [RecordCodec] in
theorem requestNonce_of_issue {receipt : CoordinationReceipt} {signer : WorkloadSigner}
    {nonce : String} {issuedAt expiresAt : Time} {request : SignedEffectCommitRequest}
    (h : SignedEffectCommitRequest.issue receipt signer nonce issuedAt expiresAt = .ok request) :
    request.requestNonce = nonce := by
  simp only [SignedEffectCommitRequest.issue, bind_unit_eq_ok] at h
  obtain ⟨-, -, hsame⟩ := h
  rw [← Except.ok.inj hsame]

theorem guarded_commit (receipt : CoordinationReceipt) :
    (port.commit receipt).Guarded (portContract port) (Returns fun _ _ => True) s := by
  refine guarded_harmless_first (uses_act trivial) (fun issuedAt s => ?_)
  refine guarded_harmless_first (port.passive_identities _ _).portHarmless (fun _ s => ?_)
  refine guarded_returns_bind fresh_drawNonce (fun nonce s hfresh => ?_)
  refine guarded_result_bind (fun request hrequest => ?_)
  have hnonce := requestNonce_of_issue (mapError_eq_ok.mp hrequest)
  exact port.guarded_commitIssued request issuedAt (hnonce ▸ hfresh)

theorem guarded_query (record : CoordinationJournalRecord) :
    (port.query record).Guarded (portContract port) (Returns fun _ _ => True) s := by
  refine guarded_result_bind (fun attempt _ => ?_)
  refine guarded_harmless_first ?_ (fun _ s => ?_)
  · unfold markRetainedCommit
    split
    · exact uses_bind (uses_act trivial) (fun _ => harmless_markCommitAmbiguous _ _ _ _)
    · trivial
  refine guarded_harmless_first (uses_act trivial) (fun issuedAt s => ?_)
  refine guarded_harmless_first (uses_catching (port.passive_identities _ _).portHarmless
    (fun _ => trivial)) (fun _ s => ?_)
  refine guarded_harmless_first passive_drawNonce.portHarmless (fun nonce s => ?_)
  refine guarded_result_bind (fun request _ => ?_)
  refine guarded_harmless_first (uses_catching (harmless_journal trivial) (fun _ => trivial))
    (fun _ s => ?_)
  refine guarded_returns_bind (guarded_catching_raising
    (arrived_raw (portContract_harmless trivial)) (harmless_loseQuery request)
    (raising_loseQuery request)) (fun response s harrived => ?_)
  refine guarded_harmless_keeps (uses_act trivial) Arrived.grows harrived
    (fun evaluatedAt s harrived => ?_)
  refine guarded_returns_bind (port.guarded_completeQuery request evaluatedAt harrived)
    (fun outcome s _ => ?_)
  exact guarded_harmless (uses_result _)

/-! ## Entry points -/

theorem guarded_resume (record : CoordinationJournalRecord) :
    (port.resume record).Guarded (portContract port) (Returns fun _ _ => True) s := by
  unfold resume
  split
  · exact guarded_harmless (port.passive_exposeTerminal record).portHarmless
  · split
    · exact port.guarded_query record
    · exact port.guarded_commit _
    · exact guarded_harmless trivial

omit [Primitives] [RecordCodec] in
theorem hasCommit_of_latestCommit {record : CoordinationJournalRecord}
    (h : latestCommit record = none) : record.hasCommit = false := by
  rw [hasCommit, List.any_eq_false]
  intro a ha hcommit
  have hnone := List.findSome?_eq_none_iff.mp h a (List.mem_reverse.mpr ha)
  cases a with
  | commit a => cases hnone
  | prepare a => cases hcommit
  | query a => cases hcommit

/-- A local close of a record the journal holds, which has no commit attempt. -/
theorem guarded_closeRetained {α : Type} {entry : JournalEntry .gateway}
    (hfound : s.journal.records.find? entry.record.effect.effectId = some entry)
    (hcommit : latestCommit entry.record = none) (reason : String) (evidence : Sha256)
    (error : PortError) :
    (do
      let recordedAt ← clock
      closeBeforeCommit entry.record.effect reason evidence recordedAt
      raise error : PortProgram α).Guarded (portContract port) (Returns fun _ _ => True) s := by
  refine guarded_beforeCommit (k := entry.record.effect.effectId) ?_ ?_
  · refine uses_bind (uses_act trivial) (fun _ => ?_)
    exact uses_bind (beforeCommit_close _ _ _) (fun _ => trivial)
  · intro e he
    obtain rfl := Option.some.inj (hfound.symm.trans he)
    exact hasCommit_of_latestCommit hcommit

theorem guarded_reconcile {entry : JournalEntry .gateway}
    (hfound : s.journal.records.find? entry.record.effect.effectId = some entry) :
    (port.reconcile entry.record).Guarded (portContract port) (Returns fun _ _ => True) s := by
  unfold reconcile
  split
  · exact port.guarded_resume _
  · split
    · exact port.guarded_query _
    · rename_i hcommit
      exact port.guarded_closeRetained hfound hcommit _ _ _

theorem guarded_reconcileOpenRecord {entry : JournalEntry .gateway}
    (hfound : s.journal.records.find? entry.record.effect.effectId = some entry) :
    (port.reconcileOpenRecord entry.record).Guarded (portContract port)
      (Returns fun _ _ => True) s := by
  unfold reconcileOpenRecord
  split
  · rename_i hcommit
    exact port.guarded_closeRetained hfound hcommit _ _ _
  · refine guarded_attempt_bind.mpr (guarded_mono ?_ (port.guarded_query entry.record))
    intro result s' _
    cases result with
    | ok acknowledgment => exact guarded_harmless (port.passive_concludeQuery _).portHarmless
    | error error => exact guarded_harmless (port.passive_recoverQuery _ _).portHarmless

/-- What `get` returned is in the journal. -/
theorem guarded_get (effect : EffectIdentity) :
    (perform (.get effect)).Guarded (portContract port)
      (Returns fun (found : Except PyError (Option (JournalEntry .gateway))) s =>
        (∀ entry, found = .ok (some entry) →
          s.journal.records.find? entry.record.effect.effectId = some entry) ∧
        (found = .ok none → s.journal.records.find? effect.effectId = none)) s := by
  rintro s₁ rfl _
  refine ⟨trivial, ?_⟩
  rintro found s' ⟨p, ⟨rfl, rfl⟩, rfl⟩ _
  refine ⟨fun entry hfound => ?_, fun hnone => ?_⟩
  · simp only [Journal.get, bind_unit_eq_ok] at hfound
    exact Journal.found_of_lookup hfound.2
  · simp only [Journal.get, bind_unit_eq_ok] at hnone
    exact Journal.lookup_eq_none.mp hnone.2

theorem guarded_reconcileEffect (effect : EffectIdentity) :
    (port.reconcileEffect effect).Guarded (portContract port) (Returns fun _ _ => True) s := by
  refine guarded_returns_bind (port.guarded_get effect) ?_
  rintro found s ⟨hentry, -⟩
  refine guarded_result_bind (fun existing hexisting => ?_)
  refine guarded_result_bind (fun entry hok => ?_)
  have hsome : existing = some entry := orRaise_eq_ok.mp hok
  exact port.guarded_reconcile (hentry entry (hsome ▸ mapError_eq_ok.mp hexisting))

theorem guarded_reconcileEffectEvidence (effect : EffectIdentity) :
    (port.reconcileEffectEvidence effect).Guarded (portContract port)
      (Returns fun _ _ => True) s := by
  have hread : (readRecord effect).Guarded (portContract port)
      (Returns fun found s => ∀ record, found = some record →
        ∃ entry : JournalEntry .gateway, entry.record = record ∧
          s.journal.records.find? entry.record.effect.effectId = some entry) s := by
    refine guarded_returns_bind (port.guarded_get effect) ?_
    rintro found s ⟨hentry, -⟩
    refine guarded_result_bind (fun existing hexisting => ?_)
    intro record hrecord
    obtain ⟨entry, rfl, rfl⟩ := Option.map_eq_some_iff.mp hrecord
    exact ⟨entry, rfl, hentry entry (mapError_eq_ok.mp hexisting)⟩
  refine guarded_returns_bind hread (fun found s hfound => ?_)
  refine guarded_result_bind (fun record hok => ?_)
  obtain ⟨entry, rfl, hentry⟩ := hfound record (orRaise_eq_ok.mp hok)
  refine guarded_require_bind (fun _ => ?_)
  split
  · exact guarded_harmless (port.passive_resolutionFromRecord _).portHarmless
  · exact port.guarded_reconcileOpenRecord hentry

theorem guarded_reconcilePendingOnce :
    port.reconcilePendingOnce.Guarded (portContract port) (Returns fun _ _ => True) s := by
  refine guarded_returns_bind (Q := fun (listed : Except PyError (List CoordinationJournalRecord))
    s => ∀ records, listed = .ok records → ∀ record ∈ records,
      ∃ entry : JournalEntry .gateway, entry.record = record ∧
        s.journal.records.find? entry.record.effect.effectId = some entry) ?_ ?_
  · rintro s₁ rfl hsound
    refine ⟨trivial, ?_⟩
    rintro listed s' ⟨p, ⟨rfl, rfl⟩, rfl⟩ _ records hlisted record hrecord
    simp only [Journal.pending, Journal.listRecords, bind_eq_ok] at hlisted
    obtain ⟨all, ⟨⟨⟩, -, hall⟩, hfiltered⟩ := hlisted
    obtain rfl := Except.ok.inj hall
    obtain rfl := Except.ok.inj hfiltered
    obtain ⟨k, entry, hfound, rfl⟩ := RecordMap.mem_list.mp (List.mem_filter.mp hrecord).1
    refine ⟨entry, rfl, ?_⟩
    rw [hsound.consistent.recordsKeyed k entry hfound]
    exact hfound
  · intro listed s hlisted
    refine guarded_result_bind (fun records hrecords => ?_)
    cases records with
    | nil => trivial
    | cons record rest =>
      obtain ⟨entry, rfl, hfound⟩ :=
        hlisted _ (mapError_eq_ok.mp hrecords) record List.mem_cons_self
      exact guarded_returns_bind (port.guarded_reconcile hfound) (fun _ _ _ => trivial)

omit [RecordCodec] in
theorem effect_of_issue {dispatch : SegmentedCapabilityDispatch} {signer : WorkloadSigner}
    {nonce : String} {issuedAt expiresAt : Time} {request : SignedEffectPrepareRequest}
    (h : SignedEffectPrepareRequest.issue dispatch signer nonce issuedAt expiresAt = .ok request) :
    request.effect = EffectIdentity.fromDispatch dispatch := by
  simp only [SignedEffectPrepareRequest.issue, bind_unit_eq_ok] at h
  obtain ⟨-, -, -, hsame⟩ := h
  rw [← Except.ok.inj hsame]

omit [RecordCodec] in
theorem beforeCommit_prepare (dispatch : SegmentedCapabilityDispatch) :
    (port.prepare dispatch).Uses
      (PortAct.BeforeCommit (EffectIdentity.fromDispatch dispatch).effectId) := by
  refine uses_bind (uses_act trivial) (fun issuedAt => ?_)
  refine uses_bind (port.passive_identities _ _).beforeCommit (fun _ => ?_)
  refine uses_bind passive_drawNonce.beforeCommit (fun nonce => ?_)
  cases hissued : SignedEffectPrepareRequest.issue dispatch port.signer nonce issuedAt
      (issuedAt + port.callTtl) with
  | error message => trivial
  | ok request =>
    rw [← effect_of_issue hissued]
    exact port.beforeCommit_prepareIssued request issuedAt

/-- The first part of `execute`: without a retained record the journal has none. -/
theorem guarded_retained (dispatch : SegmentedCapabilityDispatch) :
    (retained dispatch).Guarded (portContract port)
      (Returns fun found s => found = none →
        s.journal.Uncommitted (EffectIdentity.fromDispatch dispatch).effectId) s := by
  refine guarded_require_bind (fun _ => ?_)
  refine guarded_result_bind (fun _ _ => ?_)
  refine guarded_harmless_first (uses_act trivial) (fun action s => ?_)
  refine guarded_result_bind (fun retainedAction _ => ?_)
  cases retainedAction with
  | some record =>
    refine guarded_require_bind (fun _ => ?_)
    rintro ⟨⟩
  | none =>
    refine guarded_returns_bind (port.guarded_get _) ?_
    rintro found s ⟨-, hnone⟩
    refine guarded_result_bind (fun existing hexisting => ?_)
    cases existing with
    | some entry =>
      refine guarded_require_bind (fun _ => ?_)
      rintro ⟨⟩
    | none =>
      intro _ e he
      rw [hnone (mapError_eq_ok.mp hexisting)] at he
      cases he

theorem guarded_execute (dispatch : SegmentedCapabilityDispatch) :
    (port.execute dispatch).Guarded (portContract port) (Returns fun _ _ => True) s := by
  refine guarded_returns_bind (port.guarded_retained dispatch) (fun found s hfound => ?_)
  cases found with
  | some record => exact port.guarded_resume record
  | none =>
    refine guarded_returns_bind
      (guarded_beforeCommit (port.beforeCommit_prepare dispatch) (hfound rfl))
      (fun receipt s _ => ?_)
    exact port.guarded_commit receipt

end CoordinatedPort

/-- Every call keeps to the contract. -/
theorem PortCall.handle_guarded (port : CoordinatedPort) (call : PortCall) (s : GatewayState) :
    (call.handle port).Guarded (portContract port) (Returns fun _ _ => True) s := by
  cases call with
  | execute dispatch =>
    exact guarded_returns_bind (port.guarded_execute dispatch) (fun _ _ _ => trivial)
  | reconcileEffect effect =>
    exact guarded_returns_bind (port.guarded_reconcileEffect effect) (fun _ _ _ => trivial)
  | reconcileEffectEvidence effect =>
    exact guarded_returns_bind (port.guarded_reconcileEffectEvidence effect)
      (fun _ _ _ => trivial)
  | reconcilePendingOnce =>
    exact guarded_returns_bind port.guarded_reconcilePendingOnce (fun _ _ _ => trivial)

/-! ## Runs -/

/-- The invariant of a gateway process: its state is sound, and the running call will keep it so,
    whatever arrives if it waits for a response. -/
structure GatewaySystem.Safe (sys : GatewaySystem) : Prop where
  sound : sys.state.Sound
  running : sys.waiting = false → ∀ p, sys.running = some p →
    p.Guarded (portContract sys.port) (Returns fun _ _ => True) sys.state
  waiting : sys.waiting = true → ∃ request next,
    sys.running = some (.act (.exchange request) next) ∧
      ∀ reply, (next reply).Guarded (portContract sys.port) (Returns fun _ _ => True)
        (sys.state.receive sys.port reply)

theorem GatewaySystem.Initial.safe {sys : GatewaySystem} (h : sys.Initial) : sys.Safe := by
  obtain ⟨⟨owner, write, hinit⟩, -, hsent, -, hrunning, hwaiting⟩ := h
  have hcommits : sys.state.commits = [] := by rw [GatewayState.commits, hsent]; rfl
  refine ⟨⟨(Journal.consistent_initialized hinit).1, ?_, ?_, ?_, ?_, ?_⟩, ?_, ?_⟩
  · simp [hcommits]
  · simp [hcommits]
  · simp [hcommits]
  · exact Journal.everywhere_initialized hinit
  · exact Journal.everywhere_initialized hinit
  · simp [hrunning]
  · simp [hwaiting]

theorem GatewayStep.safe {sys sys' : GatewaySystem} (h : GatewayStep sys sys')
    (hsafe : sys.Safe) : sys'.Safe := by
  cases h with
  | start port s call =>
    refine ⟨hsafe.sound, ?_, by simp⟩
    rintro - p ⟨⟩
    exact call.handle_guarded port s
  | act port s s' action next reply hlocal hperform =>
    obtain ⟨hallowed, hnext⟩ := hsafe.running rfl _ rfl s rfl hsafe.sound
    have hsound := GatewayState.sound_perform hsafe.sound hallowed hperform
    refine ⟨hsound, ?_, by simp⟩
    rintro - p ⟨⟩
    exact hnext reply s' hperform hsound
  | handOver port s request next =>
    obtain ⟨hallowed, hnext⟩ := hsafe.running rfl _ rfl s rfl hsafe.sound
    have hsound := hsafe.sound.handOver hallowed
    refine ⟨hsound, by simp, fun _ => ⟨request, next, rfl, fun reply => ?_⟩⟩
    exact hnext reply _ rfl (hsound.receive port reply)
  | respond port s request next reply =>
    obtain ⟨request', next', hsame, hnext⟩ := hsafe.waiting rfl
    refine ⟨hsafe.sound.receive port reply, ?_, by simp⟩
    rintro - p ⟨⟩
    cases hsame
    exact hnext reply
  | finish port s result => exact ⟨hsafe.sound, by simp, by simp⟩
  | restart port => exact ⟨hsafe.sound.restart, by simp, by simp⟩

theorem GatewayRun.safe {sys sys' : GatewaySystem} (h : GatewayRun sys sys') (hsafe : sys.Safe) :
    sys'.Safe := by
  induction h with
  | refl => exact hsafe
  | tail _ hstep ih => exact hstep.safe ih

/-- The commit requests of one effect have one digest, and each was sent once. -/
theorem GatewayState.Sound.commit_digest_eq {s : GatewayState} (hs : s.Sound)
    {m m' : SignedEffectCommitRequest} (hm : m ∈ s.commits) (hm' : m' ∈ s.commits)
    (heffect : m.effect.effectId = m'.effect.effectId) : m.digest = m'.digest := by
  obtain ⟨⟨e, he, hretains⟩, -⟩ := hs.retained m hm
  obtain ⟨⟨e', he', hretains'⟩, -⟩ := hs.retained m' hm'
  rw [heffect, he'] at he
  obtain rfl := Option.some.inj he
  exact e'.commit_digest_eq hretains hretains'

/-- At most one commit request is handed to the transport for each effect. -/
theorem GatewayRun.commits_at_most_once {init sys : GatewaySystem} (hinit : init.Initial)
    (hrun : GatewayRun init sys)
    (hdigests : ∀ m ∈ sys.state.commits, ∀ m' ∈ sys.state.commits, m.digest = m'.digest → m = m') :
    (sys.state.commits.map (fun m => m.effect.effectId)).Nodup := by
  have hsound := (GatewayRun.safe hrun hinit.safe).sound
  refine (List.nodup_map_iff_inj_on (List.Nodup.of_map _ hsound.once)).mpr ?_
  intro m hm m' hm' heffect
  exact hdigests m hm m' hm' (hsound.commit_digest_eq hm hm' heffect)

end

section

open CoordinationSample Sample

/-- An action that is executed twice is committed once. -/
theorem commits_at_most_once_repeated :
    (coordinationExecuted.gateway.state.commits.map (fun m => m.effect.effectId)).Nodup := by
  obtain ⟨m, hm⟩ := List.length_eq_one_iff.mp evaluated_coordinationExecuted.1
  refine GatewayRun.commits_at_most_once initial_coordinationSystem.1
    run_coordinationExecuted.gateway ?_
  rw [hm]
  rintro m₁ hm₁ m₂ hm₂ -
  rw [List.mem_singleton.mp hm₁, List.mem_singleton.mp hm₂]

end

end AegisOt
