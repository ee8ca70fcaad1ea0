import AegisOt.Coordination.Proofs.LocalClose
import AegisOt.Coordination.Proofs.Retention
import AegisOt.Transport.CoordinationSystem

/-!
# What a gateway sends

A commit request leaves the gateway only after its attempt was made durable by the same call, with
a nonce that no other request has; a retained effect is closed locally only while its record has
no commit attempt; and an outcome enters the journal only after it arrived and was verified.
`GatewayState.Sound` is the invariant, kept by every action of every call, by an exchange that
waits for its response and by a crash at any point.
-/

namespace AegisOt

open Program CoordinationJournalRecord

section

variable [Primitives]

/-- The record retains a commit attempt for this request. -/
def CoordinationJournalRecord.RetainsCommit (r : CoordinationJournalRecord)
    (m : SignedEffectCommitRequest) : Prop :=
  ∃ a, .commit a ∈ r.attempts ∧ a.request.digest = m.digest

theorem CoordinationJournalRecord.Extends.retainsCommit {changes : Changes}
    {r r' : CoordinationJournalRecord} {m : SignedEffectCommitRequest} (h : r.Extends changes r')
    (hr : r.RetainsCommit m) : r'.RetainsCommit m := by
  obtain ⟨a, ha, hdigest⟩ := hr
  obtain ⟨b, hb, hrequest, -⟩ := h.commit_mem ha
  exact ⟨b, hb, by rw [hrequest, hdigest]⟩

theorem CoordinationJournalRecord.RetainsCommit.hasCommit {r : CoordinationJournalRecord}
    {m : SignedEffectCommitRequest} (h : r.RetainsCommit m) : r.hasCommit = true := by
  obtain ⟨a, ha, -⟩ := h
  exact List.any_eq_true.mpr ⟨_, ha, rfl⟩

/-- A record retains at most one commit request. -/
theorem JournalEntry.commit_digest_eq {role : JournalRole} (e : JournalEntry role)
    {m m' : SignedEffectCommitRequest} (h : e.record.RetainsCommit m)
    (h' : e.record.RetainsCommit m') : m.digest = m'.digest := by
  obtain ⟨a, ha, hdigest⟩ := h
  obtain ⟨a', ha', hdigest'⟩ := h'
  obtain rfl := e.history.commit_unique ha ha'
  exact hdigest.symm.trans hdigest'

theorem retainsCommit_of_commitAttempt {role : JournalRole} (e : JournalEntry role)
    {m : SignedEffectCommitRequest} (h : (e.record.commitAttempt m).isSome = true) :
    e.record.RetainsCommit m := by
  obtain ⟨a, ha⟩ := Option.isSome_iff_exists.mp h
  obtain ⟨hmem, hdigest⟩ := mem_of_commitAttempt ha
  have hexact := CoordinationAttempt.commit_exact (e.history.attemptsValid _ hmem)
  exact ⟨a, hmem, (EffectCommitAttempt.requestSha256_eq hexact).symm.trans hdigest⟩

end

section

variable [Primitives] [RecordCodec]

/-! ## Records before their commit -/

/-- The record of the effect, if there is one, has no commit attempt. -/
def Journal.Uncommitted (j : Journal .gateway) (k : EffectId) : Prop :=
  ∀ e, j.records.find? k = some e → e.record.hasCommit = false

/-- What a plan stores has no commit attempt that its record did not have. -/
def Journal.PlansNoCommit {α : Type} (j : Journal .gateway)
    (plan : Except PyError (Plan .gateway α)) : Prop :=
  ∀ record f, plan = .ok (.store record f) → record.hasCommit = true →
    ∃ old, j.records.find? record.effect.effectId = some old ∧ old.record.hasCommit = true

theorem Journal.uncommitted_carryOut {α : Type} {j : Journal .gateway}
    {plan : Except PyError (Plan .gateway α)} {write : WriteResult} {k : EffectId}
    (hplan : j.PlansNoCommit plan) (h : j.Uncommitted k) :
    (j.carryOut plan write).2.Uncommitted k := by
  unfold Journal.carryOut
  split
  · exact h
  · exact h
  · rename_i record f
    have hstored := j.store_cases record write
    have hrecord := hplan record f rfl
    generalize j.store record write = result at hstored ⊢
    cases hstored with
    | refused _ error _ => exact h
    | uncertain entry hentry replaced hwritable => exact h
    | stored entry hentry hwritable =>
      subst hentry
      intro e he
      rw [SortedMap.find?_insert] at he
      split at he
      · rename_i hkey
        obtain rfl := Option.some.inj he
        by_contra hcommit
        obtain ⟨old, hold, holdCommit⟩ := hrecord (by simpa using hcommit)
        rw [h old (hkey ▸ hold)] at holdCommit
        cases holdCommit
      · exact h e he

theorem Journal.uncommitted_guarded {α : Type} {j : Journal .gateway}
    {plan : Except PyError (Plan .gateway α)} {write : WriteResult} {k : EffectId}
    (hplan : j.PlansNoCommit plan) (h : j.Uncommitted k) :
    (j.carryOut (j.guarded plan) write).2.Uncommitted k := by
  refine Journal.uncommitted_carryOut ?_ h
  intro record f hok
  obtain ⟨-, -, hok⟩ := bind_eq_ok.mp hok
  exact hplan record f hok

omit [Primitives] [RecordCodec] in
theorem hasCommit_of_replacePrepare {r : CoordinationJournalRecord} {b : EffectPrepareAttempt}
    (h : (r.replaceAttempt (.prepare b)).hasCommit = true) : r.hasCommit = true := by
  obtain ⟨x, hx, hcommit⟩ := List.any_eq_true.mp h
  obtain ⟨item, hitem, rfl⟩ := List.mem_map.mp hx
  split at hcommit
  · cases hcommit
  · exact List.any_eq_true.mpr ⟨item, hitem, hcommit⟩

omit [RecordCodec] in
theorem plansNoCommit_begin {j : Journal .gateway} {request : SignedEffectPrepareRequest}
    {recordedAt : Option RecordedAt} {now : Time} :
    j.PlansNoCommit (j.begin request recordedAt now) := by
  intro record f h hcommit
  simp only [Journal.begin, bind_eq_ok] at h
  obtain ⟨found, hlookup, h⟩ := h
  cases found with
  | some entry =>
    simp only at h
    split at h
    · cases h
    · simp only [bind_eq_ok, refuseIf_eq_ok, exists_const] at h
      obtain ⟨-, -, -, time, -, updated, hupdated, hplan⟩ := h
      obtain ⟨rfl, -⟩ := Plan.store.inj (Except.ok.inj hplan)
      have hextends : entry.record.Extends .none updated := extends_appendPreparation hupdated
      refine ⟨entry, hextends.effect ▸ Journal.found_of_lookup hlookup, ?_⟩
      simp only [appendPreparation, bind_unit_eq_ok] at hupdated
      obtain ⟨-, hupdated⟩ := hupdated
      obtain rfl := Except.ok.inj hupdated
      simpa [hasCommit, appendAttempt, CoordinationAttempt.isCommit] using hcommit
  | none =>
    simp only [bind_eq_ok, refuseIf_eq_ok, exists_const] at h
    obtain ⟨-, time, -, created, hcreated, hplan⟩ := h
    obtain ⟨rfl, -⟩ := Plan.store.inj (Except.ok.inj hplan)
    obtain rfl := eq_newRecord_of_createRecord hcreated
    cases hcommit

omit [RecordCodec] in
theorem plansNoCommit_retainPreparation {j : Journal .gateway}
    {request : SignedEffectPrepareRequest} {receipt : CoordinationReceipt}
    {recordedAt : Option RecordedAt} {now : Time} :
    j.PlansNoCommit (j.retainPreparation request receipt recordedAt now) := by
  intro record f h hcommit
  simp only [Journal.retainPreparation, bind_eq_ok, orRaise_eq_ok] at h
  obtain ⟨-, -, found, hlookup, entry, rfl, attempt, hattempt, h⟩ := h
  cases hreceipt : attempt.receipt with
  | some retained =>
    simp [hreceipt] at h
  | none =>
    simp only [hreceipt, bind_eq_ok, refuseIf_eq_ok, exists_const] at h
    obtain ⟨-, time, -, updated, hupdated, hplan⟩ := h
    obtain ⟨rfl, -⟩ := Plan.store.inj (Except.ok.inj hplan)
    have hextends : entry.record.Extends .none updated :=
      extends_retainReceipt entry.history.numbered (mem_of_prepareAttempt hattempt).1 hreceipt
        hupdated
    refine ⟨entry, hextends.effect ▸ Journal.found_of_lookup hlookup, ?_⟩
    simp only [retainReceipt, bind_unit_eq_ok] at hupdated
    obtain ⟨-, hupdated⟩ := hupdated
    split at hupdated
    · have hattempts := attempts_transition hupdated
      rw [hasCommit, hattempts] at hcommit
      exact hasCommit_of_replacePrepare hcommit
    · obtain rfl := Except.ok.inj hupdated
      exact hasCommit_of_replacePrepare hcommit

omit [RecordCodec] in
theorem plansNoCommit_closeNotDispatched {j : Journal .gateway} {effect : EffectIdentity}
    {reason : String} {evidence : Option Sha256} {recordedAt : Option RecordedAt} {now : Time} :
    j.PlansNoCommit (j.closeNotDispatched effect reason evidence recordedAt now) := by
  intro record f h hcommit
  simp only [Journal.closeNotDispatched, bind_eq_ok, orRaise_eq_ok] at h
  obtain ⟨found, hlookup, entry, rfl, h⟩ := h
  split at h
  · simp at h
  · simp only [bind_eq_ok] at h
    obtain ⟨time, -, updated, hupdated, hplan⟩ := h
    obtain ⟨rfl, -⟩ := Plan.store.inj (Except.ok.inj hplan)
    have heffect : updated.effect = entry.record.effect := by
      obtain ⟨-, -, -, rfl⟩ := transition_eq_ok.mp hupdated
      rfl
    refine ⟨entry, heffect ▸ Journal.found_of_lookup hlookup, ?_⟩
    rw [hasCommit, ← attempts_transition hupdated]
    exact hcommit

/-- The operations of a call before it has a commit intent. -/
def GatewayOp.BeforeCommit : GatewayOp → Prop
  | .begin .. | .retainPreparation .. | .closeNotDispatched .. => True
  | .beginCommit .. | .markCommitUnknown .. | .retainCommitOutcome .. | .beginQuery ..
  | .completeQuery .. | .failQuery .. => False

theorem GatewayOp.uncommitted_run {op : GatewayOp} (hop : op.BeforeCommit) {j : Journal .gateway}
    {env : OpEnv} {k : EffectId} (h : j.Uncommitted k) : (op.run j env).2.Uncommitted k := by
  cases op with
  | begin request recordedAt => exact Journal.uncommitted_guarded plansNoCommit_begin h
  | retainPreparation request receipt recordedAt =>
    exact Journal.uncommitted_guarded plansNoCommit_retainPreparation h
  | closeNotDispatched effect reason evidence recordedAt =>
    exact Journal.uncommitted_guarded plansNoCommit_closeNotDispatched h
  | _ => exact hop.elim

/-- A commit intent that was begun is retained in memory and in the file. -/
theorem Journal.retainsCommit_begun {j : Journal .gateway} (hconsistent : j.Consistent)
    {request : SignedEffectCommitRequest} {recordedAt : Option RecordedAt} {env : OpEnv}
    {entry : JournalEntry .gateway}
    (h : (GatewayOp.run (.beginCommit request recordedAt) j env).1 = .ok entry) :
    (GatewayOp.run (.beginCommit request recordedAt) j env).2.Holds request.effect.effectId
      (fun r => r.RetainsCommit request) := by
  have hafter := (GatewayOp.run_stepped (.beginCommit request recordedAt) env
    hconsistent).consistent
  obtain ⟨result, hok, rfl⟩ := map_eq_ok.mp h
  have hbegun := Journal.commitBegun hok
  have husable := Journal.usable_of_carryOut hok
  obtain ⟨hfound, -, -⟩ := hbegun.found
  refine Journal.Consistent.holds hafter husable hfound ?_
  cases hbegun with
  | retained entry hsame hfound heffect hretained =>
    exact retainsCommit_of_commitAttempt _ hretained
  | created old entry acceptance time htime hold heffect hfresh hstate hissued hrecord hfound =>
    obtain ⟨attempt, rfl, hattempts⟩ := attempts_committedRecord hrecord
    refine ⟨attempt, ?_, rfl⟩
    rw [hattempts]
    exact List.mem_append_right _ (List.mem_singleton.mpr rfl)

/-! ## The invariant -/

namespace GatewayState

/-- The outcome arrived at a port that trusts it. -/
def Authentic (s : GatewayState) (o : SignedEffectOutcome) : Prop :=
  ∃ port, (port, o) ∈ s.received ∧ port.Trusts o

/-- The nonce was drawn, and no commit request that was sent has it. -/
def Fresh (s : GatewayState) (nonce : String) : Prop :=
  nonce ∈ s.nonces ∧ ∀ m ∈ s.commits, m.requestNonce ≠ nonce

/-- The invariant of a gateway. -/
structure Sound (s : GatewayState) : Prop where
  consistent : s.journal.Consistent
  drawn : ∀ m ∈ s.commits, m.requestNonce ∈ s.nonces
  once : (s.commits.map (fun m => m.requestNonce)).Nodup
  retained : ∀ m ∈ s.commits, s.journal.Holds m.effect.effectId (fun r => r.RetainsCommit m)
  closed : s.journal.Everywhere CommittedCloseRetains
  authentic : s.journal.Everywhere (fun r => ∀ o, r.RetainsOutcome o → s.Authentic o)

/-- What any action but the exchange of a commit does. -/
structure Grows (s s' : GatewayState) : Prop where
  journal : s.journal.Stepped .any s'.journal
  nonces : ∀ nonce ∈ s.nonces, nonce ∈ s'.nonces
  commits : s'.commits = s.commits
  received : ∀ x ∈ s.received, x ∈ s'.received

theorem Grows.refl {s : GatewayState} (h : s.Sound) : s.Grows s :=
  ⟨.refl h.consistent, fun _ h => h, rfl, fun _ h => h⟩

end GatewayState

/-- Every action but the exchange of a commit. -/
def PortAct.NoCommit : PortAct → Prop
  | .exchange (.commit _) => False
  | _ => True

/-- Every action that leaves the journal and the transport alone. -/
def PortAct.Passive : PortAct → Prop
  | .journal _ | .exchange _ => False
  | _ => True

namespace GatewayState

variable {port : CoordinatedPort} {s s' : GatewayState}

omit [RecordCodec] in
theorem commits_handOver (request : PortRequest) :
    (s.handOver request).commits = (match request with
      | .commit m => [m]
      | .prepare _ | .query _ => []) ++ s.commits := by
  cases request <;> rfl

theorem grows_passive {action : PortAct} {reply : action.Reply} (hs : s.Sound)
    (hpassive : action.Passive) (h : s.perform port action reply s') :
    s.Grows s' ∧ s'.journal = s.journal := by
  cases action with
  | journal op => exact hpassive.elim
  | exchange request => exact hpassive.elim
  | clock =>
    obtain ⟨p, ⟨-, rfl⟩, rfl⟩ := h
    exact ⟨⟨.refl hs.consistent, fun _ h => h, rfl, fun _ h => h⟩, rfl⟩
  | trust =>
    obtain ⟨p, rfl, rfl⟩ := h
    exact ⟨.refl hs, rfl⟩
  | nonce =>
    obtain ⟨-, rfl⟩ := h
    exact ⟨⟨.refl hs.consistent, fun _ h => List.mem_cons_of_mem _ h, rfl, fun _ h => h⟩, rfl⟩
  | findAction | get | pending =>
    obtain ⟨p, ⟨-, rfl⟩, rfl⟩ := h
    exact ⟨.refl hs, rfl⟩

theorem grows_perform {action : PortAct} {reply : action.Reply} (hs : s.Sound)
    (hnocommit : action.NoCommit) (h : s.perform port action reply s') : s.Grows s' := by
  by_cases hpassive : action.Passive
  · exact (grows_passive hs hpassive h).1
  · cases action with
    | journal op =>
      obtain ⟨p, ⟨env, hrun, -⟩, rfl⟩ := h
      have hstepped := op.run_stepped env hs.consistent
      rw [hrun] at hstepped
      exact ⟨hstepped.weaken (Changes.within_any _), fun _ h => h, rfl, fun _ h => h⟩
    | exchange request =>
      obtain rfl : s' = (s.handOver request).receive port reply := h
      refine ⟨.refl hs.consistent, fun _ h => h, ?_, fun x hx => List.mem_append_right _ hx⟩
      cases request with
      | prepare request => rfl
      | query request => rfl
      | commit request => exact hnocommit.elim
    | _ => exact absurd trivial hpassive

theorem Grows.holds (h : s.Grows s') {k : EffectId} {P : CoordinationJournalRecord → Prop}
    (hextends : ∀ r r', r.Extends .any r' → P r → P r') (hs : s.journal.Holds k P) :
    s'.journal.Holds k P :=
  h.journal.holds hextends hs

theorem Grows.authentic (h : s.Grows s') {o : SignedEffectOutcome} (ho : s.Authentic o) :
    s'.Authentic o := by
  obtain ⟨port, hreceived, htrusts⟩ := ho
  exact ⟨port, h.received _ hreceived, htrusts⟩

theorem Grows.fresh (h : s.Grows s') {nonce : String} (hs : s.Fresh nonce) : s'.Fresh nonce := by
  refine ⟨h.nonces _ hs.1, ?_⟩
  rw [h.commits]
  exact hs.2

end GatewayState

/-! ## The contract of a call -/

/-- A commit may be sent once its attempt is durable, under a nonce that is its own. An operation
    closes only what has no commit attempt and brings in only outcomes that are authentic. -/
def portContract (port : CoordinatedPort) : Contract GatewayState PortAct PortAct.Reply where
  invariant := GatewayState.Sound
  rely := Eq
  perform := GatewayState.perform port
  allowed s
    | .exchange (.commit m) => s.Fresh m.requestNonce ∧
        s.journal.Holds m.effect.effectId (fun r => r.RetainsCommit m)
    | .journal op => op.closesUncommitted s.journal ∧
        ∀ o, (op.changes s.journal).outcome o → s.Authentic o
    | _ => True

variable {port : CoordinatedPort} {s s' : GatewayState}

theorem portContract_allowed {action : PortAct} (h : action.Passive) :
    (portContract port).allowed s action := by
  cases action with
  | journal op => exact h.elim
  | exchange request => exact h.elim
  | _ => trivial

omit [Primitives] [RecordCodec] in
theorem retainsOutcome_of_extends {changes : Changes} {r r' : CoordinationJournalRecord}
    {o : SignedEffectOutcome} (h : r.Extends changes r') (ho : r'.RetainsOutcome o) :
    r.RetainsOutcome o ∨ changes.outcome o := by
  obtain ⟨b, hb, hbo⟩ := ho
  obtain ⟨i, hi⟩ := List.getElem?_of_mem hb
  rcases h.newOutcome i b o hi hbo with ⟨a, ha, hao⟩ | ⟨hnew, -⟩
  · exact .inl ⟨a, List.mem_of_getElem? ha, hao⟩
  · exact .inr hnew

omit [RecordCodec] in
theorem not_retainsOutcome_newRecord (request : SignedEffectPrepareRequest)
    (receipt : Option CoordinationReceipt) (time : Time) (o : SignedEffectOutcome) :
    ¬ (newRecord request receipt time).RetainsOutcome o := by
  rintro ⟨a, ha, ho⟩
  obtain rfl := List.mem_singleton.mp ha
  cases ho

namespace GatewayState

theorem Sound.journal (hs : s.Sound) {op : GatewayOp} {env : OpEnv}
    (hclose : op.closesUncommitted s.journal)
    (houtcome : ∀ o, (op.changes s.journal).outcome o → s.Authentic o) :
    ({ s with journal := (op.run s.journal env).2 } : GatewayState).Sound := by
  have hstepped := op.run_stepped env hs.consistent
  have hany := hstepped.weaken (Changes.within_any _)
  refine ⟨hstepped.consistent, hs.drawn, hs.once, ?_, ?_, ?_⟩
  · intro m hm
    exact hany.holds (fun _ _ hext => hext.retainsCommit) (hs.retained m hm)
  · exact (hstepped.weaken (GatewayOp.changes_within hclose)).everywhere
      (fun _ _ => committedCloseRetains_extends) committedCloseRetains_newRecord hs.closed
  · refine hstepped.everywhere ?_ ?_ hs.authentic
    · intro r r' hext hr o ho
      rcases retainsOutcome_of_extends hext ho with hold | hnew
      · exact hr o hold
      · exact houtcome o hnew
    · intro request receipt time o ho
      exact absurd ho (not_retainsOutcome_newRecord request receipt time o)

theorem Sound.handOver (hs : s.Sound) {request : PortRequest}
    (hallowed : (portContract port).allowed s (.exchange request)) :
    (s.handOver request).Sound := by
  cases request with
  | prepare request =>
    exact ⟨hs.consistent, hs.drawn, hs.once, hs.retained, hs.closed, hs.authentic⟩
  | query request =>
    exact ⟨hs.consistent, hs.drawn, hs.once, hs.retained, hs.closed, hs.authentic⟩
  | commit request =>
    obtain ⟨⟨hdrawn, hunused⟩, hretained⟩ := hallowed
    refine ⟨hs.consistent, ?_, ?_, ?_, hs.closed, hs.authentic⟩
    · intro m hm
      rcases List.mem_cons.mp hm with rfl | hm
      · exact hdrawn
      · exact hs.drawn m hm
    · refine List.nodup_cons.mpr ⟨?_, hs.once⟩
      intro hmem
      obtain ⟨m, hm, hsame⟩ := List.mem_map.mp hmem
      exact hunused m hm hsame
    · intro m hm
      rcases List.mem_cons.mp hm with rfl | hm
      · exact hretained
      · exact hs.retained m hm

theorem Sound.receive (hs : s.Sound) (port : CoordinatedPort) (reply : ExchangeResult) :
    (s.receive port reply).Sound := by
  have hmore : ∀ o, s.Authentic o → (s.receive port reply).Authentic o := by
    rintro o ⟨p, hreceived, htrusts⟩
    exact ⟨p, List.mem_append_right _ hreceived, htrusts⟩
  exact ⟨hs.consistent, hs.drawn, hs.once, hs.retained, hs.closed,
    ⟨fun k e he o ho => hmore o (hs.authentic.1 k e he o ho),
      fun k e he o ho => hmore o (hs.authentic.2 k e he o ho)⟩⟩

theorem Sound.restart (hs : s.Sound) : s.restart.Sound :=
  ⟨Journal.consistent_restart hs.consistent, hs.drawn, hs.once,
    fun m hm => Journal.holds_restart (hs.retained m hm), ⟨hs.closed.2, hs.closed.2⟩,
    ⟨hs.authentic.2, hs.authentic.2⟩⟩

/-- An allowed action keeps the invariant. -/
theorem sound_perform {action : PortAct} {reply : action.Reply} (hs : s.Sound)
    (hallowed : (portContract port).allowed s action) (h : s.perform port action reply s') :
    s'.Sound := by
  cases action with
  | journal op =>
    obtain ⟨p, ⟨env, hrun, hnow⟩, rfl⟩ := h
    have hsound : ({ s with journal := (op.run s.journal env).2 } : GatewayState).Sound :=
      hs.journal hallowed.1 hallowed.2
    rw [hrun] at hsound
    exact ⟨hsound.consistent, hsound.drawn, hsound.once, hsound.retained, hsound.closed,
      hsound.authentic⟩
  | exchange request =>
    obtain rfl : s' = (s.handOver request).receive port reply := h
    exact (hs.handOver hallowed).receive port reply
  | nonce =>
    obtain ⟨-, rfl⟩ := h
    exact ⟨hs.consistent, fun m hm => List.mem_cons_of_mem _ (hs.drawn m hm), hs.once, hs.retained,
      hs.closed, hs.authentic⟩
  | clock =>
    obtain ⟨p, ⟨-, rfl⟩, rfl⟩ := h
    exact ⟨hs.consistent, hs.drawn, hs.once, hs.retained, hs.closed, hs.authentic⟩
  | trust =>
    obtain ⟨p, rfl, rfl⟩ := h
    exact hs
  | findAction | get | pending =>
    obtain ⟨p, ⟨-, rfl⟩, rfl⟩ := h
    exact hs

end GatewayState

/-! ## Rules -/

/-- The operations that close nothing and bring in no outcome. -/
def GatewayOp.Quiet : GatewayOp → Prop
  | .retainCommitOutcome .. | .completeQuery .. | .closeNotDispatched .. => False
  | .begin .. | .retainPreparation .. | .beginCommit .. | .markCommitUnknown .. | .beginQuery ..
  | .failQuery .. => True

/-- The actions that may be performed at any time. -/
def PortAct.Harmless : PortAct → Prop
  | .exchange request => PortAct.NoCommit (.exchange request)
  | .journal op => op.Quiet
  | _ => True

omit [Primitives] [RecordCodec] in
theorem PortAct.Passive.harmless {action : PortAct} (h : action.Passive) : action.Harmless := by
  cases action with
  | journal op => exact h.elim
  | exchange request => exact h.elim
  | _ => trivial

omit [Primitives] [RecordCodec] in
theorem PortAct.Harmless.noCommit {action : PortAct} (h : action.Harmless) :
    action.NoCommit := by
  cases action with
  | exchange request => exact h
  | _ => trivial

omit [RecordCodec] in
theorem Program.Uses.portHarmless {α : Type} {p : PortProgram α} (h : p.Uses PortAct.Passive) :
    p.Uses PortAct.Harmless :=
  uses_mono (fun _ => PortAct.Passive.harmless) h

theorem portContract_harmless {action : PortAct} (h : action.Harmless) :
    (portContract port).allowed s action := by
  cases action with
  | exchange request =>
    cases request with
    | commit request => exact h.elim
    | _ => trivial
  | journal op =>
    cases op with
    | retainCommitOutcome => exact h.elim
    | completeQuery => exact h.elim
    | closeNotDispatched => exact h.elim
    | _ => exact ⟨trivial, fun _ ho => ho.elim⟩
  | _ => trivial

theorem keeps_harmless {P : GatewayState → Prop} (hP : ∀ s s', s.Grows s' → P s → P s')
    (action : PortAct) (h : action.Harmless) : (portContract port).Keeps P action := by
  intro s hsound hs
  refine ⟨portContract_harmless h, ?_⟩
  intro reply s' hperform _
  exact hP s s' (GatewayState.grows_perform hsound h.noCommit hperform) hs

/-- A part of a call that may be performed at any time keeps what growth keeps. -/
theorem guarded_harmless_keeps {α β : Type} {p : PortProgram α} {f : α → PortProgram β}
    {Q : β → GatewayState → Prop} {P : GatewayState → Prop} (hp : p.Uses PortAct.Harmless)
    (hP : ∀ s s', s.Grows s' → P s → P s') (hs : P s)
    (hf : ∀ a s', P s' → (f a).Guarded (portContract port) (Returns Q) s') :
    (p >>= f).Guarded (portContract port) (Returns Q) s := by
  refine guarded_keeps_bind ?_ (uses_mono (keeps_harmless hP) hp) hs hf
  rintro s _ rfl _ hPs
  exact hPs

theorem guarded_harmless_first {α β : Type} {p : PortProgram α} {f : α → PortProgram β}
    {Q : β → GatewayState → Prop} (hp : p.Uses PortAct.Harmless)
    (hf : ∀ a s', (f a).Guarded (portContract port) (Returns Q) s') :
    (p >>= f).Guarded (portContract port) (Returns Q) s :=
  guarded_harmless_keeps hp (fun _ _ _ _ => trivial) trivial (fun a s' _ => hf a s')

theorem guarded_harmless {α : Type} {p : PortProgram α} (hp : p.Uses PortAct.Harmless) :
    p.Guarded (portContract port) (Returns fun _ _ => True) s := by
  refine guarded_mono ?_ (guarded_of_keeps (P := fun _ => True) (fun _ _ _ _ _ => trivial)
    (uses_mono (keeps_harmless (fun _ _ _ _ => trivial)) hp) trivial)
  intro result _ _
  cases result with
  | ok a => trivial
  | error e => trivial

/-- A handler that ends by raising promises anything of what it returns. -/
theorem guarded_raising {α : Type} {p : PortProgram α} {Q : α → GatewayState → Prop}
    (hp : p.Uses PortAct.Harmless) (hraising : p.Raising) :
    p.Guarded (portContract port) (Returns Q) s := by
  induction p generalizing s with
  | done result =>
    cases result with
    | ok a => exact hraising.elim
    | error e => trivial
  | act action next ih =>
    rintro s₁ rfl hsound
    refine ⟨portContract_harmless hp.1, ?_⟩
    intro reply s' _ _
    exact ih reply (hp.2 reply) (hraising reply)

theorem guarded_catching_raising {α : Type} {p : PortProgram α}
    {handler : PortError → PortProgram α} {Q : α → GatewayState → Prop}
    (hp : p.Guarded (portContract port) (Returns Q) s)
    (hhandler : ∀ e, (handler e).Uses PortAct.Harmless) (hraising : ∀ e, (handler e).Raising) :
    (p.catching handler).Guarded (portContract port) (Returns Q) s := by
  refine guarded_catching.mpr (guarded_mono ?_ hp)
  intro result s' hresult
  cases result with
  | ok a => exact hresult
  | error e => exact guarded_raising (hhandler e) (hraising e)

end

end AegisOt
