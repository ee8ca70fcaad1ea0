import AegisOt.Control.Proofs.Commits
import AegisOt.Control.Sample

/-!
# What a closed loop reports

Each program of `physical_control.py` is guarded, statement by statement: the device reaches the
plant only under its lock, with a permit that nobody used and that is now reserved, and what it
acknowledges is what it did. The controller adds nothing to that. The two results are for any
number of threads in any interleaving.
-/

namespace AegisOt

open Program Interleaving
open CapabilityVirtualPlc (firstFailure)

/-! ## Reports -/

/-- At most the command of this permit. -/
def AtMost (permit : ExecutionPermit) (commits : List PhysicalCommit) : Prop :=
  commits.length ≤ 1 ∧ ∀ c ∈ commits, c.permit = permit

theorem atMost_nil (permit : ExecutionPermit) : AtMost permit [] :=
  ⟨Nat.zero_le _, List.forall_mem_nil _⟩

theorem atMost_singleton {permit : ExecutionPermit} {c : PhysicalCommit} (h : c.permit = permit) :
    AtMost permit [c] :=
  ⟨le_refl _, List.forall_mem_singleton.mpr h⟩

/-- The acknowledgment tells what was carried out while the device worked on a permit. -/
def CommandAcknowledgment.Truthful (a : CommandAcknowledgment) (permit : ExecutionPermit)
    (commits : List PhysicalCommit) : Prop :=
  match a.status with
  | .applied => ∃ c, commits = [c] ∧ c.permit = permit ∧
      a.postStateDigest = some c.snapshot.stateDigest ∧
      a.postStateVersion = some c.snapshot.stateVersion
  | .rejected => commits = []
  | .unknownEffect => AtMost permit commits

/-- The result tells what was carried out during a call of the controller. -/
def ClosedLoopResult.Truthful (r : ClosedLoopResult) (commits : List PhysicalCommit) : Prop :=
  match r.status with
  | .completed => ∃ c post, commits = [c] ∧ r.permit = some c.permit ∧ r.postState = some post ∧
      post.stateDigest = c.snapshot.stateDigest ∧ post.stateVersion = c.snapshot.stateVersion
  | .unknownEffect => ∃ permit, r.permit = some permit ∧ AtMost permit commits
  | _ => commits = []

theorem CommandAcknowledgment.Truthful.atMost {a : CommandAcknowledgment}
    {permit : ExecutionPermit} {commits : List PhysicalCommit} (h : a.Truthful permit commits) :
    AtMost permit commits := by
  unfold CommandAcknowledgment.Truthful at h
  cases hstatus : a.status with
  | applied =>
    rw [hstatus] at h
    obtain ⟨c, rfl, hpermit, -⟩ := h
    exact atMost_singleton hpermit
  | rejected =>
    rw [hstatus] at h
    subst h
    exact atMost_nil permit
  | unknownEffect =>
    rw [hstatus] at h
    exact h

/-- What the end of a request says about the commands its thread gave. -/
def ControlRequest.Ended : ControlRequest → Except ControlError ControlAnswer →
    List PhysicalCommit → Prop
  | .control proposal, .ok (.result r), commits => r.proposal = proposal ∧ r.Truthful commits
  | .control _, .ok _, _ => False
  | .control _, .error _, commits => commits = []
  | .present permit _ _ _, .ok (.acknowledgment a), commits => a.Truthful permit commits
  | .present _ _ _ _, .ok _, _ => False
  | .present permit _ _ _, .error _, commits => AtMost permit commits
  | .capture, _, commits => commits = []

/-! ## What the other threads do not change -/

section

variable {ι : Type} [DecidableEq ι] {i : ι} {commits : List PhysicalCommit}

open ControlState

/-- The other threads do not change it. -/
def Stable (i : ι) (Q : ControlState ι → Prop) : Prop := ∀ s s', Rely i s s' → Q s → Q s'

/-- The thread is outside the device and has given these commands. -/
def Outside (i : ι) (commits : List PhysicalCommit) (s : ControlState ι) : Prop :=
  s.holder ≠ some i ∧ s.commitsOf i = commits

/-- The thread holds the device and has given these commands. -/
def Inside (i : ι) (commits : List PhysicalCommit) (s : ControlState ι) : Prop :=
  s.holder = some i ∧ s.commitsOf i = commits

theorem stable_outside : Stable i (Outside i commits) := by
  rintro s s' hrely ⟨hholder, hcommits⟩
  exact ⟨fun h => hholder (hrely.holder.mp h), hrely.commitsOf.trans hcommits⟩

theorem stable_inside : Stable i (Inside i commits) := by
  rintro s s' hrely ⟨hholder, hcommits⟩
  exact ⟨hrely.holder.mpr hholder, hrely.commitsOf.trans hcommits⟩

variable {s : ControlState ι} {before : List PhysicalCommit} {permit : ExecutionPermit}

namespace PermitAwareVirtualControlDevice

/-- What the device says about a permit it worked on under its lock. -/
def Acknowledged (i : ι) (permit : ExecutionPermit) (before : List PhysicalCommit)
    (result : Except ControlError CommandAcknowledgment) (s : ControlState ι) : Prop :=
  ∃ commits, Inside i (commits ++ before) s ∧
    match result with
    | .ok a => a.Truthful permit commits
    | .error _ => AtMost permit commits

theorem acknowledged_error (commits : List PhysicalCommit) {e : ControlError}
    (h : Inside i (commits ++ before) s)
    (hcommits : AtMost permit commits) : Acknowledged i permit before (.error e) s :=
  ⟨commits, h, hcommits⟩

/-- An exception before anything was carried out. -/
theorem acknowledged_nothing (h : Inside i before s) (e : ControlError) :
    Acknowledged i permit before (.error e) s :=
  acknowledged_error [] h (atMost_nil permit)

theorem stable_held : Stable i (fun s => Inside i commits s ∧ permit.Held s.consumed) := by
  rintro s s' hrely ⟨hinside, hheld⟩
  exact ⟨stable_inside s s' hrely hinside, (hrely.locked hinside.1).1 ▸ hheld⟩

variable [Primitives] {lab : PhysicalLocalLab}

/-- The permit may be reserved. -/
def Admitted (lab : PhysicalLocalLab) (permit : ExecutionPermit) (s : ControlState ι) : Prop :=
  permit.Unused s.committed ∧ lab.Trusts permit ∧ permit ∈ s.issued

theorem stable_admitted :
    Stable i (fun s => Inside i commits s ∧ Admitted lab permit s) := by
  rintro s s' hrely ⟨hinside, hunused, htrusts, hissued⟩
  have hcommitted : s'.committed = s.committed := by
    unfold committed
    rw [(hrely.locked hinside.1).2]
  exact ⟨stable_inside s s' hrely hinside, hcommitted ▸ hunused, htrusts, hrely.issued hissued⟩

end PermitAwareVirtualControlDevice

end

section

variable [Primitives] [PlantPrimitives] [Pandapower] [Binary64] [EvidencePrimitives] [ModelDump]
  [ControlPrimitives] {ι : Type} [DecidableEq ι]

open ControlState

/-- The promises of the threads. -/
def controlDiscipline (lab : PhysicalLocalLab) (start : ControlState ι) :
    Discipline ι (ControlState ι) ControlAct ControlRequest ControlError ControlAnswer where
  invariant := Sound lab start
  advances _ _ := True
  rely := Rely
  allowed := Allowed lab
  idle i s := s.holder ≠ some i
  post i request started result s := s.holder ≠ some i ∧
    ∃ commits, s.commitsOf i = commits ++ started.commitsOf i ∧ request.Ended result commits

variable {lab : PhysicalLocalLab} {start s : ControlState ι} {i : ι}
  {before commits : List PhysicalCommit}

/-- The contract of one thread. -/
abbrev controlContract (lab : PhysicalLocalLab) (start : ControlState ι) (i : ι) :
    Contract (ControlState ι) ControlAct ControlAct.Reply :=
  (controlDiscipline lab start).contract (controlThreads ι lab) i

/-! ## Rules -/

variable {α : Type} {Q : ControlState ι → Prop}
  {post : Except ControlError α → ControlState ι → Prop}

/-- The rule of sequence for an action that is quiet, with what it replied. -/
theorem guarded_perform_bind {action : ControlAct} {f : action.Reply → ControlProgram α}
    (haction : Quiet action) (hstable : Stable i Q) (hs : Q s)
    (hf : ∀ reply s₁ s', Sound lab start s₁ → Q s₁ → s₁.perform lab i action reply s' → Q s' →
      (f reply).Guarded (controlContract lab start i) post s') :
    (ControlProgram.perform action >>= f).Guarded (controlContract lab start i) post s := by
  intro s₁ hrely hsound
  have hs₁ := hstable s s₁ hrely hs
  refine ⟨?_, ?_⟩
  · cases action with
    | applyAuthorizedCommand _ => exact haction.elim
    | sign _ => exact haction.elim
    | reserve _ => exact haction.elim
    | leave => exact haction.elim
    | _ => trivial
  · intro reply s' hperform _
    have hundisturbed := undisturbed_of_quiet haction hperform
    exact hf reply s₁ s' hsound hs₁ hperform (hstable s₁ s' hundisturbed.rely hs₁)

/-- Its reply does not matter. -/
theorem guarded_unmoved_bind {action : ControlAct} {f : action.Reply → ControlProgram α}
    (haction : Quiet action) (hstable : Stable i Q) (hs : Q s)
    (hf : ∀ reply s', Q s' → (f reply).Guarded (controlContract lab start i) post s') :
    (ControlProgram.perform action >>= f).Guarded (controlContract lab start i) post s :=
  guarded_perform_bind haction hstable hs fun reply _ s' _ _ _ => hf reply s'

theorem guarded_clock_bind {f : Time → ControlProgram α} (hstable : Stable i Q) (hs : Q s)
    (herror : ∀ e s', Q s' → post (.error e) s')
    (hf : ∀ time s', Q s' → (f time).Guarded (controlContract lab start i) post s') :
    (ControlProgram.clock >>= f).Guarded (controlContract lab start i) post s := by
  rw [guarded_bind]
  refine guarded_unmoved_bind trivial hstable hs ?_
  intro reading s' hs'
  cases reading with
  | error description => exact herror _ s' hs'
  | ok time => exact hf time s' hs'

theorem guarded_answered_bind {β : Type} {reply : Except PlantError β} {f : β → ControlProgram α}
    (herror : ∀ e, post (.error e) s)
    (hf : ∀ b, reply = .ok b → (f b).Guarded (controlContract lab start i) post s) :
    (ControlProgram.answered reply >>= f).Guarded (controlContract lab start i) post s := by
  cases reply with
  | error e => exact herror _
  | ok b => exact hf b rfl

/-! ## The device -/

namespace PermitAwareVirtualControlDevice

variable {device : PermitAwareVirtualControlDevice} {permit : ExecutionPermit} {scan : Nat}
  {preState : PhysicalStateSnapshot} {proposal : ActionProposal} {decision : Decision}
  {assessment : CandidateAssessment}

theorem acknowledge_guarded (commits : List PhysicalCommit) {d : Disposition}
    (h : Inside i (commits ++ before) s)
    (htruthful : ∀ id, (device.acknowledgment id scan permit preState d).Truthful permit commits) :
    (device.acknowledge scan permit preState d).Guarded (controlContract lab start i)
      (Acknowledged i permit before) s := by
  refine guarded_unmoved_bind trivial stable_inside h ?_
  intro id s' hs'
  refine guarded_result_seq ?_ ?_
  · intro _ _
    exact ⟨commits, hs', htruthful id⟩
  · exact fun e => acknowledged_error _ hs' (htruthful id).atMost

/-- A clock reading before an acknowledgment. -/
theorem clock_acknowledge_guarded (commits : List PhysicalCommit) {d : Time → Disposition}
    (h : Inside i (commits ++ before) s)
    (htruthful : ∀ time id,
      (device.acknowledgment id scan permit preState (d time)).Truthful permit commits) :
    (ControlProgram.clock >>= fun time => device.acknowledge scan permit preState (d time)).Guarded
      (controlContract lab start i) (Acknowledged i permit before) s := by
  refine guarded_clock_bind stable_inside h ?_ ?_
  · exact fun e s' hs' => acknowledged_error _ hs' (htruthful 0 "").atMost
  · exact fun time s' hs' => acknowledge_guarded _ hs' (htruthful time)

theorem applyCommand_guarded (hinside : Inside i before s) (hadmitted : Admitted lab permit s)
    (hheld : permit.Held s.consumed) :
    (device.applyCommand scan permit preState).Guarded (controlContract lab start i)
      (Acknowledged i permit before) s := by
  intro s₁ hrely _
  obtain ⟨hinside₁, hunused, htrusts, hissued⟩ :=
    stable_admitted s s₁ hrely ⟨hinside, hadmitted⟩
  have hheld₁ := (stable_held s s₁ hrely ⟨hinside, hheld⟩).2
  refine ⟨⟨hinside₁.1, hheld₁, hunused, htrusts, hissued⟩, ?_⟩
  rintro reply s' ⟨observed, plant, -, rfl⟩ -
  rcases reply with (reason | description) | postState
  · refine clock_acknowledge_guarded [] hinside₁ ?_
    exact fun _ _ => rfl
  · refine clock_acknowledge_guarded [] hinside₁ ?_
    exact fun _ _ => atMost_nil permit
  · have hinside' : Inside i ([⟨permit, s₁.plant, postState, plant⟩] ++ before)
        (s₁.applied i permit (.ok postState) plant) :=
      ⟨hinside₁.1, (commitsOf_cons_self _ rfl).trans (congrArg _ hinside₁.2)⟩
    refine guarded_clock_bind stable_inside hinside' ?_ ?_
    · exact fun e s' hs' => acknowledged_error _ hs' (atMost_singleton rfl)
    · intro acknowledgedAt s' hs'
      split
      · exact acknowledge_guarded _ hs' fun _ => atMost_singleton rfl
      · exact acknowledge_guarded _ hs' fun _ => ⟨_, rfl, rfl, rfl, rfl⟩

theorem dispatchCandidate_guarded (hinside : Inside i before s)
    (hadmitted : Admitted lab permit s) :
    (device.dispatchCandidate scan permit assessment preState).Guarded
      (controlContract lab start i) (Acknowledged i permit before) s := by
  refine guarded_unmoved_bind trivial stable_admitted ⟨hinside, hadmitted⟩ ?_
  intro simulated s₁ hs₁
  refine guarded_answered_bind (acknowledged_nothing hs₁.1) ?_
  intro fresh _
  refine guarded_clock_bind stable_admitted hs₁ ?_ ?_
  · exact fun e s' hs' => acknowledged_nothing hs'.1 e
  intro commitTime s₂ hs₂
  split_ifs
  · exact acknowledge_guarded [] hs₂.1 fun _ => rfl
  · exact acknowledge_guarded [] hs₂.1 fun _ => rfl
  · -- the three values are reserved before the plant is reached
    intro s₃ hrely _
    obtain ⟨hinside₃, hadmitted₃⟩ := stable_admitted s₂ s₃ hrely hs₂
    refine ⟨hinside₃.1, ?_⟩
    rintro ⟨⟩ s' rfl _
    exact applyCommand_guarded hinside₃ hadmitted₃ (permit.held_add _)

omit [PlantPrimitives] [Pandapower] [Binary64] [EvidencePrimitives] [ModelDump]
  [ControlPrimitives] in
/-- Checks that all passed. -/
theorem of_firstFailure {evaluatedAt : Time} {consumed : ConsumedAuthorizations}
    (h : firstFailure (lab.controlDevice.checks permit proposal decision assessment evaluatedAt
      preState consumed) = none) :
    lab.Trusts permit ∧ permit.permitId ∉ consumed.permits ∧
      permit.permitNonce ∉ consumed.nonces ∧ permit.command.commandId ∉ consumed.commands := by
  have hpassed (check : Bool × String) (hcheck : check ∈ lab.controlDevice.checks permit proposal
      decision assessment evaluatedAt preState consumed) : check.1 = true := by
    have hnone := List.find?_eq_none.mp (Option.map_eq_none_iff.mp h) check hcheck
    simpa using hnone
  have hsignature := hpassed (_, "permit_signature_invalid") (by
    unfold checks
    iterate 2 apply List.mem_cons_of_mem
    exact List.mem_cons_self)
  have hpermit := hpassed (_, "permit_replayed") (by
    unfold checks
    iterate 19 apply List.mem_cons_of_mem
    exact List.mem_cons_self)
  have hnonce := hpassed (_, "permit_nonce_replayed") (by
    unfold checks
    iterate 20 apply List.mem_cons_of_mem
    exact List.mem_cons_self)
  have hcommand := hpassed (_, "command_replayed") (by
    unfold checks
    iterate 21 apply List.mem_cons_of_mem
    exact List.mem_cons_self)
  refine ⟨?_, of_decide_eq_true hpermit, of_decide_eq_true hnonce, of_decide_eq_true hcommand⟩
  exact (Option.any_eq_true _ _).mp hsignature

theorem executeLocked_guarded (hinside : Inside i before s)
    (hissued : lab.Trusts permit → permit ∈ s.issued) :
    (lab.controlDevice.executeLocked permit proposal decision assessment).Guarded
      (controlContract lab start i) (Acknowledged i permit before) s := by
  have hstable : Stable i (fun s => Inside i before s ∧
      (lab.Trusts permit → permit ∈ s.issued)) := by
    rintro s s' hrely ⟨hs, hissued⟩
    exact ⟨stable_inside s s' hrely hs, fun htrusts => hrely.issued (hissued htrusts)⟩
  refine guarded_clock_bind hstable ⟨hinside, hissued⟩ ?_ ?_
  · exact fun e s' hs' => acknowledged_nothing hs'.1 e
  intro evaluatedAt s₁ hs₁
  refine guarded_unmoved_bind trivial hstable hs₁ ?_
  intro scan s₂ hs₂
  refine guarded_unmoved_bind trivial hstable hs₂ ?_
  intro state s₃ hs₃
  refine guarded_answered_bind (acknowledged_nothing hs₃.1) ?_
  intro preState _
  refine guarded_perform_bind trivial hstable hs₃ ?_
  rintro consumed s₄ s' hsound hs₄ ⟨rfl, rfl⟩ -
  cases hfailure : firstFailure (lab.controlDevice.checks permit proposal decision assessment
    evaluatedAt preState s'.consumed) with
  | some reason => exact acknowledge_guarded [] hs₄.1 fun _ => rfl
  | none =>
    obtain ⟨htrusts, hpermit, hnonce, hcommand⟩ := of_firstFailure hfailure
    have hunused := ExecutionPermit.unused_of_not_mem hsound.held hpermit hnonce hcommand
    exact dispatchCandidate_guarded hs₄.1 ⟨hunused, htrusts, hs₄.2 htrusts⟩

/-- The same once the lock is released. -/
def Answered (i : ι) (permit : ExecutionPermit) (before : List PhysicalCommit)
    (result : Except ControlError CommandAcknowledgment) (s : ControlState ι) : Prop :=
  ∃ commits, Outside i (commits ++ before) s ∧
    match result with
    | .ok a => a.Truthful permit commits
    | .error _ => AtMost permit commits

theorem execute_guarded (houtside : Outside i before s)
    (hissued : lab.Trusts permit → permit ∈ s.issued) :
    (lab.controlDevice.execute permit proposal decision assessment).Guarded
      (controlContract lab start i) (Answered i permit before) s := by
  intro s₁ hrely _
  refine ⟨trivial, ?_⟩
  rintro ⟨⟩ s₂ ⟨-, rfl⟩ _
  have hinside : Inside i before { s₁ with holder := some i } :=
    ⟨rfl, (stable_outside s s₁ hrely houtside).2⟩
  refine guarded_ensuring.mpr (guarded_mono ?_
    (executeLocked_guarded hinside fun htrusts => hrely.issued (hissued htrusts)))
  rintro result s₃ ⟨commits, hcommits, hresult⟩ s₄ hrely' -
  have hinside₄ := stable_inside s₃ s₄ hrely' hcommits
  refine ⟨hinside₄.1, ?_⟩
  rintro ⟨⟩ s' rfl _
  exact ⟨commits, ⟨(Option.some_ne_none i).symm, hinside₄.2⟩, hresult⟩

end PermitAwareVirtualControlDevice

/-! ## The issuer -/

/-- A permit was issued, and nothing was carried out. -/
def Issued (i : ι) (before : List PhysicalCommit) (result : Except ControlError ExecutionPermit)
    (s : ControlState ι) : Prop :=
  Outside i before s ∧ ∀ permit, result = .ok permit → permit ∈ s.issued

omit [PlantPrimitives] [Pandapower] [Binary64] [EvidencePrimitives] [ModelDump]
  [ControlPrimitives] [Primitives] in
theorem issued_error {e : ControlError} (h : Outside i before s) : Issued i before (.error e) s :=
  ⟨h, fun _ hok => by cases hok⟩

theorem ExecutionPermitIssuer.issue_guarded {proposal : ActionProposal} {decision : Decision}
    {command : PhysicalControlCommand} {assessment : CandidateAssessment}
    (houtside : Outside i before s) :
    (lab.permitIssuer.issue proposal decision command assessment).Guarded
      (controlContract lab start i) (Issued i before) s := by
  refine guarded_clock_bind stable_outside houtside (fun e s' hs' => issued_error hs') ?_
  intro issuedAt s₁ hs₁
  refine guarded_result_seq ?_ fun e => issued_error hs₁
  intro evidenceRecordHash harguments
  refine guarded_unmoved_bind trivial stable_outside hs₁ ?_
  intro verified s₂ hs₂
  refine guarded_bind.mpr (guarded_require.mpr ⟨fun _ => issued_error hs₂, fun _ => ?_⟩)
  refine guarded_perform_bind trivial stable_outside hs₂ ?_
  rintro records s₃ s' - - ⟨rfl, rfl⟩ hs₃
  refine guarded_result_seq ?_ fun e => issued_error hs₃
  rintro ⟨⟩ hevidence
  -- the record stays in the chain while the permit is made
  have hstable : Stable i (fun s => Outside i before s ∧ ∀ permitId permitNonce,
      (lab.permitIssuer.unsigned proposal decision command assessment evidenceRecordHash issuedAt
        permitId permitNonce).Authorized s.evidence.records) := by
    rintro s s' hrely ⟨hs, hauthorized⟩
    exact ⟨stable_outside s s' hrely hs, fun permitId permitNonce =>
      (hauthorized permitId permitNonce).mono hrely.evidence⟩
  have hauthorized :=
    @ExecutionPermitIssuer.unsigned_authorized _ _ lab.permitIssuer _ _ _ _ _ _ harguments
    hevidence issuedAt
  refine guarded_unmoved_bind trivial hstable ⟨hs₃, hauthorized⟩ ?_
  intro permitId s₄ hs₄
  refine guarded_unmoved_bind trivial hstable hs₄ ?_
  intro permitNonce s₅ hs₅
  refine guarded_result_seq ?_ fun e => issued_error hs₅.1
  rintro ⟨⟩ -
  intro s₆ hrely _
  obtain ⟨hs₆, hauthorized₆⟩ := hstable s₅ s₆ hrely hs₅
  refine ⟨hauthorized₆ permitId permitNonce, ?_⟩
  rintro permit s' ⟨rfl, rfl⟩ -
  refine ⟨hs₆, ?_⟩
  rintro _ ⟨rfl⟩
  exact List.mem_cons_self

/-! ## The controller -/

namespace PhysicalClosedLoopController

variable {proposal : ActionProposal} {preState : PhysicalStateSnapshot} {decision : Decision}
  {command : PhysicalControlCommand} {assessment : CandidateAssessment}
  {permit : ExecutionPermit}

/-- What a call of the controller says. -/
def Reported (i : ι) (proposal : ActionProposal) (before : List PhysicalCommit)
    (result : Except ControlError ClosedLoopResult) (s : ControlState ι) : Prop :=
  ∃ commits, Outside i (commits ++ before) s ∧
    match result with
    | .ok r => r.proposal = proposal ∧ r.Truthful commits
    | .error _ => commits = []

omit [PlantPrimitives] [Pandapower] [Binary64] [EvidencePrimitives] [ModelDump]
  [ControlPrimitives] [Primitives] in
theorem reported_error {e : ControlError} (h : Outside i before s) :
    Reported i proposal before (.error e) s := ⟨[], h, rfl⟩

/-- A record of a disposition that passes its own validator. -/
theorem record_guarded (commits : List PhysicalCommit) {d : ClosedLoopDisposition}
    (h : Outside i (commits ++ before) s)
    (hvalid : ∀ hash, ({ d with executionEvidenceHash := hash } : ClosedLoopResult).validate =
      .ok ())
    (htruthful : ∀ hash,
      ({ d with executionEvidenceHash := hash } : ClosedLoopResult).Truthful commits) :
    (record d).Guarded (controlContract lab start i) (Reported i d.proposal before) s := by
  refine guarded_unmoved_bind trivial stable_outside h ?_
  intro appended s' hs'
  dsimp only
  rw [hvalid appended.recordHash]
  exact ⟨commits, hs', rfl, htruthful _⟩

omit [Primitives] [PlantPrimitives] [Pandapower] [Binary64] [EvidencePrimitives] [ModelDump]
  [ControlPrimitives] [DecidableEq ι] in
/-- Only a completed result and an unknown effect are checked. -/
theorem validate_of_status {r : ClosedLoopResult} (hcompleted : r.status ≠ .completed)
    (hunknown : r.status = .unknownEffect → r.postState = none) : r.validate = .ok () := by
  unfold ClosedLoopResult.validate
  rw [if_neg hcompleted]
  change refuseIf _ _ = _
  rw [refuseIf_eq_ok]
  rintro ⟨hstatus, hpost⟩
  exact hpost (hunknown hstatus)

/-- A record of a disposition that stands for no command. -/
theorem record_nothing_guarded {d : ClosedLoopDisposition} (h : Outside i before s)
    (hstatus : d.status = .notDispatched ∨ d.status = .candidateRejected ∨
      d.status = .deviceRejected) :
    (record d).Guarded (controlContract lab start i) (Reported i d.proposal before) s := by
  refine record_guarded [] h ?_ ?_
  · intro hash
    rcases hstatus with hstatus | hstatus | hstatus
    all_goals
      refine validate_of_status ?_ ?_
      · simp [hstatus]
      · simp [hstatus]
  · intro hash
    rcases hstatus with hstatus | hstatus | hstatus
    all_goals simp [ClosedLoopResult.Truthful, hstatus]

/-- A disposition that claims no effect. -/
theorem unestablished_guarded {reasons : List String} {a : Option CommandAcknowledgment}
    {lastObservedState : PhysicalStateSnapshot}
    (h : Outside i (commits ++ before) s) (hatMost : AtMost permit commits) :
    (record (dispatched .unknownEffect reasons proposal preState decision command assessment permit
      a none lastObservedState)).Guarded (controlContract lab start i)
        (Reported i proposal before) s := by
  refine record_guarded _ h ?_ ?_
  · exact fun hash => validate_of_status (fun hstatus => by cases hstatus) fun _ => rfl
  · exact fun hash => ⟨permit, rfl, hatMost⟩

theorem concluded_guarded {a : CommandAcknowledgment} {postState : PhysicalStateSnapshot}
    (h : Outside i (commits ++ before) s) (ha : a.Truthful permit commits) :
    (record (concluded lab proposal preState decision command assessment permit a
      postState)).Guarded (controlContract lab start i) (Reported i proposal before) s := by
  unfold concluded
  dsimp only
  by_cases happlied : a.status = .applied ∧ a.verifyForTransaction lab.acknowledgmentPublicKey
      permit preState postState lab.controlDevice.deviceId
      lab.controlDevice.acknowledgmentKeyId = true ∧ readbackMatches a postState = true
  · rw [if_pos happlied]
    obtain ⟨hstatus, -, hmatched⟩ := happlied
    obtain ⟨hdigest, hversion⟩ := of_decide_eq_true hmatched
    unfold CommandAcknowledgment.Truthful at ha
    rw [hstatus] at ha
    obtain ⟨c, rfl, rfl, hpostDigest, hpostVersion⟩ := ha
    refine record_guarded _ h ?_ ?_
    · intro hash
      simp [ClosedLoopResult.validate, dispatched, hstatus, hdigest, refuseIf]
    · intro hash
      exact ⟨c, postState, rfl, rfl, rfl, Option.some.inj (hdigest.symm.trans hpostDigest),
        Option.some.inj (hversion.symm.trans hpostVersion)⟩
  · rw [if_neg happlied]
    by_cases hrejected : a.status = .rejected ∧ a.verifyForTransaction
        lab.acknowledgmentPublicKey permit preState postState lab.controlDevice.deviceId
        lab.controlDevice.acknowledgmentKeyId = true
    · rw [if_pos hrejected]
      unfold CommandAcknowledgment.Truthful at ha
      rw [hrejected.1] at ha
      subst ha
      exact record_nothing_guarded h (.inr (.inr rfl))
    · rw [if_neg hrejected]
      exact unestablished_guarded h ha.atMost

theorem dispatch_guarded (houtside : Outside i before s) (hissued : permit ∈ s.issued) :
    (dispatch lab proposal preState decision command assessment permit).Guarded
      (controlContract lab start i) (Reported i proposal before) s := by
  refine guarded_attempt_bind.mpr (guarded_mono ?_
    (PermitAwareVirtualControlDevice.execute_guarded houtside fun _ => hissued))
  rintro result s₁ ⟨commits, hs₁, hresult⟩
  cases result with
  | error error => exact unestablished_guarded hs₁ hresult
  | ok a =>
    refine guarded_unmoved_bind trivial stable_outside hs₁ ?_
    intro readback s₂ hs₂
    cases readback with
    | error error => exact unestablished_guarded hs₂ hresult.atMost
    | ok postState => exact concluded_guarded hs₂ hresult

theorem assess_guarded (houtside : Outside i before s) :
    (assess lab proposal preState decision command).Guarded (controlContract lab start i)
      (Reported i proposal before) s := by
  refine guarded_unmoved_bind trivial stable_outside houtside ?_
  intro simulated s₁ hs₁
  refine guarded_answered_bind (fun e => reported_error hs₁) ?_
  intro assessment _
  split_ifs
  · exact record_nothing_guarded hs₁ (.inr (.inl rfl))
  · refine guarded_seq (ExecutionPermitIssuer.issue_guarded hs₁) ?_ ?_
    · exact fun permit s' hs' => dispatch_guarded hs'.1 (hs'.2 permit rfl)
    · exact fun e s' hs' => reported_error hs'.1

/-- A disposition without a command. -/
theorem undispatched_guarded {reasons : List String} (houtside : Outside i before s) :
    (record (undispatched .notDispatched reasons proposal preState decision)).Guarded
      (controlContract lab start i) (Reported i proposal before) s :=
  record_nothing_guarded houtside (.inl rfl)

theorem permitted_guarded (houtside : Outside i before s) :
    (permitted lab proposal preState decision).Guarded (controlContract lab start i)
      (Reported i proposal before) s := by
  refine guarded_unmoved_bind trivial stable_outside houtside ?_
  intro commandId s₁ hs₁
  cases TrustedCommandTranslator.translate lab.resourceBindings proposal commandId with
  | ok command => exact assess_guarded hs₁
  | error error =>
    cases error with
    | translation reason => exact undispatched_guarded hs₁
    | _ => exact reported_error hs₁

theorem execute_guarded (houtside : Outside i before s) :
    (execute lab proposal).Guarded (controlContract lab start i)
      (Reported i proposal before) s := by
  refine guarded_clock_bind stable_outside houtside (fun e s' hs' => reported_error hs') ?_
  intro evaluatedAt s₁ hs₁
  refine guarded_unmoved_bind trivial stable_outside hs₁ ?_
  intro captured s₂ hs₂
  refine guarded_answered_bind (fun e => reported_error hs₂) ?_
  intro preState _
  refine guarded_result_seq ?_ fun e => reported_error hs₂
  intro state _
  refine guarded_unmoved_bind trivial stable_outside hs₂ ?_
  intro decided s₃ hs₃
  refine guarded_result_seq ?_ fun e => reported_error hs₃
  intro decision _
  split_ifs
  · exact undispatched_guarded hs₃
  · exact permitted_guarded hs₃

end PhysicalClosedLoopController

/-! ## All threads -/

theorem controlThreads_sound : Interleaving.Sound (controlThreads ι lab)
    (controlDiscipline lab start) where
  advances_refl _ := trivial
  advances_trans _ _ := trivial
  rely_refl _ := .rfl
  rely_trans := Rely.trans
  act hsound hallowed hperform :=
    have hkept := sound_perform hsound hallowed hperform
    ⟨hkept.1, trivial, hkept.2⟩
  crash _ hcrash := hcrash.elim
  idle_stable hrely hidle := fun hholder => hidle (hrely.holder.mp hholder)
  post_stable hrely hpost := ⟨fun hholder => hpost.1 (hrely.holder.mp hholder),
    hpost.2.imp fun _ h => ⟨hrely.commitsOf.trans h.1, h.2⟩⟩
  idle_of_post hpost := hpost.1
  begin {i s} request _ hidle := by
    have houtside : Outside i (s.commitsOf i) s := ⟨hidle, rfl⟩
    cases request with
    | control proposal =>
      refine guarded_seq (PhysicalClosedLoopController.execute_guarded houtside) ?_ ?_
      · rintro r s' ⟨commits, ⟨hholder, hcommits⟩, hresult⟩
        exact ⟨hholder, commits, hcommits, hresult⟩
      · rintro e s' ⟨commits, ⟨hholder, hcommits⟩, hresult⟩
        exact ⟨hholder, commits, hcommits, hresult⟩
    | present permit proposal decision assessment =>
      refine guarded_perform_bind trivial stable_outside houtside ?_
      rintro ⟨⟩ _ s' - - ⟨rfl, hissued⟩ hs'
      have htrusts (htrusted : lab.Trusts permit) : permit ∈ s'.issued := by
        obtain ⟨publicKey, hkey, hverify⟩ := htrusted
        exact hissued publicKey hkey hverify
      refine guarded_seq (PermitAwareVirtualControlDevice.execute_guarded hs' htrusts) ?_ ?_
      · rintro a s₂ ⟨commits, ⟨hholder, hcommits⟩, hresult⟩
        exact ⟨hholder, commits, hcommits, hresult⟩
      · rintro e s₂ ⟨commits, ⟨hholder, hcommits⟩, hresult⟩
        exact ⟨hholder, commits, hcommits, hresult⟩
    | capture =>
      refine guarded_unmoved_bind trivial stable_outside houtside ?_
      intro captured s₁ hs₁
      refine guarded_answered_bind (fun e => ⟨hs₁.1, [], hs₁.2, rfl⟩) ?_
      exact fun snapshot _ => ⟨hs₁.1, [], hs₁.2, rfl⟩

/-- Nobody uses the device yet, and no permit was signed. -/
structure ControlState.Initial (s : ControlState ι) : Prop where
  holder : s.holder = none
  issued : s.issued = []
  commits : s.commits = []

omit [ControlPrimitives] [DecidableEq ι] in
theorem ControlState.Initial.sound (h : start.Initial) : Sound lab start start := by
  have hcommitted : start.committed = [] := by
    unfold committed
    rw [h.commits]
    rfl
  exact
    { held := by simp [hcommitted]
      usedOnce := by rw [hcommitted]; exact ⟨List.nodup_nil, List.nodup_nil, List.nodup_nil⟩
      carried := by simp [h.commits]
      trusted := by simp [hcommitted]
      authorized := by simp [h.issued]
      chained := by rw [h.commits]; exact .rfl
      verified := id }

theorem governed_of_run (hinitial : start.Initial)
    {w : World ι (ControlState ι) ControlAct ControlAct.Reply ControlRequest ControlError
      ControlAnswer}
    (hrun : (controlThreads ι lab).Steps (.quiet start) w) :
    Governed (controlThreads ι lab) (controlDiscipline lab start) w :=
  (Governed.steps controlThreads_sound (.quiet hinitial.sound fun i => by
    change start.holder ≠ some i
    rw [hinitial.holder]
    exact (Option.some_ne_none i).symm) hrun).1

/-- Whatever the threads do and the gateway answers: the plant goes from one physical state to the
    next only by carrying out a permitted command; no permit, nonce or command identifier is used
    twice; and every permit that was used was signed by the issuer, on a decision that the evidence
    chain holds, for an assessment that was safe. -/
theorem commits_authorized (hinitial : start.Initial)
    {w : World ι (ControlState ι) ControlAct ControlAct.Reply ControlRequest ControlError
      ControlAnswer}
    (hrun : (controlThreads ι lab).Steps (.quiet start) w) :
    CommitChain start.plant (w.shared.commits.map Prod.snd) w.shared.plant ∧
      UsedOnce w.shared.committed ∧
      ∀ c ∈ w.shared.commits, c.2.Carried ∧ lab.Trusts c.2.permit ∧
        c.2.permit ∈ w.shared.issued ∧ c.2.permit.Authorized w.shared.evidence.records := by
  have hsound : Sound lab start w.shared := (governed_of_run hinitial hrun).invariant
  refine ⟨hsound.chained, hsound.usedOnce, ?_⟩
  intro c hc
  obtain ⟨htrusts, hissued⟩ := hsound.trusted c.2.permit (List.mem_map_of_mem hc)
  exact ⟨hsound.carried c hc, htrusts, hissued, hsound.authorized _ hissued⟩

/-- Whatever the other threads do, the end of a request is true of the commands its thread gave:
    a completed result stands for exactly one, whose state was read back; an exception of the
    controller and a result that is neither completed nor an unknown effect stand for none; an
    acknowledgment of the device likewise. -/
theorem reports_truthful (hinitial : start.Initial)
    {w : World ι (ControlState ι) ControlAct ControlAct.Reply ControlRequest ControlError
      ControlAnswer}
    (hrun : (controlThreads ι lab).Steps (.quiet start) w) {i : ι} {request : ControlRequest}
    {started : ControlState ι} {result : Except ControlError ControlAnswer}
    (hcall : w.calls i = some ⟨request, started, .done result⟩) :
    ∃ commits, w.shared.commitsOf i = commits ++ started.commitsOf i ∧
      request.Ended result commits :=
  ((governed_of_run hinitial hrun).ended hcall).2.2

end

namespace ControlSample

open Sample

theorem initial_start : start.Initial := ⟨rfl, rfl, rfl⟩

/-- The sample proposal is carried out. -/
theorem commits_authorized_carried :
    ∃ w, (controlThreads Bool lab).Steps (.quiet start) w ∧ w.shared.commits.length = 1 ∧
      CommitChain start.plant (w.shared.commits.map Prod.snd) w.shared.plant ∧
      UsedOnce w.shared.committed ∧
      ∀ c ∈ w.shared.commits, c.2.Carried ∧ lab.Trusts c.2.permit ∧
        c.2.permit ∈ w.shared.issued ∧ c.2.permit.Authorized w.shared.evidence.records :=
  ⟨ended, run_ended, evaluated_ended.2.2, commits_authorized initial_start run_ended⟩

theorem call_ended : ∃ started r,
    ended.calls false = some ⟨.control proposal, started, .done (.ok (.result r))⟩ ∧
      r.status = .completed := by
  have hcompleted := evaluated_ended.2.1
  obtain ⟨⟨request, started, rest⟩, hcall, hcompleted⟩ := (Option.any_eq_true _ _).mp hcompleted
  unfold completed at hcompleted
  split at hcompleted
  · rename_i asked _ r hsame
    obtain ⟨rfl, hstatus⟩ := of_decide_eq_true hcompleted
    cases hsame
    exact ⟨_, r, hcall, hstatus⟩
  · cases hcompleted

/-- It is reported as completed. -/
theorem reports_truthful_completed :
    ∃ started r, (ended.calls false = some ⟨.control proposal, started,
        .done (.ok (.result r))⟩ ∧ r.status = .completed) ∧
      ∃ commits, ended.shared.commitsOf false = commits ++ started.commitsOf false ∧
        (ControlRequest.control proposal).Ended (.ok (.result r)) commits := by
  obtain ⟨started, r, hcall, hstatus⟩ := call_ended
  exact ⟨started, r, ⟨hcall, hstatus⟩, reports_truthful initial_start run_ended hcall⟩

end ControlSample

end AegisOt
