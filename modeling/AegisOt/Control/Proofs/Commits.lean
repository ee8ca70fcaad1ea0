import AegisOt.Control.ClosedLoop
import AegisOt.Gateway.Proofs.TamperEvident
import AegisOt.Plant.Proofs.ApplyAgrees

/-!
# What the plant carried out

The invariant of the shared objects: every command the plant carried out was permitted by a permit
of its own, the permit was signed by the issuer, and the issuer had found the decision for it in
the evidence chain (`ControlState.Sound`). `sound_perform` is the step of one thread, with what the
other threads may count on (`ControlState.Rely`).
-/

namespace AegisOt

/-! ## The plant -/

namespace PandapowerCigreMvPlant

variable {p q r : PandapowerCigreMvPlant}

theorem Same.rfl : p.Same p :=
  { configuration := Eq.refl _
    modelDigest := Eq.refl _
    net := Eq.refl _
    stateVersion := Eq.refl _
    simulationTimeS := Eq.refl _ }

theorem Same.trans (h : p.Same q) (h' : q.Same r) : p.Same r :=
  { configuration := h.configuration.trans h'.configuration
    modelDigest := h.modelDigest.trans h'.modelDigest
    net := h.net.trans h'.net
    stateVersion := h.stateVersion.trans h'.stateVersion
    simulationTimeS := h.simulationTimeS.trans h'.simulationTimeS }

theorem not_differs {α : Type} [DecidableEq α] {expected : Option α} {actual : α} :
    ¬ differs expected actual ↔ ∀ value ∈ expected, actual = value := by
  simp [differs]

section

variable [Primitives] [PlantPrimitives] [Pandapower] [Binary64]

/-- An observation leaves the physical state alone. -/
theorem same_captureState {clock : ClockReading} {reply : Except PlantError PhysicalStateSnapshot}
    (h : Method.call (captureState clock) p = (reply, q)) : p.Same q := by
  unfold captureState at h
  cases clock with
  | error description =>
    rw [Method.call_bind, Method.call_check] at h
    rw [← (Prod.mk.inj h).2]
    exact .rfl
  | ok observedAt =>
    rw [Method.call_bind, Method.call_check] at h
    change Method.call (Method.assign _ >>= fun _ => Method.self >>= fun plant =>
      Method.check plant.readState) p = (reply, q) at h
    rw [Method.call_assign_bind, Method.call_self_bind, Method.call_check] at h
    rw [← (Prod.mk.inj h).2]
    exact ⟨Eq.refl _, Eq.refl _, Eq.refl _, Eq.refl _, Eq.refl _⟩

/-- The pins of a request that was prepared. -/
structure Pinned (request : ApplyRequest) (effect : PendingEffect) : Prop where
  preStateVersion : ∀ version ∈ request.expectedPreStateVersion,
    effect.current.stateVersion = version
  preStateDigest : ∀ digest ∈ request.expectedPreStateDigest, effect.current.stateDigest = digest
  preObservationDigest : ∀ digest ∈ request.expectedPreObservationDigest,
    effect.current.observationDigest = digest
  postStateDigest : ∀ digest ∈ request.expectedPostStateDigest,
    effect.snapshot.stateDigest = digest
  postTopologyDigest : ∀ digest ∈ request.expectedPostTopologyDigest,
    effect.snapshot.topologyDigest = digest

theorem pinned_of_prepareEffect {request : ApplyRequest} {observed effectClock : ClockReading}
    {effect : PendingEffect} (h : p.prepareEffect request observed effectClock = .ok effect) :
    Pinned request effect := by
  unfold prepareEffect at h
  obtain ⟨-, h⟩ := bind_unit_eq_ok.mp h
  obtain ⟨current, -, h⟩ := bind_eq_ok.mp h
  obtain ⟨hversion, h⟩ := bind_unit_eq_ok.mp h
  obtain ⟨hdigest, h⟩ := bind_unit_eq_ok.mp h
  obtain ⟨hobservation, h⟩ := bind_unit_eq_ok.mp h
  obtain ⟨tables, -, h⟩ := bind_eq_ok.mp h
  obtain ⟨-, h⟩ := bind_unit_eq_ok.mp h
  obtain ⟨observedAt, -, h⟩ := bind_eq_ok.mp h
  obtain ⟨post, -, h⟩ := bind_eq_ok.mp h
  obtain ⟨-, h⟩ := bind_unit_eq_ok.mp h
  obtain ⟨hpost, h⟩ := bind_unit_eq_ok.mp h
  obtain ⟨htopology, h⟩ := bind_unit_eq_ok.mp h
  rw [refuseIf_eq_ok, not_differs] at hversion hdigest hobservation hpost htopology
  have heffect : effect.current = current ∧ effect.snapshot = post := by
    cases hdeadline : request.effectDeadline with
    | none =>
      rw [hdeadline] at h
      rw [← Except.ok.inj h]
      exact ⟨Eq.refl _, Eq.refl _⟩
    | some deadline =>
      rw [hdeadline] at h
      obtain ⟨now, -, h⟩ := bind_eq_ok.mp h
      obtain ⟨-, h⟩ := bind_unit_eq_ok.mp h
      rw [← Except.ok.inj h]
      exact ⟨Eq.refl _, Eq.refl _⟩
  obtain ⟨rfl, rfl⟩ := heffect
  exact ⟨hversion, hdigest, hobservation, hpost, htopology⟩

end

end PandapowerCigreMvPlant

/-! ## Commits -/

section

variable [Primitives] [PlantPrimitives] [Pandapower] [Binary64]

open PandapowerCigreMvPlant

/-- The plant was in the state that was permitted, went through the permitted command, and is in
    the state that was assessed, which is safe. -/
structure PhysicalCommit.Carried (c : PhysicalCommit) : Prop where
  read : ∃ current, c.before.readState = .ok current ∧
    current.stateVersion = c.permit.stateVersion ∧
    current.stateDigest = c.permit.stateDigest ∧
    current.observationDigest = c.permit.observationDigest
  edited : ∃ tables, applyToNetwork c.before.configuration c.before.net.tables c.permit.command =
    .ok tables ∧ c.after.net = solve tables
  readback : c.after.readState = .ok c.snapshot
  stateVersion : c.after.stateVersion = c.before.stateVersion + 1
  stateDigest : c.snapshot.stateDigest = c.permit.expectedPostStateDigest
  topologyDigest : c.snapshot.topologyDigest = c.permit.expectedPostTopologyDigest
  safe : c.snapshot.unsafeState = false

/-- A request that returned was carried out. -/
theorem carried_of_apply {permit : ExecutionPermit} {observed effectClock : ClockReading}
    {before after : PandapowerCigreMvPlant} {snapshot : PhysicalStateSnapshot}
    (h : Method.call (applyAuthorizedCommand permit.request observed effectClock none) before =
      (.ok snapshot, after)) : PhysicalCommit.Carried ⟨permit, before, snapshot, after⟩ := by
  obtain ⟨effect, hprepare, rfl, rfl⟩ := apply_eq_ok h
  obtain ⟨tables, hprepared⟩ := prepared_of_prepareEffect hprepare
  have hpinned := pinned_of_prepareEffect hprepare
  have hintegrity : (before.swap effect).assertModelIntegrity = .ok () := by
    have hbefore := hprepared.integrity
    unfold PandapowerCigreMvPlant.assertModelIntegrity at hbefore ⊢
    rw [refuseIf_eq_ok] at hbefore ⊢
    change ¬ modelMaterialDigest before.configuration effect.net.tables ≠ before.modelDigest
    rw [hprepared.net]
    exact (modelMaterialDigest_applyToNetwork hprepared.applied).symm ▸ hbefore
  exact
    { read := ⟨effect.current, hprepared.current, hpinned.preStateVersion _ rfl,
        hpinned.preStateDigest _ rfl, hpinned.preObservationDigest _ rfl⟩
      edited := ⟨tables, hprepared.applied, hprepared.net⟩
      readback := readState_swap hintegrity hprepared.net hprepared.converged hprepared.snapshot
      stateVersion := hprepared.stateVersion
      stateDigest := hpinned.postStateDigest _ rfl
      topologyDigest := hpinned.postTopologyDigest _ rfl
      safe := hprepared.safe }

end

/-- The commits, last one first, lead from one physical state to another, with nothing between
    them but observations. -/
def CommitChain (start : PandapowerCigreMvPlant) :
    List PhysicalCommit → PandapowerCigreMvPlant → Prop
  | [], plant => start.Same plant
  | c :: rest, plant => c.after.Same plant ∧ CommitChain start rest c.before

theorem CommitChain.same {start p q : PandapowerCigreMvPlant} {commits : List PhysicalCommit}
    (h : CommitChain start commits p) (hsame : p.Same q) : CommitChain start commits q := by
  cases commits with
  | nil => exact PandapowerCigreMvPlant.Same.trans h hsame
  | cons c rest => exact ⟨h.1.trans hsame, h.2⟩

/-! ## Single use -/

/-- The three values of a permit are consumed. -/
structure ExecutionPermit.Held (permit : ExecutionPermit) (consumed : ConsumedAuthorizations) :
    Prop where
  permitId : permit.permitId ∈ consumed.permits
  permitNonce : permit.permitNonce ∈ consumed.nonces
  commandId : permit.command.commandId ∈ consumed.commands

/-- None of the three values belongs to these permits. -/
structure ExecutionPermit.Unused (permit : ExecutionPermit) (permits : List ExecutionPermit) :
    Prop where
  permitId : permit.permitId ∉ permits.map (fun p => p.permitId)
  permitNonce : permit.permitNonce ∉ permits.map (fun p => p.permitNonce)
  commandId : permit.command.commandId ∉ permits.map (fun p => p.command.commandId)

/-- Every value of these permits is used once. -/
structure UsedOnce (permits : List ExecutionPermit) : Prop where
  permitIds : (permits.map (fun p => p.permitId)).Nodup
  permitNonces : (permits.map (fun p => p.permitNonce)).Nodup
  commandIds : (permits.map (fun p => p.command.commandId)).Nodup

theorem UsedOnce.cons {permit : ExecutionPermit} {permits : List ExecutionPermit}
    (h : UsedOnce permits) (hpermit : permit.Unused permits) : UsedOnce (permit :: permits) :=
  { permitIds := List.nodup_cons.mpr ⟨hpermit.permitId, h.permitIds⟩
    permitNonces := List.nodup_cons.mpr ⟨hpermit.permitNonce, h.permitNonces⟩
    commandIds := List.nodup_cons.mpr ⟨hpermit.commandId, h.commandIds⟩ }

theorem ExecutionPermit.held_add (permit : ExecutionPermit) (consumed : ConsumedAuthorizations) :
    permit.Held (consumed.add permit) :=
  ⟨List.mem_insert_self, List.mem_insert_self, List.mem_insert_self⟩

theorem ExecutionPermit.Held.add {permit : ExecutionPermit} {consumed : ConsumedAuthorizations}
    (h : permit.Held consumed) (other : ExecutionPermit) : permit.Held (consumed.add other) :=
  ⟨List.mem_insert_of_mem h.permitId, List.mem_insert_of_mem h.permitNonce,
    List.mem_insert_of_mem h.commandId⟩

/-- A permit that passed the three replay checks is new to everything that is held. -/
theorem ExecutionPermit.unused_of_not_mem {permit : ExecutionPermit}
    {consumed : ConsumedAuthorizations} {permits : List ExecutionPermit}
    (hheld : ∀ p ∈ permits, p.Held consumed) (hpermit : permit.permitId ∉ consumed.permits)
    (hnonce : permit.permitNonce ∉ consumed.nonces)
    (hcommand : permit.command.commandId ∉ consumed.commands) : permit.Unused permits := by
  refine ⟨?_, ?_, ?_⟩
  · intro hused
    obtain ⟨p, hp, hsame⟩ := List.mem_map.mp hused
    exact hpermit (hsame ▸ (hheld p hp).permitId)
  · intro hused
    obtain ⟨p, hp, hsame⟩ := List.mem_map.mp hused
    exact hnonce (hsame ▸ (hheld p hp).permitNonce)
  · intro hused
    obtain ⟨p, hp, hsame⟩ := List.mem_map.mp hused
    exact hcommand (hsame ▸ (hheld p hp).commandId)

/-! ## Authorization -/

/-- The payload holds the value under the name. -/
theorem JsonObject.holds_iff {payload : JsonObject} {name : String} {value : WellFormedJson} :
    payload.holds name value = true ↔ payload.get name = some value.1 := by
  unfold holds
  cases hget : payload.get name with
  | none => simp
  | some found =>
    have hmem : (name, found) ∈ payload.members := mem_of_lookupEntry hget
    have hfound : found.wellFormed = true := by
      have hall := payload.wellFormed
      rw [Json.wellFormed, Bool.and_eq_true, Json.wellFormedMembers_iff] at hall
      exact hall.2 _ hmem
    rw [Option.any_some, decide_eq_true_eq, Option.some.injEq]
    constructor
    · intro hwrite
      have hread := Json.loads_write hfound
      rw [hwrite, Json.loads_write value.2] at hread
      exact (Except.ok.inj hread).symm
    · rintro rfl
      rfl

section

variable [Primitives] [ModelDump]

/-- Why the issuer signed a permit. -/
structure ExecutionPermit.Grounds (permit : ExecutionPermit) (proposal : ActionProposal)
    (decision : Decision) (assessment : CandidateAssessment) (state : SystemState)
    (record : EvidenceRecord JsonObject) : Prop where
  outcome : decision.outcome = .permit
  decided : decision.proposalId = proposal.proposalId
  proposalId : permit.proposalId = proposal.proposalId
  proposalSha256 : permit.proposalDigest = AegisOt.proposalDigest proposal
  decisionId : permit.decisionId = decision.decisionId
  commanded : permit.command.proposalId = proposal.proposalId
  safe : assessment.safe = true
  assessed : assessment.commandDigest = permit.command.digest
  assessmentDigest : permit.assessmentDigest = assessment.digest
  decidedVersion : decision.stateVersion = permit.stateVersion
  stateVersion : permit.stateVersion = assessment.preState.stateVersion
  stateDigest : permit.stateDigest = assessment.preState.stateDigest
  expectedPostStateDigest : permit.expectedPostStateDigest = assessment.postState.stateDigest
  projected : physicalStateToGatewayState assessment.preState = .ok state
  recordHash : record.recordHash = hexdigest permit.evidenceRecordHash
  recordProposalId : record.proposalId = permit.proposalId
  recordDecisionId : record.decisionId = permit.decisionId
  recordProposal : record.payload.get "proposal" = some (ModelDump.proposal proposal).1
  recordState : record.payload.get "state" = some (ModelDump.systemState state).1
  recordDecision : record.payload.get "decision" =
    some (ModelDump.decision { decision with evidenceRecordHash := none }).1

/-- The evidence holds the grounds of a permit. -/
def ExecutionPermit.Authorized (permit : ExecutionPermit)
    (records : List (EvidenceRecord JsonObject)) : Prop :=
  ∃ proposal decision assessment state, ∃ record ∈ records,
    permit.Grounds proposal decision assessment state record

/-- The signature is no part of the grounds. -/
theorem authorized_signed {permit : ExecutionPermit} {records : List (EvidenceRecord JsonObject)}
    (h : permit.Authorized records) {privateKey : PrivateKey} :
    (permit.signed privateKey).Authorized records := by
  obtain ⟨proposal, decision, assessment, state, record, hrecord, hgrounds⟩ := h
  exact ⟨proposal, decision, assessment, state, record, hrecord, { hgrounds with }⟩

theorem ExecutionPermit.Authorized.mono {permit : ExecutionPermit}
    {records later : List (EvidenceRecord JsonObject)} (h : permit.Authorized records)
    (hlater : records <+: later) : permit.Authorized later := by
  obtain ⟨proposal, decision, assessment, state, record, hrecord, hgrounds⟩ := h
  exact ⟨proposal, decision, assessment, state, record, hlater.subset hrecord, hgrounds⟩

end

namespace ExecutionPermitIssuer

variable [Primitives] [ModelDump] {issuer : ExecutionPermitIssuer} {proposal : ActionProposal}
  {decision : Decision} {command : PhysicalControlCommand} {assessment : CandidateAssessment}
  {records : List (EvidenceRecord JsonObject)} {evidenceRecordHash : Sha256}

/-- What the issuer checked is why it signs. -/
theorem unsigned_authorized
    (harguments : checkArguments proposal decision command assessment = .ok evidenceRecordHash)
    (hevidence : checkEvidence records evidenceRecordHash proposal decision assessment = .ok ())
    (issuedAt : Time) (permitId permitNonce : String) :
    (issuer.unsigned proposal decision command assessment evidenceRecordHash issuedAt permitId
      permitNonce).Authorized records := by
  simp only [checkArguments, bind_unit_eq_ok, refuseIf_eq_ok, not_not, Bool.not_eq_false,
    ne_eq] at harguments
  obtain ⟨-, -, -, houtcome, hdecided, hcommand, hsafe, hassessed, hversion, -, -⟩ := harguments
  unfold checkEvidence at hevidence
  obtain ⟨record, hrecord, hevidence⟩ := bind_eq_ok.mp hevidence
  obtain ⟨hbinding, hevidence⟩ := bind_unit_eq_ok.mp hevidence
  obtain ⟨state, hstate, hevidence⟩ := bind_eq_ok.mp hevidence
  obtain ⟨hrecordState, hrecordDecision⟩ := bind_unit_eq_ok.mp hevidence
  simp only [refuseIf_eq_ok, not_or, not_not, ne_eq, Bool.not_eq_false,
    JsonObject.holds_iff] at hbinding hrecordState hrecordDecision
  obtain ⟨hproposalId, hdecisionId, hrecordProposal⟩ := hbinding
  have hfound := orRaise_eq_ok.mp hrecord
  have hhash : record.recordHash = hexdigest evidenceRecordHash := by
    simpa using List.find?_some hfound
  refine ⟨proposal, decision, assessment, state, record, List.mem_of_find?_eq_some hfound, ?_⟩
  exact
    { outcome := houtcome
      decided := hdecided
      proposalId := rfl
      proposalSha256 := rfl
      decisionId := rfl
      commanded := hcommand
      safe := hsafe
      assessed := hassessed
      assessmentDigest := rfl
      decidedVersion := hversion
      stateVersion := rfl
      stateDigest := rfl
      expectedPostStateDigest := rfl
      projected := hstate
      recordHash := hhash
      recordProposalId := hproposalId
      recordDecisionId := hdecisionId
      recordProposal := hrecordProposal
      recordState := hrecordState
      recordDecision := hrecordDecision }

end ExecutionPermitIssuer

/-! ## The shared objects -/

namespace EvidenceChain

variable {P : Type} [EvidencePayload P] [EvidencePrimitives]

theorem prefix_afterAppends (chain : EvidenceChain P) (entries : List (EvidenceEntry P)) :
    chain.records <+: (chain.afterAppends entries).records := by
  induction entries generalizing chain with
  | nil => exact List.prefix_rfl
  | cons entry rest ih => exact (List.prefix_append _ _).trans (ih _)

end EvidenceChain

section

variable [Primitives] {ι : Type}

/-- The device trusts the key under which the permit verifies. -/
def PhysicalLocalLab.Trusts (lab : PhysicalLocalLab) (permit : ExecutionPermit) : Prop :=
  ∃ publicKey, lookupEntry permit.signingKeyId lab.controlDevice.permitPublicKeys =
    some publicKey ∧ permit.verify publicKey = true

namespace ControlState

/-- The permits of the commands that were carried out. -/
def committed (s : ControlState ι) : List ExecutionPermit := s.commits.map (fun c => c.2.permit)

/-- The commands that a thread gave, the last one first. -/
def commitsOf [DecidableEq ι] (s : ControlState ι) (i : ι) : List PhysicalCommit :=
  (s.commits.filter (fun c => decide (c.1 = i))).map Prod.snd

/-- What the objects keep. -/
structure Sound [PlantPrimitives] [Pandapower] [Binary64] [EvidencePrimitives] [ModelDump]
    (lab : PhysicalLocalLab) (start s : ControlState ι) : Prop where
  held : ∀ permit ∈ s.committed, permit.Held s.consumed
  usedOnce : UsedOnce s.committed
  carried : ∀ c ∈ s.commits, c.2.Carried
  trusted : ∀ permit ∈ s.committed, lab.Trusts permit ∧ permit ∈ s.issued
  authorized : ∀ permit ∈ s.issued, permit.Authorized s.evidence.records
  chained : CommitChain start.plant (s.commits.map Prod.snd) s.plant
  verified : start.evidence.verify = true → s.evidence.verify = true

/-- What a thread counts on while the others act. -/
structure Rely [DecidableEq ι] (i : ι) (s s' : ControlState ι) : Prop where
  issued : s.issued ⊆ s'.issued
  evidence : s.evidence.records <+: s'.evidence.records
  commitsOf : s'.commitsOf i = s.commitsOf i
  holder : s'.holder = some i ↔ s.holder = some i
  locked : s.holder = some i → s'.consumed = s.consumed ∧ s'.commits = s.commits

/-- When a thread may perform an action. -/
def Allowed [ModelDump] (lab : PhysicalLocalLab) (i : ι) (s : ControlState ι) :
    ControlAct → Prop
  | .applyAuthorizedCommand permit => s.holder = some i ∧ permit.Held s.consumed ∧
      permit.Unused s.committed ∧ lab.Trusts permit ∧ permit ∈ s.issued
  | .sign permit => permit.Authorized s.evidence.records
  | .reserve _ => s.holder = some i
  | .leave => s.holder = some i
  | _ => True

variable [DecidableEq ι] {i j : ι} {s s' : ControlState ι}

omit [Primitives] in
theorem Rely.rfl : Rely i s s :=
  { issued := List.Subset.refl _
    evidence := List.prefix_rfl
    commitsOf := Eq.refl _
    holder := Iff.rfl
    locked := fun _ => ⟨Eq.refl _, Eq.refl _⟩ }

omit [Primitives] in
theorem Rely.trans {s₁ s₂ : ControlState ι} (h : Rely i s s₁) (h' : Rely i s₁ s₂) :
    Rely i s s₂ := by
  refine ⟨List.Subset.trans h.issued h'.issued, h.evidence.trans h'.evidence,
    h'.commitsOf.trans h.commitsOf, h'.holder.trans h.holder, ?_⟩
  intro hheld
  obtain ⟨hconsumed, hcommits⟩ := h.locked hheld
  obtain ⟨hconsumed', hcommits'⟩ := h'.locked (h.holder.mpr hheld)
  exact ⟨hconsumed'.trans hconsumed, hcommits'.trans hcommits⟩

omit [Primitives] in
/-- A change of nothing but the plant, the evidence and the scans. -/
theorem Rely.of_same (hevidence : s.evidence.records <+: s'.evidence.records)
    (hissued : s.issued ⊆ s'.issued) (hconsumed : s'.consumed = s.consumed)
    (hholder : s'.holder = s.holder) (hcommits : s'.commits = s.commits) : Rely i s s' := by
  refine ⟨hissued, hevidence, ?_, by rw [hholder], fun _ => ⟨hconsumed, hcommits⟩⟩
  unfold ControlState.commitsOf
  rw [hcommits]

omit [Primitives] in
theorem commitsOf_cons_ne (h : j ≠ i) (c : PhysicalCommit) (rest : List (ι × PhysicalCommit))
    (hcommits : s'.commits = (i, c) :: rest) (hrest : rest = s.commits) :
    s'.commitsOf j = s.commitsOf j := by
  unfold ControlState.commitsOf
  rw [hcommits, hrest, List.filter_cons_of_neg]
  simpa using h.symm

omit [Primitives] in
theorem commitsOf_cons_self (c : PhysicalCommit) (hcommits : s'.commits = (i, c) :: s.commits) :
    s'.commitsOf i = c :: s.commitsOf i := by
  unfold ControlState.commitsOf
  rw [hcommits, List.filter_cons_of_pos (by simp)]
  rfl

/-- Only the device's lock, its sets, a signature and a command touch what the threads rely on. -/
def Quiet : ControlAct → Prop
  | .applyAuthorizedCommand _ => False
  | .sign _ => False
  | .enter => False
  | .leave => False
  | .reserve _ => False
  | _ => True

variable [PlantPrimitives] [Pandapower] [Binary64] [EvidencePrimitives] {lab : PhysicalLocalLab}
  {action : ControlAct} {reply : action.Reply}

/-- What an action that is quiet leaves as it was. -/
structure Undisturbed (s s' : ControlState ι) : Prop where
  plant : s.plant.Same s'.plant
  evidence : s.evidence.records <+: s'.evidence.records
  verified : s.evidence.verify = true → s'.evidence.verify = true
  consumed : s'.consumed = s.consumed
  holder : s'.holder = s.holder
  issued : s'.issued = s.issued
  commits : s'.commits = s.commits

omit [Primitives] [DecidableEq ι] [PlantPrimitives] [Pandapower] [Binary64] in
theorem Undisturbed.rfl : Undisturbed s s :=
  ⟨.rfl, List.prefix_rfl, id, Eq.refl _, Eq.refl _, Eq.refl _, Eq.refl _⟩

omit [DecidableEq ι] in
theorem undisturbed_of_quiet (haction : Quiet action) (h : s.perform lab i action reply s') :
    Undisturbed s s' := by
  have hsame (hs : s' = s) : Undisturbed s s' := hs ▸ .rfl
  cases action with
  | clock => exact hsame h
  | uuid => exact hsame h
  | captureState =>
    obtain ⟨clock, plant, hcall, rfl⟩ := h
    exact { Undisturbed.rfl with plant := PandapowerCigreMvPlant.same_captureState hcall }
  | readState => exact hsame h.2
  | simulateCandidate command => exact hsame h.2
  | applyAuthorizedCommand permit => exact haction.elim
  | decide proposal state now =>
    obtain ⟨entries, rfl⟩ := h
    exact { Undisturbed.rfl with
      evidence := s.evidence.prefix_afterAppends entries
      verified := fun hverified => EvidenceChain.verify_afterAppends hverified entries }
  | verifyEvidence => exact hsame h.2
  | records => exact hsame h.2
  | append proposalId decisionId payload =>
    obtain ⟨now, -, rfl⟩ := h
    exact { Undisturbed.rfl with
      evidence := List.prefix_append _ _
      verified := fun hverified =>
        EvidenceChain.verify_append hverified now proposalId decisionId payload }
  | sign permit => exact haction.elim
  | present permit => exact hsame h.1
  | enter => exact haction.elim
  | leave => exact haction.elim
  | scan =>
    obtain ⟨-, rfl⟩ := h
    exact { Undisturbed.rfl with plant := .rfl }
  | consumed => exact hsame h.2
  | reserve permit => exact haction.elim

omit [Primitives] [PlantPrimitives] [Pandapower] [Binary64] in
theorem Undisturbed.rely (h : Undisturbed s s') : Rely i s s' :=
  .of_same h.evidence (h.issued ▸ List.Subset.refl _) h.consumed h.holder h.commits

variable [ModelDump] {start : ControlState ι}

omit [DecidableEq ι] in
theorem Sound.undisturbed (h : Sound lab start s) (hquiet : Undisturbed s s') :
    Sound lab start s' := by
  have hcommitted : s'.committed = s.committed := by
    unfold committed
    rw [hquiet.commits]
  exact
    { held := by rw [hcommitted, hquiet.consumed]; exact h.held
      usedOnce := by rw [hcommitted]; exact h.usedOnce
      carried := by rw [hquiet.commits]; exact h.carried
      trusted := by rw [hcommitted, hquiet.issued]; exact h.trusted
      authorized := by
        rw [hquiet.issued]
        exact fun permit hpermit => (h.authorized permit hpermit).mono hquiet.evidence
      chained := by rw [hquiet.commits]; exact h.chained.same hquiet.plant
      verified := fun hstart => hquiet.verified (h.verified hstart) }

omit [DecidableEq ι] in
/-- A command that was permitted is carried out, or leaves the plant as it is. -/
theorem Sound.apply (h : Sound lab start s) {permit : ExecutionPermit}
    (hallowed : Allowed lab i s (.applyAuthorizedCommand permit))
    {reply : Except PlantError PhysicalStateSnapshot} {observed : ClockReading}
    {plant : PandapowerCigreMvPlant}
    (hcall : Method.call (PandapowerCigreMvPlant.applyAuthorizedCommand permit.request observed
      observed none) s.plant = (reply, plant)) :
    Sound lab start (s.applied i permit reply plant) := by
  obtain ⟨-, hheld, hunused, htrusted, hissued⟩ := hallowed
  cases reply with
  | error error =>
    have hplant : plant = s.plant :=
      PandapowerCigreMvPlant.applyAuthorizedCommand_atomic _ _ _ _ _ _ _ hcall
    subst hplant
    exact h
  | ok snapshot =>
    exact
      { held := List.forall_mem_cons.mpr ⟨hheld, h.held⟩
        usedOnce := h.usedOnce.cons hunused
        carried := List.forall_mem_cons.mpr ⟨carried_of_apply hcall, h.carried⟩
        trusted := List.forall_mem_cons.mpr ⟨⟨htrusted, hissued⟩, h.trusted⟩
        authorized := h.authorized
        chained := ⟨.rfl, h.chained⟩
        verified := h.verified }

/-- One action of a thread keeps the objects sound, and the others can rely on it. -/
theorem sound_perform (h : Sound lab start s) (hallowed : Allowed lab i s action)
    (hperform : s.perform lab i action reply s') :
    Sound lab start s' ∧ ∀ j, j ≠ i → Rely j s s' := by
  -- nobody else holds the lock
  have halone {j : ι} (hj : j ≠ i) (hheld : s.holder = some i) : s.holder ≠ some j := by
    rw [hheld]
    exact fun hsame => hj (Option.some.inj hsame).symm
  by_cases hquiet : Quiet action
  · have hundisturbed := undisturbed_of_quiet hquiet hperform
    exact ⟨h.undisturbed hundisturbed, fun _ _ => hundisturbed.rely⟩
  · cases action with
    | applyAuthorizedCommand permit =>
      obtain ⟨observed, plant, hcall, rfl⟩ := hperform
      refine ⟨h.apply hallowed hcall, fun j hj => ?_⟩
      cases reply with
      | error error => exact .of_same List.prefix_rfl (List.Subset.refl _) rfl rfl rfl
      | ok snapshot =>
        exact
          { issued := List.Subset.refl _
            evidence := List.prefix_rfl
            commitsOf := commitsOf_cons_ne hj _ _ rfl rfl
            holder := Iff.rfl
            locked := fun hheld => absurd hheld (halone hj hallowed.1) }
    | sign permit =>
      obtain ⟨-, rfl⟩ := hperform
      refine ⟨?_, fun j _ => .of_same List.prefix_rfl (List.subset_cons_self _ _) rfl rfl rfl⟩
      refine { h with trusted := ?_, authorized := ?_ }
      · intro other hother
        obtain ⟨htrusted, hissued⟩ := h.trusted other hother
        exact ⟨htrusted, List.mem_cons_of_mem _ hissued⟩
      · exact List.forall_mem_cons.mpr ⟨authorized_signed hallowed, h.authorized⟩
    | enter =>
      obtain ⟨hfree, rfl⟩ := hperform
      refine ⟨{ h with }, fun j hj => ?_⟩
      have hother : (some i : Option ι) ≠ some j := fun hsame => hj (Option.some.inj hsame).symm
      refine ⟨List.Subset.refl _, List.prefix_rfl, rfl, ?_, ?_⟩
      · exact iff_of_false hother (by rw [hfree]; exact (Option.some_ne_none j).symm)
      · intro hheld
        rw [hfree] at hheld
        cases hheld
    | leave =>
      obtain rfl := hperform
      refine ⟨{ h with }, fun j hj => ?_⟩
      refine ⟨List.Subset.refl _, List.prefix_rfl, rfl, ?_, ?_⟩
      · exact iff_of_false (Option.some_ne_none j).symm (halone hj hallowed)
      · exact fun hheld => absurd hheld (halone hj hallowed)
    | reserve permit =>
      obtain rfl := hperform
      refine ⟨{ h with held := fun other hother => (h.held other hother).add permit },
        fun j hj => ?_⟩
      refine ⟨List.Subset.refl _, List.prefix_rfl, rfl, Iff.rfl, ?_⟩
      exact fun hheld => absurd hheld (halone hj hallowed)
    | _ => exact absurd trivial hquiet

end ControlState

end

end AegisOt
