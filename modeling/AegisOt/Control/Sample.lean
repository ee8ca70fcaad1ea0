import AegisOt.Control.ClosedLoop
import AegisOt.Plant.Sample

/-!
# A sample closed loop

The sample plant behind a device and a controller whose clock stands still, a gateway that permits
every proposal and records its decision, and a proposal to dispatch a quarter of a megawatt.
`ControlState.answer` lets every object do what it does where an action leaves a choice.
-/

namespace AegisOt

/-! ## Deterministic objects -/

section

variable [Primitives] [PlantPrimitives] [Pandapower] [Binary64] [EvidencePrimitives] [ModelDump]

omit [Primitives] [PlantPrimitives] [Pandapower] [Binary64] [EvidencePrimitives] in
theorem wellFormed_permitted (proposal : ActionProposal) (decision : Decision)
    (state : SystemState) :
    (Json.obj [("decision", (ModelDump.decision decision).1),
      ("proposal", (ModelDump.proposal proposal).1),
      ("state", (ModelDump.systemState state).1)]).wellFormed = true := by
  have hdump (json : WellFormedJson) : json.1.wellFormed = true := json.2
  apply Json.wellFormed_obj ["decision", "proposal", "state"]
  · rfl
  · decide +kernel
  · simp [hdump]

/-- What the issuer looks for in the payload of a decision. -/
def permittedPayload (proposal : ActionProposal) (decision : Decision) (state : SystemState) :
    JsonObject :=
  ⟨_, wellFormed_permitted proposal decision state⟩

/-- `gateway.decide` of a gateway that permits everything. -/
def permitEverything (s : EvidenceChain JsonObject) (proposal : ActionProposal)
    (state : SystemState) : Decision × EvidenceChain JsonObject :=
  let provisional : Decision :=
    { decisionId := "decision-" ++ proposal.proposalId
      proposalId := proposal.proposalId
      outcome := .permit
      reasons := ["all_checks_passed"]
      decidedAt := 0
      policyVersion := "policy-v1"
      safetyVersion := "safety-v1"
      stateVersion := state.version
      evidenceRecordHash := none }
  let appended := s.append 0 proposal.proposalId provisional.decisionId
    (permittedPayload proposal provisional state)
  ({ provisional with evidenceRecordHash := some appended.1.sha256 }, appended.2)

namespace ControlState

variable {ι : Type}

/-- One answer of each object. -/
def answer (lab : PhysicalLocalLab) (i : ι) (s : ControlState ι) :
    (action : ControlAct) → action.Reply × ControlState ι
  | .clock => (.ok 0, s)
  | .uuid => ("00000000-0000-4000-8000-000000000000", s)
  | .captureState =>
      let captured := Method.call (PandapowerCigreMvPlant.captureState (.ok 0)) s.plant
      (captured.1, { s with plant := captured.2 })
  | .readState => (s.plant.readState, s)
  | .simulateCandidate command => (s.plant.simulateCandidate command "assessment-1", s)
  | .applyAuthorizedCommand permit =>
      let applied := Method.call (PandapowerCigreMvPlant.applyAuthorizedCommand permit.request
        (.ok 1) (.ok 1) none) s.plant
      (applied.1, s.applied i permit applied.1 applied.2)
  | .decide proposal state _ =>
      let decided := permitEverything s.evidence proposal state
      (.ok decided.1, { s with evidence := decided.2 })
  | .verifyEvidence => (s.evidence.verify, s)
  | .records => (s.evidence.records, s)
  | .append proposalId decisionId payload =>
      let appended := s.evidence.append 0 proposalId decisionId payload
      (appended.1, { s with evidence := appended.2 })
  | .sign permit =>
      let signed := permit.signed lab.permitIssuer.privateKey
      (signed, { s with issued := signed :: s.issued })
  | .present _ => ((), s)
  | .enter => ((), { s with holder := some i })
  | .leave => ((), { s with holder := none })
  | .scan => (s.scanCounter + 1, { s with scanCounter := s.scanCounter + 1 })
  | .consumed => (s.consumed, s)
  | .reserve permit => ((), { s with consumed := s.consumed.add permit })

/-- The device is free for who enters it, and who presents a permit was given it. -/
def ready (s : ControlState ι) : ControlAct → Bool
  | .enter => s.holder.isNone
  | .present permit => decide (permit ∈ s.issued)
  | _ => true

theorem perform_answer (lab : PhysicalLocalLab) (i : ι) (s : ControlState ι)
    (action : ControlAct) (h : s.ready action = true) :
    s.perform lab i action (s.answer lab i action).1 (s.answer lab i action).2 := by
  cases action with
  | clock => rfl
  | uuid => rfl
  | captureState => exact ⟨.ok 0, _, rfl, rfl⟩
  | readState => exact ⟨rfl, rfl⟩
  | simulateCandidate command => exact ⟨⟨"assessment-1", rfl⟩, rfl⟩
  | applyAuthorizedCommand permit => exact ⟨.ok 1, _, rfl, rfl⟩
  | decide proposal state now => exact ⟨[⟨0, _, _, _⟩], rfl⟩
  | verifyEvidence => exact ⟨rfl, rfl⟩
  | records => exact ⟨rfl, rfl⟩
  | append proposalId decisionId payload => exact ⟨0, rfl, rfl⟩
  | sign permit => exact ⟨rfl, rfl⟩
  | present permit => exact ⟨rfl, fun _ _ _ => of_decide_eq_true h⟩
  | enter => exact ⟨Option.isNone_iff_eq_none.mp h, rfl⟩
  | leave => rfl
  | scan => exact ⟨rfl, rfl⟩
  | consumed => exact ⟨rfl, rfl⟩
  | reserve permit => rfl

end ControlState

end

/-! ## The sample -/

namespace ControlSample

open Sample

/-- The records of the sample are told apart by their sequence numbers, not by their digests. -/
scoped instance (priority := 2000) controlEvidencePrimitives : EvidencePrimitives where
  sha256 _ := sha 7
  isoformat time := if time.wall = 0 then "1970-01-01T00:00:00+00:00" else ""

/-- Artifacts by their identifiers. -/
scoped instance controlModelDump : ModelDump where
  proposal p := ⟨.str p.proposalId, rfl⟩
  decision d := ⟨.str d.decisionId, rfl⟩
  systemState _ := ⟨.str "state", rfl⟩
  snapshot s := ⟨.str s.modelId, rfl⟩
  command c := ⟨.str c.commandId, rfl⟩
  assessment a := ⟨.str a.assessmentId, rfl⟩
  permit p := ⟨.str p.permitId, rfl⟩
  acknowledgment a := ⟨.str a.acknowledgmentId, rfl⟩

scoped instance controlSignatures : ControlPrimitives where
  signBytes _ _ := signature
  verifyBytes _ _ s := decide (s = signature)

def lab : PhysicalLocalLab where
  resourceBindings := plantConfiguration.resourceBindings
  permitIssuer :=
    { privateKey := "permit-key"
      signingKeyId := "m3-permit-key-1"
      audience := "virtual-control-device:m3"
      timeToLive := 2 * second
      positive := by decide }
  controlDevice :=
    { deviceId := "virtual-control-device:m3"
      permitAudience := "virtual-control-device:m3"
      permitPublicKeys := [("m3-permit-key-1", "permit-key")]
      acknowledgmentPrivateKey := "ack-key"
      acknowledgmentKeyId := "m3-device-ack-key-1" }
  acknowledgmentPublicKey := "ack-key"

def proposal : ActionProposal where
  proposalId := "proposal-1"
  actorId := "agent-1"
  missionId := "mission-1"
  resource := "battery-1"
  operation := .dispatchBattery
  parameters := [("mw", 1 / 4)]
  observedStateVersion := 0
  observedAt := 0
  submittedAt := 0
  nonce := "proposal-nonce-1"
  confidence := 1
  riskScore := 0
  delegationChain := ["grant-1"]
  humanApprovalId := none

/-- The controller of the sample. -/
def start : ControlState Bool where
  plant := freshPlant 0
  evidence := .empty
  consumed := ⟨[], [], []⟩
  scanCounter := 0
  holder := none
  issued := []
  commits := []

/-- One thread runs the controller on the proposal, up to its result. -/
def schedule : List Bool := List.replicate 26 false

def proposals (_ : Bool) : ControlRequest := .control proposal

/-- The turns of the schedule. -/
def ended : Interleaving.World Bool (ControlState Bool) ControlAct ControlAct.Reply ControlRequest
    ControlError ControlAnswer :=
  schedule.foldl (Interleaving.World.turn (fun i s => s.answer lab i) (controlThreads Bool lab)
    proposals) (.quiet start)

/-- The controller completed. -/
def completed : Interleaving.Call (ControlState Bool) ControlAct ControlAct.Reply ControlRequest
    ControlError ControlAnswer → Bool
  | ⟨.control asked, _, .done (.ok (.result r))⟩ =>
      decide (asked = proposal ∧ r.status = .completed)
  | _ => false

theorem evaluated_ended :
    Interleaving.World.passes (fun i s => ControlState.answer lab i s) (controlThreads Bool lab)
        proposals ControlState.ready schedule (.quiet start) = true ∧
      (ended.calls false).any completed = true ∧ ended.shared.commits.length = 1 := by
  decide +kernel

theorem run_ended : (controlThreads Bool lab).Steps (.quiet start) ended :=
  Interleaving.World.steps_of_passes rfl (fun i s action h => s.perform_answer lab i action h)
    proposals schedule evaluated_ended.1

end ControlSample

end AegisOt
