import AegisOt.Gateway.Gateway
import AegisOt.Misc.JsonRoundTrip
import AegisOt.Plant.Pandapower
import AegisOt.Runtime.VirtualPlc

/-!
# Artifacts of the closed loop

The contracts of `physical_models.py` that the local control path exchanges beside the permit: the
acknowledgment of the control device and the disposition of a whole transaction, with the checks on
them. The validators that `ExecutionPermitIssuer.issue` runs again on its arguments are here as
well.
-/

namespace AegisOt

/-! ## Exceptions -/

/-- What the control path raises. -/
inductive ControlError where
  /-- `PhysicalSimulationError`. -/
  | simulation (reason : String)
  /-- `CommandTranslationError`. -/
  | translation (reason : String)
  /-- `PermitIssuanceError`. -/
  | permitIssuance (reason : String)
  /-- Any other exception, by the name of its type. -/
  | other (typeName : String)
  deriving DecidableEq

namespace ControlError

/-- `type(exc).__name__`. -/
def typeName : ControlError → String
  | .simulation _ => "PhysicalSimulationError"
  | .translation _ => "CommandTranslationError"
  | .permitIssuance _ => "PermitIssuanceError"
  | .other name => name

/-- An exception of the plant. -/
def ofPlant : PlantError → ControlError
  | .simulation reason => .simulation reason
  | .other description => .other description

/-- A `ValidationError` of pydantic. -/
def ofValidation (_ : String) : ControlError := .other "ValidationError"

end ControlError

/-! ## Validators of the arguments -/

/-- `OPERATION_PARAMETERS`. -/
def operationParameters : Operation → List String
  | .isolateAsset => ["critical_load_impact_pct", "line_loading_delta_pct"]
  | .restoreAsset => ["critical_load_restore_pct", "line_loading_delta_pct"]
  | .shedLoad => ["critical_load_impact_pct", "line_loading_relief_pct"]
  | .dispatchBattery => ["mw", "minimum_voltage_delta_pu", "maximum_voltage_delta_pu"]

/-- `PERCENTAGE_PARAMETERS`. -/
def percentageParameters : List String :=
  ["critical_load_impact_pct", "critical_load_restore_pct", "line_loading_relief_pct"]

namespace ActionProposal

/-- The field constraints and `require_operation_parameters`. -/
def validate (p : ActionProposal) : Except String Unit := do
  refuseIf (p.proposalId = "" ∨ p.actorId = "" ∨ p.missionId = "" ∨ p.resource = "" ∨
      p.nonce.length < 16 ∨ 256 < p.nonce.length ∨ p.confidence < 0 ∨ 1 < p.confidence ∨
      p.riskScore < 0 ∨ 100 < p.riskScore ∨ p.delegationChain = [] ∨ p.humanApprovalId = some "")
    "field constraint violated"
  refuseIf (¬ p.parameters.all (fun parameter => parameter.1 ∈ operationParameters p.operation))
    "parameters are not valid"
  refuseIf (p.parameters.any (fun parameter => parameter.1 ∈ percentageParameters ∧
      ¬ (0 ≤ parameter.2 ∧ parameter.2 ≤ 100)))
    "parameter must be between 0 and 100"

end ActionProposal

namespace PhysicalControlCommand

/-- The field constraints and `require_command_shape`. -/
def validate (c : PhysicalControlCommand) : Except String Unit := do
  refuseIf (c.commandId = "" ∨ c.proposalId = "" ∨ c.resource = "" ∨ c.target = "" ∨
      (c.unit ≠ "boolean" ∧ c.unit ≠ "MW"))
    "field constraint violated"
  match c.commandType with
  | .setLineService => do
      refuseIf (c.unit ≠ "boolean" ∨ (c.setpoint ≠ 0 ∧ c.setpoint ≠ 1))
        "line-service commands require a boolean 0 or 1 setpoint"
      refuseIf (c.operation ≠ .isolateAsset ∧ c.operation ≠ .restoreAsset)
        "line-service command operation is inconsistent"
  | .setBatteryInjection =>
      refuseIf (c.unit ≠ "MW" ∨ c.operation ≠ .dispatchBattery)
        "battery commands require dispatch_battery in MW"

end PhysicalControlCommand

namespace SystemState

/-- The field constraints and `require_ordered_voltage_bounds`. -/
def validate (s : SystemState) : Except String Unit := do
  refuseIf (s.criticalLoadServedPct < 0 ∨ 100 < s.criticalLoadServedPct ∨
      s.minimumVoltagePu ≤ 0 ∨ s.maximumVoltagePu ≤ 0 ∨ s.maximumLineLoadingPct < 0)
    "field constraint violated"
  refuseIf (s.maximumVoltagePu < s.minimumVoltagePu)
    "minimum_voltage_pu must not exceed maximum_voltage_pu"

end SystemState

section

variable [Primitives]

namespace CandidateAssessment

/-- `model_validate` of an assessment and of the two states in it. -/
def revalidate (a : CandidateAssessment) : Except String Unit := do
  refuseIf (a.assessmentId = "" ∨ a.preState.fieldsValid = false ∨
      a.postState.fieldsValid = false)
    "field constraint violated"
  a.validate

end CandidateAssessment

namespace ExecutionPermit

/-- The field constraints and `require_consistent_binding`. -/
def validate (p : ExecutionPermit) : Except String Unit := do
  refuseIf (p.permitId = "" ∨ p.permitNonce.length < 16 ∨ p.decisionId = "" ∨ p.proposalId = "" ∨
      p.expectedPostStateVersion = 0 ∨ p.policyVersion = "" ∨ p.safetyVersion = "" ∨
      p.audience = "" ∨ p.signingKeyId = "")
    "field constraint violated"
  refuseIf (p.expiresAt ≤ p.issuedAt) "permit expiry must be after issuance"
  refuseIf (p.command.proposalId ≠ p.proposalId) "permit command does not match proposal"
  refuseIf (p.command.digest ≠ p.commandDigest) "permit command digest is inconsistent"
  refuseIf (p.expectedPostStateVersion ≠ p.stateVersion + 1)
    "permit post-state version must be the next state"

end ExecutionPermit

end

/-! ## Acknowledgments -/

/-- `CommandAcknowledgment`. -/
structure CommandAcknowledgment where
  acknowledgmentId : String
  permitId : String
  permitNonce : String
  commandId : String
  commandDigest : Sha256
  assessmentDigest : Sha256
  proposalId : String
  decisionId : String
  deviceId : String
  deviceScan : Nat
  status : CommandStatus
  reason : String
  acknowledgedAt : Time
  preStateDigest : Sha256
  postStateDigest : Option Sha256
  postStateVersion : Option Nat
  preActuatorSetpoint : ℚ
  postActuatorSetpoint : Option ℚ
  simulationTimeS : ℚ
  signingKeyId : String
  signature : String
  deriving DecidableEq

/-- Ed25519 over the signing payload of an acknowledgment, which is the acknowledgment with its
    signature cleared. -/
class ControlPrimitives where
  signBytes : PrivateKey → CommandAcknowledgment → String
  verifyBytes : PublicKey → CommandAcknowledgment → String → Bool

namespace CommandAcknowledgment

/-- The field constraints and `require_status_shape`. -/
def validate (a : CommandAcknowledgment) : Except String Unit := do
  refuseIf (a.acknowledgmentId = "" ∨ a.permitId = "" ∨ a.permitNonce.length < 16 ∨
      a.commandId = "" ∨ a.proposalId = "" ∨ a.decisionId = "" ∨ a.deviceId = "" ∨
      a.deviceScan = 0 ∨ a.reason = "" ∨ a.simulationTimeS < 0 ∨ a.signingKeyId = "")
    "field constraint violated"
  if a.status = .applied then
    refuseIf (a.postStateDigest = none ∨ a.postStateVersion = none ∨
        a.postActuatorSetpoint = none)
      "applied acknowledgment requires post-state readback"
  else
    refuseIf (a.postStateDigest ≠ none ∨ a.postStateVersion ≠ none)
      "non-applied acknowledgment cannot assert a post-state"
  if a.status = .rejected then
    refuseIf (a.postActuatorSetpoint ≠ some a.preActuatorSetpoint)
      "rejected acknowledgment must evidence an unchanged actuator"
  else
    refuseIf (a.status = .unknownEffect ∧ a.postActuatorSetpoint ≠ none)
      "unknown-effect acknowledgment cannot assert actuator effect"

variable [ControlPrimitives]

/-- `signed`. -/
def signed (a : CommandAcknowledgment) (privateKey : PrivateKey) : CommandAcknowledgment :=
  { a with signature := ControlPrimitives.signBytes privateKey { a with signature := "" } }

/-- `verify`. -/
def verify (a : CommandAcknowledgment) (publicKey : PublicKey) : Bool :=
  decide (a.signature ≠ "") &&
    ControlPrimitives.verifyBytes publicKey { a with signature := "" } a.signature

/-- `identifiers_match` of `verify_for_transaction`. -/
def identifiersMatch (a : CommandAcknowledgment) (permit : ExecutionPermit)
    (expectedDeviceId expectedKeyId : String) : Bool :=
  decide (a.permitId = permit.permitId ∧ a.permitNonce = permit.permitNonce ∧
    a.commandId = permit.command.commandId ∧ a.commandDigest = permit.commandDigest ∧
    a.assessmentDigest = permit.assessmentDigest ∧ a.proposalId = permit.proposalId ∧
    a.decisionId = permit.decisionId ∧ a.deviceId = expectedDeviceId ∧
    a.signingKeyId = expectedKeyId)

/-- The return of `verify_for_transaction` for an applied command. -/
def appliedMatches (a : CommandAcknowledgment) (permit : ExecutionPermit)
    (preState readbackState : PhysicalStateSnapshot) : Bool :=
  decide (permit.issuedAt ≤ a.acknowledgedAt ∧ a.acknowledgedAt < permit.expiresAt ∧
    a.simulationTimeS = readbackState.simulationTimeS ∧
    a.preStateDigest = preState.stateDigest ∧ preState.stateDigest = permit.stateDigest ∧
    preState.topologyDigest = permit.topologyDigest ∧
    preState.observationDigest = permit.observationDigest ∧
    a.postStateDigest = some permit.expectedPostStateDigest ∧
    a.postStateVersion = some permit.expectedPostStateVersion ∧
    some readbackState.stateDigest = a.postStateDigest ∧
    some readbackState.stateVersion = a.postStateVersion ∧
    readbackState.topologyDigest = permit.expectedPostTopologyDigest ∧
    a.preActuatorSetpoint = CapabilityVirtualPlc.actuatorSetpoint preState permit.command ∧
    a.postActuatorSetpoint = some permit.command.setpoint)

/-- The return of `verify_for_transaction` for a rejected command. -/
def rejectedMatches (a : CommandAcknowledgment) (permit : ExecutionPermit)
    (preState readbackState : PhysicalStateSnapshot) : Bool :=
  decide (permit.issuedAt ≤ a.acknowledgedAt ∧
    a.simulationTimeS = readbackState.simulationTimeS ∧
    a.preStateDigest = preState.stateDigest ∧
    preState.stateDigest = readbackState.stateDigest ∧
    preState.stateVersion = readbackState.stateVersion ∧
    preState.topologyDigest = readbackState.topologyDigest)

/-- `verify_for_transaction`. -/
def verifyForTransaction [Primitives] (a : CommandAcknowledgment) (publicKey : PublicKey)
    (permit : ExecutionPermit) (preState readbackState : PhysicalStateSnapshot)
    (expectedDeviceId expectedKeyId : String) : Bool :=
  if !a.identifiersMatch permit expectedDeviceId expectedKeyId || !a.verify publicKey then false
  else if !preState.verifyDigest || !readbackState.verifyDigest ||
      decide (preState.modelDigest ≠ readbackState.modelDigest ∨
        readbackState.modelDigest ≠ permit.modelDigest) then false
  else
    match a.status with
    | .applied => a.appliedMatches permit preState readbackState
    | .rejected => a.rejectedMatches permit preState readbackState
    | .unknownEffect => true

end CommandAcknowledgment

/-! ## Results -/

/-- `ClosedLoopStatus`. -/
inductive ClosedLoopStatus where
  | notDispatched
  | candidateRejected
  | deviceRejected
  | completed
  | unknownEffect
  deriving DecidableEq, Repr

namespace ClosedLoopStatus

/-- `status.value`. -/
def value : ClosedLoopStatus → String
  | .notDispatched => "not_dispatched"
  | .candidateRejected => "candidate_rejected"
  | .deviceRejected => "device_rejected"
  | .completed => "completed"
  | .unknownEffect => "unknown_effect"

end ClosedLoopStatus

/-- What `_record` is given. `last_observed_state or post_state or pre_state` is already one
    state. -/
structure ClosedLoopDisposition where
  status : ClosedLoopStatus
  reasons : List String
  proposal : ActionProposal
  preState : PhysicalStateSnapshot
  decision : Decision
  command : Option PhysicalControlCommand
  assessment : Option CandidateAssessment
  permit : Option ExecutionPermit
  acknowledgment : Option CommandAcknowledgment
  postState : Option PhysicalStateSnapshot
  lastObservedState : PhysicalStateSnapshot
  deriving DecidableEq

/-- `ClosedLoopResult`. -/
structure ClosedLoopResult extends ClosedLoopDisposition where
  executionEvidenceHash : String
  deriving DecidableEq

namespace ClosedLoopResult

/-- `require_terminal_shape`. -/
def validate (r : ClosedLoopResult) : Except String Unit := do
  if r.status = .completed then do
    refuseIf (r.acknowledgment.map (fun a => a.status) ≠ some .applied)
      "completed result requires an applied acknowledgment"
    refuseIf (r.permit = none ∨ r.assessment = none ∨ r.command = none)
      "completed result requires the complete authorization path"
    refuseIf (r.postState = none) "completed result requires a verified post-state"
    refuseIf (r.postState.map (fun s => s.stateDigest) ≠
        r.acknowledgment.bind (fun a => a.postStateDigest))
      "completed result readback does not match acknowledgment"
  refuseIf (r.status = .unknownEffect ∧ r.postState ≠ none)
    "unknown-effect result cannot assert a verified post-state"

end ClosedLoopResult

/-! ## JSON of the artifacts -/

/-- A JSON value whose objects are given in key order. -/
abbrev WellFormedJson := { json : Json // json.wellFormed = true }

/-- `model_dump(mode="json")` of pydantic. -/
class ModelDump where
  proposal : ActionProposal → WellFormedJson
  decision : Decision → WellFormedJson
  systemState : SystemState → WellFormedJson
  snapshot : PhysicalStateSnapshot → WellFormedJson
  command : PhysicalControlCommand → WellFormedJson
  assessment : CandidateAssessment → WellFormedJson
  permit : ExecutionPermit → WellFormedJson
  acknowledgment : CommandAcknowledgment → WellFormedJson

/-- `payload.get(name)`. -/
def JsonObject.get (payload : JsonObject) (name : String) : Option Json :=
  lookupEntry name payload.members

/-- `payload.get(name) == value`. Equal values in key order have the same text. -/
def JsonObject.holds (payload : JsonObject) (name : String) (value : WellFormedJson) : Bool :=
  (payload.get name).any (fun found => decide (found.write = value.1.write))

namespace WellFormedJson

/-- `None` in a dictionary. -/
def null : WellFormedJson := ⟨.null, rfl⟩

/-- `x.model_dump(...) if x else None`. -/
def ofOption {α : Type} (dump : α → WellFormedJson) (value : Option α) : WellFormedJson :=
  (value.map dump).getD null

end WellFormedJson

namespace ClosedLoopDisposition

variable [Primitives] [ModelDump]

/-- The items of the payload that `_record` appends, in key order. -/
def members (d : ClosedLoopDisposition) : List (String × Json) :=
  [("acknowledgment", (WellFormedJson.ofOption ModelDump.acknowledgment d.acknowledgment).1),
    ("assessment", (WellFormedJson.ofOption ModelDump.assessment d.assessment).1),
    ("command", (WellFormedJson.ofOption ModelDump.command d.command).1),
    ("decision", (ModelDump.decision d.decision).1),
    ("event_type", .str "physical_closed_loop_disposition"),
    ("last_observed_state", (ModelDump.snapshot d.lastObservedState).1),
    ("permit", (WellFormedJson.ofOption ModelDump.permit d.permit).1),
    ("post_state", (WellFormedJson.ofOption ModelDump.snapshot d.postState).1),
    ("pre_state", (ModelDump.snapshot d.preState).1),
    ("proposal_digest", .str (hexdigest (proposalDigest d.proposal))),
    ("reasons", .arr (d.reasons.map .str)),
    ("status", .str d.status.value)]

/-- The names of the items. -/
def memberNames : List String :=
  ["acknowledgment", "assessment", "command", "decision", "event_type", "last_observed_state",
    "permit", "post_state", "pre_state", "proposal_digest", "reasons", "status"]

theorem wellFormed_members (d : ClosedLoopDisposition) :
    (Json.obj d.members).wellFormed = true := by
  have hdump (json : WellFormedJson) : json.1.wellFormed = true := json.2
  have hreasons : Json.wellFormedItems (d.reasons.map .str) = true := by
    simp [Json.wellFormedItems_iff, Json.wellFormed]
  apply Json.wellFormed_obj memberNames
  · rfl
  · decide +kernel
  · simp [members, hdump, hreasons, Json.wellFormed]

/-- The payload that `_record` appends. -/
def payload (d : ClosedLoopDisposition) : JsonObject := ⟨d.members, d.wellFormed_members⟩

end ClosedLoopDisposition

/-! ## The gateway's view of a state -/

/-- `physical_state_to_gateway_state`; the frozen set is given by its elements. -/
def physicalStateToGatewayState (state : PhysicalStateSnapshot) :
    Except ControlError SystemState :=
  match state.converged, state.minimumVoltagePu, state.maximumVoltagePu,
      state.maximumLineLoadingPct with
  | true, some minimumVoltagePu, some maximumVoltagePu, some maximumLineLoadingPct => do
      let projected : SystemState :=
        { version := state.stateVersion
          observedAt := state.observedAt
          criticalLoadServedPct := state.priorityLoadServedPct
          minimumVoltagePu := minimumVoltagePu
          maximumVoltagePu := maximumVoltagePu
          maximumLineLoadingPct := maximumLineLoadingPct
          isolatedAssets := state.isolatedResources
          batteryDispatchMw := (lookupEntry "battery-1" state.batteryInjectionMw).getD 0 }
      (projected.validate).mapError .ofValidation
      pure projected
  | _, _, _, _ => throw (.simulation "physical_state_not_usable_for_authorization")

end AegisOt
