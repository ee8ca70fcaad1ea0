import AegisOt.Plant.Models
import AegisOt.Runtime.VirtualPlc

/-!
# The authoritative plant

`PandapowerCigreMVPlant` of `pandapower_plant.py`: it solves a power flow over its own network,
projects the result to a snapshot, tries commands on a copy of the network and swaps the copy in
when every check has passed. A `PhysicalSimulationError` and any other exception are the two cases
of `PlantError`. Clocks either raise or give a timezone-aware reading.
-/

namespace AegisOt

/-- `CIGRE_MV_MODEL_ID`. -/
def cigreMvModelId : String := "pandapower-cigre-mv-all"

/-- A network object: its input tables, and its results if `net.converged`. -/
structure SolvedNetwork where
  tables : Network
  solution : Option PowerFlow

/-- `PandapowerCigreMVPlant`. -/
structure PandapowerCigreMvPlant where
  configuration : PlantConfiguration
  modelDigest : Sha256
  net : SolvedNetwork
  stateVersion : Nat
  simulationTimeS : ℚ
  observedAt : Time
  observationSequence : Nat

/-- What a clock gives: an exception's description or an instant. -/
abbrev ClockReading := Except String Time

/-! ## Validation of the result models -/

namespace PhysicalStateSnapshot

/-- The field constraints of `PhysicalStateSnapshot`. -/
def fieldsValid (s : PhysicalStateSnapshot) : Bool :=
  decide (s.modelId ≠ "" ∧ s.simulatorVersion ≠ "" ∧ s.observationSourceId ≠ "" ∧
    s.observationClockDomain ≠ "" ∧ 0 ≤ s.simulationTimeS ∧
    0 ≤ s.totalLoadDemandMw ∧ 0 ≤ s.servedLoadMw ∧ 0 ≤ s.unservedLoadMw ∧
    0 ≤ s.totalLoadServedPct ∧ s.totalLoadServedPct ≤ 100 ∧
    0 ≤ s.priorityLoadDemandMw ∧ 0 ≤ s.priorityLoadServedMw ∧
    0 ≤ s.priorityLoadServedPct ∧ s.priorityLoadServedPct ≤ 100) &&
  s.minimumVoltagePu.all (fun v => decide (0 < v)) &&
  s.maximumVoltagePu.all (fun v => decide (0 < v)) &&
  s.maximumLineLoadingPct.all (fun v => decide (0 ≤ v))

end PhysicalStateSnapshot

namespace CandidateAssessment

variable [Primitives]

/-- `require_consistent_assessment`. -/
def validate (a : CandidateAssessment) : Except String Unit := do
  refuseIf (a.preState.modelDigest ≠ a.postState.modelDigest)
    "candidate assessment model digest changed"
  refuseIf (a.preState.verifyDigest = false ∨ a.postState.verifyDigest = false)
    "candidate assessment contains an invalid state digest"
  refuseIf (a.postState.stateVersion ≠ a.preState.stateVersion + 1)
    "candidate assessment must advance exactly one state version"
  refuseIf (a.postState.simulationTimeS ≤ a.preState.simulationTimeS)
    "candidate assessment must advance simulation time"
  refuseIf (a.postState.observedAt ≤ a.preState.observedAt)
    "candidate assessment must advance observation time"
  refuseIf (a.safe = true ∧ a.reasons ≠ [])
    "a safe assessment cannot contain failure reasons"
  refuseIf (a.safe = false ∧ a.reasons = [])
    "an unsafe assessment requires at least one reason"
  refuseIf (a.safe = a.postState.unsafeState)
    "candidate safety is inconsistent with the post-state"

end CandidateAssessment

namespace PlantConfiguration

/-- `sorted(self.resource_bindings.items())`. -/
def sortedBindings (configuration : PlantConfiguration) : List (String × ResourceBinding) :=
  (SortedMap.ofEntries configuration.resourceBindings).entries

/-- `line_bindings`. -/
def lineBindings (configuration : PlantConfiguration) : List (String × ResourceBinding) :=
  configuration.resourceBindings.filter fun entry => entry.2.commandType = .setLineService

/-- `battery_bindings`. -/
def batteryBindings (configuration : PlantConfiguration) : List (String × ResourceBinding) :=
  configuration.resourceBindings.filter fun entry => entry.2.commandType = .setBatteryInjection

/-- The table a command of this type writes to. -/
def targetTable : PhysicalCommandType → String
  | .setLineService => "line"
  | .setBatteryInjection => "storage"

/-- One binding of `_validate_configuration`. -/
def validateBinding (tables : Network) (entry : String × ResourceBinding) :
    Except PlantError Unit := do
  let binding := entry.2
  let table := targetTable binding.commandType
  refuseIf (entry.1 ≠ binding.resource) (.other ("resource binding key mismatch: " ++ entry.1))
  refuseIf (binding.targetIndex ∉ tables.index table)
    (.other (table ++ " target is absent for " ++ entry.1))
  let actual := (tables.read table binding.targetIndex "name").toText
  refuseIf (actual ≠ binding.target)
    (.other ("target name mismatch for " ++ entry.1 ++ ": expected " ++ binding.target ++
      ", got " ++ actual))

/-- `_validate_configuration`. -/
def validateConfiguration (configuration : PlantConfiguration) (tables : Network) :
    Except PlantError Unit := do
  refuseIf (configuration.priorityLoadIndices = [])
    (.other "at least one mission-priority load must be configured")
  let missingLoads := configuration.priorityLoadIndices.filter fun load =>
    load ∉ tables.index "load"
  refuseIf (missingLoads ≠ [])
    (.other ("priority load indices are absent: " ++ toString missingLoads))
  configuration.resourceBindings.forM (validateBinding tables)

end PlantConfiguration

/-! ## Snapshots -/

/-- The sums that `_snapshot` takes over the loads. -/
structure LoadTotals where
  demand : ℚ
  served : ℚ
  priorityDemand : ℚ
  priorityServed : ℚ
  deriving DecidableEq

/-- What `_snapshot` measures on a network. -/
structure Measurements where
  loads : LoadTotals
  unserved : ℚ
  totalServedPct : ℚ
  priorityServedPct : ℚ
  busVoltage : List (Option ℚ)
  lineLoading : List (Option ℚ)
  minimumVoltage : Option ℚ
  maximumVoltage : Option ℚ
  maximumLoading : Option ℚ
  voltageViolations : Nat
  thermalViolations : Nat
  unsafeState : Bool
  isolated : List String
  batteryInjection : List (String × ℚ)
  deriving DecidableEq

/-- `isolated`: the sorted line resources that are out of service. -/
def isolatedResources (configuration : PlantConfiguration) (tables : Network) : List String :=
  (configuration.sortedBindings.filter fun entry =>
    entry.2.commandType = .setLineService ∧ tables.lineInService entry.2.targetIndex = false).map
      Prod.fst

/-- `battery_injection`. pandapower storage uses positive power for charging, the plant positive
    values for injection. -/
def batteryInjection (configuration : PlantConfiguration) (tables : Network) :
    List (String × ℚ) :=
  (configuration.sortedBindings.filter fun entry =>
    entry.2.commandType = .setBatteryInjection).map
      fun entry => (entry.1, - tables.storagePMw entry.2.targetIndex)

section

variable [Binary64]

/-- One pass of the loop over `net.load`. -/
def addLoad (priority : List Nat) (tables : Network) (converged : Bool)
    (busVoltage : List (Option ℚ)) (totals : LoadTotals) (index : Nat) :
    Except PlantError LoadTotals := do
  if (tables.read "load" index "in_service").truthy = false then
    pure totals
  else do
    let demand := (tables.read "load" index "p_mw").toFloat
    let priorityDemand :=
      if index ∈ priority then Binary64.add totals.priorityDemand demand
      else totals.priorityDemand
    let demanded : LoadTotals :=
      { totals with demand := Binary64.add totals.demand demand, priorityDemand := priorityDemand }
    -- `bus_voltage` is only indexed when the power flow converged.
    let supplied ←
      if converged then
        orRaise (busVoltage[(tables.read "load" index "bus").toIndex]?)
          (.other "tuple index out of range")
      else pure none
    let priorityServed :=
      if index ∈ priority then Binary64.add totals.priorityServed demand
      else totals.priorityServed
    match supplied with
    | none => pure demanded
    | some _ =>
        pure { demanded with
          served := Binary64.add totals.served demand
          priorityServed := priorityServed }

/-- `100.0 if demand == 0 else 100.0 * served / demand`. -/
def servedPct (demand served : ℚ) : ℚ :=
  if demand = 0 then 100 else Binary64.div (Binary64.mul 100 served) demand

/-- What `_snapshot` computes from a network. -/
def measure (configuration : PlantConfiguration) (net : SolvedNetwork) (converged : Bool) :
    Except PlantError Measurements := do
  let limits := configuration.limits
  let results := net.solution.getD ⟨[], []⟩
  let busVoltage :=
    if converged then results.vmPu else (net.tables.index "bus").map fun _ => none
  let lineLoading :=
    if converged then results.loadingPercent else (net.tables.index "line").map fun _ => none
  let loads ← (net.tables.index "load").foldlM
    (addLoad configuration.priorityLoadIndices net.tables converged busVoltage) ⟨0, 0, 0, 0⟩
  let totalServedPct := servedPct loads.demand loads.served
  let priorityServedPct := servedPct loads.priorityDemand loads.priorityServed
  let finiteVoltage := busVoltage.filterMap id
  let finiteLoading := lineLoading.filterMap id
  let voltageViolations := (finiteVoltage.filter fun v =>
    v < limits.minimumVoltagePu ∨ limits.maximumVoltagePu < v).length
  let thermalViolations := (finiteLoading.filter fun v =>
    limits.maximumLineLoadingPct < v).length
  pure
    { loads := loads
      unserved := max 0 (Binary64.sub loads.demand loads.served)
      totalServedPct := totalServedPct
      priorityServedPct := priorityServedPct
      busVoltage := busVoltage
      lineLoading := lineLoading
      minimumVoltage := finiteVoltage.min?
      maximumVoltage := finiteVoltage.max?
      maximumLoading := finiteLoading.max?
      voltageViolations := voltageViolations
      thermalViolations := thermalViolations
      unsafeState := decide (converged = false ∨
        totalServedPct < limits.minimumTotalLoadServedPct ∨
        priorityServedPct < limits.minimumPriorityLoadServedPct ∨
        0 < voltageViolations ∨ 0 < thermalViolations)
      isolated := isolatedResources configuration net.tables
      batteryInjection := batteryInjection configuration net.tables }

end

section

variable [Primitives] [PlantPrimitives] [Pandapower]

/-- `simulator_version`. -/
def simulatorVersion : String := "pandapower-" ++ Pandapower.version

/-- `_input_digest`. -/
def inputDigest (tables : Network) : Sha256 :=
  PlantPrimitives.canonicalDigest (.input tables.inputTables)

/-- `_topology_digest`. -/
def topologyDigest (tables : Network) : Sha256 :=
  PlantPrimitives.canonicalDigest (.topology tables.topologyTables)

/-- `_model_material` with the static material of these tables. -/
def modelMaterial (configuration : PlantConfiguration) (tables : Network) : ModelMaterial :=
  { pandapowerVersion := Pandapower.version
    limits := configuration.limits
    priorityLoadIndices := configuration.priorityLoadIndices
    resourceBindings := configuration.sortedBindings
    network := tables.staticMaterial }

/-- The digest of `_model_material`. -/
def modelMaterialDigest (configuration : PlantConfiguration) (tables : Network) : Sha256 :=
  PlantPrimitives.canonicalDigest (.model (modelMaterial configuration tables))

/-- `_solve`. -/
def solve (tables : Network) : SolvedNetwork := ⟨tables, Pandapower.runpp tables⟩

/-- The version, the time and the observation envelope that `_snapshot` is given. -/
structure SnapshotLabels where
  stateVersion : Nat
  simulationTimeS : ℚ
  observedAt : Time
  observationSequence : Nat
  deriving DecidableEq

/-- The snapshot of these measurements, before its digests. -/
def provisionalSnapshot (configuration : PlantConfiguration) (modelDigest : Sha256)
    (tables : Network) (labels : SnapshotLabels) (converged : Bool) (m : Measurements) :
    PhysicalStateSnapshot :=
  { modelId := cigreMvModelId
    simulatorVersion := simulatorVersion
    modelDigest := modelDigest
    inputDigest := inputDigest tables
    topologyDigest := topologyDigest tables
    stateDigest := 0
    observationDigest := 0
    observationSequence := labels.observationSequence
    observationSourceId := configuration.observationSourceId
    observationClockDomain := "UTC"
    stateVersion := labels.stateVersion
    simulationTimeS := labels.simulationTimeS
    observedAt := labels.observedAt
    converged := converged
    totalLoadDemandMw := m.loads.demand
    servedLoadMw := m.loads.served
    unservedLoadMw := m.unserved
    totalLoadServedPct := m.totalServedPct
    priorityLoadDemandMw := m.loads.priorityDemand
    priorityLoadServedMw := m.loads.priorityServed
    priorityLoadServedPct := m.priorityServedPct
    minimumVoltagePu := m.minimumVoltage
    maximumVoltagePu := m.maximumVoltage
    maximumLineLoadingPct := m.maximumLoading
    voltageViolationCount := m.voltageViolations
    thermalViolationCount := m.thermalViolations
    unsafeState := m.unsafeState
    isolatedResources := m.isolated
    batteryInjectionMw := m.batteryInjection
    busVoltagePu := m.busVoltage
    lineLoadingPct := m.lineLoading }

namespace PhysicalStateSnapshot

/-- The two `model_copy` calls at the end of `_snapshot`. -/
def withDigests (s : PhysicalStateSnapshot) : PhysicalStateSnapshot :=
  let stated :=
    { s with stateDigest := Primitives.canonicalDigest (.snapshotState s.digestMaterial) }
  { stated with
    observationDigest :=
      Primitives.canonicalDigest (.snapshotObservation stated.observationMaterial) }

end PhysicalStateSnapshot

variable [Binary64]

/-- `_snapshot`. -/
def snapshotOf (configuration : PlantConfiguration) (modelDigest : Sha256) (net : SolvedNetwork)
    (labels : SnapshotLabels) (converged : Bool) : Except PlantError PhysicalStateSnapshot := do
  let m ← measure configuration net converged
  let provisional :=
    provisionalSnapshot configuration modelDigest net.tables labels converged m
  refuseIf (provisional.fieldsValid = false) (.other "snapshot is invalid")
  pure provisional.withDigests

namespace PandapowerCigreMvPlant

/-! ## Reading -/

/-- `__init__`, when the observation clock reads `observedAt`. -/
def create (configuration : PlantConfiguration) (observedAt : Time) :
    Except PlantError PandapowerCigreMvPlant := do
  refuseIf (configuration.stepSeconds ≤ 0)
    (.other "step_seconds must be finite and positive")
  let tables := Pandapower.createCigreNetworkMv
  configuration.validateConfiguration tables
  let net := solve tables
  refuseIf (net.solution = none) (.simulation "baseline_power_flow_nonconvergent")
  pure
    { configuration := configuration
      modelDigest := modelMaterialDigest configuration tables
      net := net
      stateVersion := 0
      simulationTimeS := 0
      observedAt := observedAt
      observationSequence := 0 }

/-- `_assert_model_integrity`. -/
def assertModelIntegrity (plant : PandapowerCigreMvPlant) : Except PlantError Unit :=
  refuseIf (modelMaterialDigest plant.configuration plant.net.tables ≠ plant.modelDigest)
    (.simulation "model_configuration_changed")

/-- The labels of the present state. -/
def labels (plant : PandapowerCigreMvPlant) : SnapshotLabels :=
  { stateVersion := plant.stateVersion
    simulationTimeS := plant.simulationTimeS
    observedAt := plant.observedAt
    observationSequence := plant.observationSequence }

/-- `_snapshot` of this plant. -/
def snapshot (plant : PandapowerCigreMvPlant) (net : SolvedNetwork) (labels : SnapshotLabels)
    (converged : Bool) : Except PlantError PhysicalStateSnapshot :=
  snapshotOf plant.configuration plant.modelDigest net labels converged

/-- `read_state`. -/
def readState (plant : PandapowerCigreMvPlant) : Except PlantError PhysicalStateSnapshot := do
  plant.assertModelIntegrity
  plant.snapshot plant.net plant.labels plant.net.solution.isSome

/-- `capture_state`. -/
def captureState (clock : ClockReading) :
    Method PandapowerCigreMvPlant PlantError PhysicalStateSnapshot := do
  let observedAt ← Method.check (clock.mapError .other)
  Method.assign fun plant =>
    { plant with
      observedAt := observedAt
      observationSequence := plant.observationSequence + 1 }
  let plant ← Method.self
  Method.check plant.readState

/-! ## Commands -/

/-- `_validate_command`. -/
def validateCommand (configuration : PlantConfiguration) (command : PhysicalControlCommand) :
    Except PlantError ResourceBinding := do
  let binding ← orRaise (lookupEntry command.resource configuration.resourceBindings)
    (.simulation "resource_not_mapped")
  refuseIf (command.commandType ≠ binding.commandType ∨ command.target ≠ binding.target ∨
      command.targetIndex ≠ binding.targetIndex)
    (.simulation "command_target_binding_mismatch")
  refuseIf (¬ binding.admits command.setpoint) (.simulation "command_setpoint_out_of_bounds")
  pure binding

/-- `_apply_to_network`. -/
def applyToNetwork (configuration : PlantConfiguration) (tables : Network)
    (command : PhysicalControlCommand) : Except PlantError Network := do
  let binding ← validateCommand configuration command
  match command.commandType with
  | .setLineService =>
      pure (tables.setLineInService binding.targetIndex (decide (command.setpoint ≠ 0)))
  | .setBatteryInjection => pure (tables.setStoragePMw binding.targetIndex (- command.setpoint))

/-- The reasons of a candidate, in the order `simulate_candidate` appends them. -/
def candidateReasons (limits : PhysicalLimits) (converged : Bool)
    (postState : PhysicalStateSnapshot) : List String :=
  (if converged then [] else ["power_flow_nonconvergent"]) ++
  (if postState.totalLoadServedPct < limits.minimumTotalLoadServedPct then
    ["total_load_below_limit"] else []) ++
  (if postState.priorityLoadServedPct < limits.minimumPriorityLoadServedPct then
    ["priority_load_below_limit"] else []) ++
  (if postState.voltageViolationCount ≠ 0 then ["voltage_limit_violation"] else []) ++
  (if postState.thermalViolationCount ≠ 0 then ["thermal_limit_violation"] else [])

/-- `simulate_candidate`, with the identifier of the new assessment. -/
def simulateCandidate (plant : PandapowerCigreMvPlant) (command : PhysicalControlCommand)
    (assessmentId : String) : Except PlantError CandidateAssessment := do
  plant.assertModelIntegrity
  let preState ← plant.readState
  let tables ← applyToNetwork plant.configuration plant.net.tables command
  let candidate := solve tables
  let converged := candidate.solution.isSome
  let postState ← plant.snapshot candidate
    { stateVersion := plant.stateVersion + 1
      simulationTimeS := Binary64.add plant.simulationTimeS plant.configuration.stepSeconds
      observedAt := plant.observedAt + Binary64.timedelta plant.configuration.stepSeconds
      observationSequence := plant.observationSequence + 1 }
    converged
  let reasons := candidateReasons plant.configuration.limits converged postState
  let assessment : CandidateAssessment :=
    { assessmentId := assessmentId
      commandDigest := command.digest
      preState := preState
      postState := postState
      safe := decide (reasons = [])
      reasons := reasons }
  (assessment.validate).mapError .other
  pure assessment

/-- The arguments of `apply_authorized_command`; a deadline comes with a clock and is
    timezone-aware. -/
structure ApplyRequest where
  command : PhysicalControlCommand
  expectedPreStateVersion : Option Nat
  expectedPreStateDigest : Option Sha256
  expectedPreObservationDigest : Option Sha256
  expectedPostStateDigest : Option Sha256
  expectedPostTopologyDigest : Option Sha256
  effectDeadline : Option Time
  deriving DecidableEq

/-- A pin that is set and differs. -/
def differs {α : Type} [DecidableEq α] (expected : Option α) (actual : α) : Prop :=
  ∃ value ∈ expected, actual ≠ value

instance {α : Type} [DecidableEq α] (expected : Option α) (actual : α) :
    Decidable (differs expected actual) :=
  match expected with
  | none => isFalse (by rintro ⟨value, hvalue, -⟩; cases hvalue)
  | some value => decidable_of_iff (actual ≠ value) (by simp [differs])

/-- What `apply_authorized_command` has computed when every check has passed. -/
structure PendingEffect where
  current : PhysicalStateSnapshot
  snapshot : PhysicalStateSnapshot
  net : SolvedNetwork
  labels : SnapshotLabels

/-- `apply_authorized_command` up to the durable commit. `observed` is the observation clock,
    `effectClock` the effect clock, which is read when there is a deadline. -/
def prepareEffect (plant : PandapowerCigreMvPlant) (request : ApplyRequest)
    (observed effectClock : ClockReading) : Except PlantError PendingEffect := do
  plant.assertModelIntegrity
  let current ← plant.readState
  refuseIf (differs request.expectedPreStateVersion current.stateVersion)
    (.simulation "precommit_state_version_changed")
  refuseIf (differs request.expectedPreStateDigest current.stateDigest)
    (.simulation "precommit_state_digest_changed")
  refuseIf (differs request.expectedPreObservationDigest current.observationDigest)
    (.simulation "precommit_observation_changed")
  let tables ← applyToNetwork plant.configuration plant.net.tables request.command
  let candidate := solve tables
  refuseIf (candidate.solution = none) (.simulation "power_flow_nonconvergent")
  let observedAt ← observed.mapError .other
  let labels : SnapshotLabels :=
    { stateVersion := plant.stateVersion + 1
      simulationTimeS := Binary64.add plant.simulationTimeS plant.configuration.stepSeconds
      observedAt := observedAt
      observationSequence := plant.observationSequence + 1 }
  let snapshot ← plant.snapshot candidate labels true
  refuseIf (snapshot.unsafeState = true) (.simulation "post_state_violates_physical_limits")
  refuseIf (differs request.expectedPostStateDigest snapshot.stateDigest)
    (.simulation "candidate_outcome_diverged")
  refuseIf (differs request.expectedPostTopologyDigest snapshot.topologyDigest)
    (.simulation "candidate_topology_diverged")
  match request.effectDeadline with
  | none => pure ⟨current, snapshot, candidate, labels⟩
  | some deadline => do
      let now ← effectClock.mapError .other
      refuseIf (deadline ≤ now) (.simulation "authorization_expired_before_effect")
      pure ⟨current, snapshot, candidate, labels⟩

/-- The assignments at the end of `apply_authorized_command`. -/
def swap (plant : PandapowerCigreMvPlant) (effect : PendingEffect) : PandapowerCigreMvPlant :=
  { plant with
    net := effect.net
    stateVersion := effect.labels.stateVersion
    simulationTimeS := effect.labels.simulationTimeS
    observedAt := effect.labels.observedAt
    observationSequence := effect.labels.observationSequence }

/-- A `PhysicalSimulationError` of the durable commit is not one of the plant. -/
def relabelCommit : PlantError → PlantError
  | .simulation _ => .other "durable_pre_swap_commit_failed"
  | .other description => .other description

/-- `apply_authorized_command`; `durableCommit` is what the durable commit does, if there is
    one. -/
def applyAuthorizedCommand (request : ApplyRequest) (observed effectClock : ClockReading)
    (durableCommit : Option (Except PlantError Unit)) :
    Method PandapowerCigreMvPlant PlantError PhysicalStateSnapshot := do
  let plant ← Method.self
  let effect ← Method.check (plant.prepareEffect request observed effectClock)
  match durableCommit with
  | none => pure ()
  | some outcome => Method.check (outcome.mapError relabelCommit)
  Method.assign fun plant => plant.swap effect
  pure effect.snapshot

/-- The `effect_deadline` argument. -/
structure EffectDeadline where
  instant : Time
  timezoneAware : Bool

/-- The checks of `apply_authorized_command` on its deadline and its clock. -/
def checkEffectDeadline (deadline : Option EffectDeadline) (clock : Option ClockReading) :
    Except PlantError Unit := do
  refuseIf (deadline.isNone ≠ clock.isNone)
    (.other "effect deadline and clock must be configured together")
  refuseIf (deadline.any (fun given => !given.timezoneAware) = true)
    (.other "effect deadline must be timezone-aware")

/-- `apply_authorized_command` from its deadline and clock arguments. A clock that is absent is
    not read. -/
def applyAuthorizedCommandWithin (request : ApplyRequest) (deadline : Option EffectDeadline)
    (observed : ClockReading) (clock : Option ClockReading)
    (durableCommit : Option (Except PlantError Unit)) :
    Method PandapowerCigreMvPlant PlantError PhysicalStateSnapshot := do
  Method.check (checkEffectDeadline deadline clock)
  applyAuthorizedCommand { request with effectDeadline := deadline.map EffectDeadline.instant }
    observed (clock.getD (.error "effect clock is absent")) durableCommit

/-! ## Restoring -/

/-- The two loops of `restore_state` over the bindings. -/
def restoreTables (configuration : PlantConfiguration) (snapshot : PhysicalStateSnapshot)
    (tables : Network) : Network :=
  let lines := configuration.lineBindings.foldl (fun net entry =>
    net.setLineInService entry.2.targetIndex (decide (entry.1 ∉ snapshot.isolatedResources)))
    tables
  configuration.batteryBindings.foldl (fun net entry =>
    net.setStoragePMw entry.2.targetIndex
      (- (lookupEntry entry.1 snapshot.batteryInjectionMw).getD 0)) lines

/-- The resources of `restore_state` are the bound ones. -/
def batteryResourcesMatch (configuration : PlantConfiguration)
    (snapshot : PhysicalStateSnapshot) : Prop :=
  snapshot.batteryInjectionMw.map Prod.fst ⊆ configuration.batteryBindings.map Prod.fst ∧
    configuration.batteryBindings.map Prod.fst ⊆ snapshot.batteryInjectionMw.map Prod.fst

instance (configuration : PlantConfiguration) (snapshot : PhysicalStateSnapshot) :
    Decidable (batteryResourcesMatch configuration snapshot) :=
  inferInstanceAs (Decidable (_ ∧ _))

/-- One pass of the loop that checks the injections. -/
def injectionRefused (configuration : PlantConfiguration) (entry : String × ℚ) : Bool :=
  match lookupEntry entry.1 configuration.batteryBindings with
  | some binding => decide (¬ binding.admits entry.2)
  | none => true

/-- The checks of `restore_state` on its arguments. -/
def checkRestore (plant : PandapowerCigreMvPlant) (snapshot : PhysicalStateSnapshot) :
    Except PlantError Unit := do
  plant.assertModelIntegrity
  refuseIf (plant.stateVersion ≠ 0 ∨ plant.simulationTimeS ≠ 0)
    (.simulation "restore_target_not_fresh")
  refuseIf (snapshot.verifyDigest = false) (.simulation "restore_checkpoint_digest_invalid")
  refuseIf (snapshot.modelId ≠ cigreMvModelId ∨ snapshot.simulatorVersion ≠ simulatorVersion ∨
      snapshot.modelDigest ≠ plant.modelDigest)
    (.simulation "restore_model_mismatch")
  refuseIf (snapshot.converged = false ∨ snapshot.unsafeState = true)
    (.simulation "restore_checkpoint_not_safe")
  refuseIf (snapshot.isolatedResources ≠ (SortedMap.ofKeys snapshot.isolatedResources).keys ∨
      ¬ snapshot.isolatedResources ⊆ plant.configuration.lineBindings.map Prod.fst)
    (.simulation "restore_line_state_invalid")
  refuseIf (¬ batteryResourcesMatch plant.configuration snapshot)
    (.simulation "restore_storage_state_invalid")
  refuseIf (snapshot.batteryInjectionMw.any (injectionRefused plant.configuration) = true)
    (.simulation "restore_storage_state_invalid")
  refuseIf (modelMaterialDigest plant.configuration Pandapower.createCigreNetworkMv ≠
      plant.modelDigest)
    (.simulation "restore_model_mismatch")

/-- `restore_state` up to its assignments, with the observation clock. -/
def prepareRestore (plant : PandapowerCigreMvPlant) (snapshot : PhysicalStateSnapshot)
    (clock : ClockReading) : Except PlantError PendingEffect := do
  plant.checkRestore snapshot
  let candidate := solve
    (restoreTables plant.configuration snapshot Pandapower.createCigreNetworkMv)
  refuseIf (candidate.solution = none) (.simulation "restore_power_flow_nonconvergent")
  let restoredAt ← clock.mapError .other
  let labels : SnapshotLabels :=
    { stateVersion := snapshot.stateVersion
      simulationTimeS := snapshot.simulationTimeS
      observedAt := restoredAt
      observationSequence := 0 }
  let restored ← plant.snapshot candidate labels true
  refuseIf (restored.inputDigest ≠ snapshot.inputDigest)
    (.simulation "restore_input_digest_mismatch")
  refuseIf (restored.topologyDigest ≠ snapshot.topologyDigest)
    (.simulation "restore_topology_digest_mismatch")
  refuseIf (restored.stateDigest ≠ snapshot.stateDigest)
    (.simulation "restore_state_digest_mismatch")
  pure ⟨snapshot, restored, candidate, labels⟩

/-- `restore_state`. -/
def restoreState (snapshot : PhysicalStateSnapshot) (clock : ClockReading) :
    Method PandapowerCigreMvPlant PlantError PhysicalStateSnapshot := do
  let plant ← Method.self
  let effect ← Method.check (plant.prepareRestore snapshot clock)
  Method.assign fun plant => plant.swap effect
  pure effect.snapshot

end PandapowerCigreMvPlant

end

end AegisOt
