import AegisOt.Coordination.Sample
import AegisOt.Plant.Pandapower
import Mathlib.Algebra.Order.Ring.Nat

/-!
# A sample plant

A network with one load, one switchable line and one storage unit, and a configuration that binds
two battery resources to the storage unit, the second one within narrower bounds. The sample power
flow converges to nominal values while the line is in service, and not otherwise. Digests separate
networks by the cells that commands write.
-/

namespace AegisOt.Sample

/-- A number that tells the cells of the sample apart. -/
def cellWeight : Scalar → Nat
  | .null => 1
  | .boolean false => 2
  | .boolean true => 3
  | .integer value => 4 + value.natAbs
  | .number value => 100 + 10 * (value * 8).num.natAbs + (if value < 0 then 1 else 0)
  | .text value => value.length

def tableWeight (tables : List (String × List TableRecord)) : Nat :=
  (tables.map fun table => (table.2.map fun row =>
    (row.cells.map fun cell => cellWeight cell.2).sum).sum).sum

def plantKind : PlantMaterial → Nat
  | .input tables => 100000 + tableWeight tables
  | .topology tables => 200000 + tableWeight tables
  | .model material => 300000 + material.resourceBindings.length
  | .payload _ => 400000
  | .call call => 500000 + call.callNonce.length
  | .response response => 600000 + response.callSha256.val

scoped instance samplePlantPrimitives : PlantPrimitives where
  canonicalDigest m := sha (plantKind m)
  signBytes _ _ := signature
  verifyBytes _ _ s := decide (s = signature)

/-- Small dyadic numbers are added and multiplied exactly. -/
scoped instance sampleBinary64 : Binary64 where
  add x y := x + y
  sub x y := x - y
  mul x y := x * y
  div x y := x / y
  timedelta x := (x * 1000000).floor

def network : Network :=
  { frames :=
      [⟨"bus", ["in_service", "name"], [0]⟩,
        ⟨"line", ["from_bus", "in_service", "name", "to_bus"], [4]⟩,
        ⟨"load", ["bus", "in_service", "name", "p_mw"], [12]⟩,
        ⟨"storage", ["name", "p_mw"], [0]⟩]
    lineInService := fun _ => true
    storagePMw := fun _ => 0
    cell := fun table _ column =>
      if column = "in_service" then .boolean true
      else if column = "bus" then .integer 0
      else if column = "p_mw" then .number 2
      else if table = "line" then .text "Line 5-6"
      else .text "Battery 1"
    snMva := .integer 1
    fHz := .integer 50
    formatVersion := "3.0"
    version := "3.5.4" }

scoped instance samplePandapower : Pandapower where
  version := "3.5.4"
  createCigreNetworkMv := network
  runpp net := if net.lineInService 4 then some ⟨[some 1], [some 50]⟩ else none

def battery (resource : String) (bound : ℚ) : String × ResourceBinding :=
  (resource,
    { resource := resource
      commandType := .setBatteryInjection
      target := "Battery 1"
      targetIndex := 0
      minimumSetpoint := - bound
      maximumSetpoint := bound })

def feeder : String × ResourceBinding :=
  ("feeder-1",
    { resource := "feeder-1"
      commandType := .setLineService
      target := "Line 5-6"
      targetIndex := 4
      minimumSetpoint := 0
      maximumSetpoint := 1 })

/-- Two battery resources share the storage unit. -/
def plantConfiguration : PlantConfiguration :=
  { limits := .default
    resourceBindings := [feeder, battery "battery-1" 1, battery "battery-2" (1 / 2)]
    distinct := by decide
    priorityLoadIndices := [12]
    stepSeconds := 1
    observationSourceId := "sample-plant" }

/-- The plant as `__init__` builds it at an instant. -/
def freshPlant (observedAt : Time) : PandapowerCigreMvPlant :=
  { configuration := plantConfiguration
    modelDigest := modelMaterialDigest plantConfiguration network
    net := solve network
    stateVersion := 0
    simulationTimeS := 0
    observedAt := observedAt
    observationSequence := 0 }

def batteryCommand (resource : String) (setpoint : ℚ) : PhysicalControlCommand :=
  { commandId := "command-1"
    proposalId := "proposal-1"
    operation := .dispatchBattery
    resource := resource
    commandType := .setBatteryInjection
    target := "Battery 1"
    targetIndex := 0
    setpoint := setpoint
    unit := "MW" }

/-- A command without pins and without a deadline. -/
def plainRequest (command : PhysicalControlCommand) :
    PandapowerCigreMvPlant.ApplyRequest :=
  { command := command
    expectedPreStateVersion := none
    expectedPreStateDigest := none
    expectedPreObservationDigest := none
    expectedPostStateDigest := none
    expectedPostTopologyDigest := none
    effectDeadline := none }

theorem create_freshPlant (observedAt : Time) :
    PandapowerCigreMvPlant.create plantConfiguration observedAt = .ok (freshPlant observedAt) := by
  rfl

end AegisOt.Sample
