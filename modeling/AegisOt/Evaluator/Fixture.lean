import AegisOt.Coordination.Models
import AegisOt.Misc.Bisect
import AegisOt.Misc.Checks
import AegisOt.Misc.Json
import Mathlib.Data.Rat.Defs
import Mathlib.Algebra.Order.Ring.Rat

/-!
# Topology fixtures

`_validate_fixture` of the independent `evaluator.py`: the buses, branches, sources, loads and
controlled resources of a neutral topology. The members have their types here, and a bus that is
named is the integer that `int` makes of it; what is left are the checks of the values.
-/

namespace AegisOt

/-- What the evaluator raises: an `EvaluationInputError` with its code, or a `KeyError`. -/
inductive EvaluationError where
  | input (code : String)
  | keyError
  deriving DecidableEq, Repr

/-- An item of `branches`. -/
structure FixtureBranch where
  branchId : String
  kind : String
  targetIndex : ℤ
  fromBus : ℤ
  toBus : ℤ
  baselineInService : Bool

/-- An item of `sources`. -/
structure FixtureSource where
  sourceId : String
  bus : ℤ
  inService : Bool

/-- An item of `loads`. -/
structure FixtureLoad where
  loadId : String
  bus : ℤ
  pMw : String
  inService : Bool
  priority : Bool

/-- An item of `controlled_resources`. -/
structure FixtureResource where
  resource : String
  commandType : String
  branchId : String
  target : String
  targetIndex : ℤ

/-- The members of a fixture that its digest is taken of. -/
structure FixtureMaterial where
  schemaVersion : String
  fixtureId : String
  source : Json
  buses : List ℤ
  branches : List FixtureBranch
  sources : List FixtureSource
  loads : List FixtureLoad
  controlledResources : List FixtureResource

/-- The members of a fixture. -/
structure FixtureFields extends FixtureMaterial where
  fixtureDigest : String

/-- What the evaluator takes from its canonical encoding and from `decimal`: the digest of the
    material, and the value of a text that `Decimal` reads as a finite number. -/
class EvaluatorPrimitives where
  canonicalDigest : FixtureMaterial → String
  finiteDecimal : String → Option ℚ

/-- `FIXTURE_SCHEMA_VERSION`. -/
def fixtureSchemaVersion : String := "m4b-neutral-topology-fixture-v1"

/-- `_require_sha256`. -/
def requireSha256 (value label : String) : Except EvaluationError Unit :=
  refuseIf (isHexDigest value = false) (.input (label ++ "_invalid"))

/-- `_require_string`. -/
def requireString (value label : String) : Except EvaluationError Unit :=
  refuseIf (value.length < 1) (.input (label ++ "_invalid"))

/-- `_require_int` of an integer. -/
def requireNonnegative (value : ℤ) (label : String) : Except EvaluationError Unit :=
  refuseIf (value < 0) (.input (label ++ "_invalid"))

section

variable [EvaluatorPrimitives]

/-- `_decimal` of a string. -/
def decimal (value label : String) : Except EvaluationError ℚ := do
  refuseIf (value = "") (.input (label ++ "_must_be_decimal_string"))
  let result ← orRaise (EvaluatorPrimitives.finiteDecimal value) (.input (label ++ "_invalid"))
  refuseIf (result < 0) (.input (label ++ "_invalid"))
  .ok result

/-- The checks of a branch. `branch_ids` grows by its identifier. -/
def validateBranch (buses : List ℤ) (branchIds : List String) (branch : FixtureBranch) :
    Except EvaluationError (List String) := do
  requireString branch.branchId "fixture_branch_id"
  refuseIf (branch.branchId ∈ branchIds) (.input "fixture_branch_duplicate")
  refuseIf (branch.kind ∉ ["line", "transformer"]) (.input "fixture_branch_kind_invalid")
  requireNonnegative branch.targetIndex "fixture_branch_target_index"
  refuseIf (branch.fromBus ∉ buses ∨ branch.toBus ∉ buses) (.input "fixture_branch_bus_invalid")
  .ok (branchIds ++ [branch.branchId])

/-- The checks of a source. -/
def validateSource (buses : List ℤ) (sourceIds : List String) (source : FixtureSource) :
    Except EvaluationError (List String) := do
  requireString source.sourceId "fixture_source_id"
  refuseIf (source.sourceId ∈ sourceIds ∨ source.bus ∉ buses) (.input "fixture_source_invalid")
  .ok (sourceIds ++ [source.sourceId])

/-- The checks of a load. -/
def validateLoad (buses : List ℤ) (loadIds : List String) (load : FixtureLoad) :
    Except EvaluationError (List String) := do
  requireString load.loadId "fixture_load_id"
  refuseIf (load.loadId ∈ loadIds ∨ load.bus ∉ buses) (.input "fixture_load_invalid")
  let _ ← decimal load.pMw "fixture_load_p_mw"
  .ok (loadIds ++ [load.loadId])

/-- The checks of a controlled resource. -/
def validateResource (branchIds resourceIds : List String) (resource : FixtureResource) :
    Except EvaluationError (List String) := do
  requireString resource.resource "fixture_resource_name"
  refuseIf (resource.resource ∈ resourceIds ∨ resource.branchId ∉ branchIds)
    (.input "fixture_resource_invalid")
  refuseIf (resource.commandType ≠ "set_line_service") (.input "fixture_resource_command_invalid")
  requireString resource.target "fixture_resource_target"
  requireNonnegative resource.targetIndex "fixture_resource_target_index"
  .ok (resourceIds ++ [resource.resource])

/-- `_validate_fixture`. -/
def validateFixture (fixture : FixtureFields) : Except EvaluationError Unit := do
  refuseIf (fixture.schemaVersion ≠ fixtureSchemaVersion) (.input "fixture_schema_invalid")
  requireString fixture.fixtureId "fixture_id"
  requireSha256 fixture.fixtureDigest "fixture_digest"
  refuseIf (fixture.fixtureDigest ≠
      EvaluatorPrimitives.canonicalDigest fixture.toFixtureMaterial)
    (.input "fixture_digest_mismatch")
  refuseIf ((∃ bus ∈ fixture.buses, bus < 0) ∨ ¬ fixture.buses.Nodup ∨
      fixture.buses ≠ sortedBy id fixture.buses) (.input "fixture_buses_invalid")
  refuseIf (fixture.branches.length = 0) (.input "fixture_branches_invalid")
  let branchIds ← fixture.branches.foldlM (validateBranch fixture.buses) []
  refuseIf (fixture.sources.length = 0) (.input "fixture_sources_invalid")
  let _ ← fixture.sources.foldlM (validateSource fixture.buses) []
  let _ ← fixture.loads.foldlM (validateLoad fixture.buses) []
  let _ ← fixture.controlledResources.foldlM (validateResource branchIds) []
  .ok ()

/-- A fixture that was validated. -/
structure Fixture extends FixtureFields where
  valid : validateFixture toFixtureFields = .ok ()

end

end AegisOt
