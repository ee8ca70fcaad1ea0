import AegisOt.Capability
import AegisOt.Misc.Method
import AegisOt.Misc.SortedMap
import Mathlib.Algebra.Order.Ring.Rat

/-!
# The network tables of the plant

The input tables of a pandapower network as `pandapower_plant.py` reads, digests and edits them,
with the configuration a plant binds to them. Two columns are written by the plant, the service
flag of a line and the power of a storage unit; they have a column of their own with the type
pandapower gives them. Every other cell is a scalar that the plant only reads. pandapower itself
is third-party code: the packaged network and the power flow are parameters, and the power flow is
a function of the input tables.
-/

namespace AegisOt

/-- A table cell as `_json_scalar` writes it; a float that is not finite is `null`. -/
inductive Scalar where
  | null
  | boolean (value : Bool)
  | integer (value : ℤ)
  | number (value : ℚ)
  | text (value : String)
  deriving DecidableEq

namespace Scalar

/-- `bool(cell)` of a boolean column. -/
def truthy : Scalar → Bool
  | .boolean value => value
  | _ => false

/-- `float(cell)` of a numeric column. -/
def toFloat : Scalar → ℚ
  | .number value => value
  | .integer value => value
  | _ => 0

/-- `str(cell)` of a name column. -/
def toText : Scalar → String
  | .text value => value
  | _ => ""

/-- `int(cell)` of an index column. -/
def toIndex : Scalar → Nat
  | .integer value => value.toNat
  | _ => 0

end Scalar

/-- One record of `_table_records`. -/
structure TableRecord where
  index : Nat
  cells : List (String × Scalar)
  deriving DecidableEq

/-- The columns and the sorted index of one input table. -/
structure TableFrame where
  name : String
  columns : List String
  index : List Nat
  deriving DecidableEq

/-- A table of `_static_network_material`. -/
structure StaticTable where
  name : String
  columns : List String
  records : List TableRecord
  deriving DecidableEq

/-- `_static_network_material`. -/
structure StaticNetwork where
  snMva : Scalar
  fHz : Scalar
  formatVersion : String
  networkVersion : String
  tables : List StaticTable
  deriving DecidableEq

/-- The input tables of a network: those of its `DataFrame` values whose name starts neither with
    `_` nor with `res_`, in name order. -/
@[ext]
structure Network where
  frames : List TableFrame
  /-- `net.line["in_service"]`. -/
  lineInService : Nat → Bool
  /-- `net.storage["p_mw"]`. -/
  storagePMw : Nat → ℚ
  /-- Every other cell, by table, index and column. -/
  cell : String → Nat → String → Scalar
  snMva : Scalar
  fHz : Scalar
  formatVersion : String
  version : String

/-- The results of a converged power flow, `res_bus.vm_pu` and `res_line.loading_percent`, as
    `_finite_tuple` gives them. -/
structure PowerFlow where
  vmPu : List (Option ℚ)
  loadingPercent : List (Option ℚ)
  deriving DecidableEq

namespace Network

/-- `net[table].at[index, column]`. -/
def read (net : Network) (table : String) (index : Nat) (column : String) : Scalar :=
  if table = "line" ∧ column = "in_service" then .boolean (net.lineInService index)
  else if table = "storage" ∧ column = "p_mw" then .number (net.storagePMw index)
  else net.cell table index column

/-- `net[table].index`. -/
def index (net : Network) (table : String) : List Nat :=
  match net.frames.find? (fun frame => frame.name = table) with
  | some frame => frame.index
  | none => []

/-- `net.line.at[index, "in_service"] = inService`. -/
def setLineInService (net : Network) (index : Nat) (inService : Bool) : Network :=
  { net with lineInService := Function.update net.lineInService index inService }

/-- `net.storage.at[index, "p_mw"] = power`. -/
def setStoragePMw (net : Network) (index : Nat) (power : ℚ) : Network :=
  { net with storagePMw := Function.update net.storagePMw index power }

/-- `_table_records`, over the index of the frame. -/
def recordsOver (net : Network) (table : String) (rows : List Nat) (columns : List String) :
    List TableRecord :=
  rows.map fun row => ⟨row, columns.map fun column => (column, net.read table row column)⟩

/-- `_table_records`. -/
def tableRecords (net : Network) (table : String) (columns : List String) : List TableRecord :=
  net.recordsOver table (net.index table) columns

/-- `_input_table_exclusions`. -/
def inputTableExclusions : String → List String
  | "bus" => ["in_service"]
  | "line" => ["in_service"]
  | "load" => ["p_mw", "q_mvar", "scaling", "in_service"]
  | "sgen" => ["p_mw", "q_mvar", "scaling", "in_service"]
  | "storage" => ["p_mw", "q_mvar", "scaling", "soc_percent", "in_service"]
  | "switch" => ["closed"]
  | "trafo" => ["tap_pos", "in_service"]
  | "ext_grid" => ["vm_pu", "va_degree", "in_service"]
  | "shunt" => ["step", "in_service"]
  | _ => []

/-- The columns of a table that the model digest covers. -/
def staticColumns (frame : TableFrame) : List String :=
  frame.columns.filter fun column => column ∉ inputTableExclusions frame.name

/-- `_static_network_material`. -/
def staticMaterial (net : Network) : StaticNetwork :=
  { snMva := net.snMva
    fHz := net.fHz
    formatVersion := net.formatVersion
    networkVersion := net.version
    tables := net.frames.map fun frame =>
      ⟨frame.name, staticColumns frame,
        net.recordsOver frame.name frame.index (staticColumns frame)⟩ }

/-- The tables of `_input_digest`; their dynamic columns are the ones the model digest excludes. -/
def inputTables (net : Network) : List (String × List TableRecord) :=
  ["bus", "line", "load", "sgen", "storage", "switch", "trafo", "ext_grid", "shunt"].map
    fun table => (table, net.tableRecords table (inputTableExclusions table))

/-- The tables of `_topology_digest`. -/
def topologyTables (net : Network) : List (String × List TableRecord) :=
  [("bus", net.tableRecords "bus" ["in_service"]),
    ("line", net.tableRecords "line" ["from_bus", "to_bus", "in_service"]),
    ("switch", net.tableRecords "switch" ["bus", "element", "et", "closed"]),
    ("trafo", net.tableRecords "trafo" ["hv_bus", "lv_bus", "tap_pos", "in_service"]),
    ("ext_grid", net.tableRecords "ext_grid" ["bus", "in_service"])]

/-! ## What a write leaves alone -/

@[simp] theorem frames_setLineInService (net : Network) (row : Nat) (value : Bool) :
    (net.setLineInService row value).frames = net.frames := rfl

@[simp] theorem frames_setStoragePMw (net : Network) (row : Nat) (value : ℚ) :
    (net.setStoragePMw row value).frames = net.frames := rfl

theorem read_setLineInService (net : Network) (row : Nat) (value : Bool) {table column : String}
    (h : ¬ (table = "line" ∧ column = "in_service")) (index : Nat) :
    (net.setLineInService row value).read table index column = net.read table index column := by
  unfold read
  rw [if_neg h, if_neg h]
  rfl

theorem read_setStoragePMw (net : Network) (row : Nat) (value : ℚ) {table column : String}
    (h : ¬ (table = "storage" ∧ column = "p_mw")) (index : Nat) :
    (net.setStoragePMw row value).read table index column = net.read table index column := by
  unfold read
  rw [if_neg h, if_neg h]
  rfl

/-- The model digest covers no column that the plant writes. -/
theorem staticColumns_unwritten {frame : TableFrame} {column : String}
    (h : column ∈ staticColumns frame) :
    ¬ (frame.name = "line" ∧ column = "in_service") ∧
      ¬ (frame.name = "storage" ∧ column = "p_mw") := by
  have hkept := (List.mem_filter.mp h).2
  constructor
  · rintro ⟨hname, rfl⟩
    rw [hname] at hkept
    exact absurd hkept (by decide)
  · rintro ⟨hname, rfl⟩
    rw [hname] at hkept
    exact absurd hkept (by decide)

/-- A network that differs only in written columns has the same static material. -/
theorem staticMaterial_congr {net net' : Network} (hframes : net'.frames = net.frames)
    (hsn : net'.snMva = net.snMva) (hf : net'.fHz = net.fHz)
    (hformat : net'.formatVersion = net.formatVersion) (hversion : net'.version = net.version)
    (hread : ∀ table index column, ¬ (table = "line" ∧ column = "in_service") →
      ¬ (table = "storage" ∧ column = "p_mw") →
        net'.read table index column = net.read table index column) :
    net'.staticMaterial = net.staticMaterial := by
  unfold staticMaterial
  rw [hframes, hsn, hf, hformat, hversion]
  congr 1
  refine List.map_congr_left fun frame _ => ?_
  congr 1
  refine List.map_congr_left fun row _ => ?_
  congr 1
  refine List.map_congr_left fun column hcolumn => ?_
  obtain ⟨hline, hstorage⟩ := staticColumns_unwritten hcolumn
  rw [hread frame.name row column hline hstorage]

@[simp] theorem staticMaterial_setLineInService (net : Network) (row : Nat) (value : Bool) :
    (net.setLineInService row value).staticMaterial = net.staticMaterial :=
  staticMaterial_congr rfl rfl rfl rfl rfl fun _ index _ hline _ =>
    net.read_setLineInService row value hline index

@[simp] theorem staticMaterial_setStoragePMw (net : Network) (row : Nat) (value : ℚ) :
    (net.setStoragePMw row value).staticMaterial = net.staticMaterial :=
  staticMaterial_congr rfl rfl rfl rfl rfl fun _ index _ _ hstorage =>
    net.read_setStoragePMw row value hstorage index

end Network

/-! ## The configuration of a plant -/

/-- `PhysicalLimits`. -/
structure PhysicalLimits where
  minimumVoltagePu : ℚ
  maximumVoltagePu : ℚ
  maximumLineLoadingPct : ℚ
  minimumTotalLoadServedPct : ℚ
  minimumPriorityLoadServedPct : ℚ
  deriving DecidableEq

/-- The defaults of `PhysicalLimits`. -/
def PhysicalLimits.default : PhysicalLimits :=
  { minimumVoltagePu := 9 / 10
    maximumVoltagePu := 11 / 10
    maximumLineLoadingPct := 100
    minimumTotalLoadServedPct := 90
    minimumPriorityLoadServedPct := 80 }

/-- `ResourceBinding`. -/
structure ResourceBinding where
  resource : String
  commandType : PhysicalCommandType
  target : String
  targetIndex : Nat
  minimumSetpoint : ℚ
  maximumSetpoint : ℚ
  deriving DecidableEq

namespace ResourceBinding

/-- `minimum_setpoint <= setpoint <= maximum_setpoint`. -/
def admits (binding : ResourceBinding) (setpoint : ℚ) : Prop :=
  binding.minimumSetpoint ≤ setpoint ∧ setpoint ≤ binding.maximumSetpoint

instance (binding : ResourceBinding) (setpoint : ℚ) : Decidable (binding.admits setpoint) :=
  inferInstanceAs (Decidable (_ ∧ _))

end ResourceBinding

/-- The constructor arguments of a plant that stay fixed. `resource_bindings` is a dictionary, so
    its keys are distinct; `priority_load_indices` is given by its sorted list. -/
structure PlantConfiguration where
  limits : PhysicalLimits
  resourceBindings : List (String × ResourceBinding)
  distinct : (resourceBindings.map Prod.fst).Nodup
  priorityLoadIndices : List Nat
  stepSeconds : ℚ
  observationSourceId : String

/-- The parts of `_model_material` that depend on the plant. -/
structure ModelMaterial where
  pandapowerVersion : String
  limits : PhysicalLimits
  priorityLoadIndices : List Nat
  /-- `sorted(self.resource_bindings.items())`. -/
  resourceBindings : List (String × ResourceBinding)
  network : StaticNetwork
  deriving DecidableEq

/-- The pandapower package: its version, `create_cigre_network_mv(with_der="all")` and `runpp`
    under the options of the plant, which gives nothing where it fails or does not converge. -/
class Pandapower where
  version : String
  createCigreNetworkMv : Network
  runpp : Network → Option PowerFlow

/-- Python arithmetic on finite floats, and `timedelta(seconds=...)`. -/
class Binary64 where
  add : ℚ → ℚ → ℚ
  sub : ℚ → ℚ → ℚ
  mul : ℚ → ℚ → ℚ
  div : ℚ → ℚ → ℚ
  timedelta : ℚ → Time

end AegisOt
