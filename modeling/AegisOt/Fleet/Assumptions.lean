import AegisOt.Gateway.Evidence
import AegisOt.Misc.Checks
import AegisOt.Misc.Text
import Mathlib.Data.Rat.Floor

/-!
# Assumptions of the fleet model

`EconomicCase` and `FleetModelAssumptions` of `m6_fleet.py`, with the checks of their
constructors, and the arithmetic that the model is written in: ceiling division, decimals
quantized to six places and the seeded offsets. A Python integer is an `ℤ` and a finite
`Decimal` the rational that it is; a value exists only if its constructor accepted it.
-/

namespace AegisOt

/-- What a function of the model raises. -/
inductive FleetError where
  | typeError (message : String)
  | valueError (message : String)
  | indexError
  | keyError
  | zeroDivision
  | invalidOperation
  deriving DecidableEq, Repr

/-- `SCALE_POINTS`. -/
def scalePoints : List ℤ := [10, 100, 1000, 10000]

/-- `SENSITIVITY_CASES`. -/
def sensitivityCases : List String := ["low", "base", "high"]

def microsecondsPerSecond : ℤ := 1000000

def secondsPerDay : ℤ := 86400

def bytesPerGib : ℤ := 1073741824

def maxLogicalAgents : ℤ := 10000

def maxEventsPerLogicalAgent : ℤ := 25

def maxSimulatedEventsBound : ℤ := 250000

def maxCoordinationSamplesBound : ℤ := 1000000

/-! ## Arithmetic -/

/-- `_require_int`, for a value that is an integer. -/
def requireInt (value : ℤ) (label : String) (minimum maximum : ℤ) : Except FleetError Unit :=
  refuseIf (¬ (minimum ≤ value ∧ value ≤ maximum))
    (.valueError (label ++ " must be between " ++ toString minimum ++ " and " ++
      toString maximum))

/-- `_require_decimal`, for a value that is a finite `Decimal`. -/
def requireDecimal (value : ℚ) (label : String) (minimum maximum : ℤ) :
    Except FleetError Unit :=
  refuseIf (¬ ((minimum : ℚ) ≤ value ∧ value ≤ maximum))
    (.valueError (label ++ " must be between " ++ toString minimum ++ " and " ++
      toString maximum))

/-- `_ceil_div`. -/
def ceilDiv (numerator denominator : ℤ) : Except FleetError ℤ := do
  refuseIf (denominator ≤ 0) (.valueError "division denominator must be positive")
  .ok (-(-numerator / denominator))

/-- Rounding to six places, half up: a half is rounded away from zero. -/
def roundHalfUp (value : ℚ) : ℚ :=
  if 0 ≤ value then ⌊value * 1000000 + 1 / 2⌋ / 1000000
  else -(⌊-value * 1000000 + 1 / 2⌋ / 1000000)

/-- `_quantize`: the quantized coefficient must fit into the 28 digits of the context. -/
def quantize (value : ℚ) : Except FleetError ℚ := do
  refuseIf (10 ^ 28 ≤ |roundHalfUp value| * 1000000) .invalidOperation
  .ok (roundHalfUp value)

/-- `/` of two decimals. -/
def divide (dividend divisor : ℚ) : Except FleetError ℚ := do
  refuseIf (divisor = 0) .zeroDivision
  .ok (dividend / divisor)

/-- What the model takes from `hashlib` and from the Unicode database, where the characters of
    ASCII from the space to the tilde are printable. -/
class FleetPrimitives where
  sha256 : ByteArray → Sha256
  isPrintable : Char → Bool
  isPrintable_ascii : ∀ c, 32 ≤ c.toNat → c.toNat < 127 → isPrintable c = true

variable [FleetPrimitives]

/-- `"\x00".join((seed, domain, *(str(item) for item in coordinates)))`. -/
def offsetMaterial (seed domain : String) (coordinates : List ℤ) : String :=
  "\x00".intercalate (seed :: domain :: coordinates.map toString)

/-- `_deterministic_offset`: the first eight bytes of the digest are its value by `2 ^ 192`. -/
def deterministicOffset (seed domain : String) (coordinates : List ℤ) (modulus : ℤ) :
    Except FleetError ℤ := do
  refuseIf (modulus ≤ 0) (.valueError "deterministic offset modulus must be positive")
  let digest := FleetPrimitives.sha256 (offsetMaterial seed domain coordinates).toUTF8
  .ok (((digest.val / 2 ^ 192 : ℕ) : ℤ) % modulus)

/-- `hashlib.sha256` of the lines that were written to a trace, in hexadecimal. -/
def traceSha256 (lines : List String) : String :=
  hexdigest (FleetPrimitives.sha256 (String.join lines).toUTF8)

/-! ## Economic cases -/

/-- The fields of `EconomicCase`. -/
structure EconomicCaseFields where
  name : String
  operatorLaborUsdPerHour : ℚ
  incidentResponderLaborUsdPerHour : ℚ
  governanceLaborUsdPerHour : ℚ
  infrastructureUsdPerLogicalAgentMonthAtFullUtilization : ℚ
  evidenceStorageUsdPerGibMonth : ℚ
  utilizationBasisPoints : ℤ
  retentionDays : ℤ

namespace EconomicCaseFields

/-- The rates that `__post_init__` goes through. -/
def rates (case : EconomicCaseFields) : List (String × ℚ) :=
  [("operator labor rate", case.operatorLaborUsdPerHour),
    ("incident responder labor rate", case.incidentResponderLaborUsdPerHour),
    ("governance labor rate", case.governanceLaborUsdPerHour),
    ("infrastructure rate", case.infrastructureUsdPerLogicalAgentMonthAtFullUtilization),
    ("evidence storage rate", case.evidenceStorageUsdPerGibMonth)]

/-- `EconomicCase.__post_init__`. -/
def postInit (case : EconomicCaseFields) : Except FleetError Unit := do
  refuseIf (case.name ∉ sensitivityCases)
    (.valueError "economic case name must be low, base, or high")
  case.rates.forM fun rate => requireDecimal rate.2 rate.1 0 10000
  requireInt case.utilizationBasisPoints "economic utilization" 1 10000
  requireInt case.retentionDays "economic evidence retention" 1 3650

end EconomicCaseFields

/-- `EconomicCase`. -/
structure EconomicCase extends EconomicCaseFields where
  accepted : toEconomicCaseFields.postInit = .ok ()

/-- `DEFAULT_ECONOMIC_CASES`. -/
def defaultEconomicCases : List EconomicCase :=
  [{  name := "low"
      operatorLaborUsdPerHour := 70
      incidentResponderLaborUsdPerHour := 95
      governanceLaborUsdPerHour := 110
      infrastructureUsdPerLogicalAgentMonthAtFullUtilization := 90 / 100
      evidenceStorageUsdPerGibMonth := 12 / 1000
      utilizationBasisPoints := 8500
      retentionDays := 30
      accepted := by decide +kernel },
    { name := "base"
      operatorLaborUsdPerHour := 105
      incidentResponderLaborUsdPerHour := 145
      governanceLaborUsdPerHour := 165
      infrastructureUsdPerLogicalAgentMonthAtFullUtilization := 140 / 100
      evidenceStorageUsdPerGibMonth := 23 / 1000
      utilizationBasisPoints := 7000
      retentionDays := 90
      accepted := by decide +kernel },
    { name := "high"
      operatorLaborUsdPerHour := 160
      incidentResponderLaborUsdPerHour := 225
      governanceLaborUsdPerHour := 250
      infrastructureUsdPerLogicalAgentMonthAtFullUtilization := 220 / 100
      evidenceStorageUsdPerGibMonth := 45 / 1000
      utilizationBasisPoints := 5500
      retentionDays := 365
      accepted := by decide +kernel }]

/-! ## Assumptions -/

/-- The fields of `FleetModelAssumptions`, with their defaults. -/
structure FleetModelAssumptionsFields where
  seed : String := "aegis-ot-m6-reference-seed-v2"
  horizonSeconds : ℤ := 60
  eventsPerLogicalAgentPerHorizon : ℤ := 5
  arrivalJitterWindowMicroseconds : ℤ := 200000
  serviceWorkerCount : ℤ := 4
  serviceTimeMinMicroseconds : ℤ := 3000
  serviceTimeMaxMicroseconds : ℤ := 5000
  maximumSimulatedEvents : ℤ := 100000
  nominalLowRiskActionBasisPoints : ℤ := 5000
  provisionalUnapprovedActionBasisPoints : ℤ := 2000
  conflictingConsequentialActionBasisPoints : ℤ := 1000
  containmentRecoveryActionBasisPoints : ℤ := 1000
  readOnlyActionBasisPoints : ℤ := 1000
  approvalDurationMicroseconds : ℤ := 2000000
  concurrencySampleMicroseconds : ℤ := 100000
  replayStateBytesPerEntry : ℤ := 192
  pendingEffectBasisPoints : ℤ := 250
  reconciliationWorkerCount : ℤ := 2
  reconciliationServiceTimeMinMicroseconds : ℤ := 100000
  reconciliationServiceTimeMaxMicroseconds : ℤ := 250000
  delegationBranchingFactor : ℤ := 10
  revocationEdgeDelayMicroseconds : ℤ := 2000
  revocationEdgeJitterMicroseconds : ℤ := 1000
  policyDocumentBytes : ℤ := 8192
  policyDistributionBandwidthBytesPerSecond : ℤ := 5000000
  policyEdgeDelayMicroseconds : ℤ := 5000
  policyEdgeJitterMicroseconds : ℤ := 2000
  policyUpdatesPerMonth : ℤ := 4
  evidenceBytesPerEvent : ℤ := 1536
  targetLogicalAgentsPerOperator : ℤ := 250
  operatorOversightHoursPerOperatorMonth : ℚ := 12
  modeledIncidentsPer10000LogicalAgentMonths : ℤ := 20
  incidentBaseEffortMinutes : ℤ := 180
  incidentEffortMinutesPerDelegationDepth : ℤ := 15
  incidentHandoffMinutesPerOperator : ℤ := 2
  governanceBaseHoursPerMonth : ℚ := 8
  governanceReviewMinutesPerPolicyUpdate : ℚ := 45
  governanceReviewMinutesPerDepthUpdate : ℚ := 5
  governanceReviewMinutesPer1000AgentsUpdate : ℚ := 2
  evidenceReviewMinutesPerRetainedGib : ℚ := 1 / 4
  economicCases : List EconomicCase := defaultEconomicCases

namespace FleetModelAssumptionsFields

variable (assumptions : FleetModelAssumptionsFields)

/-- The checks of the seed. -/
def validSeed : Prop :=
  assumptions.seed ≠ "" ∧ Text.strip assumptions.seed.toList = assumptions.seed.toList ∧
    assumptions.seed.toList.all FleetPrimitives.isPrintable = true ∧
    assumptions.seed.toUTF8.size ≤ 256

instance : Decidable assumptions.validSeed := by
  unfold validSeed
  infer_instance

/-- `integer_bounds`. -/
def integerBounds : List (String × ℤ × ℤ × ℤ) :=
  [("horizon seconds", assumptions.horizonSeconds, 1, 86400),
    ("events per logical agent per horizon", assumptions.eventsPerLogicalAgentPerHorizon, 1,
      maxEventsPerLogicalAgent),
    ("arrival jitter window", assumptions.arrivalJitterWindowMicroseconds, 1, 10000000),
    ("service worker count", assumptions.serviceWorkerCount, 1, 128),
    ("minimum service time", assumptions.serviceTimeMinMicroseconds, 1, 10000000),
    ("maximum service time", assumptions.serviceTimeMaxMicroseconds, 1, 10000000),
    ("maximum simulated events", assumptions.maximumSimulatedEvents, 1,
      maxSimulatedEventsBound),
    ("nominal low-risk action share", assumptions.nominalLowRiskActionBasisPoints, 0, 10000),
    ("provisional or unapproved action-request share",
      assumptions.provisionalUnapprovedActionBasisPoints, 0, 10000),
    ("conflicting consequential action share",
      assumptions.conflictingConsequentialActionBasisPoints, 0, 10000),
    ("containment and recovery action share",
      assumptions.containmentRecoveryActionBasisPoints, 0, 10000),
    ("read-only action share", assumptions.readOnlyActionBasisPoints, 0, 10000),
    ("approval duration", assumptions.approvalDurationMicroseconds, 1,
      86400 * microsecondsPerSecond),
    ("concurrency sample interval", assumptions.concurrencySampleMicroseconds, 1,
      60 * microsecondsPerSecond),
    ("replay state bytes per entry", assumptions.replayStateBytesPerEntry, 1, 1000000),
    ("pending-effect share", assumptions.pendingEffectBasisPoints, 0, 10000),
    ("reconciliation worker count", assumptions.reconciliationWorkerCount, 1, 128),
    ("minimum reconciliation service time",
      assumptions.reconciliationServiceTimeMinMicroseconds, 1, 60000000),
    ("maximum reconciliation service time",
      assumptions.reconciliationServiceTimeMaxMicroseconds, 1, 60000000),
    ("delegation branching factor", assumptions.delegationBranchingFactor, 2, 64),
    ("revocation edge delay", assumptions.revocationEdgeDelayMicroseconds, 1, 60000000),
    ("revocation edge jitter", assumptions.revocationEdgeJitterMicroseconds, 1, 60000000),
    ("policy document bytes", assumptions.policyDocumentBytes, 1, 100000000),
    ("policy distribution bandwidth", assumptions.policyDistributionBandwidthBytesPerSecond, 1,
      10000000000),
    ("policy edge delay", assumptions.policyEdgeDelayMicroseconds, 1, 60000000),
    ("policy edge jitter", assumptions.policyEdgeJitterMicroseconds, 1, 60000000),
    ("policy updates per month", assumptions.policyUpdatesPerMonth, 1, 10000),
    ("evidence bytes per event", assumptions.evidenceBytesPerEvent, 1, 100000000),
    ("target logical agents per operator", assumptions.targetLogicalAgentsPerOperator, 1,
      maxLogicalAgents),
    ("modeled incidents per 10000 logical agent months",
      assumptions.modeledIncidentsPer10000LogicalAgentMonths, 0, 10000),
    ("incident base effort", assumptions.incidentBaseEffortMinutes, 0, 100000),
    ("incident effort per delegation depth",
      assumptions.incidentEffortMinutesPerDelegationDepth, 0, 100000),
    ("incident handoff effort per operator",
      assumptions.incidentHandoffMinutesPerOperator, 0, 100000)]

/-- `decimal_bounds`. -/
def decimalBounds : List (String × ℚ) :=
  [("operator oversight hours", assumptions.operatorOversightHoursPerOperatorMonth),
    ("governance base hours", assumptions.governanceBaseHoursPerMonth),
    ("governance review minutes per policy update",
      assumptions.governanceReviewMinutesPerPolicyUpdate),
    ("governance review minutes per depth update",
      assumptions.governanceReviewMinutesPerDepthUpdate),
    ("governance review minutes per 1000 agents update",
      assumptions.governanceReviewMinutesPer1000AgentsUpdate),
    ("evidence review minutes per retained GiB",
      assumptions.evidenceReviewMinutesPerRetainedGib)]

/-- `_action_distribution_basis_points`. -/
def actionDistributionBasisPoints : List ℤ :=
  [assumptions.nominalLowRiskActionBasisPoints,
    assumptions.provisionalUnapprovedActionBasisPoints,
    assumptions.conflictingConsequentialActionBasisPoints,
    assumptions.containmentRecoveryActionBasisPoints,
    assumptions.readOnlyActionBasisPoints]

def horizonMicroseconds : ℤ := assumptions.horizonSeconds * microsecondsPerSecond

/-- `_validate_economic_sensitivity_order`. The tuple is unpacked into three cases. -/
def validateEconomicSensitivityOrder : Except FleetError Unit :=
  match assumptions.economicCases with
  | [low, base, high] => do
      let ascending : List (ℚ × ℚ × ℚ) :=
        [(low.operatorLaborUsdPerHour, base.operatorLaborUsdPerHour,
            high.operatorLaborUsdPerHour),
          (low.incidentResponderLaborUsdPerHour, base.incidentResponderLaborUsdPerHour,
            high.incidentResponderLaborUsdPerHour),
          (low.governanceLaborUsdPerHour, base.governanceLaborUsdPerHour,
            high.governanceLaborUsdPerHour),
          (low.infrastructureUsdPerLogicalAgentMonthAtFullUtilization,
            base.infrastructureUsdPerLogicalAgentMonthAtFullUtilization,
            high.infrastructureUsdPerLogicalAgentMonthAtFullUtilization),
          (low.evidenceStorageUsdPerGibMonth, base.evidenceStorageUsdPerGibMonth,
            high.evidenceStorageUsdPerGibMonth),
          ((low.retentionDays : ℚ), (base.retentionDays : ℚ), (high.retentionDays : ℚ))]
      refuseIf (∃ values ∈ ascending, ¬ (values.1 < values.2.1 ∧ values.2.1 < values.2.2))
        (.valueError "low/base/high cost and retention assumptions must be increasing")
      refuseIf (¬ (base.utilizationBasisPoints < low.utilizationBasisPoints ∧
          high.utilizationBasisPoints < base.utilizationBasisPoints))
        (.valueError "low/base/high utilization assumptions must be decreasing")
  | _ => .error (.valueError "not enough or too many values to unpack")

/-- `FleetModelAssumptions.__post_init__`. -/
def postInit : Except FleetError Unit := do
  refuseIf (¬ assumptions.validSeed)
    (.valueError "model seed must be 1-256 printable UTF-8 bytes without edge space")
  assumptions.integerBounds.forM fun bound =>
    requireInt bound.2.1 bound.1 bound.2.2.1 bound.2.2.2
  refuseIf (assumptions.serviceTimeMaxMicroseconds < assumptions.serviceTimeMinMicroseconds)
    (.valueError "minimum service time must not exceed maximum service time")
  refuseIf (assumptions.reconciliationServiceTimeMaxMicroseconds <
      assumptions.reconciliationServiceTimeMinMicroseconds)
    (.valueError "minimum reconciliation service time must not exceed maximum")
  refuseIf (assumptions.actionDistributionBasisPoints.sum ≠ 10000)
    (.valueError "action distribution shares must sum to 10000 basis points")
  refuseIf (assumptions.horizonMicroseconds / assumptions.eventsPerLogicalAgentPerHorizon ≤
      assumptions.arrivalJitterWindowMicroseconds)
    (.valueError "arrival jitter must be smaller than each event arrival interval")
  refuseIf (assumptions.horizonMicroseconds < assumptions.concurrencySampleMicroseconds)
    (.valueError "concurrency sample interval must fit within the model horizon")
  let coordinationSampleCount ← ceilDiv assumptions.horizonMicroseconds
    assumptions.concurrencySampleMicroseconds
  refuseIf (maxCoordinationSamplesBound < coordinationSampleCount)
    (.valueError "coordination sample count exceeds the deterministic simulation bound")
  refuseIf (assumptions.maximumSimulatedEvents <
      maxLogicalAgents * assumptions.eventsPerLogicalAgentPerHorizon)
    (.valueError "maximum simulated events cannot contain the 10000-agent scale")
  assumptions.decimalBounds.forM fun bound => requireDecimal bound.2 bound.1 0 100000
  refuseIf (assumptions.economicCases.map (fun case => case.name) ≠ sensitivityCases)
    (.valueError "economic cases must appear exactly once in low/base/high order")
  assumptions.validateEconomicSensitivityOrder

end FleetModelAssumptionsFields

/-- `FleetModelAssumptions`. -/
structure FleetModelAssumptions extends FleetModelAssumptionsFields where
  accepted : toFleetModelAssumptionsFields.postInit = .ok ()

namespace FleetModelAssumptionsFields

theorem validSeed_default : validSeed {} := by
  refine ⟨by decide, by decide, ?_, by decide⟩
  have hascii : (FleetModelAssumptionsFields.seed {}).toList.all
      (fun c => 32 ≤ c.toNat ∧ c.toNat < 127) = true := by decide
  rw [List.all_eq_true]
  intro c hc
  obtain ⟨hlow, hhigh⟩ := of_decide_eq_true (List.all_eq_true.mp hascii c hc)
  exact FleetPrimitives.isPrintable_ascii c hlow hhigh

/-- The defaults pass the checks of their own constructor. -/
theorem postInit_default : postInit {} = .ok () := by
  rw [postInit, refuseIf_neg (not_not.mpr validSeed_default), ok_bind]
  decide +kernel

end FleetModelAssumptionsFields

/-- `FleetModelAssumptions()`. -/
def FleetModelAssumptions.default : FleetModelAssumptions :=
  ⟨{}, FleetModelAssumptionsFields.postInit_default⟩

end AegisOt
