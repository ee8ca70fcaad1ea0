import AegisOt.Fleet.Queue
import AegisOt.Misc.SortedMap

/-!
# The action workload

`_fixed_distribution_counts` and `_model_action_workload` of `m6_fleet.py`: a total is allotted
to basis-point shares by largest remainders, and the events, in a seeded order, take the
categories in slices of these counts.
-/

namespace AegisOt

/-! ## Largest remainders -/

/-- `numerators`. -/
def numerators (total : ℤ) (basisPoints : List ℤ) : List ℤ := basisPoints.map (total * ·)

/-- `counts` before the allocation. -/
def floorCounts (total : ℤ) (basisPoints : List ℤ) : List ℤ :=
  (numerators total basisPoints).map (· / 10000)

/-- `remainders`. -/
def remainders (total : ℤ) (basisPoints : List ℤ) : List ℤ :=
  (numerators total basisPoints).map (· % 10000)

/-- `allocation_order`. -/
def allocationOrder (total : ℤ) (basisPoints : List ℤ) : List ℕ :=
  sortedBy (fun index => toLex (-(remainders total basisPoints).getD index 0, index))
    (List.range basisPoints.length)

/-- `_fixed_distribution_counts`. -/
def fixedDistributionCounts (total : ℤ) (basisPoints : List ℤ) : Except FleetError (List ℤ) := do
  refuseIf (total < 0) (.valueError "distribution total must be a nonnegative integer")
  refuseIf (basisPoints = [] ∨ ∃ item ∈ basisPoints, item < 0)
    (.valueError "distribution shares must be nonnegative integers")
  refuseIf (basisPoints.sum ≠ 10000)
    (.valueError "distribution shares must sum to 10000 basis points")
  let remaining := total - (floorCounts total basisPoints).sum
  let counts := ((allocationOrder total basisPoints).take remaining.toNat).foldl
    (fun counts index => counts.modify index (· + 1)) (floorCounts total basisPoints)
  refuseIf (counts.sum ≠ total)
    (.valueError "integer distribution allocation did not preserve its total")
  .ok counts

/-! ## Categories -/

/-- `ACTION_CATEGORIES`. -/
inductive ActionCategory where
  | nominalLowRisk
  | provisionalUnapproved
  | conflictingConsequential
  | containmentRecovery
  | readOnly
  deriving DecidableEq, Repr

namespace ActionCategory

def name : ActionCategory → String
  | .nominalLowRisk => "nominal_low_risk"
  | .provisionalUnapproved => "provisional_unapproved"
  | .conflictingConsequential => "conflicting_consequential"
  | .containmentRecovery => "containment_recovery"
  | .readOnly => "read_only"

/-- The categories in the order of their shares. -/
def all : List ActionCategory :=
  [.nominalLowRisk, .provisionalUnapproved, .conflictingConsequential, .containmentRecovery,
    .readOnly]

end ActionCategory

/-- One action request, a tuple `(arrival, agent_index, event_ordinal, category)`. -/
structure FleetAction where
  event : Arrival
  category : ActionCategory
  deriving DecidableEq, Repr

namespace FleetAction

/-- The order of tuples. -/
def key (action : FleetAction) : ℤ ×ₗ ℤ ×ₗ ℤ ×ₗ String :=
  toLex (action.event.arrival, toLex (action.event.agentIndex,
    toLex (action.event.eventOrdinal, action.category.name)))

end FleetAction

/-- `ActionWorkloadResult`, without its constant `distribution_status`. -/
structure ActionWorkloadResult where
  totalActionRequests : ℤ
  nominalLowRiskActionRequests : ℤ
  provisionalUnapprovedActionRequests : ℤ
  conflictingConsequentialActionRequests : ℤ
  containmentRecoveryActionRequests : ℤ
  readOnlyActionRequests : ℤ
  actionTraceSha256 : String

section

variable [FleetPrimitives]

/-- `sorted(items, key=lambda item: (_deterministic_offset(…), item))`. -/
def rankedBy {α κ : Type} [LinearOrder κ] (seed domain : String) (event : α → Arrival)
    (key : α → κ) (items : List α) : Except FleetError (List α) := do
  let offsets ← items.mapM fun item => deterministicOffset seed domain
    [(event item).agentIndex, (event item).eventOrdinal] (2 ^ 64)
  .ok ((sortedBy (fun pair => toLex (pair.1, key pair.2)) (offsets.zip items)).map Prod.snd)

/-- The loop that fills `category_by_identity`, with its cursor. -/
def assignCategories (ranked : List Arrival) (counts : List ℤ) :
    SortedMap (ℤ ×ₗ ℤ) ActionCategory × ℕ :=
  (ActionCategory.all.zip counts).foldl (fun state slice =>
    (((ranked.drop state.2).take slice.2.toNat).foldl
      (fun categories event => categories.insert event.identity slice.1) state.1,
      state.2 + slice.2.toNat)) (.empty, 0)

/-- The first line of the action trace. -/
def sharesLine (shares : List ℤ) : String :=
  "shares=" ++ ",".intercalate ((ActionCategory.all.zip shares).map fun item =>
    item.1.name ++ ":" ++ toString item.2) ++ "\n"

/-- `_model_action_workload`. -/
def modelActionWorkload (arrivals : List Arrival) (assumptions : FleetModelAssumptionsFields) :
    Except FleetError (List FleetAction × ActionWorkloadResult) := do
  let shares := assumptions.actionDistributionBasisPoints
  let counts ← fixedDistributionCounts arrivals.length shares
  let ranked ← rankedBy assumptions.seed "action-distribution-v2" id Arrival.key arrivals
  refuseIf (counts.length ≠ ActionCategory.all.length)
    (.valueError "zip() arguments have different lengths")
  let assigned := assignCategories ranked counts
  refuseIf (assigned.2 ≠ arrivals.length ∨ assigned.1.size ≠ arrivals.length)
    (.valueError "action distribution did not assign every generated request")
  let actions ← arrivals.mapM fun event => do
    let category ← orRaise (assigned.1.find? event.identity) .keyError
    .ok (⟨event, category⟩ : FleetAction)
  let trace := sharesLine shares :: actions.map fun action =>
    action.event.text ++ "," ++ action.category.name ++ "\n"
  match counts with
  | [nominal, provisional, conflicting, containment, readOnly] =>
      .ok (actions, {
        totalActionRequests := actions.length
        nominalLowRiskActionRequests := nominal
        provisionalUnapprovedActionRequests := provisional
        conflictingConsequentialActionRequests := conflicting
        containmentRecoveryActionRequests := containment
        readOnlyActionRequests := readOnly
        actionTraceSha256 := traceSha256 trace })
  | _ => .error .keyError

end

end AegisOt
