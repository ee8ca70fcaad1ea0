import AegisOt.Plant.Network

/-!
# Signed plant calls

The calls and responses of `segmented_capability_models.py` that cross the boundary of the
physical plant, with the checks the plant makes on them, and everything the plant hashes or signs.
-/

namespace AegisOt

/-- `PHYSICAL_PLANT_AUDIENCE`. -/
def physicalPlantAudience : String := "aegis-ot:m4g:physical-plant"

/-- `PlantCallerRole`. -/
inductive PlantCallerRole where
  | observer
  | candidate
  | plc
  deriving DecidableEq, Repr

/-- `PlantOperation`. -/
inductive PlantOperation where
  | capture
  | read
  | simulate
  | apply
  deriving DecidableEq, Repr

/-- `PlantApplyPayload`. -/
structure PlantApplyPayload where
  command : PhysicalControlCommand
  expectedPreStateVersion : Nat
  expectedPreStateDigest : Sha256
  expectedPreObservationDigest : Sha256
  expectedPostStateDigest : Sha256
  expectedPostTopologyDigest : Sha256
  authorizationExpiresAt : Time
  deriving DecidableEq

/-- `PlantCallPayload`, by its `schema_version`. -/
inductive PlantCallPayload where
  | capture (correlationId challengeNonce : String)
  | read (correlationId : String)
  | simulate (command : PhysicalControlCommand)
  | apply (payload : PlantApplyPayload)
  deriving DecidableEq

/-- `SignedPlantCall`. -/
structure SignedPlantCall where
  role : PlantCallerRole
  operation : PlantOperation
  payload : PlantCallPayload
  payloadSha256 : Sha256
  audience : String
  targetPlantKeyId : String
  targetPlantBootEpoch : String
  callerKeyId : String
  callNonce : String
  issuedAt : Time
  expiresAt : Time
  signature : String
  deriving DecidableEq

/-- `PlantResponseStatus`. -/
inductive PlantResponseStatus where
  | ok
  | rejected
  | error
  deriving DecidableEq, Repr

/-- `PlantResponsePayload`, by its `schema_version`. -/
inductive PlantResponsePayload where
  | state (snapshot : PhysicalStateSnapshot)
  | simulation (assessment : CandidateAssessment)
  | failure (status : PlantResponseStatus) (reason : String)
  deriving DecidableEq

/-- `SignedPlantResponse`. -/
structure SignedPlantResponse where
  callSha256 : Sha256
  operation : PlantOperation
  status : PlantResponseStatus
  payload : PlantResponsePayload
  plantBootEpoch : String
  plantKeyId : String
  signedAt : Time
  signature : String
  deriving DecidableEq

/-- Everything the plant hashes or signs; a signing payload is the artifact with its signature
    cleared. -/
inductive PlantMaterial where
  | input (tables : List (String × List TableRecord))
  | topology (tables : List (String × List TableRecord))
  | model (material : ModelMaterial)
  | payload (payload : PlantCallPayload)
  | call (call : SignedPlantCall)
  | response (response : SignedPlantResponse)

/-- `canonical_digest` and Ed25519 as the plant uses them. -/
class PlantPrimitives where
  canonicalDigest : PlantMaterial → Sha256
  signBytes : PrivateKey → PlantMaterial → String
  verifyBytes : PublicKey → PlantMaterial → String → Bool

/-- `_ROLE_OPERATIONS`. -/
def roleOperations : PlantCallerRole → List PlantOperation
  | .observer => [.capture]
  | .candidate => [.simulate]
  | .plc => [.read, .simulate, .apply]

namespace PlantCallPayload

/-- The operation whose `_OPERATION_PAYLOAD_TYPES` entry is the type of the payload. -/
def operation : PlantCallPayload → PlantOperation
  | .capture _ _ => .capture
  | .read _ => .read
  | .simulate _ => .simulate
  | .apply _ => .apply

end PlantCallPayload

namespace SignedPlantCall

/-- `role_operation_matches`. -/
def roleOperationMatches (call : SignedPlantCall) : Bool :=
  decide (call.operation ∈ roleOperations call.role ∧ call.payload.operation = call.operation)

variable [PlantPrimitives]

/-- `SignedPlantCall.digest`. -/
def digest (call : SignedPlantCall) : Sha256 := PlantPrimitives.canonicalDigest (.call call)

/-- `SignedPlantCall.verify`. -/
def verify (call : SignedPlantCall) (publicKey : PublicKey) : Bool :=
  call.roleOperationMatches &&
    decide (call.payloadSha256 = PlantPrimitives.canonicalDigest (.payload call.payload)) &&
    decide (call.signature ≠ "") &&
    PlantPrimitives.verifyBytes publicKey (.call { call with signature := "" }) call.signature

/-- `verify_for_plant`, with the role of the call expected. -/
def verifyForPlant (call : SignedPlantCall) (publicKey : PublicKey)
    (expectedCallerKeyId expectedAudience expectedPlantKeyId expectedPlantBootEpoch : String)
    (evaluatedAt : Time) : Bool :=
  decide (
    call.callerKeyId = expectedCallerKeyId ∧
    call.audience = expectedAudience ∧
    call.targetPlantKeyId = expectedPlantKeyId ∧
    call.targetPlantBootEpoch = expectedPlantBootEpoch ∧
    call.issuedAt ≤ evaluatedAt ∧ evaluatedAt < call.expiresAt) &&
  call.verify publicKey

end SignedPlantCall

namespace SignedPlantResponse

/-- `response_shape_matches`. -/
def responseShapeMatches (response : SignedPlantResponse) : Bool :=
  match response.status, response.operation, response.payload with
  | .ok, .simulate, .simulation _ => true
  | .ok, .capture, .state _ => true
  | .ok, .read, .state _ => true
  | .ok, .apply, .state _ => true
  | .rejected, _, .failure .rejected _ => true
  | .error, _, .failure .error _ => true
  | _, _, _ => false

variable [Primitives]

/-- The part of `payload_matches_call` that reads a successful payload. -/
def resultMatchesCall (payload : PlantResponsePayload) (call : PlantCallPayload) : Bool :=
  match payload, call with
  | .simulation assessment, .simulate command =>
      decide (assessment.commandDigest = command.digest)
  | .state snapshot, .apply request => decide (
      snapshot.stateVersion = request.expectedPreStateVersion + 1 ∧
      snapshot.stateDigest = request.expectedPostStateDigest ∧
      snapshot.topologyDigest = request.expectedPostTopologyDigest)
  | .state _, .capture _ _ => true
  | .state _, .read _ => true
  | _, _ => false

/-- `payload_matches_call`. -/
def payloadMatchesCall (response : SignedPlantResponse) (call : SignedPlantCall) : Bool :=
  decide (response.operation = call.operation) && response.responseShapeMatches &&
    (decide (response.status ≠ .ok) || resultMatchesCall response.payload call.payload)

/-- The field constraints and validators of the response and of its payload. -/
def fieldsValid (response : SignedPlantResponse) : Bool :=
  decide (16 ≤ response.plantBootEpoch.length ∧ response.plantBootEpoch.length ≤ 256 ∧
    1 ≤ response.plantKeyId.length ∧ response.plantKeyId.length ≤ 256) &&
  response.responseShapeMatches &&
  match response.payload with
  | .state snapshot => snapshot.verifyDigest
  | .simulation _ => true
  | .failure status reason =>
      decide (status ≠ .ok ∧ 1 ≤ reason.length ∧ reason.length ≤ 512)

variable [PlantPrimitives]

/-- `SignedPlantResponse.issue`; what it raises is a `ValueError`. -/
def issue (call : SignedPlantCall) (status : PlantResponseStatus)
    (payload : PlantResponsePayload) (plantBootEpoch plantKeyId : String) (signedAt : Time)
    (privateKey : PrivateKey) : Except String SignedPlantResponse := do
  let response : SignedPlantResponse :=
    { callSha256 := call.digest
      operation := call.operation
      status := status
      payload := payload
      plantBootEpoch := plantBootEpoch
      plantKeyId := plantKeyId
      signedAt := signedAt
      signature := "" }
  refuseIf (response.fieldsValid = false) "plant response is invalid"
  refuseIf (response.payloadMatchesCall call = false)
    "plant response payload does not match its signed call"
  pure { response with signature := PlantPrimitives.signBytes privateKey (.response response) }

end SignedPlantResponse

end AegisOt
