import AegisOt.Gateway.Evidence
import AegisOt.Modbus.Wire

/-!
# The mailbox service

`_MailboxService` of `modbus_device.py`: the write hook of the Modbus server over the registers
of the mailbox. The plant, the control device and the JSON of requests and responses are a
parameter (`Application`), so what follows holds for every request and every answer.
-/

namespace AegisOt.Modbus

open Words

/-- `pymodbus.constants.ExcCodes`, as far as the service answers with it. -/
inductive ExcCode where
  | illegalAddress
  | illegalValue
  | deviceBusy
  deriving DecidableEq, Repr

/-- What the processing of a committed request raises. -/
inductive ApplicationError where
  /-- `_ApplicationUnknownEffect`. -/
  | unknownEffect
  /-- `UnicodeDecodeError`, `JSONDecodeError`, `ValidationError` or another `ValueError`. -/
  | value (typeName reason : String)
  /-- Any other exception. -/
  | other (typeName : String)
  deriving DecidableEq, Repr

def WireError.toApplication : WireError → ApplicationError
  | .value message => .value "ValueError" message
  | .overflow _ => .other "OverflowError"

/-- `SignedWireResponse`, as `_write_response` receives it. -/
structure SignedWireResponse (P : Type) where
  transactionId : ℕ
  operation : WireOperation
  requestDigest : String
  status : WireStatus
  resultCode : WireResultCode
  payload : P
  deviceTransactionCounter : ℕ

/-- The process behind the mailbox: devices in a state `σ`, and payloads `P` of responses. -/
structure Application (σ P : Type) where
  /-- The request from its bytes, and `_handle_application` of it. -/
  handle : σ → ℕ → WireOperation → List UInt8 →
    Except ApplicationError (WireStatus × WireResultCode × P × ℕ) × σ
  /-- `plant.read_state().state_version`. -/
  readStateVersion : σ → ℕ
  /-- `{"error": ..., "reason": ...}`. -/
  errorPayload : String → String → P
  /-- `canonical_json_bytes` of the response once it is signed. -/
  responseBytes : SignedWireResponse P → List UInt8

/-- `_MailboxService`, with the devices it drives. -/
structure MailboxService (σ : Type) where
  device : σ
  transactionCounter : ℕ
  activeTransaction : Option ℕ
  activeHeader : Option RequestHeader
  terminalTransaction : Option ℕ

/-- `__init__`. -/
def MailboxService.init {σ : Type} (device : σ) : MailboxService σ :=
  { device := device
    transactionCounter := 0
    activeTransaction := none
    activeHeader := none
    terminalTransaction := none }

/-- The service and the registers it works on. -/
structure Mailbox (σ : Type) where
  service : MailboxService σ
  registers : List ℕ

variable [EvidencePrimitives]

/-- `sha256_hex`. -/
def sha256Hex (payload : List UInt8) : String :=
  hexdigest (EvidencePrimitives.sha256 ⟨payload.toArray⟩)

/-- The header that the client and the service put before a payload of their own. -/
def requestHeader (transactionId : ℕ) (operation : WireOperation) (payload : List UInt8)
    (registers : List ℕ) : RequestHeader :=
  { control := .begin
    operation := operation
    transactionId := transactionId
    payloadByteLength := payload.length
    payloadRegisterCount := registers.length
    payloadDigest := sha256Hex payload }

namespace MailboxService

variable {σ P : Type}

/-- `_clear_response`. -/
def clearResponse (registers : List ℕ) : List ℕ :=
  store registers responseHeaderStart (List.replicate (registerCount - responseHeaderStart) 0)

/-- The header of `_write_response`. -/
def responseHeader (response : SignedWireResponse P) (payload : List UInt8)
    (payloadRegisters : List ℕ) (stateVersionHint : ℕ) : ResponseHeader :=
  { status := response.status
    operation := response.operation
    transactionId := response.transactionId
    payloadByteLength := payload.length
    payloadRegisterCount := payloadRegisters.length
    resultCode := response.resultCode
    payloadDigest := sha256Hex payload
    deviceTransactionCounter := response.deviceTransactionCounter
    stateVersionHint := stateVersionHint }

/-- `_write_response`: what it raises, and the registers it leaves. -/
def writeResponse (app : Application σ P) (registers : List ℕ) (response : SignedWireResponse P)
    (stateVersionHint : ℕ) : Except WireError Unit × List ℕ :=
  let payload := app.responseBytes response
  match bytesToRegisters payload with
  | .error error => (.error error, registers)
  | .ok payloadRegisters =>
    let header := responseHeader response payload payloadRegisters stateVersionHint
    let cleared := clearResponse registers
    match header.toRegisters with
    | .error error => (.error error, cleared)
    | .ok headerRegisters =>
      (.ok (), store (store cleared responseHeaderStart headerRegisters) responsePayloadStart
        payloadRegisters)

/-- The local variables that the error branches of `_process_commit` use. -/
structure CommitContext where
  transactionId : ℕ
  operation : WireOperation
  requestDigest : String
  deriving DecidableEq

/-- `_process_commit` up to the bytes of the request. -/
def decodeRequest (service : MailboxService σ) (registers : List ℕ) :
    CommitContext × Except WireError (List UInt8) :=
  let unknown : CommitContext :=
    ⟨service.activeTransaction.getD 0, .health, String.ofList (List.replicate 64 '0')⟩
  match RequestHeader.fromRegisters (slice registers 0 requestHeaderRegisters) with
  | .error error => (unknown, .error error)
  | .ok header =>
    if header.control ≠ .begin then
      (unknown, .error (.value "staged request does not contain BEGIN"))
    else
      let named : CommitContext :=
        { unknown with transactionId := header.transactionId, operation := header.operation }
      if some header.transactionId ≠ service.activeTransaction then
        (named, .error (.value "commit transaction does not match active staging"))
      else
        match registersToBytes
          (slice registers requestPayloadStart (requestPayloadStart + header.payloadRegisterCount))
          header.payloadByteLength with
        | .error error => (named, .error error)
        | .ok payload =>
          let digested : CommitContext := { named with requestDigest := sha256Hex payload }
          if digested.requestDigest ≠ header.payloadDigest then
            (digested, .error (.value "request payload digest mismatch"))
          else (digested, .ok payload)

/-- The branches of `_process_commit` on what the application did. -/
def classify (app : Application σ P) (operation : WireOperation) (device : σ) :
    Except ApplicationError (WireStatus × WireResultCode × P × ℕ) →
      WireStatus × WireResultCode × P × ℕ
  | .ok answer => answer
  | .error .unknownEffect =>
      (.unknownEffect, .applicationUnknownEffect,
        app.errorPayload "_ApplicationUnknownEffect" "unclassified_server_failure",
        app.readStateVersion device)
  | .error (.value typeName reason) =>
      (.rejectedBeforeDispatch, .invalidSchema, app.errorPayload typeName reason,
        app.readStateVersion device)
  | .error (.other typeName) =>
      if operation = .execute then
        (.unknownEffect, .applicationUnknownEffect,
          app.errorPayload typeName "unclassified_server_failure", app.readStateVersion device)
      else
        (.rejectedBeforeDispatch, .internalError,
          app.errorPayload typeName "unclassified_server_failure", app.readStateVersion device)

/-- `_process_commit` up to `_write_response`: the signed response with its state version, and
    the service behind it. -/
def respond (app : Application σ P) (m : Mailbox σ) :
    SignedWireResponse P × ℕ × MailboxService σ :=
  let (context, decoded) := m.service.decodeRequest m.registers
  let (outcome, device) :=
    match decoded with
    | .error error => (.error error.toApplication, m.service.device)
    | .ok payload =>
        app.handle m.service.device context.transactionId context.operation payload
  let (status, resultCode, payload, stateVersion) :=
    classify app context.operation device outcome
  let counter := m.service.transactionCounter + 1
  ({ transactionId := context.transactionId
     operation := context.operation
     requestDigest := context.requestDigest
     status := status
     resultCode := resultCode
     payload := payload
     deviceTransactionCounter := counter },
    stateVersion, { m.service with device := device, transactionCounter := counter })

/-- `_process_commit`. -/
def processCommit (app : Application σ P) (m : Mailbox σ) : Except WireError Unit × Mailbox σ :=
  let (response, stateVersion, service) := respond app m
  let (written, registers) := writeResponse app m.registers response stateVersion
  (written, ⟨service, registers⟩)

/-- `action` for a header at address 0. -/
def headerAction (m : Mailbox σ) (values : List ℕ) :
    Except WireError (Option ExcCode) × Mailbox σ :=
  let service := m.service
  match RequestHeader.fromRegisters values with
  | .error (.value _) => (.ok (some .illegalValue), m)
  | .error (.overflow message) => (.error (.overflow message), m)
  | .ok header =>
    if header.control = .release then
      if service.activeHeader = none ∨ service.terminalTransaction ≠ service.activeTransaction ∨
          some header ≠ service.activeHeader.map (fun h => { h with control := .release }) then
        (.ok (some .illegalValue), m)
      else
        (.ok none,
          { m with
            service :=
              { service with
                activeTransaction := none
                activeHeader := none
                terminalTransaction := none } })
    else if header.control ≠ .begin then (.ok (some .illegalValue), m)
    else if service.activeHeader ≠ none then
      if some header = service.activeHeader ∧ service.terminalTransaction = none then (.ok none, m)
      else (.ok (some .deviceBusy), m)
    else
      (.ok none,
        { service :=
            { service with
              activeTransaction := some header.transactionId
              activeHeader := some header }
          registers := clearResponse m.registers })

/-- `action` for a commit at address 0. -/
def commitAction (app : Application σ P) (m : Mailbox σ) :
    Except WireError (Option ExcCode) × Mailbox σ :=
  if m.service.activeTransaction = none then (.ok (some .illegalValue), m)
  else if m.service.terminalTransaction = none then
    match processCommit app m with
    | (.error error, m) => (.error error, m)
    | (.ok (), m) =>
        (.ok none,
          { m with
            service :=
              { m.service with terminalTransaction := m.service.activeTransaction } })
  else (.ok none, m)

/-- `action` of a write: what the service answers, and what it did to the mailbox. -/
def action (app : Application σ P) (m : Mailbox σ) (address : ℕ) (values : List ℕ) :
    Except WireError (Option ExcCode) × Mailbox σ :=
  if responseHeaderStart ≤ address then (.ok (some .illegalAddress), m)
  else if address = 0 then
    if values.length = requestHeaderRegisters ∧
        (registerAt values 0 = ControlWord.begin.toInt ∨
          registerAt values 0 = ControlWord.release.toInt) then
      headerAction m values
    else if values.length ≠ 1 then (.ok (some .illegalValue), m)
    else if registerAt values 0 = ControlWord.commit.toInt then commitAction app m
    else (.ok (some .illegalValue), m)
  else if m.service.activeTransaction = none ∨ m.service.terminalTransaction ≠ none ∨
      address < requestPayloadStart ∨
      requestPayloadStart + requestPayloadRegisters < address + values.length then
    (.ok (some .illegalAddress), m)
  else (.ok none, m)

end MailboxService

end AegisOt.Modbus
