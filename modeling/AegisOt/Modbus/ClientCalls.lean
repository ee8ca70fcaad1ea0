import AegisOt.Misc.Program
import AegisOt.Modbus.Client

/-!
# Calls of the Modbus client

`ModbusPhysicalDeviceClient` of `modbus_device.py` over a network that answers as it likes. A call
is a program of register writes and reads; canonical JSON, the response schema and the signature
check are a parameter (`ClientCodec`).
-/

namespace AegisOt.Modbus

open Words Program

/-! ## The network -/

/-- A call of `ModbusTcpClient`. -/
inductive ClientAct where
  | writeRegisters (address : ℕ) (values : List ℕ)
  | writeRegister (address value : ℕ)
  | readHoldingRegisters (address count : ℕ)

/-- How such a call ends. -/
inductive ModbusReply where
  /-- It raises. -/
  | raised
  /-- `response is None or response.isError()`, with `repr` of the response. -/
  | failed (shown : String)
  /-- The registers are empty for a write. -/
  | succeeded (registers : List ℕ)

/-- What a call of the client raises. -/
inductive RequestError where
  /-- `ModbusTransportError`. -/
  | transport (message : String)
  /-- `ModbusUnknownEffectError`. -/
  | unknownEffect (message : String)
  /-- `ModbusProtocolError`. -/
  | protocol (message : String)
  /-- Any other exception. -/
  | other
  deriving DecidableEq

abbrev ClientProgram : Type → Type :=
  Program ClientAct (fun _ => ModbusReply) RequestError

namespace ClientProgram

/-- `_require_success`. -/
def requireSuccess (operation : String) : ModbusReply → ClientProgram (List ℕ)
  | .raised => raise .other
  | .failed shown => raise (.transport ("Modbus " ++ operation ++ " failed: " ++ shown))
  | .succeeded registers => pure registers

/-- `_write_registers`. -/
def writeRegisters (address : ℕ) (values : List ℕ) : ClientProgram Unit := do
  let reply ← call (.writeRegisters address values)
  let _ ← requireSuccess "write-multiple-registers" reply
  pure ()

/-- The loop of `_read_registers` from an offset on. -/
def readFrom (address count offset : ℕ) : ClientProgram (List ℕ) :=
  if offset < count then do
    let chunk := min readChunkRegisters (count - offset)
    let reply ← call (.readHoldingRegisters (address + offset) chunk)
    let values ← requireSuccess "read-holding-registers" reply
    let rest ← readFrom address count (offset + chunk)
    pure (values ++ rest)
  else pure []
termination_by count - offset
decreasing_by
  have hchunk : 0 < min readChunkRegisters (count - offset) := by
    apply Nat.lt_min.mpr
    exact ⟨by decide, by omega⟩
  omega

/-- `_read_registers`. -/
def readRegisters (address count : ℕ) : ClientProgram (List ℕ) := readFrom address count 0

/-- The writes of the payload at the offsets of its chunks. -/
def writeChunks (registers : List ℕ) : List ℕ → ClientProgram Unit
  | [] => pure ()
  | offset :: rest => do
      writeRegisters (requestPayloadStart + offset)
        (slice registers offset (offset + writeChunkRegisters))
      writeChunks registers rest

/-- `_release`; it swallows what is raised. -/
def release (header : RequestHeader) : ClientProgram Unit :=
  match ({ header with control := .release } : RequestHeader).toRegisters with
  | .error _ => pure ()
  | .ok registers => do
      let _ ← call (.writeRegisters 0 registers)
      pure ()

end ClientProgram

/-! ## Requests and responses -/

/-- `SignedWireResponse`, as `_request` reads it. -/
structure ReceivedResponse (P : Type) extends SignedWireResponse P where
  deviceId : String
  deviceKeyId : String
  bootEpoch : String

/-- The JSON of requests and responses, for payloads `Q` and `P`. -/
structure ClientCodec (Q P : Type) where
  /-- `canonical_json_bytes` of the `WireRequest`. -/
  requestBytes : ℕ → WireOperation → Q → List UInt8
  /-- `json.loads` and `SignedWireResponse.model_validate`, unless they raise. -/
  parseResponse : List UInt8 → Option (ReceivedResponse P)
  /-- `canonical_json_bytes` of a response. -/
  responseBytes : ReceivedResponse P → List UInt8
  /-- `response.verify` under a public key. -/
  verify : String → ReceivedResponse P → Bool
  /-- The state version that the payload of an operation names, unless reading it raises. -/
  stateVersion : WireOperation → P → Option (Option ℕ)

/-- The fields of `ModbusDeviceInfo` that the client checks. -/
structure ModbusDeviceInfo where
  deviceId : String
  deviceKeyId : String
  bootEpoch : String
  devicePublicKey : String
  deriving DecidableEq

/-- `ModbusPhysicalDeviceClient`. -/
structure ModbusPhysicalDeviceClient where
  info : ModbusDeviceInfo
  transactionId : ℕ
  lastDeviceTransactionCounter : ℕ
  deriving DecidableEq

/-- A new client. -/
def ModbusPhysicalDeviceClient.connected (info : ModbusDeviceInfo) : ModbusPhysicalDeviceClient :=
  ⟨info, 0, 0⟩

namespace ModbusPhysicalDeviceClient

open ClientProgram

variable [EvidencePrimitives] {Q P : Type}

/-- The correlation of a signed response with its request and with the device. -/
structure Correlated (client : ModbusPhysicalDeviceClient) (codec : ClientCodec Q P)
    (header : RequestHeader) (response : ReceivedResponse P) : Prop where
  transactionId : response.transactionId = header.transactionId
  operation : response.operation = header.operation
  requestDigest : response.requestDigest = header.payloadDigest
  deviceId : response.deviceId = client.info.deviceId
  deviceKeyId : response.deviceKeyId = client.info.deviceKeyId
  bootEpoch : response.bootEpoch = client.info.bootEpoch
  verified : codec.verify client.info.devicePublicKey response = true

/-- The checks of a response against its request and the device. -/
def requireCorrelated (client : ModbusPhysicalDeviceClient) (codec : ClientCodec Q P)
    (header : RequestHeader) (response : ReceivedResponse P) : ClientProgram Unit :=
  require (
      response.transactionId ≠ header.transactionId ∨
      response.operation ≠ header.operation ∨
      response.requestDigest ≠ header.payloadDigest ∨
      response.deviceId ≠ client.info.deviceId ∨
      response.deviceKeyId ≠ client.info.deviceKeyId ∨
      response.bootEpoch ≠ client.info.bootEpoch ∨
      codec.verify client.info.devicePublicKey response = false)
    (.protocol "signed response correlation or integrity failed")

/-- The `try` block of `_request` up to the return of the commit. -/
def stage (header : RequestHeader) (registers : List ℕ) : ClientProgram ModbusReply := do
  let headerRegisters ← result (header.toRegisters.mapError (fun _ => RequestError.other))
  writeRegisters 0 headerRegisters
  writeChunks registers
    ((List.range ((registers.length + writeChunkRegisters - 1) / writeChunkRegisters)).map
      (writeChunkRegisters * ·))
  let reply ← call (.writeRegister 0 ControlWord.commit.toInt)
  match reply with
  | .raised => raise .other
  | .failed _ | .succeeded _ => pure reply

/-- The `try` block of `_request` behind the commit. -/
def receive (client : ModbusPhysicalDeviceClient) (codec : ClientCodec Q P)
    (header : RequestHeader) (committed : ModbusReply) : ClientProgram (ReceivedResponse P) := do
  let _ ← requireSuccess "commit" committed
  let rawHeader ← readRegisters responseHeaderStart responseHeaderRegisters
  let responseHeader ← result
    ((ResponseHeader.fromRegisters rawHeader).mapError (fun _ => RequestError.other))
  require (responseHeader.transactionId ≠ header.transactionId ∨
      responseHeader.operation ≠ header.operation)
    (.protocol "response header transaction correlation failed")
  let rawPayload ← readRegisters responsePayloadStart responseHeader.payloadRegisterCount
  let responseBytes ← result ((registersToBytes rawPayload
    responseHeader.payloadByteLength).mapError (fun _ => RequestError.other))
  require (sha256Hex responseBytes ≠ responseHeader.payloadDigest)
    (.protocol "response mailbox digest mismatch")
  let response ← result (orRaise (codec.parseResponse responseBytes) RequestError.other)
  require (codec.responseBytes response ≠ responseBytes)
    (.protocol "response is not canonical JSON")
  client.requireCorrelated codec header response
  require (
      response.status ≠ responseHeader.status ∨
      response.resultCode ≠ responseHeader.resultCode ∨
      response.deviceTransactionCounter ≠ responseHeader.deviceTransactionCounter)
    (.protocol "signed response does not match response header")
  require (response.deviceTransactionCounter ≤ client.lastDeviceTransactionCounter)
    (.protocol "signed response transaction counter did not advance")
  let stateVersion ← result
    (orRaise (codec.stateVersion header.operation response.payload) RequestError.other)
  require (stateVersion ≠ some responseHeader.stateVersionHint)
    (.protocol "response state-version hint is inconsistent")
  pure response

/-- The `except` clauses of `_request` outside of an EXECUTE that was committed. -/
def surfaced : RequestError → RequestError
  | .transport message => .transport message
  | .protocol message => .protocol message
  | .unknownEffect _ | .other => .transport "Modbus mailbox transaction failed"

def executeFailed : RequestError :=
  .unknownEffect "execute failed after commit; automatic retry is prohibited"

/-- The `try` statement of `_request` for a staged header: its result, with the client. -/
def transact (client : ModbusPhysicalDeviceClient) (codec : ClientCodec Q P)
    (header : RequestHeader) (registers : List ℕ) :
    ClientProgram (Except RequestError (ReceivedResponse P) × ModbusPhysicalDeviceClient) := do
  match ← (stage header registers).attempt with
  | .error error =>
      release header
      pure (.error (surfaced error), client)
  | .ok committed =>
      match ← (client.receive codec header committed).attempt with
      | .ok response =>
          release header
          pure (.ok response,
            { client with lastDeviceTransactionCounter := response.deviceTransactionCounter })
      | .error error =>
          if header.operation = .execute then pure (.error executeFailed, client)
          else do
            release header
            pure (.error (surfaced error), client)

/-- `_request`. -/
def request (client : ModbusPhysicalDeviceClient) (codec : ClientCodec Q P)
    (operation : WireOperation) (payload : Q) :
    ClientProgram (Except RequestError (ReceivedResponse P) × ModbusPhysicalDeviceClient) :=
  let transactionId := client.transactionId + 1
  let client := { client with transactionId := transactionId }
  -- The `WireRequest` does not validate.
  if 2 ^ 64 ≤ transactionId then pure (.error .other, client)
  else
    let requestBytes := codec.requestBytes transactionId operation payload
    if maxPayloadBytes < requestBytes.length then
      pure (.error (.transport "request exceeds the Modbus mailbox capacity"), client)
    else
      match bytesToRegisters requestBytes with
      | .error _ => pure (.error .other, client)
      | .ok registers =>
          client.transact codec (requestHeader transactionId operation requestBytes registers)
            registers

end ModbusPhysicalDeviceClient

/-! ## Traces -/

/-- A run of a call; the network replies as it likes. -/
abbrev ClientProgram.Ends {α : Type} (p : ClientProgram α)
    (trace : List (Event ClientAct (fun _ => ModbusReply))) (ended : Except RequestError α) :
    Prop :=
  p.Runs (fun (_ : Unit) _ _ _ => True) () trace ended ()

/-- The write of the commit word. -/
def ClientAct.isCommit : ClientAct → Bool
  | .writeRegister _ _ => true
  | .writeRegisters _ _ | .readHoldingRegisters _ _ => false

/-- `commit_sent`: the write of the commit word has returned. -/
def commitSent (trace : List (Event ClientAct (fun _ => ModbusReply))) : Prop :=
  ∃ event ∈ trace, event.action.isCommit = true ∧ event.reply ≠ .raised

/-- A write of the header with RELEASE. -/
def releaseSent (header : RequestHeader) (trace : List (Event ClientAct (fun _ => ModbusReply))) :
    Prop :=
  ∃ event ∈ trace, ∃ registers,
    ({ header with control := .release } : RequestHeader).toRegisters = .ok registers ∧
      event.action = .writeRegisters 0 registers

section

variable [EvidencePrimitives] {Q P : Type}

/-- Calls of one client, with the responses they returned, oldest first. -/
inductive ClientRun (codec : ClientCodec Q P) (client : ModbusPhysicalDeviceClient) :
    List (ReceivedResponse P) → ModbusPhysicalDeviceClient → Prop where
  | refl : ClientRun codec client [] client
  | request {responses : List (ReceivedResponse P)} {before after : ModbusPhysicalDeviceClient}
      {operation : WireOperation} {payload : Q}
      {trace : List (Event ClientAct (fun _ => ModbusReply))}
      {ended : Except RequestError (ReceivedResponse P)}
      (hrun : ClientRun codec client responses before)
      (hended : (before.request codec operation payload).Ends trace (.ok (ended, after))) :
      ClientRun codec client (responses ++ ended.toOption.toList) after

end

end AegisOt.Modbus
