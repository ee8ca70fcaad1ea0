import AegisOt.Modbus.Mailbox

/-!
# The mailbox client

The transfer of `ModbusPhysicalDeviceClient._request`: a request goes out in chunks of registers
and a response comes back in chunks. `Transport` is the Modbus library under it; `Serves` is what
its documentation says of a server with a write hook.
-/

namespace AegisOt.Modbus

open Words

/-- What `_request` raises. -/
inductive ClientError where
  /-- `ModbusTransportError`. -/
  | transport (message : String)
  /-- `ModbusProtocolError`. -/
  | protocol (message : String)
  /-- What a codec raises. -/
  | wire (error : WireError)
  deriving DecidableEq, Repr

/-- `ModbusTcpClient` against the server of the mailbox. -/
structure Transport (σ : Type) where
  writeRegisters : Mailbox σ → ℕ → List ℕ → Except ClientError (Mailbox σ)
  readHoldingRegisters : Mailbox σ → ℕ → ℕ → Except ClientError (List ℕ)

section

variable [EvidencePrimitives] {σ P : Type}

/-- One write of up to 123 registers inside the mailbox, as the server performs it: the hook
    first, then the values, unless the hook refused or raised. -/
def serve (app : Application σ P) (m : Mailbox σ) (address : ℕ) (values : List ℕ) : Mailbox σ :=
  match MailboxService.action app m address values with
  | (.ok none, m') => { m' with registers := store m'.registers address values }
  | (_, m') => m'

/-- The transport reaches the server with what the protocol allows in one message. -/
structure Transport.Serves (t : Transport σ) (app : Application σ P) : Prop where
  writes : ∀ m address values, 0 < values.length → values.length ≤ 123 →
    address + values.length ≤ registerCount →
    (MailboxService.action app m address values).1 = .ok none →
    t.writeRegisters m address values = .ok (serve app m address values)
  refuses : ∀ m address values, (MailboxService.action app m address values).1 ≠ .ok none →
    ∃ error, t.writeRegisters m address values = .error error
  reads : ∀ m address count, 0 < count → count ≤ 125 → address + count ≤ m.registers.length →
    t.readHoldingRegisters m address count = .ok (slice m.registers address (address + count))

/-- A mailbox after any writes of any clients. -/
inductive Reachable (app : Application σ P) : Mailbox σ → Prop where
  | init (device : σ) : Reachable app ⟨.init device, List.replicate registerCount 0⟩
  | write {m : Mailbox σ} (h : Reachable app m) (address : ℕ) (values : List ℕ)
      (hinside : address + values.length ≤ registerCount) :
      Reachable app (serve app m address values)

namespace Transport

/-- The writes of `_request` before the commit. -/
def sendRequest (t : Transport σ) (m : Mailbox σ) (header : RequestHeader)
    (registers : List ℕ) : Except ClientError (Mailbox σ) := do
  let headerRegisters ← header.toRegisters.mapError .wire
  let staged ← t.writeRegisters m 0 headerRegisters
  let offsets :=
    (List.range ((registers.length + writeChunkRegisters - 1) / writeChunkRegisters)).map
      (writeChunkRegisters * ·)
  offsets.foldlM
    (fun m offset => t.writeRegisters m (requestPayloadStart + offset)
      (slice registers offset (offset + writeChunkRegisters)))
    staged

/-- The commit of `_request`. -/
def sendCommit (t : Transport σ) (m : Mailbox σ) : Except ClientError (Mailbox σ) :=
  t.writeRegisters m 0 [ControlWord.commit.toInt]

/-- The loop of `_read_registers` from an offset on. -/
def readFrom (t : Transport σ) (m : Mailbox σ) (address count offset : ℕ) :
    Except ClientError (List ℕ) :=
  if offset < count then do
    let chunk := min readChunkRegisters (count - offset)
    let values ← t.readHoldingRegisters m (address + offset) chunk
    let rest ← readFrom t m address count (offset + chunk)
    pure (values ++ rest)
  else pure []
termination_by count - offset
decreasing_by
  have hchunk : 0 < min readChunkRegisters (count - offset) := by
    apply Nat.lt_min.mpr
    exact ⟨by decide, by omega⟩
  omega

/-- `_read_registers`. -/
def readRegisters (t : Transport σ) (m : Mailbox σ) (address count : ℕ) :
    Except ClientError (List ℕ) :=
  readFrom t m address count 0

/-- The reads of `_request` after the commit, up to the bytes of the response. -/
def receiveResponse (t : Transport σ) (m : Mailbox σ) (transactionId : ℕ)
    (operation : WireOperation) : Except ClientError (ResponseHeader × List UInt8) := do
  let rawHeader ← t.readRegisters m responseHeaderStart responseHeaderRegisters
  let header ← (ResponseHeader.fromRegisters rawHeader).mapError .wire
  refuseIf (header.transactionId ≠ transactionId ∨ header.operation ≠ operation)
    (.protocol "response header transaction correlation failed")
  let rawPayload ← t.readRegisters m responsePayloadStart header.payloadRegisterCount
  let payload ← (registersToBytes rawPayload header.payloadByteLength).mapError .wire
  refuseIf (sha256Hex payload ≠ header.payloadDigest)
    (.protocol "response mailbox digest mismatch")
  pure (header, payload)

end Transport

end

end AegisOt.Modbus
