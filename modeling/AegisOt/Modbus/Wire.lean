import AegisOt.Misc.Checks
import AegisOt.Misc.Words

/-!
# The register codecs of the Modbus mailbox

`modbus_wire.py`: the layout of the mailbox, payloads as registers, and the headers of a request
and of a response. A register is a number; on the wire it has sixteen bits (`Words.Fit`). A
digest is its text.
-/

namespace AegisOt.Modbus

open Words

/-! ## The layout -/

abbrev wireVersion : ℕ := 1
abbrev requestHeaderRegisters : ℕ := 32
abbrev requestPayloadStart : ℕ := 32
abbrev requestPayloadRegisters : ℕ := 4096
abbrev responseHeaderStart : ℕ := requestPayloadStart + requestPayloadRegisters
abbrev responseHeaderRegisters : ℕ := 40
abbrev responsePayloadStart : ℕ := responseHeaderStart + responseHeaderRegisters
abbrev responsePayloadRegisters : ℕ := 4096
abbrev registerCount : ℕ := responsePayloadStart + responsePayloadRegisters
abbrev maxPayloadBytes : ℕ := requestPayloadRegisters * 2
abbrev writeChunkRegisters : ℕ := 120
abbrev readChunkRegisters : ℕ := 120
abbrev requestMagic : ℕ := 0xAE63
abbrev responseMagic : ℕ := 0xAE64

/-- What a codec raises. -/
inductive WireError where
  /-- `ValueError`. -/
  | value (message : String)
  /-- `OverflowError`. -/
  | overflow (message : String)
  deriving DecidableEq, Repr

/-- `registers[index]` inside the list. -/
def registerAt (registers : List ℕ) (index : ℕ) : ℕ := registers.getD index 0

/-! ## Payloads -/

/-- `bytes_to_registers`. -/
def bytesToRegisters (payload : List UInt8) : Except WireError (List ℕ) := do
  refuseIf (payload.length > maxPayloadBytes)
    (.value "wire payload exceeds the fixed mailbox capacity")
  let padded := payload ++ if payload.length % 2 = 1 then [0] else []
  pure (ofPairs padded (padded.length / 2))

/-- `value.to_bytes(2, "big")` of every register, in one string. -/
def registersBytes (registers : List ℕ) : Except WireError (List UInt8) := do
  refuseIf (¬ Fit registers) (.overflow "int too big to convert")
  pure (toBytes registers)

/-- `registers_to_bytes`. -/
def registersToBytes (registers : List ℕ) (byteLength : ℤ) : Except WireError (List UInt8) := do
  refuseIf (byteLength < 0 ∨ maxPayloadBytes < byteLength)
    (.value "wire byte length is outside the mailbox capacity")
  refuseIf ((registers.length : ℤ) ≠ (byteLength + 1) / 2)
    (.value "wire register count does not match the declared byte length")
  let payload ← registersBytes registers
  pure (payload.take byteLength.toNat)

/-! ## Numbers and digests -/

/-- `_u32_registers`. -/
def u32Registers (value : ℕ) : Except WireError (List ℕ) := do
  refuseIf (¬ value < 2 ^ 32) (.value "value is outside unsigned 32-bit range")
  pure [wordAt value 16, wordAt value 0]

/-- `_u64_registers`. -/
def u64Registers (value : ℕ) : Except WireError (List ℕ) := do
  refuseIf (¬ value < 2 ^ 64) (.value "value is outside unsigned 64-bit range")
  pure ([48, 32, 16, 0].map (wordAt value))

/-- `_registers_u32`. -/
def registersU32 (values : List ℕ) : Except WireError ℕ := do
  refuseIf (values.length ≠ 2) (.value "unsigned 32-bit value requires two registers")
  pure (shiftIn (registerAt values 0) (registerAt values 1))

/-- `_registers_u64`. -/
def registersU64 (values : List ℕ) : Except WireError ℕ := do
  refuseIf (values.length ≠ 4) (.value "unsigned 64-bit value requires four registers")
  pure (values.foldl shiftIn 0)

/-- `_digest_registers`. -/
def digestRegisters (digest : String) : Except WireError (List ℕ) := do
  let raw ← orRaise (fromHex digest.toList)
    (.value "non-hexadecimal number found in fromhex() arg")
  pure (ofPairs raw 16)

/-- `_registers_digest`. -/
def registersDigest (values : List ℕ) : Except WireError String := do
  refuseIf (values.length ≠ 16) (.value "SHA-256 requires sixteen registers")
  let raw ← registersBytes values
  pure (String.ofList (toHex raw))

/-! ## Enumerations -/

/-- The constructor of an `IntEnum`. -/
def enumOfInt {α : Type} (toInt : α → ℕ) (members : List α) (name : String) (value : ℕ) :
    Except WireError α :=
  orRaise (members.find? (fun member => decide (toInt member = value)))
    (.value (toString value ++ " is not a valid " ++ name))

/-- `ControlWord`. -/
inductive ControlWord where
  | begin
  | commit
  | release
  deriving DecidableEq, Repr

def ControlWord.toInt : ControlWord → ℕ
  | .begin => 0xA500
  | .commit => 0xA501
  | .release => 0xA502

def ControlWord.ofInt : ℕ → Except WireError ControlWord :=
  enumOfInt toInt [.begin, .commit, .release] "ControlWord"

/-- `WireOperation`. -/
inductive WireOperation where
  | readState
  | simulateCandidate
  | execute
  | health
  deriving DecidableEq, Repr

def WireOperation.toInt : WireOperation → ℕ
  | .readState => 1
  | .simulateCandidate => 2
  | .execute => 3
  | .health => 4

def WireOperation.ofInt : ℕ → Except WireError WireOperation :=
  enumOfInt toInt [.readState, .simulateCandidate, .execute, .health] "WireOperation"

/-- `WireStatus`. -/
inductive WireStatus where
  | idle
  | staging
  | processing
  | complete
  | rejectedBeforeDispatch
  | unknownEffect
  deriving DecidableEq, Repr

def WireStatus.toInt : WireStatus → ℕ
  | .idle => 0
  | .staging => 1
  | .processing => 2
  | .complete => 3
  | .rejectedBeforeDispatch => 4
  | .unknownEffect => 5

def WireStatus.ofInt : ℕ → Except WireError WireStatus :=
  enumOfInt toInt
    [.idle, .staging, .processing, .complete, .rejectedBeforeDispatch, .unknownEffect]
    "WireStatus"

/-- `WireResultCode`. -/
inductive WireResultCode where
  | ok
  | invalidHeader
  | invalidPayload
  | invalidSchema
  | applicationRejected
  | applicationUnknownEffect
  | internalError
  deriving DecidableEq, Repr

def WireResultCode.toInt : WireResultCode → ℕ
  | .ok => 0
  | .invalidHeader => 1
  | .invalidPayload => 2
  | .invalidSchema => 3
  | .applicationRejected => 4
  | .applicationUnknownEffect => 5
  | .internalError => 6

def WireResultCode.ofInt : ℕ → Except WireError WireResultCode :=
  enumOfInt toInt
    [.ok, .invalidHeader, .invalidPayload, .invalidSchema, .applicationRejected,
      .applicationUnknownEffect, .internalError]
    "WireResultCode"

/-! ## Headers -/

/-- The registers of a header by their fields: both kinds put the transaction into 4 to 8, the
    byte length into 8 to 10 and the digest into 12 to 28. -/
def frame (head transaction byteLength pair digest tail : List ℕ) : List ℕ :=
  head ++ (transaction ++ (byteLength ++ (pair ++ (digest ++ tail))))

/-- `RequestHeader`. -/
structure RequestHeader where
  control : ControlWord
  operation : WireOperation
  transactionId : ℕ
  payloadByteLength : ℕ
  payloadRegisterCount : ℕ
  payloadDigest : String
  deriving DecidableEq, Repr

namespace RequestHeader

def toRegisters (h : RequestHeader) : Except WireError (List ℕ) := do
  let transaction ← u64Registers h.transactionId
  let byteLength ← u32Registers h.payloadByteLength
  let digest ← digestRegisters h.payloadDigest
  pure (frame [h.control.toInt, requestMagic, wireVersion, h.operation.toInt] transaction
    byteLength [h.payloadRegisterCount, 0] digest (List.replicate 4 0))

def fromRegisters (values : List ℕ) : Except WireError RequestHeader := do
  refuseIf (values.length ≠ requestHeaderRegisters)
    (.value "request header has the wrong register count")
  refuseIf (registerAt values 1 ≠ requestMagic ∨ registerAt values 2 ≠ wireVersion)
    (.value "request header magic or version is invalid")
  refuseIf (registerAt values 11 ≠ 0 ∨ ∃ value ∈ slice values 28 32, value ≠ 0)
    (.value "request header reserved fields must be zero")
  let byteLength ← registersU32 (slice values 8 10)
  let registerCount := registerAt values 10
  refuseIf (byteLength > maxPayloadBytes ∨ registerCount ≠ (byteLength + 1) / 2)
    (.value "request payload dimensions are invalid")
  let control ← ControlWord.ofInt (registerAt values 0)
  let operation ← WireOperation.ofInt (registerAt values 3)
  let transactionId ← registersU64 (slice values 4 8)
  let payloadDigest ← registersDigest (slice values 12 28)
  pure
    { control := control
      operation := operation
      transactionId := transactionId
      payloadByteLength := byteLength
      payloadRegisterCount := registerCount
      payloadDigest := payloadDigest }

end RequestHeader

/-- `ResponseHeader`. -/
structure ResponseHeader where
  status : WireStatus
  operation : WireOperation
  transactionId : ℕ
  payloadByteLength : ℕ
  payloadRegisterCount : ℕ
  resultCode : WireResultCode
  payloadDigest : String
  deviceTransactionCounter : ℕ
  stateVersionHint : ℕ
  deriving DecidableEq, Repr

namespace ResponseHeader

def toRegisters (h : ResponseHeader) : Except WireError (List ℕ) := do
  let transaction ← u64Registers h.transactionId
  let byteLength ← u32Registers h.payloadByteLength
  let digest ← digestRegisters h.payloadDigest
  let counter ← u64Registers h.deviceTransactionCounter
  let hint ← u64Registers h.stateVersionHint
  pure (frame [responseMagic, wireVersion, h.status.toInt, h.operation.toInt] transaction
    byteLength [h.payloadRegisterCount, h.resultCode.toInt] digest
    (counter ++ (hint ++ List.replicate 4 0)))

def fromRegisters (values : List ℕ) : Except WireError ResponseHeader := do
  refuseIf (values.length ≠ responseHeaderRegisters)
    (.value "response header has the wrong register count")
  refuseIf (registerAt values 0 ≠ responseMagic ∨ registerAt values 1 ≠ wireVersion)
    (.value "response header magic or version is invalid")
  refuseIf (∃ value ∈ slice values 36 40, value ≠ 0)
    (.value "response header reserved fields must be zero")
  let byteLength ← registersU32 (slice values 8 10)
  let registerCount := registerAt values 10
  refuseIf (byteLength > maxPayloadBytes ∨ registerCount ≠ (byteLength + 1) / 2)
    (.value "response payload dimensions are invalid")
  let status ← WireStatus.ofInt (registerAt values 2)
  let operation ← WireOperation.ofInt (registerAt values 3)
  let transactionId ← registersU64 (slice values 4 8)
  let resultCode ← WireResultCode.ofInt (registerAt values 11)
  let payloadDigest ← registersDigest (slice values 12 28)
  let deviceTransactionCounter ← registersU64 (slice values 28 32)
  let stateVersionHint ← registersU64 (slice values 32 36)
  pure
    { status := status
      operation := operation
      transactionId := transactionId
      payloadByteLength := byteLength
      payloadRegisterCount := registerCount
      resultCode := resultCode
      payloadDigest := payloadDigest
      deviceTransactionCounter := deviceTransactionCounter
      stateVersionHint := stateVersionHint }

end ResponseHeader

end AegisOt.Modbus
