import AegisOt.Modbus.Client

/-!
# The window of the mailbox

What the mailbox is for: one request at a time. A client opens a window with its header, the
devices are asked at most once for it, and the response stands until the same header releases
it. `Window.Step` says so without registers; `Application.logged` makes visible what reaches the
devices.
-/

namespace AegisOt.Modbus

open Words

/-- What the mailbox holds for its clients. -/
inductive Window where
  | idle
  | staged (header : RequestHeader)
  | finished (header : RequestHeader)
  deriving DecidableEq

namespace Window

/-- One for a staged window. -/
def openings : Window → ℕ
  | .staged _ => 1
  | .idle | .finished _ => 0

/-- One for a finished window. -/
def standing : Window → ℕ
  | .finished _ => 1
  | .idle | .staged _ => 0

end Window

/-- A request that reached the devices. -/
structure HandledRequest where
  transactionId : ℕ
  operation : WireOperation
  payload : List UInt8
  deriving DecidableEq

/-- What happens to a window; a commit hands a request on unless it could not be decoded. -/
inductive WindowEvent where
  | begun (header : RequestHeader)
  /-- A response was written. -/
  | answered (handled : Option HandledRequest)
  /-- The response does not fit into the mailbox. -/
  | raised (handled : Option HandledRequest)
  | released (header : RequestHeader)
  deriving DecidableEq

namespace WindowEvent

/-- The request that reached the devices. -/
def handled : WindowEvent → List HandledRequest
  | .begun _ | .released _ => []
  | .answered handled | .raised handled => handled.toList

def isBegun : WindowEvent → Bool
  | .begun _ => true
  | _ => false

def isAnswered : WindowEvent → Bool
  | .answered _ => true
  | _ => false

def isReleased : WindowEvent → Bool
  | .released _ => true
  | _ => false

end WindowEvent

section

variable [EvidencePrimitives] {σ P : Type}

/-- The request is the one its header announced. -/
structure HandledRequest.Announced (request : HandledRequest) (header : RequestHeader) :
    Prop where
  transactionId : request.transactionId = header.transactionId
  operation : request.operation = header.operation
  length : request.payload.length = header.payloadByteLength
  digest : sha256Hex request.payload = header.payloadDigest

/-- What can happen to a window. -/
inductive Window.Step : Window → WindowEvent → Window → Prop where
  | begin (header : RequestHeader) : Step .idle (.begun header) (.staged header)
  | answer (header : RequestHeader) (handled : Option HandledRequest)
      (hannounced : ∀ request ∈ handled, request.Announced header) :
      Step (.staged header) (.answered handled) (.finished header)
  | fail (header : RequestHeader) (handled : Option HandledRequest)
      (hannounced : ∀ request ∈ handled, request.Announced header) :
      Step (.staged header) (.raised handled) (.staged header)
  | release (header : RequestHeader) : Step (.finished header) (.released header) .idle

/-- Any sequence of events. -/
inductive Window.Run : Window → List WindowEvent → Window → Prop where
  | refl (window : Window) : Run window [] window
  | tail {window window' window'' : Window} {events : List WindowEvent} {event : WindowEvent}
      (hrun : Run window events window') (hstep : Step window' event window'') :
      Run window (events ++ [event]) window''

/-- The window of a service. -/
def MailboxService.window (service : MailboxService σ) : Window :=
  match service.activeHeader with
  | none => .idle
  | some header => if service.terminalTransaction = none then .staged header else .finished header

/-- The application with a log of what it was asked. -/
def Application.logged (app : Application σ P) :
    Application (σ × List HandledRequest) P where
  handle device transactionId operation payload :=
    let result := app.handle device.1 transactionId operation payload
    (result.1, result.2, device.2 ++ [⟨transactionId, operation, payload⟩])
  readStateVersion device := app.readStateVersion device.1
  errorPayload := app.errorPayload
  responseBytes := app.responseBytes

/-- A mailbox without the log of its application. -/
def Mailbox.unlogged (m : Mailbox (σ × List HandledRequest)) : Mailbox σ :=
  ⟨{ m.service with device := m.service.device.1 }, m.registers⟩

/-- Writes one after the other. -/
def serveAll (app : Application σ P) (m : Mailbox σ) (writes : List (ℕ × List ℕ)) : Mailbox σ :=
  writes.foldl (fun m write => serve app m write.1 write.2) m

/-- The writes stay inside the mailbox, as the server of the mailbox has it. -/
def Inside (writes : List (ℕ × List ℕ)) : Prop :=
  ∀ write ∈ writes, write.1 + write.2.length ≤ registerCount

/-- The write that releases a header. -/
def Releases (header : RequestHeader) (write : ℕ × List ℕ) : Prop :=
  write.1 = 0 ∧ RequestHeader.fromRegisters write.2 = .ok { header with control := .release }

namespace Transport

/-- The loop of `_read_registers` while others write: the chunk at an offset is read from the
    mailbox as it is then. -/
def readFromAmid (t : Transport σ) (mailboxAt : ℕ → Mailbox σ) (address count offset : ℕ) :
    Except ClientError (List ℕ) :=
  if offset < count then do
    let chunk := min readChunkRegisters (count - offset)
    let values ← t.readHoldingRegisters (mailboxAt offset) (address + offset) chunk
    let rest ← readFromAmid t mailboxAt address count (offset + chunk)
    pure (values ++ rest)
  else pure []
termination_by count - offset
decreasing_by
  have hchunk : 0 < min readChunkRegisters (count - offset) := by
    apply Nat.lt_min.mpr
    exact ⟨by decide, by omega⟩
  omega

end Transport

end

end AegisOt.Modbus
