import AegisOt.Transport.Reconciliation
import Mathlib.Logic.Relation

/-!
# Runs of the gateway

A gateway process serves one call of its coordinated port at a time, under the transaction lock
of `CapabilityGatewayRuntime`. A call stops at every action, so a crash can fall between any two;
an exchange takes two steps, since the request is on its way before anything is known of the
response.
-/

namespace AegisOt

open Program

variable [Primitives] [RecordCodec]

/-! ## Calls -/

/-- The entry points of `CoordinatedWorkloadRemoteVirtualPlcPort`. -/
inductive PortCall where
  | execute (dispatch : SegmentedCapabilityDispatch)
  | reconcileEffect (effect : EffectIdentity)
  | reconcileEffectEvidence (effect : EffectIdentity)
  | reconcilePendingOnce

/-- What they return. -/
inductive PortReply where
  | acknowledgment (acknowledgment : PlcCommandAcknowledgment)
  | outcome (outcome : CapabilityOutcome)
  | nothingPending

/-- Serve a call. -/
def PortCall.handle (port : CoordinatedPort) : PortCall → PortProgram PortReply
  | .execute dispatch => do
      let acknowledgment ← port.execute dispatch
      pure (.acknowledgment acknowledgment)
  | .reconcileEffect effect => do
      let acknowledgment ← port.reconcileEffect effect
      pure (.acknowledgment acknowledgment)
  | .reconcileEffectEvidence effect => do
      let outcome ← port.reconcileEffectEvidence effect
      pure (.outcome outcome)
  | .reconcilePendingOnce => do
      let acknowledgment ← port.reconcilePendingOnce
      pure (acknowledgment.elim .nothingPending .acknowledgment)

/-! ## State -/

/-- The outcome a response carries. -/
def ExchangeResult.outcome? : ExchangeResult → Option SignedEffectOutcome
  | .response exchanged => exchanged.outcome
  | .outcomeUnknown _ | .protocol _ | .unavailable => none

/-- The state of a gateway process. The three lists are logs that no code reads, latest first. -/
structure GatewayState extends PortState where
  /-- What `self.nonce_factory` returned. -/
  nonces : List String
  /-- What was handed to the transport. -/
  sent : List PortRequest
  /-- The outcomes that arrived, with the port that received them. -/
  received : List (CoordinatedPort × SignedEffectOutcome)

namespace GatewayState

/-- A request is handed to the transport. -/
def handOver (s : GatewayState) (request : PortRequest) : GatewayState :=
  { s with sent := request :: s.sent }

/-- A response arrives. -/
def receive (s : GatewayState) (port : CoordinatedPort) (reply : ExchangeResult) :
    GatewayState :=
  { s with received := (reply.outcome?.map (fun o => (port, o))).toList ++ s.received }

/-- A new process: the journal is loaded from its file. -/
def restart (s : GatewayState) : GatewayState :=
  { s with journal := s.journal.restart }

/-- What an action can do and reply. The nonces of `secrets.token_urlsafe` do not repeat. -/
def perform (port : CoordinatedPort) (s : GatewayState) :
    (action : PortAct) → action.Reply → GatewayState → Prop
  | .nonce, (value : String), s' => value ∉ s.nonces ∧ s' = { s with nonces := value :: s.nonces }
  | .exchange request, (reply : ExchangeResult), s' =>
      s' = (s.handOver request).receive port reply
  | action, reply, s' =>
      ∃ p, s.toPortState.perform action reply p ∧ s' = { s with toPortState := p }

/-- The commit requests that were handed to the transport. -/
def commits (s : GatewayState) : List SignedEffectCommitRequest :=
  s.sent.filterMap (fun request => match request with
    | .commit m => some m
    | .prepare _ | .query _ => none)

end GatewayState

/-! ## Runs -/

/-- A gateway process; `waiting` says that the request of the next action is on its way. -/
structure GatewaySystem where
  port : CoordinatedPort
  state : GatewayState
  running : Option (PortProgram PortReply)
  waiting : Bool

/-- One event: a call arrives, the running call performs its next action or ends, or the process
    crashes and is started again, possibly with another configuration. -/
inductive GatewayStep : GatewaySystem → GatewaySystem → Prop where
  | start (port : CoordinatedPort) (s : GatewayState) (call : PortCall) :
      GatewayStep ⟨port, s, none, false⟩ ⟨port, s, some (call.handle port), false⟩
  | act (port : CoordinatedPort) (s s' : GatewayState) (action : PortAct)
      (next : action.Reply → PortProgram PortReply) (reply : action.Reply)
      (hlocal : ∀ request, action ≠ .exchange request)
      (hperform : s.perform port action reply s') :
      GatewayStep ⟨port, s, some (.act action next), false⟩ ⟨port, s', some (next reply), false⟩
  | handOver (port : CoordinatedPort) (s : GatewayState) (request : PortRequest)
      (next : ExchangeResult → PortProgram PortReply) :
      GatewayStep ⟨port, s, some (.act (.exchange request) next), false⟩
        ⟨port, s.handOver request, some (.act (.exchange request) next), true⟩
  | respond (port : CoordinatedPort) (s : GatewayState) (request : PortRequest)
      (next : ExchangeResult → PortProgram PortReply) (reply : ExchangeResult) :
      GatewayStep ⟨port, s, some (.act (.exchange request) next), true⟩
        ⟨port, s.receive port reply, some (next reply), false⟩
  | finish (port : CoordinatedPort) (s : GatewayState) (result : Except PortError PortReply) :
      GatewayStep ⟨port, s, some (.done result), false⟩ ⟨port, s, none, false⟩
  | restart (sys : GatewaySystem) (port : CoordinatedPort) :
      GatewayStep sys ⟨port, sys.state.restart, none, false⟩

/-- Any sequence of events. -/
abbrev GatewayRun : GatewaySystem → GatewaySystem → Prop := Relation.ReflTransGen GatewayStep

/-- A process whose journal was just initialized. -/
def GatewaySystem.Initial (sys : GatewaySystem) : Prop :=
  (∃ ownerSubject write, Journal.initialized ownerSubject write = .ok sys.state.journal) ∧
    sys.state.nonces = [] ∧ sys.state.sent = [] ∧ sys.state.received = [] ∧
    sys.running = none ∧ sys.waiting = false

end AegisOt
