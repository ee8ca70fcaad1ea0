import AegisOt.Transport.GatewayRun

/-!
# The gateway and the OT runtime together

One gateway process and one OT process that share nothing but messages. The network may lose,
delay, duplicate and reorder them, and others may write to it; what it cannot do is forge: a
commit request that the OT runtime would admit was handed to the transport by the gateway, and an
outcome that the gateway would trust was answered by the OT runtime. Either process may crash at
any point and start again from its durable journal.
-/

namespace AegisOt

open Program

variable [Primitives] [RecordCodec]

/-- Under some trust bundle this OT configuration authenticates the commit request. -/
def OtConfig.Admits (cfg : OtConfig) (m : SignedEffectCommitRequest) : Prop :=
  ∃ view context evaluatedAt, OtProgram.resolveContext cfg view evaluatedAt = .ok context ∧
    m.verifyCompleteForAdmission context.verifier context.gateway.subject
      context.localIdentity.subject (OtProgram.currentIdentities cfg) evaluatedAt = true

/-- Under some trust bundle the port accepts this outcome for some request. -/
def CoordinatedPort.Trusts (port : CoordinatedPort) (o : SignedEffectOutcome) : Prop :=
  ∃ view request evaluatedAt, o.verifyForRequest (port.workloadVerifier view) request
    port.gatewaySubject port.coordinatorSubject (port.outcomeIdentityBindings o) evaluatedAt = true

/-- The two processes. -/
structure CoordinationSystem where
  gateway : GatewaySystem
  ot : OtSystem

/-- One event of either process. -/
inductive CoordinationStep : CoordinationSystem → CoordinationSystem → Prop where
  /-- What arrives at the gateway was answered by the OT runtime, or the gateway will not trust
      it. -/
  | gateway (g g' : GatewaySystem) (ot : OtSystem) (hstep : GatewayStep g g')
      (hauthentic : ∀ port o, (port, o) ∈ g'.state.received → (port, o) ∈ g.state.received ∨
        (port.Trusts o → o ∈ ot.state.answered)) :
      CoordinationStep ⟨g, ot⟩ ⟨g', ot⟩
  /-- A commit request that arrives at the OT runtime was sent by the gateway, or the OT runtime
      will not admit it. Prepare and query requests may come from anyone. -/
  | deliver (g : GatewaySystem) (config : OtConfig) (s : OtState) (request : OtRequest)
      (hauthentic : ∀ m, request = .commit m → config.Admits m → m ∈ g.state.commits) :
      CoordinationStep ⟨g, ⟨config, s, none⟩⟩ ⟨g, ⟨config, s, some (request.handle config)⟩⟩
  /-- The OT runtime goes on with its handler, or crashes. -/
  | ot (g : GatewaySystem) (ot ot' : OtSystem) (hstep : OtStep ot ot')
      (hworking : ot.running = none → ot'.running = none) : CoordinationStep ⟨g, ot⟩ ⟨g, ot'⟩

/-- Any sequence of events. -/
abbrev CoordinationRun : CoordinationSystem → CoordinationSystem → Prop :=
  Relation.ReflTransGen CoordinationStep

/-- Two processes whose journals were just initialized. -/
def CoordinationSystem.Initial (sys : CoordinationSystem) : Prop :=
  sys.gateway.Initial ∧ sys.ot.Initial

end AegisOt
