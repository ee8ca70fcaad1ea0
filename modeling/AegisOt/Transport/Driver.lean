import AegisOt.Coordination.Sample
import AegisOt.Transport.CoordinatedPort

/-!
# A scripted environment for the gateway port

An environment that answers every action by a script makes a call a function of the state, so
runs can be evaluated.
-/

namespace AegisOt

open Program

/-- The answers of the environment; the clock stands still unless the last reading was later. -/
structure PortEnvironment where
  clock : Time
  trust : TrustView
  nonce : String
  exchange : PortRequest → ExchangeResult
  writes : WriteResult × WriteResult

variable [Primitives] [RecordCodec]

/-- The reply to an action and the state after it. -/
def PortState.react (env : PortEnvironment) (s : PortState) :
    (action : PortAct) → action.Reply × PortState
  | .clock =>
      let reading := max s.now env.clock
      (reading, { s with now := reading })
  | .trust => (env.trust, s)
  | .nonce => (env.nonce, s)
  | .findAction requestSha256 actorId proposalNonce =>
      (s.journal.findAction requestSha256 actorId proposalNonce, s)
  | .get effect => (s.journal.get (.identity effect), s)
  | .pending => (s.journal.pending, s)
  | .journal op =>
      let result := op.run s.journal ⟨env.clock, env.writes⟩
      (result.1, { s with journal := result.2 })
  | .exchange request => (env.exchange request, s)

theorem PortState.perform_react (env : PortEnvironment) (s : PortState) (action : PortAct) :
    s.perform action (s.react env action).1 (s.react env action).2 := by
  cases action with
  | clock => exact ⟨le_max_left _ _, rfl⟩
  | journal op => exact ⟨⟨env.clock, env.writes⟩, rfl, rfl⟩
  | findAction | get | pending => exact ⟨rfl, rfl⟩
  | trust | nonce | exchange => rfl

/-- Run a program to its end. -/
def PortProgram.runWith {α : Type} (env : PortEnvironment) :
    PortProgram α → PortState → List (Event PortAct PortAct.Reply) × Except PortError α × PortState
  | .done result, s => ([], result, s)
  | .act action next, s =>
      let reaction := s.react env action
      let rest := PortProgram.runWith env (next reaction.1) reaction.2
      (⟨action, reaction.1⟩ :: rest.1, rest.2)

theorem PortProgram.runs_runWith {α : Type} (env : PortEnvironment) (p : PortProgram α)
    (s : PortState) : p.Runs PortState.perform s (runWith env p s).1 (runWith env p s).2.1
      (runWith env p s).2.2 := by
  induction p generalizing s with
  | done result => exact .done result s
  | act action next ih => exact .act (s.perform_react env action) (ih _ _)

/-- Every reply on the way is the environment's. -/
theorem PortProgram.reply_of_runWith {α : Type} {env : PortEnvironment} {p : PortProgram α}
    {s : PortState} {event : Event PortAct PortAct.Reply} (h : event ∈ (runWith env p s).1) :
    ∃ s₁ : PortState, event.reply = (s₁.react env event.action).1 := by
  induction p generalizing s with
  | done result => cases h
  | act action next ih =>
    rcases List.mem_cons.mp h with rfl | h
    · exact ⟨s, rfl⟩
    · exact ih _ h

end AegisOt

namespace AegisOt.Sample

/-! ## The sample gateway -/

def gatewaySigner : WorkloadSigner := ⟨gatewayCredential, "gateway-key"⟩

def port : CoordinatedPort where
  ot := ⟨"plc-1", "plc-boot-epoch-01", "coordinator-key", "coordinator-key", "permit-key",
    "permit-key"⟩
  observer := ⟨"observer-key", "observer", "observer-key", "observer-boot-epoch"⟩
  gatewayIdentity := ⟨⟨verifier, .gateway, effectCoordinatorAudience, "gateway", none⟩,
    gatewaySigner⟩
  otIdentity := ⟨verifier, .otAdapter, gatewayCoordinationAudience, "coordinator", none⟩
  callTtl := 10 * second
  callTtl_bounds := by decide
  gatewayAudience := rfl
  gatewayRole := rfl
  otAudience := rfl
  otRole := rfl

def trustView : TrustView :=
  ⟨fun _ => some ⟨1, []⟩, .ok gatewayCredential, .ok coordinatorCredential⟩

/-- The coordinator answers a prepare request with a receipt of this time, and nothing else. -/
def answering (preparedAt : Time) : PortRequest → ExchangeResult
  | .prepare request =>
      .response ⟨200, 1024, sha 1024, none, some (receipt request preparedAt), none⟩
  | _ => .unavailable

/-- A call at one instant, with a coordinator that prepares at another. -/
def callAt (now preparedAt : Time) (nonce : String) : PortEnvironment :=
  { clock := now
    trust := trustView
    nonce := nonce
    exchange := answering preparedAt
    writes := (.written, .written) }

end AegisOt.Sample
