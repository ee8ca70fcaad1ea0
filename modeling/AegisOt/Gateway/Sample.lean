import AegisOt.Gateway.Gateway

/-!
# A sample gateway

A gateway with the default windows, five seconds for the state and an hour for a nonce, and calls in
which every object agrees.
-/

namespace AegisOt.Sample

/-- A time as a JSON list. -/
def timeJson (time : Timestamp) : Json :=
  .arr [.ofInt time.wall, (time.utcOffset.map Json.ofInt).getD .null]

def timeText (time : Timestamp) : String := String.ofList (Json.write (timeJson time))

/-- The length of the proposal identifier, in place of a hash. -/
def proposalLength (bytes : ByteArray) : Sha256 :=
  match Json.loadsBytes bytes with
  | .ok (.obj members) =>
      match lookupEntry "proposal_id" members with
      | some (.str text) => Fin.ofNat (2 ^ 256) text.length
      | _ => 0
  | _ => 0

/-- Digests that tell the sample records apart. -/
scoped instance sampleEvidencePrimitives : EvidencePrimitives where
  sha256 := proposalLength
  isoformat := timeText

/-- The payloads of the gateway as empty objects. -/
scoped instance sampleEvidencePayload : EvidencePayload GatewayEvidence := ⟨fun _ => .obj []⟩

scoped instance sampleGatewayPrimitives : GatewayPrimitives where
  proposalDigest proposal := Fin.ofNat (2 ^ 256) proposal.nonce.length
  stateDigest state := Fin.ofNat (2 ^ 256) state.version

def aegisGateway : AegisGateway where
  replay := ⟨3600 * second, []⟩
  evidence := .empty
  maximumStateAge := 5 * second
  identityVersion := "local-allowlist-v1"
  policyVersion := "policy-v1"
  safetyVersion := "safety-v1"

/-- The state that was observed at a time. -/
def systemState (observedAt : Time) : SystemState where
  version := 1
  observedAt := observedAt
  criticalLoadServedPct := 100
  minimumVoltagePu := 1
  maximumVoltagePu := 1
  maximumLineLoadingPct := 50
  isolatedAssets := []
  batteryDispatchMw := 0

/-- A proposal of one agent under one nonce. -/
def gatewayProposal (observedAt : Time) : ActionProposal where
  proposalId := "proposal-1"
  actorId := "agent-1"
  missionId := "mission-1"
  resource := "battery-1"
  operation := .dispatchBattery
  parameters := [("mw", 1)]
  observedStateVersion := 1
  observedAt := observedAt
  submittedAt := observedAt
  nonce := "proposal-nonce-1"
  confidence := 1
  riskScore := 0
  delegationChain := ["grant-1"]
  humanApprovalId := none

/-- A call about a fresh observation in which no object has anything against it. -/
def gatewayCall (time : Time) : GatewayCall where
  proposal := gatewayProposal time
  state := systemState time
  evaluatedAt := time
  degraded := none
  identity := .ok true
  delegation := .ok []
  policy := .ok []
  safety := .ok ⟨[], systemState time⟩
  evidence := .ok ()
  decisionId := "decision-1"
  decidedAt := time
  recordedAt := time

/-- The same call again after an hour and a second. -/
def repeatedCalls : List GatewayCall := [gatewayCall 0, gatewayCall (3601 * second)]

end AegisOt.Sample
