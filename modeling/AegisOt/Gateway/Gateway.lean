import AegisOt.Degraded.Models
import AegisOt.Gateway.Evidence
import AegisOt.Misc.Method

/-!
# The gateway

`AegisGateway` of `gateway.py` with the `ReplayLedger` of `replay.py` and its evidence chain.
Identity, delegation, policy, safety and the degraded-operation gate are objects the gateway is
given; each of them may answer anything or raise, so their answers are part of a call.
-/

namespace AegisOt

/-- `SystemState`. -/
structure SystemState where
  version : Nat
  observedAt : Time
  criticalLoadServedPct : ℚ
  minimumVoltagePu : ℚ
  maximumVoltagePu : ℚ
  maximumLineLoadingPct : ℚ
  isolatedAssets : List String
  batteryDispatchMw : ℚ
  deriving DecidableEq

/-- `SafetyResult`. -/
structure SafetyResult where
  reasons : List String
  predictedState : SystemState

/-! ## Replay protection -/

namespace Gateway

/-- `ReplayLedger`, by its `_retention` and the items of `_seen`. -/
structure ReplayLedger where
  retention : Time
  seen : List (String × Time)
  deriving DecidableEq

namespace ReplayLedger

/-- `_seen` without the entries before the cutoff. -/
def remaining (ledger : ReplayLedger) (now : Time) : List (String × Time) :=
  let cutoff := now - ledger.retention
  ledger.seen.filter (fun entry => cutoff ≤ entry.2)

/-- `reserve`. -/
def reserve (ledger : ReplayLedger) (nonce : String) (now : Time) : Bool × ReplayLedger :=
  let seen := ledger.remaining now
  if (lookupEntry nonce seen).isSome then (false, { ledger with seen := seen })
  else (true, { ledger with seen := seen ++ [(nonce, now)] })

end ReplayLedger

end Gateway

/-! ## Evidence of a decision -/

/-- The payloads of the two `append` calls. -/
inductive GatewayEvidence where
  | degradedDenial (untrustedProposalSha256 : Sha256) (decision : Decision)
      (trustedStateSha256 : Sha256) (degradedAdmission : Option DegradedAdmissionResult)
  | decision (proposal : ActionProposal) (decision : Decision) (state : SystemState)
      (predictedState : SystemState) (identityVersion : String)
      (degradedAdmission : Option DegradedAdmissionResult)

/-- `canonical_digest` of a proposal and of a state. -/
class GatewayPrimitives where
  proposalDigest : ActionProposal → Sha256
  stateDigest : SystemState → Sha256

/-! ## Decisions -/

/-- `AegisGateway`. -/
structure AegisGateway where
  replay : Gateway.ReplayLedger
  evidence : EvidenceChain GatewayEvidence
  maximumStateAge : Time
  identityVersion : String
  policyVersion : String
  safetyVersion : String

/-- One call of `decide`: its arguments, what the objects of the gateway answer, the identifier of
    the decision, and the clock readings of the decision and of the evidence. -/
structure GatewayCall where
  proposal : ActionProposal
  state : SystemState
  evaluatedAt : Time
  /-- `degraded_operation.evaluate`, if there is such a gate. -/
  degraded : Option (Except String DegradedAdmissionResult)
  identity : Except String Bool
  delegation : Except String (List String)
  policy : Except String (List String)
  safety : Except String SafetyResult
  /-- What `evidence.append` raises, if it does. -/
  evidence : Except String Unit
  decisionId : String
  decidedAt : Time
  recordedAt : Time

namespace GatewayCall

/-- The reasons before authentication. -/
def degradedReasons (call : GatewayCall) : List String :=
  match call.degraded with
  | none => []
  | some (.error _) => ["degraded_admission_unavailable"]
  | some (.ok admission) => if admission.mayEnterPrimaryAssurance then [] else admission.reasons

/-- `degraded_admission`. -/
def degradedAdmission (call : GatewayCall) : Option DegradedAdmissionResult :=
  match call.degraded with
  | some (.ok admission) => some admission
  | _ => none

/-- The two comparisons of `decide` itself. -/
def observationReasons (call : GatewayCall) (maximumStateAge : Time) : List String :=
  let stateAge := call.evaluatedAt - call.state.observedAt
  (if stateAge < 0 ∨ maximumStateAge < stateAge then ["state_not_fresh"] else []) ++
  (if call.proposal.observedAt ≠ call.state.observedAt then ["proposal_observation_mismatch"]
    else [])

end GatewayCall

namespace AegisGateway

variable [EvidencePayload GatewayEvidence] [EvidencePrimitives] [GatewayPrimitives]

/-- `evidence.append`, and the decision with the hash of the record. -/
def record (call : GatewayCall) (proposalId : String) (provisional : Decision)
    (payload : GatewayEvidence) : Method AegisGateway String Decision := do
  Method.check call.evidence
  let gateway ← Method.self
  let appended :=
    gateway.evidence.append call.recordedAt proposalId provisional.decisionId payload
  Method.assign fun gateway => { gateway with evidence := appended.2 }
  pure { provisional with evidenceRecordHash := some appended.1.sha256 }

/-- `decide` where the degraded-operation gate denies. -/
def denyDegraded (call : GatewayCall) (reasons : List String) :
    Method AegisGateway String Decision :=
  let untrustedSha256 := GatewayPrimitives.proposalDigest call.proposal
  let untrustedProposalId := "untrusted:" ++ hexdigest untrustedSha256
  let provisional : Decision :=
    { decisionId := call.decisionId
      proposalId := untrustedProposalId
      outcome := .deny
      reasons := reasons
      decidedAt := call.decidedAt
      policyVersion := "not-evaluated:m5-degraded-pre-authorization"
      safetyVersion := "not-evaluated:m5-degraded-pre-authorization"
      stateVersion := call.state.version
      evidenceRecordHash := none }
  record call untrustedProposalId provisional
    (.degradedDenial untrustedSha256 provisional (GatewayPrimitives.stateDigest call.state)
      call.degradedAdmission)

/-- `identity_verified and not self.replay.reserve(...)`, as the reasons it adds. -/
def reserveNonce (call : GatewayCall) (identityVerified : Bool) :
    Method AegisGateway String (List String) :=
  if identityVerified then do
    let gateway ← Method.self
    let reserved := gateway.replay.reserve call.proposal.nonce call.evaluatedAt
    Method.assign fun gateway => { gateway with replay := reserved.2 }
    pure (if reserved.1 then [] else ["replayed_nonce"])
  else pure []

/-- The outcome for the reasons that were found. -/
def outcomeOf (reasons : List String) : DecisionOutcome :=
  if reasons = ["human_approval_required"] then .requireApproval
  else if reasons = [] then .permit
  else .deny

/-- `decide` from the last reason on. -/
def conclude (gateway : AegisGateway) (call : GatewayCall) (reasons : List String)
    (predictedState : SystemState) : Method AegisGateway String Decision :=
  let provisional : Decision :=
    { decisionId := call.decisionId
      proposalId := call.proposal.proposalId
      outcome := outcomeOf reasons
      reasons := if reasons = [] then ["all_checks_passed"] else reasons
      decidedAt := call.decidedAt
      policyVersion := gateway.policyVersion
      safetyVersion := gateway.safetyVersion
      stateVersion := call.state.version
      evidenceRecordHash := none }
  record call call.proposal.proposalId provisional
    (.decision call.proposal provisional call.state predictedState gateway.identityVersion
      call.degradedAdmission)

/-- `decide`. -/
def decide (call : GatewayCall) : Method AegisGateway String Decision := do
  if call.degradedReasons ≠ [] then denyDegraded call call.degradedReasons
  else do
    let gateway ← Method.self
    let identityVerified ← Method.check call.identity
    let delegation ← Method.check call.delegation
    let policy ← Method.check call.policy
    let safety ← Method.check call.safety
    let replayed ← reserveNonce call identityVerified
    conclude gateway call
      ((if identityVerified then [] else ["identity_not_verified"]) ++ delegation ++
        call.observationReasons gateway.maximumStateAge ++ policy ++ safety.reasons ++ replayed)
      safety.predictedState

/-- The gateway after a call. -/
def after (gateway : AegisGateway) (call : GatewayCall) : AegisGateway :=
  (Method.call (decide call) gateway).2

/-- The decision of a call, unless it raises. -/
def decision (gateway : AegisGateway) (call : GatewayCall) : Except String Decision :=
  (Method.call (decide call) gateway).1

/-- The calls of a sequence that are permitted, in order. -/
def permitted (gateway : AegisGateway) : List GatewayCall → List GatewayCall
  | [] => []
  | call :: rest =>
      let later := (gateway.after call).permitted rest
      if (gateway.decision call).toOption.any (fun decision => decision.outcome = .permit) then
        call :: later
      else later

end AegisGateway

end AegisOt
