import AegisOt.Delegation.Validator
import Mathlib.Data.Rat.Floor

/-!
# A sample chain

A supervisor that passes part of its authority on to an agent.
-/

namespace AegisOt

namespace Sample

/-- A signature spells its key and its payload. -/
def spelled (key : String) (payload : ByteArray) : String :=
  key ++ "|" ++ String.ofList (payload.data.toList.map (fun byte => Char.ofNat byte.toNat))

scoped instance delegationPrimitives : DelegationPrimitives where
  datetimeText t := if t.wall = 0 then "1970-01-01T00:00:00Z" else "1970-01-01T01:00:00Z"
  floatRepr x := if x = 30 then ['3', '0', '.', '0'] else (⌊x⌋ : ℤ).repr.toList
  floatRepr_scanned x := by
    split
    · decide
    · have hwellFormed := Json.wellFormed_ofInt ⌊x⌋
      simpa [Json.ofInt, Json.wellFormed] using hwellFormed
  sign := spelled
  verify key payload signature := decide (signature = spelled key payload)

theorem verify_spelled (key : String) (payload : ByteArray) :
    DelegationPrimitives.verify key payload (DelegationPrimitives.sign key payload) = true :=
  decide_eq_true rfl

/-- The grant of the supervisor, for some mission. -/
def rootGrant (mission : String) (hmission : mission ≠ "") : DelegationGrant :=
  DelegationGrant.signed
    { grantId := "grant-root"
      issuerId := "authority:root"
      subjectId := "agent:supervisor"
      missionId := mission
      resources := ["feeder-1", "feeder-2"]
      operations := [.isolateAsset, .restoreAsset]
      notBefore := .utc 0
      expiresAt := .utc (3600 * second)
      riskLimit := 30
      delegationDepthRemaining := 1
      parentGrantId := none
      signature := ""
      textsNonempty := ⟨by decide, by decide, by decide, hmission⟩
      resourcesValid := by decide
      operationsValid := by decide
      riskLimitValid := by decide +kernel
      windowValid := by decide }
    "root-key"

theorem signature_rootGrant (mission : String) (hmission : mission ≠ "") :
    (rootGrant mission hmission).signature =
      spelled "root-key" (rootGrant mission hmission).signingBytes := by
  unfold rootGrant
  rw [DelegationGrant.signingBytes_signed]
  rfl

/-- The grant of the agent. -/
def leafGrant : DelegationGrant :=
  DelegationGrant.signed
    { grantId := "grant-leaf"
      issuerId := "agent:supervisor"
      subjectId := "agent:operator"
      missionId := "mission-beta"
      resources := ["feeder-1"]
      operations := [.isolateAsset]
      notBefore := .utc 0
      expiresAt := .utc (3600 * second)
      riskLimit := 30
      delegationDepthRemaining := 0
      parentGrantId := some "grant-root"
      signature := ""
      textsNonempty := by decide
      resourcesValid := by decide
      operationsValid := by decide
      riskLimitValid := by decide +kernel
      windowValid := by decide }
    "supervisor-key"

def delegatedProposal : ActionProposal where
  proposalId := "proposal-1"
  actorId := "agent:operator"
  missionId := "mission-beta"
  resource := "feeder-1"
  operation := .isolateAsset
  parameters := []
  observedStateVersion := 1
  observedAt := 0
  submittedAt := 0
  nonce := "nonce-0123456789"
  confidence := 1
  riskScore := 10
  delegationChain := ["grant-root", "grant-leaf"]
  humanApprovalId := none

/-- A validator that knows these grants. -/
def delegationValidator (root leaf : DelegationGrant) : DelegationValidator where
  grants id := if id = "grant-root" then some root
    else if id = "grant-leaf" then some leaf else none
  publicKeys id := if id = "authority:root" then some "root-key"
    else if id = "agent:supervisor" then some "supervisor-key" else none
  revoked := []

end Sample

end AegisOt
