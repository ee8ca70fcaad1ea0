import AegisOt.Delegation.Grant

/-!
# The delegation validator

`DelegationValidator` of `delegation.py`. Each function gives the reasons that one part of
`validate` appends, in their order.
-/

namespace AegisOt

/-- `DelegationValidation`. -/
structure DelegationValidation where
  valid : Bool
  reasons : List String
  deriving DecidableEq

/-- `DelegationValidator`, by its registry, its keys and its revocations. -/
structure DelegationValidator where
  grants : String → Option DelegationGrant
  publicKeys : String → Option PublicKey
  revoked : List String

namespace DelegationValidator

/-- `revoke`. -/
def revoke (v : DelegationValidator) (grantId : String) : DelegationValidator :=
  { v with revoked := grantId :: v.revoked }

/-- The links of the second loop: a grant and the grant before it. -/
def linkReasons (parent grant : DelegationGrant) : List String :=
  reasonIf (grant.parentGrantId ≠ some parent.grantId)
    ("broken_parent_link:" ++ grant.grantId) ++
  reasonIf (grant.issuerId ≠ parent.subjectId)
    ("issuer_subject_mismatch:" ++ grant.grantId) ++
  reasonIf (¬ grant.resources ⊆ parent.resources)
    ("resource_amplification:" ++ grant.grantId) ++
  reasonIf (¬ grant.operations ⊆ parent.operations)
    ("operation_amplification:" ++ grant.grantId) ++
  reasonIf (parent.riskLimit < grant.riskLimit)
    ("risk_amplification:" ++ grant.grantId) ++
  reasonIf (parent.delegationDepthRemaining ≤ grant.delegationDepthRemaining)
    ("depth_not_attenuated:" ++ grant.grantId) ++
  reasonIf (grant.notBefore.instant < parent.notBefore.instant ∨
      parent.expiresAt.instant < grant.expiresAt.instant)
    ("time_amplification:" ++ grant.grantId)

/-- The second loop behind its first grant. -/
def linksReasons (parent : DelegationGrant) : List DelegationGrant → List String
  | [] => []
  | grant :: rest => linkReasons parent grant ++ linksReasons grant rest

/-- The second loop. -/
def chainReasons : List DelegationGrant → List String
  | [] => []
  | root :: rest => reasonIf (root.parentGrantId ≠ none) "root_has_parent" ++
      linksReasons root rest

/-- The checks of the last grant. -/
def leafReasons (proposal : ActionProposal) (leaf : DelegationGrant) : List String :=
  reasonIf (leaf.subjectId ≠ proposal.actorId) "leaf_subject_mismatch" ++
  reasonIf (leaf.missionId ≠ proposal.missionId) "mission_out_of_scope" ++
  reasonIf (proposal.resource ∉ leaf.resources) "resource_out_of_scope" ++
  reasonIf (proposal.operation ∉ leaf.operations) "operation_out_of_scope" ++
  reasonIf (leaf.riskLimit < proposal.riskScore) "risk_out_of_scope"

variable [DelegationPrimitives]

/-- The signature of the grant verifies under the key of its issuer. -/
def SignatureValid (v : DelegationValidator) (grant : DelegationGrant) : Prop :=
  ∃ key ∈ v.publicKeys grant.issuerId,
    DelegationPrimitives.verify key grant.signingBytes grant.signature = true

instance (v : DelegationValidator) (grant : DelegationGrant) :
    Decidable (v.SignatureValid grant) := by
  unfold SignatureValid; infer_instance

/-- The first loop for one grant. -/
def grantReasons (v : DelegationValidator) (now : Time) (grantId : String) : List String :=
  match v.grants grantId with
  | none => ["unknown_grant:" ++ grantId]
  | some grant =>
      reasonIf (¬ v.SignatureValid grant) ("invalid_signature:" ++ grantId) ++
      reasonIf (grantId ∈ v.revoked) ("revoked_grant:" ++ grantId) ++
      reasonIf (¬ (grant.notBefore.instant ≤ now ∧ now ≤ grant.expiresAt.instant))
        ("inactive_grant:" ++ grantId)

/-- `validate`. -/
def validate (v : DelegationValidator) (proposal : ActionProposal) (now : Time) :
    DelegationValidation :=
  let chainIds := proposal.delegationChain
  if ¬ chainIds.Nodup then ⟨false, ["delegation_cycle"]⟩
  else
    let chain := chainIds.filterMap v.grants
    let reasons := chainIds.flatMap (v.grantReasons now)
    if reasons ≠ [] ∨ chain.length ≠ chainIds.length then ⟨false, reasons⟩
    else
      let reasons := chainReasons chain ++
        (chain.getLast?.elim [] (leafReasons proposal))
      ⟨decide (reasons = []), reasons⟩

end DelegationValidator

end AegisOt
