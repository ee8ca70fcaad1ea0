import AegisOt.Traceability.Bindings

/-!
# The requirements baseline

The catalog of `m8_traceability.py` with the checks of `_validate_catalog`, and the open records
that `report()` makes of its requirements and TBRs. Fields of a record that repeat the requirement
are its `requirement`; the constant fields of a change history that no check reads are left out.
-/

namespace AegisOt

/-- `EXPECTED_TBR_COUNT`. -/
def expectedTbrCount : Nat := 35

/-- `Requirement`. -/
structure Requirement where
  requirementId : String
  domain : String
  ordinal : Nat
  revision : String
  title : String
  normativeText : String
  requirementClass : String
  applicability : String
  verificationMethods : List String
  gate : String
  tbrs : List String
  allocation : String
  sourceBasis : String
  deriving DecidableEq

/-- `ToBeResolved`. -/
structure ToBeResolved where
  tbrId : String
  decisionOrValue : String
  closureAuthority : String
  dueGate : String
  requiredClosureEvidence : String
  deriving DecidableEq

/-- The gates that a catalog must name. -/
def gateIds : List String := ["G0", "G1", "G2", "G3", "G4", "G5", "G6", "G7"]

/-- The claim states that a catalog must name. -/
def claimStateIds : List String := ["C0", "C1", "C2", "C3", "C4", "C5", "C6", "C7", "C8"]

/-- `_validate_catalog`. -/
def validateCatalog (requirements : List Requirement) (tbrs : List ToBeResolved)
    (gates claimStates : SortedMap String String) : Except String Unit := do
  refuseIf (requirements.length ≠ expectedRequirementCount)
    ("expected " ++ toString expectedRequirementCount ++ " requirements, found " ++
      toString requirements.length)
  refuseIf (¬ (requirements.map fun item => item.requirementId).Nodup)
    "requirement identifiers are not unique"
  refuseIf (∃ item ∈ requirements,
      ¬ " shall ".toList <:+: ' ' :: item.normativeText.toList ++ [' '])
    "every normative requirement must retain its full statement"
  refuseIf (∃ item ∈ requirements, item.requirementClass ∉ ["M", "C"])
    "requirement class must be mandatory or conditional"
  refuseIf (∃ item ∈ requirements, item.verificationMethods = [])
    "every requirement must retain at least one verification method"
  refuseIf (∃ item ∈ requirements, item.gate ∉ gateIds) "every requirement must name a valid gate"
  refuseIf (∃ item ∈ requirements, item.allocation = "" ∨ item.sourceBasis = "")
    "every requirement must retain allocation and source basis"
  refuseIf (tbrs.length ≠ expectedTbrCount)
    ("expected " ++ toString expectedTbrCount ++ " TBRs, found " ++ toString tbrs.length)
  refuseIf (¬ (tbrs.map fun item => item.tbrId).Nodup) "TBR identifiers are not unique"
  refuseIf (∃ item ∈ requirements, ∃ tbr ∈ item.tbrs, tbr ∉ tbrs.map fun item => item.tbrId)
    "one or more requirements reference an undefined TBR"
  refuseIf (gates.keys ≠ gateIds) "gate catalog must contain exactly G0 through G7"
  refuseIf (claimStates.keys ≠ claimStateIds)
    "claim-state catalog must contain exactly C0 through C8"

/-- `RequirementsBaseline`, as `parse_requirements_docx` returns it; nothing here reads its path
    and its metadata. -/
structure RequirementsBaseline where
  sourceSha256 : Sha256
  requirements : List Requirement
  tbrs : List ToBeResolved
  gates : SortedMap String String
  claimStates : SortedMap String String
  validated : validateCatalog requirements tbrs gates claimStates = .ok ()

/-- `_baseline_requirement_ids`. -/
def RequirementsBaseline.requirementIds (baseline : RequirementsBaseline) : List String :=
  baseline.requirements.map fun item => item.requirementId

/-! ## Records -/

/-- The current artifacts of a requirement, by role. -/
structure RolePaths where
  implementation : List String
  procedure : List String
  deriving DecidableEq

/-- The `evidence_mapping` of a record. -/
structure EvidenceMappingRecord where
  disposition : String
  resultArtifactState : String
  artifactPathsByRole : RolePaths
  historicalResultEvidence : List HistoricalResultBinding
  limitations : String
  deriving DecidableEq

/-- What a record says of the verification of its requirement. -/
structure VerificationRecord where
  procedureOrTestId : List String
  configuration : Option String
  environment : Option String
  result : String
  artifact : List ArtifactBinding
  deriving DecidableEq

/-- The `disposition` of a record. -/
structure DispositionRecord where
  implementationState : String
  claimState : String
  findingStatus : String
  residualRisk : String
  approvingAuthority : Option String
  owner : Option String
  deriving DecidableEq

/-- One entry of a change history. -/
structure ChangeRecord where
  newText : String
  approval : String
  effectiveBaseline : String
  deriving DecidableEq

/-- A record of the traceability report. -/
structure RequirementRecord where
  requirement : Requirement
  rationale : Option String
  trustBoundary : Option String
  verification : VerificationRecord
  disposition : DispositionRecord
  changeHistory : List ChangeRecord
  evidenceMapping : Option EvidenceMappingRecord
  deriving DecidableEq

/-- `traceability_record`. -/
def Requirement.traceabilityRecord (requirement : Requirement) : RequirementRecord where
  requirement := requirement
  rationale := none
  trustBoundary := none
  verification :=
    { procedureOrTestId := []
      configuration := none
      environment := none
      result := "not_assessed"
      artifact := [] }
  disposition :=
    { implementationState := "not_assessed"
      claimState := "C0"
      findingStatus := "open"
      residualRisk := "No implementation or acceptance evidence is allocated."
      approvingAuthority := none
      owner := none }
  changeHistory :=
    [{ newText := requirement.normativeText
       approval := "not_approved"
       effectiveBaseline := "proposed" }]
  evidenceMapping := none

/-- A record of a TBR. -/
structure TbrRecord where
  tbr : ToBeResolved
  status : String
  closureArtifacts : List String
  closedBy : Option String
  closedAt : Option String
  deriving DecidableEq

/-- `record`. -/
def ToBeResolved.record (tbr : ToBeResolved) : TbrRecord where
  tbr := tbr
  status := "open"
  closureArtifacts := []
  closedBy := none
  closedAt := none

end AegisOt
