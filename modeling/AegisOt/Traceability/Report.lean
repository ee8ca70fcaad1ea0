import AegisOt.Misc.InverseIndex
import AegisOt.Traceability.Baseline

/-!
# The traceability report

`build_evidence_traceability` of `m8_evidence_traceability.py` up to its final validation: it binds
every artifact that the mapping names, files the requirements under the artifacts, procedures and
historical results they name, and assembles the report. The report is a dictionary of dictionaries
in the source; its fields are those of `TraceabilityReport`.
-/

namespace AegisOt

/-- `TRACEABILITY_SCHEMA`. -/
def traceabilitySchema : String := "aegis-ot-m8-evidence-traceability-v2"

/-- `CLAIM_BOUNDARY`. -/
def claimBoundary : String :=
  "Repository artifact and test mappings establish trace links only. All 223 " ++
    "requirements and all 35 TBRs remain open; no requirement is accepted. No " ++
    "external attestation is included, and independent validation, qualification, " ++
    "authorization, deployment, and operational effectiveness remain external."

/-- The dictionary `ATTESTATION_INTERFACE`. -/
structure AttestationInterface where
  schema : String
  trustedAuthorityKeySource : String
  selfDeclaredKeysTrusted : Bool
  statelessVerificationChangesAssuranceState : Bool
  replaySafeIngestionRequiredForStateChange : Bool
  automaticRequirementAcceptance : Bool
  independentValidationEstablished : Bool
  deriving DecidableEq

/-- `ATTESTATION_INTERFACE`. -/
def attestationInterface : AttestationInterface where
  schema := attestationSchema
  trustedAuthorityKeySource := "application_supplied_out_of_band"
  selfDeclaredKeysTrusted := false
  statelessVerificationChangesAssuranceState := false
  replaySafeIngestionRequiredForStateChange := true
  automaticRequirementAcceptance := false
  independentValidationEstablished := false

/-! ## The parts of a report -/

/-- The roles of a current artifact. -/
inductive ArtifactRole where
  | implementation
  | procedure
  deriving DecidableEq, Repr

namespace ArtifactRole

/-- The key of a role in `role_paths`. -/
def name : ArtifactRole → String
  | .implementation => "implementation"
  | .procedure => "procedure"

/-- The roles in the order of their names. -/
def all : List ArtifactRole := [.implementation, .procedure]

/-- The roles in a collection, sorted. -/
def sorted (roles : List ArtifactRole) : List ArtifactRole := all.filter fun role => role ∈ roles

end ArtifactRole

namespace RolePaths

/-- `role_paths[role]`. -/
def ofRole (roles : RolePaths) : ArtifactRole → List String
  | .implementation => roles.implementation
  | .procedure => roles.procedure

/-- `sorted({path for paths in role_paths.values() for path in paths})`. -/
def all (roles : RolePaths) : List String :=
  (SortedMap.ofKeys (roles.implementation ++ roles.procedure)).keys

end RolePaths

/-- `source_binding`. -/
structure SourceBinding where
  gitCommit : String
  gitTree : String
  requirements : ArtifactBinding
  mapping : ArtifactBinding
  deriving DecidableEq

/-- The `mapping` of a report. -/
structure MappingMetadata where
  schema : String
  mappingId : String
  reviewScope : String
  reviewAuthority : String
  approvalState : String
  deriving DecidableEq

/-- `summary`. -/
structure TraceabilitySummary where
  requirementsTracked : Nat
  requirementsMapped : Nat
  requirementsUnmapped : Nat
  requirementsOpen : Nat
  requirementsAccepted : Nat
  tbrsTracked : Nat
  tbrsOpen : Nat
  endStateAccepted : Bool
  deriving DecidableEq

/-- A value of `forward_index`. -/
structure ForwardLink where
  artifactPathsByRole : RolePaths
  procedureOrTestIds : List String
  historicalResultPaths : List String
  owner : String
  disposition : String
  result : String
  resultArtifactState : String
  deriving DecidableEq

/-- A value of `inverse_index["artifacts"]`. -/
structure InverseArtifact where
  binding : ArtifactBinding
  requirementIds : List String
  roles : List ArtifactRole
  deriving DecidableEq

/-- A value of `inverse_index["historical_results"]`. -/
structure InverseHistoricalResult where
  binding : HistoricalResultBinding
  requirementIds : List String
  deriving DecidableEq

/-- `inverse_index`. -/
structure InverseIndex where
  artifacts : SortedMap String InverseArtifact
  historicalResults : SortedMap String InverseHistoricalResult
  procedures : SortedMap String (List String)
  deriving DecidableEq

/-- `coverage`. -/
structure Coverage where
  mappedRequirementIds : List String
  unmappedRequirementIds : List String
  deriving DecidableEq

/-- A report without its digest. -/
structure TraceabilityContent where
  schema : String
  sourceBinding : SourceBinding
  mapping : MappingMetadata
  summary : TraceabilitySummary
  requirements : List RequirementRecord
  tbrs : List TbrRecord
  gates : SortedMap String String
  claimStates : SortedMap String String
  catalogSha256 : Sha256
  forwardIndex : SortedMap String ForwardLink
  inverseIndex : InverseIndex
  coverage : Coverage
  /-- Attestations by their identifiers. -/
  externalAttestations : List String
  attestationInterface : AttestationInterface
  claimBoundary : String

/-- A report. -/
structure TraceabilityReport extends TraceabilityContent where
  contentSha256 : Sha256

/-- `sha256_json` of a catalog and of the content of a report. -/
class ReportDigests where
  catalogSha256 : List RequirementRecord → List TbrRecord → SortedMap String String →
    SortedMap String String → Sha256
  contentSha256 : TraceabilityContent → Sha256

/-- `parse_requirements_docx` on the bytes of the file. The file is a zip archive: it is not empty,
    and it is not JSON, which has no control characters. -/
class RequirementsDocx where
  parse : ByteArray → Except IngestError RequirementsBaseline
  parse_empty : ∀ baseline, parse .empty ≠ .ok baseline
  parse_not_json : ∀ material baseline label value, parse material = .ok baseline →
    loadStrictJsonBytes material label ≠ .ok value

/-- What `resolve_commit` returns. -/
structure ResolvedCommit where
  commit : String
  tree : String
  canonical : isGitObject commit = true ∧ isGitObject tree = true

section

variable [TraceabilityPrimitives] [PythonSource]

/-! ## The indices -/

/-- The dictionaries that `build_evidence_traceability` fills. -/
structure BuildState where
  cache : SortedMap String ArtifactBinding
  forward : SortedMap String ForwardLink
  inverseArtifacts : SortedMap String InverseArtifact
  inverseHistoricalResults : SortedMap String InverseHistoricalResult
  inverseProcedures : SortedMap String (List String)
  historicalByRequirement : SortedMap String (List HistoricalResultBinding)

/-- `_bind_cached`. -/
def bindCached (checkout : Checkout) (commit relative : String)
    (cache : SortedMap String ArtifactBinding) :
    Except IngestError (ArtifactBinding × SortedMap String ArtifactBinding) :=
  match cache.find? relative with
  | some binding => pure (binding, cache)
  | none => do
      let binding ← bindCommittedFile checkout commit relative
      pure (binding, cache.insert relative binding)

/-- One pass of the loop over the procedures of an entry. -/
def indexProcedure (checkout : Checkout) (commit requirementId : String)
    (built : BuildState × List String) (procedure : String) :
    Except IngestError (BuildState × List String) := do
  let relative ← verifyTestProcedure checkout commit procedure
  pure
    ({ built.1 with
        inverseProcedures :=
          built.1.inverseProcedures.file procedure [] fun ids => ids ++ [requirementId] },
      built.2 ++ [relative])

/-- One pass of the loop over the current artifacts of an entry. -/
def indexPath (checkout : Checkout) (commit requirementId : String) (rolePaths : RolePaths)
    (built : BuildState) (path : String) : Except IngestError BuildState := do
  let (binding, cache) ← bindCached checkout commit path built.cache
  pure
    { built with
      cache := cache
      inverseArtifacts := built.inverseArtifacts.file path ⟨binding, [], []⟩ fun inverse =>
        { inverse with
          requirementIds := inverse.requirementIds ++ [requirementId]
          roles := inverse.roles ++ ArtifactRole.all.filter fun role =>
            path ∈ rolePaths.ofRole role ∧ role ∉ inverse.roles } }

/-- One pass of the loop over the historical results of an entry. -/
def indexResult (checkout : Checkout) (commit requirementId : String)
    (built : BuildState × List HistoricalResultBinding) (path : String) :
    Except IngestError (BuildState × List HistoricalResultBinding) := do
  let historical ← bindHistoricalResult checkout commit path
  refuseIf (historical.relationshipToCurrentSource ≠ "historical") (.traceability
    ("result artifact declared historical but matches current source: " ++ path))
  pure
    ({ built.1 with
        inverseHistoricalResults :=
          built.1.inverseHistoricalResults.file path ⟨historical, []⟩ fun inverse =>
            { inverse with requirementIds := inverse.requirementIds ++ [requirementId] } },
      built.2 ++ [historical])

/-- One pass of the loop over the entries of the mapping. -/
def indexEntry (checkout : Checkout) (commit : String) (built : BuildState)
    (entry : EvidenceMappingEntry) : Except IngestError BuildState := do
  let (built, procedurePaths) ← entry.procedureOrTestIds.foldlM
    (indexProcedure checkout commit entry.requirementId) (built, [])
  let rolePaths : RolePaths :=
    { implementation := entry.implementationArtifacts
      procedure := (SortedMap.ofKeys procedurePaths).keys }
  let built ← rolePaths.all.foldlM (indexPath checkout commit entry.requirementId rolePaths) built
  let (built, historicalResults) ← entry.resultArtifacts.foldlM
    (indexResult checkout commit entry.requirementId) (built, [])
  pure
    { built with
      historicalByRequirement :=
        built.historicalByRequirement.insert entry.requirementId historicalResults
      forward := built.forward.insert entry.requirementId
        { artifactPathsByRole := rolePaths
          procedureOrTestIds := entry.procedureOrTestIds
          historicalResultPaths := entry.resultArtifacts
          owner := entry.owner
          disposition := entry.disposition
          result := entry.result
          resultArtifactState := entry.resultArtifactState } }

/-- The value with its lists sorted. -/
def InverseArtifact.sorted (value : InverseArtifact) : InverseArtifact :=
  { value with
    requirementIds := (SortedMap.ofKeys value.requirementIds).keys
    roles := ArtifactRole.sorted value.roles }

/-- The value with its list sorted. -/
def InverseHistoricalResult.sorted (value : InverseHistoricalResult) : InverseHistoricalResult :=
  { value with requirementIds := (SortedMap.ofKeys value.requirementIds).keys }

/-- The inverse index, with its lists sorted. -/
def BuildState.inverseIndex (built : BuildState) : InverseIndex where
  artifacts := built.inverseArtifacts.mapValues InverseArtifact.sorted
  historicalResults := built.inverseHistoricalResults.mapValues InverseHistoricalResult.sorted
  procedures := built.inverseProcedures.mapValues fun ids => (SortedMap.ofKeys ids).keys

/-! ## The records -/

/-- `_mapped_record`. -/
def mappedRecord (record : RequirementRecord) (entry : EvidenceMappingEntry)
    (rolePaths : RolePaths) (bindings : SortedMap String ArtifactBinding)
    (historicalResults : List HistoricalResultBinding) : Except IngestError RequirementRecord := do
  let artifact ← rolePaths.all.mapM fun path => orRaise (bindings.find? path) (.key path)
  pure
    { record with
      rationale := some entry.rationale
      trustBoundary := some entry.trustBoundary
      verification :=
        { procedureOrTestId := entry.procedureOrTestIds
          configuration := some entry.configuration
          environment := some entry.environment
          result := entry.result
          artifact := artifact }
      disposition :=
        { implementationState := "local_evidence_mapped_not_accepted"
          claimState := "C0"
          findingStatus := "open"
          residualRisk := entry.limitations
          approvingAuthority := none
          owner := some entry.owner }
      evidenceMapping := some
        { disposition := entry.disposition
          resultArtifactState := entry.resultArtifactState
          artifactPathsByRole := rolePaths
          historicalResultEvidence := historicalResults
          limitations := entry.limitations } }

/-- The record of one requirement. -/
def reportRecord (mapping : EvidenceMapping) (built : BuildState) (requirement : Requirement) :
    Except IngestError RequirementRecord := do
  let id := requirement.requirementId
  match mapping.entries.find? fun entry => entry.requirementId = id with
  | none => pure requirement.traceabilityRecord
  | some entry =>
      let link ← orRaise (built.forward.find? id) (.key id)
      let historicalResults ← orRaise (built.historicalByRequirement.find? id) (.key id)
      mappedRecord requirement.traceabilityRecord entry link.artifactPathsByRole built.cache
        historicalResults

/-! ## The report -/

variable [RequirementsDocx] [ReportDigests]

/-- The report of indices and records, without its digest. -/
def traceabilityContent (source : ResolvedCommit) (baseline : RequirementsBaseline)
    (requirementsBinding mappingBinding : ArtifactBinding) (mapping : EvidenceMapping)
    (built : BuildState) (requirements : List RequirementRecord) : TraceabilityContent :=
  let mappedIds :=
    (SortedMap.ofKeys (mapping.entries.map fun entry => entry.requirementId)).keys
  let allIds := requirements.map fun record => record.requirement.requirementId
  let tbrs := baseline.tbrs.map ToBeResolved.record
  { schema := traceabilitySchema
    sourceBinding :=
      { gitCommit := source.commit
        gitTree := source.tree
        requirements := requirementsBinding
        mapping := mappingBinding }
    mapping :=
      { schema := mappingSchema
        mappingId := mapping.mappingId
        reviewScope := mapping.reviewScope
        reviewAuthority := mapping.reviewAuthority
        approvalState := "not_approved" }
    summary :=
      { requirementsTracked := expectedRequirementCount
        requirementsMapped := mappedIds.length
        requirementsUnmapped := expectedRequirementCount - mappedIds.length
        requirementsOpen := expectedRequirementCount
        requirementsAccepted := 0
        tbrsTracked := expectedTbrCount
        tbrsOpen := expectedTbrCount
        endStateAccepted := false }
    requirements := requirements
    tbrs := tbrs
    gates := baseline.gates
    claimStates := baseline.claimStates
    catalogSha256 := ReportDigests.catalogSha256
      (baseline.requirements.map Requirement.traceabilityRecord) tbrs baseline.gates
      baseline.claimStates
    forwardIndex := built.forward
    inverseIndex := built.inverseIndex
    coverage :=
      { mappedRequirementIds := mappedIds
        unmappedRequirementIds :=
          (SortedMap.ofKeys (allIds.filter fun id => id ∉ mappedIds)).keys }
    externalAttestations := []
    attestationInterface := attestationInterface
    claimBoundary := claimBoundary }

/-- The report with its digest. -/
def TraceabilityContent.report (content : TraceabilityContent) : TraceabilityReport :=
  { content with contentSha256 := ReportDigests.contentSha256 content }

/-- `build_evidence_traceability` up to `_validate_evidence_traceability_structure`. -/
def assembleTraceability (checkout : Checkout) (source : ResolvedCommit)
    (requirementsPath mappingPath : String) : Except IngestError TraceabilityReport := do
  let requirementsBinding ← bindCommittedFile checkout source.commit requirementsPath
  let mappingBinding ← bindCommittedFile checkout source.commit mappingPath
  let docx ← orRaise (checkout.working requirementsPath) (.os "requirements source is unavailable")
  let baseline ← RequirementsDocx.parse docx
  refuseIf (baseline.sourceSha256 ≠ requirementsBinding.sha256)
    (.traceability "requirements baseline digest differs from its Git binding")
  let mappingMaterial ← gitShow checkout source.commit mappingPath
  let mapping ← parseEvidenceMapping mappingMaterial baseline.requirementIds
  let cache :=
    (SortedMap.empty.insert requirementsPath requirementsBinding).insert mappingPath mappingBinding
  let built ← mapping.entries.foldlM (indexEntry checkout source.commit)
    ⟨cache, .empty, .empty, .empty, .empty, .empty⟩
  let requirements ← baseline.requirements.mapM (reportRecord mapping built)
  refuseIf (requirements.length ≠ expectedRequirementCount)
    (.traceability "complete requirement catalog was not retained")
  refuseIf (∃ item ∈ requirements, item.disposition.findingStatus ≠ "open" ∨
      item.disposition.claimState ≠ "C0" ∨ item.disposition.approvingAuthority ≠ none)
    (.traceability "mapped traceability changed an open requirement state")
  let content := traceabilityContent source baseline requirementsBinding mappingBinding mapping
    built requirements
  refuseIf (content.tbrs.length ≠ expectedTbrCount ∨ ∃ item ∈ content.tbrs, item.status ≠ "open")
    (.traceability "mapped traceability changed an open TBR state")
  pure content.report

end

end AegisOt
