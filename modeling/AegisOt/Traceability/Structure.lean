import AegisOt.Traceability.Report

/-!
# The structure of a report

`_validate_evidence_traceability_structure` of `m8_evidence_traceability.py` in the order of the
source, and `build_evidence_traceability` with it. That a dictionary has exactly its keys and a
value its type is the type `TraceabilityReport`, and a digest is one by its type. The lists of an
`ExpectedIndex` stand for sets.
-/

namespace AegisOt

/-- `EXPECTED_GATES`. -/
def expectedGates : SortedMap String String :=
  .ofEntries
    [("G0", "Controlled baseline"),
      ("G1", "Contracts and authorization kernel"),
      ("G2", "Bounded simulation and evidence"),
      ("G3", "Integrated capability transaction"),
      ("G4", "Representative multi-host and OT integration"),
      ("G5", "Compromise, resilience, and recovery"),
      ("G6", "Fleet, operations, usability, and economics"),
      ("G7", "Independent qualification and authorization")]

/-- `EXPECTED_CLAIM_STATES`. -/
def expectedClaimStates : SortedMap String String :=
  .ofEntries
    [("C0", "Specified"),
      ("C1", "Implemented"),
      ("C2", "Locally tested"),
      ("C3", "Retained evidence accepted"),
      ("C4", "Independently reproduced"),
      ("C5", "Representative multi-host/HIL validated"),
      ("C6", "Externally qualified and authorized"),
      ("C7", "Deployed"),
      ("C8", "Operationally effective")]

/-- `expected_tbr_ids`. -/
def expectedTbrIds : List String :=
  (List.range expectedTbrCount).map fun index =>
    "TBR-" ++ String.ofList (List.leftpad 3 '0' (Nat.toDigits 10 (index + 1)))

/-! ## Source, mapping and summary -/

/-- `_validate_binding_dict`. -/
def validateBinding (value : ArtifactBinding) (label : String) : Except IngestError Unit := do
  refuseIf (value.bytes ≤ 0 ∨ value.gitMode ∉ ["100644", "100755"] ∨
      isGitObject value.gitBlob = false)
    (.traceability (label ++ " binding is noncanonical"))
  canonicalRepoPath value.path

/-- `_ordered_unique_strings`. -/
def orderedUniqueStrings (value : List String) (label : String) : Except IngestError Unit :=
  refuseIf ("" ∈ value ∨ ¬ value.Pairwise (· < ·))
    (.traceability (label ++ " must be a unique sorted string list"))

/-- The checks of the source binding. -/
def validateSourceBinding (source : SourceBinding) : Except IngestError Unit := do
  refuseIf (isGitObject source.gitCommit = false ∨ isGitObject source.gitTree = false)
    (.traceability "traceability source commit or tree is noncanonical")
  validateBinding source.requirements "requirements source"
  validateBinding source.mapping "mapping source"
  refuseIf (source.requirements.path = source.mapping.path)
    (.traceability "requirements and mapping source bindings conflict")

/-- The checks of the mapping metadata. -/
def validateMappingMetadata (mapping : MappingMetadata) : Except IngestError Unit :=
  refuseIf (mapping.schema ≠ mappingSchema ∨ mapping.approvalState ≠ "not_approved" ∨
      mapping.reviewAuthority ≠ "implementation_custody")
    (.traceability "traceability mapping metadata is not bounded")

/-- The checks of the summary. -/
def validateSummary (summary : TraceabilitySummary) : Except IngestError Unit :=
  refuseIf (summary.requirementsTracked ≠ expectedRequirementCount ∨
      summary.requirementsMapped ≤ 0 ∨
      summary.requirementsMapped + summary.requirementsUnmapped ≠ expectedRequirementCount ∨
      summary.requirementsOpen ≠ expectedRequirementCount ∨ summary.requirementsAccepted ≠ 0 ∨
      summary.tbrsTracked ≠ expectedTbrCount ∨ summary.tbrsOpen ≠ expectedTbrCount ∨
      summary.endStateAccepted ≠ false)
    (.traceability "traceability summary does not preserve the exact open state")

/-! ## Requirements and TBRs -/

/-- One pass of the loop over the requirements. -/
def validateRecord (item : RequirementRecord) : Except IngestError Unit := do
  refuseIf (isRequirementId item.requirement.requirementId = false)
    (.traceability "requirement identifier is noncanonical")
  refuseIf (item.disposition.findingStatus ≠ "open" ∨ item.disposition.claimState ≠ "C0" ∨
      item.disposition.approvingAuthority ≠ none ∨
      item.changeHistory.map (fun change => (change.approval, change.effectiveBaseline)) ≠
        [("not_approved", "proposed")])
    (.traceability "one or more system requirements is not exactly open")

/-- `requirement_ids`. -/
def recordIds (requirements : List RequirementRecord) : List String :=
  requirements.map fun item => item.requirement.requirementId

/-- `records_by_id`. -/
def recordsById (requirements : List RequirementRecord) : SortedMap String RequirementRecord :=
  requirements.foldl (fun records item => records.insert item.requirement.requirementId item)
    .empty

/-- The checks of the requirements. -/
def validateRequirements (requirements : List RequirementRecord) : Except IngestError Unit := do
  refuseIf (requirements.length ≠ expectedRequirementCount)
    (.traceability "traceability report does not retain all requirements")
  requirements.forM validateRecord
  refuseIf ((SortedMap.ofKeys (recordIds requirements)).keys.length ≠ expectedRequirementCount)
    (.traceability "requirement identities are duplicated or incomplete")

/-- The checks of the TBRs. -/
def validateTbrs (tbrs : List TbrRecord) : Except IngestError Unit := do
  refuseIf (tbrs.length ≠ expectedTbrCount)
    (.traceability "traceability report does not retain all TBRs")
  refuseIf (tbrs.map (fun item => item.tbr.tbrId) ≠ expectedTbrIds)
    (.traceability "TBR identities are duplicated, missing, or reordered")
  refuseIf (∃ item ∈ tbrs, item.status ≠ "open" ∨ item.closureArtifacts ≠ [] ∨
      item.closedBy ≠ none ∨ item.closedAt ≠ none)
    (.traceability "one or more TBRs is not explicitly open")

/-- The checks of the coverage. -/
def validateCoverage (content : TraceabilityContent) : Except IngestError Unit := do
  let mappedIds := content.coverage.mappedRequirementIds
  let unmappedIds := content.coverage.unmappedRequirementIds
  orderedUniqueStrings mappedIds "mapped requirement coverage"
  orderedUniqueStrings unmappedIds "unmapped requirement coverage"
  refuseIf (mappedIds ≠ content.forwardIndex.keys ∨
      mappedIds.length ≠ content.summary.requirementsMapped ∨
      unmappedIds.length ≠ content.summary.requirementsUnmapped ∨
      (∃ id ∈ mappedIds, id ∈ unmappedIds) ∨
      (SortedMap.ofKeys (mappedIds ++ unmappedIds)).keys ≠
        (SortedMap.ofKeys (recordIds content.requirements)).keys)
    (.traceability "mapping coverage and forward index are inconsistent")

/-! ## What the forward index calls for -/

/-- A value of `expected_artifacts`. -/
structure ExpectedArtifact where
  requirements : List String
  roles : List ArtifactRole

/-- The dictionaries that the loop over the mapped requirements fills. -/
structure ExpectedIndex where
  artifacts : SortedMap String ExpectedArtifact
  artifactBindings : SortedMap String ArtifactBinding
  procedures : SortedMap String (List String)
  historical : SortedMap String (List String)
  historicalBindings : SortedMap String HistoricalResultBinding

/-- `prior = bindings.setdefault(path, binding)` and `if prior != binding: raise`. -/
def expectBinding {β : Type} [DecidableEq β] (error : IngestError) (bindings : SortedMap String β)
    (path : String) (binding : β) : Except IngestError (SortedMap String β) :=
  match bindings.find? path with
  | none => pure (bindings.insert path binding)
  | some prior => do
      refuseIf (prior ≠ binding) error
      pure bindings

/-- One path of a role. -/
def expectArtifact (requirementId : String) (role : ArtifactRole)
    (artifacts : SortedMap String ExpectedArtifact) (path : String) :
    Except IngestError (SortedMap String ExpectedArtifact) := do
  canonicalRepoPath path
  pure (artifacts.file path ⟨[], []⟩ fun state =>
    { requirements := requirementId :: state.requirements
      roles := role :: state.roles })

/-- One role of a link. -/
def expectRole (requirementId : String) (roles : RolePaths)
    (artifacts : SortedMap String ExpectedArtifact) (role : ArtifactRole) :
    Except IngestError (SortedMap String ExpectedArtifact) := do
  orderedUniqueStrings (roles.ofRole role)
    (requirementId ++ " " ++ role.name ++ " paths")
  (roles.ofRole role).foldlM (expectArtifact requirementId role) artifacts

/-- One historical path of a link. -/
def expectHistoricalPath (requirementId : String) (historical : SortedMap String (List String))
    (path : String) : Except IngestError (SortedMap String (List String)) := do
  canonicalRepoPath path
  pure (historical.file path [] fun ids => requirementId :: ids)

/-- The semantics of a mapped requirement. -/
def validateMappedSemantics (link : ForwardLink) (record : RequirementRecord)
    (evidenceMapping : EvidenceMappingRecord) : Except IngestError Unit :=
  refuseIf (record.verification.procedureOrTestId ≠ link.procedureOrTestIds ∨
      record.verification.result ≠ "not_executed" ∨
      record.disposition.implementationState ≠ "local_evidence_mapped_not_accepted" ∨
      record.disposition.owner ≠ some link.owner ∨ link.disposition ≠ "open_not_accepted" ∨
      link.result ≠ "not_executed" ∨ link.resultArtifactState ∉ resultArtifactStates ∨
      ¬ (link.historicalResultPaths ≠ [] ↔
        link.resultArtifactState = "historical_only_no_current_result") ∨
      evidenceMapping.artifactPathsByRole ≠ link.artifactPathsByRole ∨
      evidenceMapping.resultArtifactState ≠ link.resultArtifactState)
    (.traceability "mapped requirement semantics are inconsistent")

/-- One historical result of a record. -/
def expectHistorical (requirementId : String)
    (bindings : SortedMap String HistoricalResultBinding) (value : HistoricalResultBinding) :
    Except IngestError (SortedMap String HistoricalResultBinding) := do
  refuseIf (value.relationshipToCurrentSource ≠ "historical" ∨
      isGitObject value.exercisedGitCommit = false ∨ isGitObject value.exercisedGitTree = false ∨
      value.sourceFilesVerified ≤ 0)
    (.traceability "historical result source identity is invalid")
  validateBinding value.artifact (requirementId ++ " historical result")
  expectBinding (.traceability "historical result binding conflicts across requirements") bindings
    value.artifact.path value

/-- One pass of the loop over the mapped requirements. Once the roles have no path in common,
    `sorted` of their paths is the sorted set of them. -/
def expectLink (forward : SortedMap String ForwardLink)
    (records : SortedMap String RequirementRecord) (expected : ExpectedIndex)
    (requirementId : String) : Except IngestError ExpectedIndex := do
  let inexact : IngestError := .traceability "mapped forward link fields are not exact"
  let record ← orRaise (records.find? requirementId) (.key requirementId)
  let link ← orRaise (forward.find? requirementId) inexact
  let evidenceMapping ← orRaise record.evidenceMapping inexact
  let roles := link.artifactPathsByRole
  let artifacts ← ArtifactRole.all.foldlM (expectRole requirementId roles) expected.artifacts
  refuseIf (∃ path ∈ roles.implementation, path ∈ roles.procedure)
    (.traceability "mapped current artifact roles conflict")
  let procedures := link.procedureOrTestIds
  orderedUniqueStrings procedures (requirementId ++ " procedures")
  let named ← procedures.mapM procedurePathAndName
  refuseIf ((SortedMap.ofKeys (named.map Prod.fst)).keys ≠ roles.procedure)
    (.traceability "procedure IDs and procedure artifacts are inconsistent")
  let expectedProcedures := procedures.foldl
    (fun filed procedure => filed.file procedure [] fun ids => requirementId :: ids)
    expected.procedures
  let historicalPaths := link.historicalResultPaths
  orderedUniqueStrings historicalPaths (requirementId ++ " historical results")
  let historical ← historicalPaths.foldlM (expectHistoricalPath requirementId) expected.historical
  validateMappedSemantics link record evidenceMapping
  let artifactBindings := record.verification.artifact
  artifactBindings.forM fun item => validateBinding item (requirementId ++ " current artifact")
  refuseIf (artifactBindings.map (fun item => item.path) ≠ roles.all)
    (.traceability "mapped current artifact bindings are inconsistent")
  let bindings ← artifactBindings.foldlM (fun bindings binding => expectBinding
    (.traceability "current artifact binding conflicts across requirements") bindings binding.path
    binding) expected.artifactBindings
  let evidence := evidenceMapping.historicalResultEvidence
  refuseIf (evidence.length ≠ historicalPaths.length)
    (.traceability "historical result evidence is inconsistent")
  let historicalBindings ← evidence.foldlM (expectHistorical requirementId)
    expected.historicalBindings
  refuseIf (evidence.map (fun value => value.artifact.path) ≠ historicalPaths)
    (.traceability "historical result paths and evidence are inconsistent")
  pure
    { artifacts := artifacts
      artifactBindings := bindings
      procedures := expectedProcedures
      historical := historical
      historicalBindings := historicalBindings }

/-- One pass of the loop over the unmapped requirements. -/
def validateUnmapped (records : SortedMap String RequirementRecord) (requirementId : String) :
    Except IngestError Unit := do
  let record ← orRaise (records.find? requirementId) (.key requirementId)
  refuseIf (record.evidenceMapping ≠ none ∨ record.verification.procedureOrTestId ≠ [] ∨
      record.verification.artifact ≠ [] ∨ record.verification.result ≠ "not_assessed" ∨
      record.disposition.implementationState ≠ "not_assessed" ∨ record.disposition.owner ≠ none)
    (.traceability "unmapped requirement contains inferred evidence fields")

/-! ## The inverse index -/

/-- One pass of the loop over the expected artifacts. -/
def validateInverseArtifact (inverse : SortedMap String InverseArtifact)
    (bindings : SortedMap String ArtifactBinding) (expected : String × ExpectedArtifact) :
    Except IngestError Unit := do
  let path := expected.1
  let inconsistent : IngestError := .traceability "artifact inverse index is inconsistent"
  let value ← orRaise (inverse.find? path) (.key path)
  refuseIf (value.requirementIds ≠ (SortedMap.ofKeys expected.2.requirements).keys ∨
      value.roles ≠ ArtifactRole.sorted expected.2.roles) inconsistent
  validateBinding value.binding ("inverse artifact " ++ path)
  let binding ← orRaise (bindings.find? path) (.key path)
  refuseIf (value.binding ≠ binding) inconsistent

/-- One pass of the loop over the expected historical results. -/
def validateInverseHistorical (inverse : SortedMap String InverseHistoricalResult)
    (bindings : SortedMap String HistoricalResultBinding) (expected : String × List String) :
    Except IngestError Unit := do
  let path := expected.1
  let inconsistent : IngestError := .traceability "historical result inverse index is inconsistent"
  let value ← orRaise (inverse.find? path) (.key path)
  refuseIf (value.requirementIds ≠ (SortedMap.ofKeys expected.2).keys) inconsistent
  let binding ← orRaise (bindings.find? path) (.key path)
  refuseIf (value.binding ≠ binding) inconsistent

/-- The comparison of the inverse index with the expected one. -/
def validateInverseIndex (inverse : InverseIndex) (expected : ExpectedIndex) :
    Except IngestError Unit := do
  refuseIf (inverse.artifacts.keys ≠ expected.artifacts.keys)
    (.traceability "artifact inverse index path set is inconsistent")
  expected.artifacts.entries.forM
    (validateInverseArtifact inverse.artifacts expected.artifactBindings)
  refuseIf (inverse.procedures ≠ expected.procedures.mapValues fun ids =>
      (SortedMap.ofKeys ids).keys)
    (.traceability "procedure inverse index is inconsistent")
  refuseIf (inverse.historicalResults.keys ≠ expected.historical.keys)
    (.traceability "historical result inverse index path set is inconsistent")
  expected.historical.entries.forM
    (validateInverseHistorical inverse.historicalResults expected.historicalBindings)

/-! ## The validator -/

section

variable [ReportDigests]

/-- `_validate_evidence_traceability_structure`. -/
def validateEvidenceTraceabilityStructure (report : TraceabilityReport) :
    Except IngestError Unit := do
  refuseIf (report.schema ≠ traceabilitySchema)
    (.traceability "traceability report fields or schema are not exact")
  validateSourceBinding report.sourceBinding
  validateMappingMetadata report.mapping
  validateSummary report.summary
  validateRequirements report.requirements
  validateTbrs report.tbrs
  refuseIf (report.gates ≠ expectedGates)
    (.traceability "gate catalog or semantics drifted")
  refuseIf (report.claimStates ≠ expectedClaimStates)
    (.traceability "claim-state catalog or semantics drifted")
  validateCoverage report.toTraceabilityContent
  let records := recordsById report.requirements
  let expected ← report.coverage.mappedRequirementIds.foldlM
    (expectLink report.forwardIndex records) ⟨.empty, .empty, .empty, .empty, .empty⟩
  report.coverage.unmappedRequirementIds.forM (validateUnmapped records)
  validateInverseIndex report.inverseIndex expected
  refuseIf (report.externalAttestations ≠ [])
    (.traceability "the v2 local campaign must not contain fabricated attestations")
  refuseIf (report.attestationInterface ≠ attestationInterface)
    (.traceability "external attestation boundaries are not exact")
  refuseIf (report.claimBoundary ≠ claimBoundary)
    (.traceability "traceability claim boundary drifted")
  refuseIf (report.contentSha256 ≠ ReportDigests.contentSha256 report.toTraceabilityContent)
    (.traceability "traceability content digest is invalid")

variable [TraceabilityPrimitives] [PythonSource] [RequirementsDocx]

/-- `build_evidence_traceability`. -/
def buildEvidenceTraceability (checkout : Checkout) (source : ResolvedCommit)
    (requirementsPath mappingPath : String) : Except IngestError TraceabilityReport := do
  let report ← assembleTraceability checkout source requirementsPath mappingPath
  validateEvidenceTraceabilityStructure report
  pure report

end

end AegisOt
