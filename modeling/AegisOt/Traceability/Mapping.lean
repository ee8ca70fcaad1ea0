import AegisOt.Traceability.Attestation
import Mathlib.Data.List.Infix

/-!
# The reviewed evidence mapping

`parse_evidence_mapping` of `m8_evidence_traceability.py`, with the repository paths and test
identifiers that a mapping may name.
-/

namespace AegisOt

/-- `MAPPING_SCHEMA`. -/
def mappingSchema : String := "aegis-ot-m8-reviewed-evidence-map-v1"

/-- `MAX_PATHS_PER_REQUIREMENT`. -/
def maxPathsPerRequirement : Nat := 24

/-- `MAX_TESTS_PER_REQUIREMENT`. -/
def maxTestsPerRequirement : Nat := 24

/-- `_MAPPED_RESULTS`. -/
def mappedResults : List String := ["not_executed"]

/-- `_RESULT_ARTIFACT_STATES`. -/
def resultArtifactStates : List String :=
  ["no_result_artifact", "historical_only_no_current_result"]

/-! ## Names -/

/-- A character of `REPO_PATH_RE`. -/
def isRepoPathChar (c : Char) : Bool := c.isAlphanum || decide (c ∈ ['.', '_', '/', '-'])

/-- `_canonical_repo_path`. A path is what `PurePosixPath` writes back if no part of it is empty
    or a dot, and it is relative then. -/
def canonicalRepoPath (relative : String) : Except IngestError Unit := do
  refuseIf (relative = "" ∨ relative.toList.all isRepoPathChar = false)
    (.traceability ("repository path is noncanonical or overbroad: '" ++ relative ++ "'"))
  refuseIf ((relative.toList.splitOn '/').any (fun part =>
      decide (part ∈ [[], ['.'], ['.', '.'], ['.', 'g', 'i', 't']])) = true)
    (.traceability ("repository path is unsafe or overbroad: " ++ relative))

/-- The path in `TEST_ID_RE`. -/
def isTestPath (path : List Char) : Bool :=
  decide (10 ≤ path.length ∧ path.take 6 = "tests/".toList ∧
    path.drop (path.length - 3) = ".py".toList) && path.all isRepoPathChar

/-- The name in `TEST_ID_RE`. -/
def isTestName (name : List Char) : Bool :=
  decide (6 ≤ name.length ∧ name.take 5 = "test_".toList) &&
    name.all (fun c => c.isAlphanum || c = '_')

/-- `TEST_ID_RE.fullmatch(procedure)`: the path and the name. -/
def matchTestId (procedure : String) : Option (String × String) :=
  let rest := procedure.toList.drop 8
  let path := rest.takeWhile (fun c => decide (c ≠ ':'))
  let name := rest.drop (path.length + 2)
  if procedure.toList.take 8 = "pytest::".toList ∧
      (rest.drop path.length).take 2 = "::".toList ∧ isTestPath path = true ∧
      isTestName name = true then
    some (String.ofList path, String.ofList name)
  else none

/-- `sorted({match.group("path") …})`. -/
def procedurePaths (procedures : List String) : List String :=
  (SortedMap.ofKeys (procedures.filterMap fun procedure =>
    (matchTestId procedure).map Prod.fst)).keys

/-! ## Entries -/

/-- `EvidenceMappingEntry`. -/
structure EvidenceMappingEntry where
  requirementId : String
  rationale : String
  trustBoundary : String
  procedureOrTestIds : List String
  configuration : String
  environment : String
  implementationArtifacts : List String
  resultArtifacts : List String
  owner : String
  disposition : String
  result : String
  resultArtifactState : String
  limitations : String
  deriving DecidableEq

/-- `EvidenceMapping`. -/
structure EvidenceMapping where
  mappingId : String
  reviewScope : String
  reviewAuthority : String
  entries : List EvidenceMappingEntry
  deriving DecidableEq

/-- `_MAPPING_FIELDS`, in key order. -/
def mappingFields : List String :=
  ["approval_state", "baseline_status", "entries", "mapping_id", "review_authority",
    "review_scope", "schema"]

/-- `_ENTRY_FIELDS`, in key order. -/
def entryFields : List String :=
  ["configuration", "disposition", "environment", "implementation_artifacts", "limitations",
    "owner", "procedure_or_test_ids", "rationale", "requirement_id", "result",
    "result_artifact_state", "result_artifacts", "trust_boundary"]

/-- `_unique_sorted_strings` with `allow_empty=True`. -/
def uniqueSortedStringsOrNone (value : Option Json) (label : String) (maximum : Nat) :
    Except IngestError (List String) :=
  match value.bind Json.items? with
  | some [] => pure []
  | _ => uniqueSortedStrings value label maximum

/-- `"independent" in review_authority.lower()`. Lowercasing what is not ASCII adds no occurrence
    of the word. -/
def namesIndependence (reviewAuthority : String) : Prop :=
  "independent".toList <:+: reviewAuthority.toList.map Char.toLower

instance : DecidablePred namesIndependence := fun _ => by unfold namesIndependence; infer_instance

open WorkloadTrustSequenceState (readStr)

/-- One pass of the loop of `parse_evidence_mapping`. -/
def parseMappingEntry (knownRequirementIds : List String) (index : Nat) (item : Json) :
    Except IngestError EvidenceMappingEntry := do
  let label := "mapping entry " ++ toString index
  let members ← orRaise item.members? (.traceability (label ++ " must be a string-keyed object"))
  exactFields members entryFields label
  let requirementId ← requiredText members "requirement_id" label
  refuseIf (isRequirementId requirementId = false ∨ requirementId ∉ knownRequirementIds)
    (.traceability ("mapping entry names an unknown requirement: " ++ requirementId))
  let procedures ← uniqueSortedStrings (lookupEntry "procedure_or_test_ids" members)
    (requirementId ++ ".procedure_or_test_ids") maxTestsPerRequirement
  procedures.forM fun procedure => refuseIf (matchTestId procedure = none)
    (.traceability (requirementId ++ " contains an overbroad or unsupported test ID: " ++
      procedure))
  let implementation ← uniqueSortedStrings (lookupEntry "implementation_artifacts" members)
    (requirementId ++ ".implementation_artifacts") maxPathsPerRequirement
  let results ← uniqueSortedStringsOrNone (lookupEntry "result_artifacts" members)
    (requirementId ++ ".result_artifacts") maxPathsPerRequirement
  (implementation ++ results).forM canonicalRepoPath
  let combinedPaths := implementation ++ results ++ procedurePaths procedures
  refuseIf (maxPathsPerRequirement < combinedPaths.length)
    (.traceability (requirementId ++ " maps too many repository paths"))
  refuseIf (¬ combinedPaths.Nodup)
    (.traceability (requirementId ++ " maps one path in conflicting artifact roles"))
  let disposition ← requiredText members "disposition" requirementId
  let result ← requiredText members "result" requirementId
  let resultArtifactState ← requiredText members "result_artifact_state" requirementId
  refuseIf (disposition ≠ "open_not_accepted" ∨ result ∉ mappedResults ∨
      resultArtifactState ∉ resultArtifactStates ∨
      ¬ (results ≠ [] ↔ resultArtifactState = "historical_only_no_current_result"))
    (.traceability (requirementId ++
      " mapping must remain open with a consistent bounded result state"))
  let rationale ← requiredText members "rationale" requirementId
  let trustBoundary ← requiredText members "trust_boundary" requirementId
  let configuration ← requiredText members "configuration" requirementId
  let environment ← requiredText members "environment" requirementId
  let owner ← requiredText members "owner" requirementId
  let limitations ← requiredText members "limitations" requirementId
  pure
    { requirementId := requirementId
      rationale := rationale
      trustBoundary := trustBoundary
      procedureOrTestIds := procedures
      configuration := configuration
      environment := environment
      implementationArtifacts := implementation
      resultArtifacts := results
      owner := owner
      disposition := disposition
      result := result
      resultArtifactState := resultArtifactState
      limitations := limitations }

/-- `parse_evidence_mapping` behind the loader. -/
def EvidenceMapping.ofMembers (raw : List (String × Json)) (knownRequirementIds : List String) :
    Except IngestError EvidenceMapping := do
  let label := "evidence mapping"
  exactFields raw mappingFields label
  refuseIf (readStr raw "schema" ≠ some mappingSchema)
    (.traceability "evidence mapping schema is unsupported")
  refuseIf (readStr raw "baseline_status" ≠ some "proposed_not_approved")
    (.traceability "evidence mapping must retain the proposed baseline status")
  refuseIf (readStr raw "approval_state" ≠ some "not_approved")
    (.traceability "evidence mapping must remain explicitly unapproved")
  let mappingId ← requiredText raw "mapping_id" label
  let reviewScope ← requiredText raw "review_scope" label
  let reviewAuthority ← requiredText raw "review_authority" label
  refuseIf (namesIndependence reviewAuthority)
    (.traceability "mapping may not self-assert independent review authority")
  let explicit : IngestError :=
    .traceability "evidence mapping must contain at least one explicit entry"
  let entriesRaw ← orRaise ((lookupEntry "entries" raw).bind Json.items?) explicit
  refuseIf (entriesRaw.isEmpty = true) explicit
  let entries ← entriesRaw.zipIdx.mapM fun item =>
    parseMappingEntry knownRequirementIds item.2 item.1
  refuseIf (¬ (entries.map fun entry => entry.requirementId).Pairwise (· < ·))
    (.traceability "mapping requirement entries must be unique and lexically sorted")
  pure
    { mappingId := mappingId
      reviewScope := reviewScope
      reviewAuthority := reviewAuthority
      entries := entries }

/-- `parse_evidence_mapping`. -/
def parseEvidenceMapping (material : ByteArray) (knownRequirementIds : List String) :
    Except IngestError EvidenceMapping := do
  let raw ← loadStrictJsonBytes material "evidence mapping"
  EvidenceMapping.ofMembers raw knownRequirementIds

end AegisOt
