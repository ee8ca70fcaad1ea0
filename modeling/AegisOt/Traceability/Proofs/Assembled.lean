import AegisOt.Traceability.Proofs.Indexed

/-!
# The assembled report

For a mapping that is accepted and whose artifacts, tests and results are there, the builder
assembles a report: the records are those of the baseline, and the indices are those of the
mapping.
-/

namespace AegisOt

/-! ## The catalog -/

namespace RequirementsBaseline

variable (baseline : RequirementsBaseline)

theorem catalog : baseline.requirements.length = expectedRequirementCount ∧
    baseline.requirementIds.Nodup ∧ baseline.tbrs.length = expectedTbrCount := by
  have h := baseline.validated
  unfold validateCatalog at h
  simp only [bind_eq_ok, Unique.exists_iff, refuseIf_eq_ok, not_not] at h
  obtain ⟨hlength, hnodup, _, _, _, _, _, htbrs, _⟩ := h
  exact ⟨hlength, hnodup, htbrs⟩

end RequirementsBaseline

/-! ## Records -/

section

variable {artifact : String → ArtifactBinding} {result : String → HistoricalResultBinding}

/-- The evidence mapping in the record of a mapped requirement. -/
def EvidenceMappingEntry.evidence (result : String → HistoricalResultBinding)
    (entry : EvidenceMappingEntry) : EvidenceMappingRecord where
  disposition := entry.disposition
  resultArtifactState := entry.resultArtifactState
  artifactPathsByRole := entry.rolePaths
  historicalResultEvidence := entry.resultArtifacts.map result
  limitations := entry.limitations

/-- The record of a mapped requirement. -/
def EvidenceMappingEntry.record (artifact : String → ArtifactBinding)
    (result : String → HistoricalResultBinding) (entry : EvidenceMappingEntry)
    (requirement : Requirement) : RequirementRecord :=
  { requirement.traceabilityRecord with
    rationale := some entry.rationale
    trustBoundary := some entry.trustBoundary
    verification :=
      { procedureOrTestId := entry.procedureOrTestIds
        configuration := some entry.configuration
        environment := some entry.environment
        result := entry.result
        artifact := entry.rolePaths.all.map artifact }
    disposition :=
      { implementationState := "local_evidence_mapped_not_accepted"
        claimState := "C0"
        findingStatus := "open"
        residualRisk := entry.limitations
        approvingAuthority := none
        owner := some entry.owner }
    evidenceMapping := some (entry.evidence result) }

theorem mappedRecord_ok {entry : EvidenceMappingEntry} {requirement : Requirement}
    {bindings : SortedMap String ArtifactBinding}
    (h : ∀ path ∈ entry.rolePaths.all, bindings.find? path = some (artifact path)) :
    mappedRecord requirement.traceabilityRecord entry entry.rolePaths bindings
      (entry.resultArtifacts.map result) = .ok (entry.record artifact result requirement) := by
  have hartifacts : entry.rolePaths.all.mapM
      (fun path => orRaise (bindings.find? path) (IngestError.key path)) =
        .ok (entry.rolePaths.all.map artifact) := by
    rw [mapM_eq_ok, List.forall₂_map_right_iff, List.forall₂_same]
    intro path hpath
    rw [orRaise_eq_ok]
    exact h path hpath
  unfold mappedRecord
  rw [hartifacts]
  rfl

/-- The entry of a requirement. -/
def EvidenceMapping.entryOf (mapping : EvidenceMapping) (requirement : Requirement) :
    Option EvidenceMappingEntry :=
  mapping.entries.find? fun entry => entry.requirementId = requirement.requirementId

/-- The record of a requirement. -/
def EvidenceMapping.recordOf (artifact : String → ArtifactBinding)
    (result : String → HistoricalResultBinding) (mapping : EvidenceMapping)
    (requirement : Requirement) : RequirementRecord :=
  match mapping.entryOf requirement with
  | none => requirement.traceabilityRecord
  | some entry => entry.record artifact result requirement

variable {mapping : EvidenceMapping} {requirement : Requirement}

@[simp] theorem recordOf_requirement :
    (mapping.recordOf artifact result requirement).requirement = requirement := by
  unfold EvidenceMapping.recordOf
  split <;> rfl

theorem recordOf_mapped {entry : EvidenceMappingEntry}
    (h : mapping.entryOf requirement = some entry) :
    mapping.recordOf artifact result requirement = entry.record artifact result requirement := by
  rw [EvidenceMapping.recordOf, h]

theorem recordOf_unmapped (h : ∀ entry ∈ mapping.entries,
    entry.requirementId ≠ requirement.requirementId) :
    mapping.recordOf artifact result requirement = requirement.traceabilityRecord := by
  have hnone : mapping.entryOf requirement = none := by
    rw [EvidenceMapping.entryOf, List.find?_eq_none]
    intro entry hentry
    simpa using h entry hentry
  rw [EvidenceMapping.recordOf, hnone]

theorem entryOf_spec {entry : EvidenceMappingEntry} (h : mapping.entryOf requirement = some entry) :
    entry ∈ mapping.entries ∧ entry.requirementId = requirement.requirementId :=
  ⟨List.mem_of_find?_eq_some h, by simpa using List.find?_some h⟩

/-- Every record stays open. -/
theorem recordOf_open (artifact : String → ArtifactBinding)
    (result : String → HistoricalResultBinding) (mapping : EvidenceMapping)
    (requirement : Requirement) :
    (mapping.recordOf artifact result requirement).disposition.findingStatus = "open" ∧
      (mapping.recordOf artifact result requirement).disposition.claimState = "C0" ∧
      (mapping.recordOf artifact result requirement).disposition.approvingAuthority = none ∧
      (mapping.recordOf artifact result requirement).changeHistory.map
        (fun change => (change.approval, change.effectiveBaseline)) =
          [("not_approved", "proposed")] := by
  unfold EvidenceMapping.recordOf
  split <;> exact ⟨rfl, rfl, rfl, rfl⟩

theorem reportRecord_ok {built : BuildState} (h : built.Filed artifact result mapping.entries) :
    reportRecord mapping built requirement =
      .ok (mapping.recordOf artifact result requirement) := by
  unfold reportRecord
  cases hentry : mapping.entryOf requirement with
  | none =>
    rw [EvidenceMapping.recordOf, hentry]
    rw [EvidenceMapping.entryOf] at hentry
    simp only [hentry]
    rfl
  | some entry =>
    obtain ⟨hmem, hid⟩ := entryOf_spec hentry
    have hlink := (h.forward requirement.requirementId entry.link).mpr ⟨entry, hmem, hid, rfl⟩
    have hresults := h.historicalByRequirement entry hmem
    rw [hid] at hresults
    rw [recordOf_mapped hentry, ← mappedRecord_ok (h.cached entry hmem)]
    rw [EvidenceMapping.entryOf] at hentry
    simp only [hentry, hlink, hresults]
    rfl

theorem recordIds_map (artifact : String → ArtifactBinding)
    (result : String → HistoricalResultBinding) (mapping : EvidenceMapping)
    (requirements : List Requirement) :
    recordIds (requirements.map (mapping.recordOf artifact result)) =
      requirements.map fun item => item.requirementId := by
  rw [recordIds, List.map_map]
  exact List.map_congr_left fun requirement _ => by simp

end

/-! ## The report -/

section

variable [TraceabilityPrimitives] [PythonSource] [RequirementsDocx]

/-- What the builder finds: the sources are committed, the mapping is accepted, and everything it
    names is there, with results that are historical. -/
structure Buildable (checkout : Checkout) (source : ResolvedCommit)
    (requirementsPath mappingPath : String) (baseline : RequirementsBaseline)
    (mapping : EvidenceMapping) : Prop where
  requirementsFile : ∃ binding docx,
    bindCommittedFile checkout source.commit requirementsPath = .ok binding ∧
      checkout.working requirementsPath = some docx ∧ RequirementsDocx.parse docx = .ok baseline ∧
      baseline.sourceSha256 = binding.sha256
  mappingFile : ∃ binding material,
    bindCommittedFile checkout source.commit mappingPath = .ok binding ∧
      gitShow checkout source.commit mappingPath = .ok material ∧
      parseEvidenceMapping material baseline.requirementIds = .ok mapping
  artifacts : ∀ entry ∈ mapping.entries, ∀ path ∈ entry.rolePaths.all,
    ∃ binding, bindCommittedFile checkout source.commit path = .ok binding
  procedures : ∀ entry ∈ mapping.entries, ∀ procedure ∈ entry.procedureOrTestIds,
    ∃ path, verifyTestProcedure checkout source.commit procedure = .ok path
  results : ∀ entry ∈ mapping.entries, ∀ path ∈ entry.resultArtifacts,
    ∃ result, bindHistoricalResult checkout source.commit path = .ok result ∧
      result.relationshipToCurrentSource = "historical"
  gates : baseline.gates = expectedGates
  claimStates : baseline.claimStates = expectedClaimStates

variable {checkout : Checkout} {source : ResolvedCommit} {requirementsPath mappingPath : String}
  {baseline : RequirementsBaseline} {mapping : EvidenceMapping}

theorem Buildable.accepted (h : Buildable checkout source requirementsPath mappingPath baseline
    mapping) : mapping.Accepted baseline.requirementIds := by
  obtain ⟨_, _, _, _, hparsed⟩ := h.mappingFile
  exact parseEvidenceMapping_accepted hparsed

/-- The bindings behind an assembled report. -/
structure Assembled (checkout : Checkout) (source : ResolvedCommit)
    (requirementsPath mappingPath : String) (mapping : EvidenceMapping)
    (artifact : String → ArtifactBinding) (result : String → HistoricalResultBinding)
    (built : BuildState) : Prop where
  requirementsFile :
    bindCommittedFile checkout source.commit requirementsPath = .ok (artifact requirementsPath)
  mappingFile : bindCommittedFile checkout source.commit mappingPath = .ok (artifact mappingPath)
  bound : ∀ entry ∈ mapping.entries, entry.Bound checkout source.commit artifact result
  filed : built.Filed artifact result mapping.entries

/-- Functions that give the bindings of everything named. -/
theorem Buildable.bindings (h : Buildable checkout source requirementsPath mappingPath baseline
    mapping) :
    ∃ artifact result,
      bindCommittedFile checkout source.commit requirementsPath =
        .ok (artifact requirementsPath) ∧
      bindCommittedFile checkout source.commit mappingPath = .ok (artifact mappingPath) ∧
      ∀ entry ∈ mapping.entries, entry.Bound checkout source.commit artifact result := by
  obtain ⟨fallback, _, hrequirements, _⟩ := h.requirementsFile
  obtain ⟨mappingBinding, _, hmapping, _⟩ := h.mappingFile
  have hartifact (path : String) : ∃ binding,
      (∃ found, bindCommittedFile checkout source.commit path = .ok found) →
        bindCommittedFile checkout source.commit path = .ok binding := by
    by_cases hfound : ∃ found, bindCommittedFile checkout source.commit path = .ok found
    · exact hfound.imp fun _ hbinding _ => hbinding
    · exact ⟨fallback, fun hfound' => absurd hfound' hfound⟩
  have hresult (path : String) : ∃ binding,
      (∃ found, bindHistoricalResult checkout source.commit path = .ok found ∧
        found.relationshipToCurrentSource = "historical") →
          bindHistoricalResult checkout source.commit path = .ok binding ∧
            binding.relationshipToCurrentSource = "historical" := by
    by_cases hfound : ∃ found, bindHistoricalResult checkout source.commit path = .ok found ∧
        found.relationshipToCurrentSource = "historical"
    · exact hfound.imp fun _ hbinding _ => hbinding
    · exact ⟨⟨fallback, "", "", 0, ""⟩, fun hfound' => absurd hfound' hfound⟩
  choose artifact hartifact using hartifact
  choose result hresult using hresult
  refine ⟨artifact, result, hartifact _ ⟨_, hrequirements⟩, hartifact _ ⟨_, hmapping⟩,
    fun entry hentry => ?_⟩
  exact
    { procedures := h.procedures entry hentry
      artifacts := fun path hpath => hartifact path (h.artifacts entry hentry path hpath)
      results := fun path hpath => hresult path (h.results entry hentry path hpath) }

variable [ReportDigests]

/-- The builder assembles the report of the mapping. -/
theorem Buildable.assembled (h : Buildable checkout source requirementsPath mappingPath baseline
    mapping) :
    ∃ artifact result built,
      Assembled checkout source requirementsPath mappingPath mapping artifact result built ∧
      assembleTraceability checkout source requirementsPath mappingPath =
        .ok (traceabilityContent source baseline (artifact requirementsPath)
          (artifact mappingPath) mapping built
          (baseline.requirements.map (mapping.recordOf artifact result))).report := by
  obtain ⟨artifact, result, hrequirements, hmapping, hbound⟩ := h.bindings
  obtain ⟨binding, docx, hbinding, hdocx, hbaseline, hdigest⟩ := h.requirementsFile
  obtain ⟨mappingBinding, material, _, hmaterial, hparsed⟩ := h.mappingFile
  have hsame : binding = artifact requirementsPath :=
    Except.ok.inj (hbinding.symm.trans hrequirements)
  obtain ⟨hlength, _, htbrs⟩ := baseline.catalog
  have hcache : Faithful ((SortedMap.empty.insert requirementsPath
      (artifact requirementsPath)).insert mappingPath (artifact mappingPath)) artifact :=
    Faithful.insert (Faithful.insert (SortedMap.each_empty _) _) _
  obtain ⟨built, hbuilt, hfiled⟩ := foldlM_indexEntry (filed_start hcache) hbound h.accepted.sorted
  refine ⟨artifact, result, built, ⟨hrequirements, hmapping, hbound, hfiled⟩, ?_⟩
  have hrecords : baseline.requirements.mapM (reportRecord mapping built) =
      .ok (baseline.requirements.map (mapping.recordOf artifact result)) := by
    rw [mapM_eq_ok, List.forall₂_map_right_iff, List.forall₂_same]
    exact fun requirement _ => reportRecord_ok hfiled
  have hopen : ¬ ∃ item ∈ baseline.requirements.map (mapping.recordOf artifact result),
      item.disposition.findingStatus ≠ "open" ∨ item.disposition.claimState ≠ "C0" ∨
        item.disposition.approvingAuthority ≠ none := by
    rintro ⟨item, hitem, hclosed⟩
    obtain ⟨requirement, _, rfl⟩ := List.mem_map.mp hitem
    obtain ⟨hfinding, hclaim, happroving, _⟩ :=
      recordOf_open artifact result mapping requirement
    rcases hclosed with hclosed | hclosed | hclosed
    · exact hclosed hfinding
    · exact hclosed hclaim
    · exact hclosed happroving
  have htbrsOpen : ¬ ((baseline.tbrs.map ToBeResolved.record).length ≠ expectedTbrCount ∨
      ∃ item ∈ baseline.tbrs.map ToBeResolved.record, item.status ≠ "open") := by
    rintro (hcount | ⟨item, hitem, hclosed⟩)
    · exact hcount (by rw [List.length_map, htbrs])
    · obtain ⟨tbr, _, rfl⟩ := List.mem_map.mp hitem
      exact hclosed rfl
  unfold assembleTraceability
  simp only [hrequirements, hmapping, hdocx, hbaseline, hdigest, hsame, hmaterial, hparsed,
    hbuilt, hrecords, orRaise, ok_bind, ne_eq, not_true_eq_false, refuseIf_neg, not_false_eq_true]
  refine bind_unit_eq_ok.mpr ⟨refuseIf_neg ?_, ?_⟩
  · rw [List.length_map, not_not]
    exact hlength
  refine bind_unit_eq_ok.mpr ⟨refuseIf_neg hopen, ?_⟩
  exact bind_unit_eq_ok.mpr ⟨refuseIf_neg htbrsOpen, rfl⟩

end

end AegisOt
