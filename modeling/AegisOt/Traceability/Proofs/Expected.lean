import AegisOt.Traceability.Proofs.Assembled

/-!
# What the validator expects

The validator goes through the mapped requirements once more and builds the indices it expects from
their links and records. Behind the entries of an accepted mapping they are inverses of the same
relations as the builder's, so the comparison passes.
-/

namespace AegisOt

variable {artifact : String → ArtifactBinding} {result : String → HistoricalResultBinding}

/-! ## One link -/

theorem orderedUniqueStrings_ok {value : List String} {label : String}
    (h : "" ∉ value ∧ value.Pairwise (· < ·)) : orderedUniqueStrings value label = .ok () := by
  refine refuseIf_neg ?_
  rintro (hempty | hunsorted)
  · exact h.1 hempty
  · exact hunsorted h.2

theorem expectBinding_ok {β : Type} [DecidableEq β] {bindings : SortedMap String β}
    {binding : String → β} (h : Faithful bindings binding) (error : IngestError) (path : String) :
    expectBinding error bindings path (binding path) =
      .ok (bindings.insert path (binding path)) := by
  unfold expectBinding
  cases hfound : bindings.find? path with
  | none => rfl
  | some prior =>
    have hsame : prior = binding path := h path prior hfound
    subst hsame
    rw [SortedMap.insert_eq_self hfound]
    simp

theorem mapM_procedurePathAndName {procedures : List String}
    (h : ∀ procedure ∈ procedures, matchTestId procedure ≠ none) :
    ∃ named, procedures.mapM procedurePathAndName = .ok named ∧
      named.map Prod.fst =
        procedures.filterMap fun procedure => (matchTestId procedure).map Prod.fst := by
  induction procedures with
  | nil => exact ⟨[], rfl, rfl⟩
  | cons procedure rest ih =>
    obtain ⟨hprocedure, hrest⟩ := List.forall_mem_cons.mp h
    obtain ⟨named, hnamed, hpaths⟩ := ih hrest
    obtain ⟨matched, hmatched⟩ := Option.ne_none_iff_exists'.mp hprocedure
    refine ⟨matched :: named, ?_, ?_⟩
    · rw [List.mapM_cons, procedurePathAndName, hmatched, hnamed]
      rfl
    · rw [List.filterMap_cons, hmatched, List.map_cons, hpaths]
      rfl

theorem canonicalRepoPath_ne_empty {path : String} (h : canonicalRepoPath path = .ok ()) :
    path ≠ "" := by
  rintro rfl
  rw [canonicalRepoPath, bind_unit_eq_ok, refuseIf_eq_ok] at h
  exact h.1 (.inl rfl)

theorem expectHistorical_ok {checkout : Checkout} {commit id path : String}
    (hbound : (result path).Of checkout commit path)
    (hhistorical : (result path).relationshipToCurrentSource = "historical")
    {bindings : SortedMap String HistoricalResultBinding} (hbindings : Faithful bindings result) :
    expectHistorical id bindings (result path) =
      .ok (bindings.insert path (result path)) := by
  unfold expectHistorical
  rw [refuseIf_neg, ok_bind, (validateBinding_eq_ok hbound.artifact).mpr hbound.nonempty, ok_bind,
    hbound.artifact.path]
  · exact expectBinding_ok hbindings _ path
  · rintro (hother | hcommit | htree | hcount)
    · exact hother hhistorical
    · rw [hbound.commit] at hcommit
      cases hcommit
    · rw [hbound.tree] at htree
      cases htree
    · exact absurd hbound.sourceFiles (not_lt.mpr hcount)

theorem validateMappedSemantics_ok {known : List String} {entry : EvidenceMappingEntry}
    (haccepted : entry.Accepted known) (requirement : Requirement) :
    validateMappedSemantics entry.link (entry.record artifact result requirement)
      (entry.evidence result) = .ok () := by
  refine refuseIf_neg ?_
  simp [EvidenceMappingEntry.link, EvidenceMappingEntry.record, EvidenceMappingEntry.evidence,
    haccepted.disposition, haccepted.result, haccepted.state, ← haccepted.historical]

/-- What one role of an entry adds. -/
def expectPaths (id : String) (roles : RolePaths) (artifacts : SortedMap String ExpectedArtifact)
    (role : ArtifactRole) : SortedMap String ExpectedArtifact :=
  (roles.ofRole role).foldl
    (fun m path => m.file path ⟨[], []⟩ fun state =>
      { requirements := id :: state.requirements
        roles := role :: state.roles }) artifacts

/-- What the validator expects behind one more entry. -/
def ExpectedIndex.expecting (artifact : String → ArtifactBinding)
    (result : String → HistoricalResultBinding) (expected : ExpectedIndex)
    (entry : EvidenceMappingEntry) : ExpectedIndex where
  artifacts := ArtifactRole.all.foldl (expectPaths entry.requirementId entry.rolePaths)
    expected.artifacts
  artifactBindings := entry.rolePaths.all.foldl
    (fun bindings path => bindings.insert path (artifact path)) expected.artifactBindings
  procedures := entry.procedureOrTestIds.foldl
    (fun m procedure => m.file procedure [] fun ids => entry.requirementId :: ids)
    expected.procedures
  historical := entry.resultArtifacts.foldl
    (fun m path => m.file path [] fun ids => entry.requirementId :: ids) expected.historical
  historicalBindings := entry.resultArtifacts.foldl
    (fun bindings path => bindings.insert path (result path)) expected.historicalBindings

section

variable [TraceabilityPrimitives] [PythonSource] {checkout : Checkout} {commit : String}
  {known : List String} {entry : EvidenceMappingEntry}

/-- Every path of an entry is canonical. -/
theorem EvidenceMappingEntry.Bound.canonical (h : entry.Bound checkout commit artifact result)
    (role : ArtifactRole) {path : String} (hpath : path ∈ entry.rolePaths.ofRole role) :
    canonicalRepoPath path = .ok () :=
  (bindCommittedFile_spec (h.artifacts path (RolePaths.mem_all.mpr ⟨role, hpath⟩))).canonical

theorem ordered_role (haccepted : entry.Accepted known)
    (hbound : entry.Bound checkout commit artifact result) (role : ArtifactRole) :
    "" ∉ entry.rolePaths.ofRole role ∧ (entry.rolePaths.ofRole role).Pairwise (· < ·) := by
  cases role with
  | implementation => exact haccepted.implementation
  | procedure =>
    refine ⟨fun hempty => ?_, SortedMap.keys_pairwise _⟩
    exact canonicalRepoPath_ne_empty (hbound.canonical .procedure hempty) rfl

theorem expectRoles_ok (haccepted : entry.Accepted known)
    (hbound : entry.Bound checkout commit artifact result)
    (artifacts : SortedMap String ExpectedArtifact) :
    ArtifactRole.all.foldlM (expectRole entry.requirementId entry.rolePaths) artifacts =
      .ok (ArtifactRole.all.foldl (expectPaths entry.requirementId entry.rolePaths) artifacts) := by
  refine (foldlM_eq_ok (I := fun _ => True) trivial fun role _ artifacts _ => ⟨?_, trivial⟩).1
  unfold expectRole
  rw [orderedUniqueStrings_ok (ordered_role haccepted hbound role), ok_bind]
  refine (foldlM_eq_ok (I := fun _ => True) trivial fun path hpath m _ => ⟨?_, trivial⟩).1
  rw [expectArtifact, hbound.canonical role hpath]
  rfl

theorem expectHistoricalPaths_ok (hbound : entry.Bound checkout commit artifact result)
    (historical : SortedMap String (List String)) :
    entry.resultArtifacts.foldlM (expectHistoricalPath entry.requirementId) historical =
      .ok (entry.resultArtifacts.foldl
        (fun m path => m.file path [] fun ids => entry.requirementId :: ids) historical) := by
  refine (foldlM_eq_ok (I := fun _ => True) trivial fun path hpath m _ => ⟨?_, trivial⟩).1
  have hcanonical := (bindHistoricalResult_spec (hbound.results path hpath).1).artifact.canonical
  rw [expectHistoricalPath, hcanonical]
  rfl

theorem expectBindings_ok (hbound : entry.Bound checkout commit artifact result)
    {bindings : SortedMap String ArtifactBinding} (hbindings : Faithful bindings artifact)
    (error : IngestError) :
    (entry.rolePaths.all.map artifact).foldlM
        (fun bindings binding => expectBinding error bindings binding.path binding) bindings =
      .ok (entry.rolePaths.all.foldl
        (fun bindings path => bindings.insert path (artifact path)) bindings) := by
  rw [List.foldlM_map]
  refine (foldlM_eq_ok (I := fun bindings => Faithful bindings artifact) hbindings
    fun path hpath bindings hbindings => ⟨?_, hbindings.insert path⟩).1
  rw [(bindCommittedFile_spec (hbound.artifacts path hpath)).path]
  exact expectBinding_ok hbindings error path

theorem expectEvidence_ok (hbound : entry.Bound checkout commit artifact result)
    {bindings : SortedMap String HistoricalResultBinding} (hbindings : Faithful bindings result) :
    (entry.resultArtifacts.map result).foldlM (expectHistorical entry.requirementId) bindings =
      .ok (entry.resultArtifacts.foldl
        (fun bindings path => bindings.insert path (result path)) bindings) := by
  rw [List.foldlM_map]
  refine (foldlM_eq_ok (I := fun bindings => Faithful bindings result) hbindings
    fun path hpath bindings hbindings => ⟨?_, hbindings.insert path⟩).1
  obtain ⟨hresult, hhistorical⟩ := hbound.results path hpath
  exact expectHistorical_ok (bindHistoricalResult_spec hresult) hhistorical hbindings

/-- The paths of the bindings of an entry are its paths. -/
theorem map_artifact_path (hbound : entry.Bound checkout commit artifact result) :
    (entry.rolePaths.all.map artifact).map (fun item => item.path) = entry.rolePaths.all := by
  rw [List.map_map]
  refine (List.map_congr_left fun path hpath => ?_).trans (List.map_id _)
  exact (bindCommittedFile_spec (hbound.artifacts path hpath)).path

theorem map_result_path (hbound : entry.Bound checkout commit artifact result) :
    (entry.resultArtifacts.map result).map (fun value => value.artifact.path) =
      entry.resultArtifacts := by
  rw [List.map_map]
  refine (List.map_congr_left fun path hpath => ?_).trans (List.map_id _)
  exact (bindHistoricalResult_spec (hbound.results path hpath).1).artifact.path

/-- The bindings of an entry are valid exactly if no file is empty. -/
theorem validateBindings_iff (hbound : entry.Bound checkout commit artifact result)
    {label : String} :
    (entry.rolePaths.all.map artifact).forM (fun item => validateBinding item label) = .ok () ↔
      ∀ path ∈ entry.rolePaths.all, 0 < (artifact path).bytes := by
  rw [forM_eq_ok, List.forall_mem_map]
  refine forall₂_congr fun path hpath => ?_
  exact validateBinding_eq_ok (bindCommittedFile_spec (hbound.artifacts path hpath))

variable {forward : SortedMap String ForwardLink} {records : SortedMap String RequirementRecord}
  {requirement : Requirement}

/-- The link and the record of an entry agree if no file is empty. -/
theorem expectLink_ok (haccepted : entry.Accepted known)
    (hbound : entry.Bound checkout commit artifact result)
    (hlink : forward.find? entry.requirementId = some entry.link)
    (hrecord : records.find? entry.requirementId = some (entry.record artifact result requirement))
    (hnonempty : ∀ path ∈ entry.rolePaths.all, 0 < (artifact path).bytes)
    {expected : ExpectedIndex} (hartifacts : Faithful expected.artifactBindings artifact)
    (hresults : Faithful expected.historicalBindings result) :
    expectLink forward records expected entry.requirementId =
      .ok (expected.expecting artifact result entry) := by
  obtain ⟨named, hnamed, hpaths⟩ := mapM_procedurePathAndName haccepted.matched
  have hseparated : ¬ ∃ path ∈ entry.link.artifactPathsByRole.implementation,
      path ∈ entry.link.artifactPathsByRole.procedure := by
    rintro ⟨path, himplementation, hprocedure⟩
    exact haccepted.separated path himplementation hprocedure
  have hprocedures : ¬ (SortedMap.ofKeys (named.map Prod.fst)).keys ≠
      entry.link.artifactPathsByRole.procedure := by
    rw [hpaths, not_not]
    rfl
  have hevidence : (entry.record artifact result requirement).evidenceMapping =
      some (entry.evidence result) := rfl
  unfold expectLink
  simp only [hrecord, hlink, hevidence, orRaise, ok_bind]
  refine bind_eq_ok.mpr ⟨_, expectRoles_ok haccepted hbound _, ?_⟩
  refine bind_unit_eq_ok.mpr ⟨refuseIf_neg hseparated, ?_⟩
  refine bind_unit_eq_ok.mpr ⟨orderedUniqueStrings_ok haccepted.procedures, ?_⟩
  refine bind_eq_ok.mpr ⟨named, hnamed, ?_⟩
  refine bind_unit_eq_ok.mpr ⟨refuseIf_neg hprocedures, ?_⟩
  refine bind_unit_eq_ok.mpr ⟨orderedUniqueStrings_ok haccepted.results, ?_⟩
  refine bind_eq_ok.mpr ⟨_, expectHistoricalPaths_ok hbound _, ?_⟩
  refine bind_unit_eq_ok.mpr ⟨validateMappedSemantics_ok haccepted requirement, ?_⟩
  refine bind_unit_eq_ok.mpr ⟨(validateBindings_iff hbound).mpr hnonempty, ?_⟩
  refine bind_unit_eq_ok.mpr ⟨refuseIf_neg (not_not.mpr (map_artifact_path hbound)), ?_⟩
  refine bind_eq_ok.mpr ⟨_, expectBindings_ok hbound hartifacts _, ?_⟩
  refine bind_unit_eq_ok.mpr ⟨refuseIf_neg (not_not.mpr (List.length_map _)), ?_⟩
  refine bind_eq_ok.mpr ⟨_, expectEvidence_ok hbound hresults, ?_⟩
  exact bind_unit_eq_ok.mpr ⟨refuseIf_neg (not_not.mpr (map_result_path hbound)), rfl⟩

/-- Only files with content pass. -/
theorem nonempty_of_expectLink
    (hbound : entry.Bound checkout commit artifact result)
    (hrecord : records.find? entry.requirementId = some (entry.record artifact result requirement))
    {expected expected' : ExpectedIndex}
    (h : expectLink forward records expected entry.requirementId = .ok expected') :
    ∀ path ∈ entry.rolePaths.all, 0 < (artifact path).bytes := by
  unfold expectLink at h
  simp only [hrecord, orRaise_eq_ok, bind_eq_ok, Unique.exists_iff, PUnit.default_eq_unit,
    Option.some.injEq, exists_eq_left'] at h
  obtain ⟨_, _, _, _, _, _, _, _, _, _, _, _, _, _, _, hbindings, _⟩ := h
  exact (validateBindings_iff hbound).mp hbindings

end

/-! ## All links -/

/-- What the validator expects behind some entries. -/
structure ExpectedIndex.Filed (artifact : String → ArtifactBinding)
    (result : String → HistoricalResultBinding) (entries : List EvidenceMappingEntry)
    (expected : ExpectedIndex) : Prop where
  artifactBindings : Faithful expected.artifactBindings artifact
  boundArtifacts : ∀ entry ∈ entries, ∀ path ∈ entry.rolePaths.all,
    expected.artifactBindings.find? path = some (artifact path)
  artifacts : expected.artifacts.Indexes (fun state id => id ∈ state.requirements)
    (Cites entries fun entry => entry.rolePaths.all)
  roles : expected.artifacts.Indexes (fun state role => role ∈ state.roles) (CitedAs entries)
  procedures : expected.procedures.Indexes (fun ids id => id ∈ ids)
    (Cites entries fun entry => entry.procedureOrTestIds)
  historical : expected.historical.Indexes (fun ids id => id ∈ ids)
    (Cites entries fun entry => entry.resultArtifacts)
  historicalBindings : Faithful expected.historicalBindings result
  boundResults : ∀ entry ∈ entries, ∀ path ∈ entry.resultArtifacts,
    expected.historicalBindings.find? path = some (result path)

theorem expected_start :
    ExpectedIndex.Filed artifact result [] ⟨.empty, .empty, .empty, .empty, .empty⟩ where
  artifactBindings := SortedMap.each_empty _
  boundArtifacts entry hentry := by cases hentry
  artifacts := SortedMap.indexes_empty.congr fun _ _ => by simp [Cites]
  roles := SortedMap.indexes_empty.congr fun _ _ => by simp [CitedAs]
  procedures := SortedMap.indexes_empty.congr fun _ _ => by simp [Cites]
  historical := SortedMap.indexes_empty.congr fun _ _ => by simp [Cites]
  historicalBindings := SortedMap.each_empty _
  boundResults entry hentry := by cases hentry

section

variable {entries : List EvidenceMappingEntry} {entry : EvidenceMappingEntry}

/-- Filing a requirement under the paths of one role after the other files it under all paths. -/
theorem indexes_expectPaths_requirements {artifacts : SortedMap String ExpectedArtifact}
    (h : artifacts.Indexes (fun state id => id ∈ state.requirements)
      (Cites entries fun entry => entry.rolePaths.all)) :
    (ArtifactRole.all.foldl (expectPaths entry.requirementId entry.rolePaths) artifacts).Indexes
      (fun state id => id ∈ state.requirements)
      (Cites (entries ++ [entry]) fun entry => entry.rolePaths.all) := by
  have hrole {m : SortedMap String ExpectedArtifact} {R : String → String → Prop}
      (h : m.Indexes (fun state id => id ∈ state.requirements) R) (role : ArtifactRole) :
      (expectPaths entry.requirementId entry.rolePaths m role).Indexes
        (fun state id => id ∈ state.requirements) fun path id =>
          R path id ∨ path ∈ entry.rolePaths.ofRole role ∧ id = entry.requirementId :=
    h.fileAll (S := fun _ id => id = entry.requirementId) _ (fun _ _ => ⟨_, rfl⟩) (by simp)
      fun _ _ _ => by simp [or_comm]
  refine (hrole (hrole h .implementation) .procedure).congr fun path id => ?_
  rw [cites_append, RolePaths.mem_all, or_assoc, ← or_and_right]
  refine or_congr_right (and_congr_left fun _ => ?_)
  constructor
  · rintro (hpath | hpath)
    · exact ⟨.implementation, hpath⟩
    · exact ⟨.procedure, hpath⟩
  · rintro ⟨_ | _, hpath⟩
    · exact .inl hpath
    · exact .inr hpath

theorem indexes_expectPaths_roles {artifacts : SortedMap String ExpectedArtifact}
    (h : artifacts.Indexes (fun state role => role ∈ state.roles) (CitedAs entries)) :
    (ArtifactRole.all.foldl (expectPaths entry.requirementId entry.rolePaths) artifacts).Indexes
      (fun state role => role ∈ state.roles) (CitedAs (entries ++ [entry])) := by
  have hrole {m : SortedMap String ExpectedArtifact} {R : String → ArtifactRole → Prop}
      (h : m.Indexes (fun state role => role ∈ state.roles) R) (role : ArtifactRole) :
      (expectPaths entry.requirementId entry.rolePaths m role).Indexes
        (fun state role => role ∈ state.roles) fun path other =>
          R path other ∨ path ∈ entry.rolePaths.ofRole role ∧ other = role :=
    h.fileAll (S := fun _ other => other = role) _ (fun _ _ => ⟨_, rfl⟩) (by simp)
      fun _ _ _ => by simp [or_comm]
  refine (hrole (hrole h .implementation) .procedure).congr fun path role => ?_
  rw [citedAs_append, or_assoc]
  cases role <;> simp

/-- One link more. -/
theorem ExpectedIndex.Filed.expecting {expected : ExpectedIndex}
    (h : expected.Filed artifact result entries) :
    (expected.expecting artifact result entry).Filed artifact result (entries ++ [entry]) where
  artifactBindings := h.artifactBindings.insertAll _
  boundArtifacts := bound_append h.boundArtifacts
  artifacts := indexes_expectPaths_requirements h.artifacts
  roles := indexes_expectPaths_roles h.roles
  procedures := indexes_cites_append h.procedures (fun _ => rfl) fun _ _ _ => by simp [or_comm]
  historical := indexes_cites_append h.historical (fun _ => rfl) fun _ _ _ => by simp [or_comm]
  historicalBindings := h.historicalBindings.insertAll _
  boundResults := bound_append h.boundResults

variable [TraceabilityPrimitives] [PythonSource] {checkout : Checkout} {commit : String}
  {known : List String} {forward : SortedMap String ForwardLink}
  {records : SortedMap String RequirementRecord}

/-- The loop of the validator expects the whole mapping. -/
theorem foldlM_expectLink (haccepted : ∀ entry ∈ entries, entry.Accepted known)
    (hbound : ∀ entry ∈ entries, entry.Bound checkout commit artifact result)
    (hlink : ∀ entry ∈ entries, forward.find? entry.requirementId = some entry.link)
    (hrecord : ∀ entry ∈ entries, ∃ requirement,
      records.find? entry.requirementId = some (entry.record artifact result requirement))
    (hnonempty : ∀ entry ∈ entries, ∀ path ∈ entry.rolePaths.all, 0 < (artifact path).bytes) :
    ∃ expected, (entries.map fun entry => entry.requirementId).foldlM (expectLink forward records)
        ⟨.empty, .empty, .empty, .empty, .empty⟩ = .ok expected ∧
      expected.Filed artifact result entries := by
  rw [List.foldlM_map]
  refine foldlM_ok expected_start fun done entry rest expected hentries hdone => ?_
  have hentry : entry ∈ entries := by simp [hentries]
  obtain ⟨requirement, hfound⟩ := hrecord entry hentry
  exact ⟨_, expectLink_ok (haccepted entry hentry) (hbound entry hentry) (hlink entry hentry) hfound
    (hnonempty entry hentry) hdone.artifactBindings hdone.historicalBindings, hdone.expecting⟩

/-- A run of the loop met no empty file. -/
theorem nonempty_of_foldlM_expectLink
    (hbound : ∀ entry ∈ entries, entry.Bound checkout commit artifact result)
    (hrecord : ∀ entry ∈ entries, ∃ requirement,
      records.find? entry.requirementId = some (entry.record artifact result requirement))
    {start expected : ExpectedIndex}
    (h : (entries.map fun entry => entry.requirementId).foldlM (expectLink forward records) start =
      .ok expected) :
    ∀ entry ∈ entries, ∀ path ∈ entry.rolePaths.all, 0 < (artifact path).bytes := by
  rw [List.foldlM_map] at h
  intro entry hentry
  obtain ⟨before, after, hpass⟩ := of_foldlM_eq_ok h entry hentry
  obtain ⟨requirement, hfound⟩ := hrecord entry hentry
  exact nonempty_of_expectLink (hbound entry hentry) hfound hpass

/-! ## The comparison -/

theorem validateInverseArtifact_ok {built : BuildState}
    (hbuilt : built.Filed artifact result entries) {expected : ExpectedIndex}
    (hexpected : expected.Filed artifact result entries)
    (hbound : ∀ entry ∈ entries, entry.Bound checkout commit artifact result)
    (hnonempty : ∀ entry ∈ entries, ∀ path ∈ entry.rolePaths.all, 0 < (artifact path).bytes)
    {path : String} {state : ExpectedArtifact}
    (hstate : expected.artifacts.find? path = some state) :
    validateInverseArtifact built.inverseIndex.artifacts expected.artifactBindings (path, state) =
      .ok () := by
  obtain ⟨value, hvalue⟩ := hexpected.artifacts.partner hbuilt.artifacts hstate
  have hinverse : built.inverseIndex.artifacts.find? path = some value.sorted := by
    rw [BuildState.inverseIndex, SortedMap.find?_mapValues, hvalue]
    rfl
  have hids := hbuilt.artifacts.sorted_eq hexpected.artifacts hvalue hstate
  have hroles : ArtifactRole.sorted value.roles = ArtifactRole.sorted state.roles := by
    refine ArtifactRole.sorted_congr fun role => ?_
    rw [hbuilt.roles.lists path value hvalue, hexpected.roles.lists path state hstate]
  obtain ⟨id, entry, hentry, hpath, _⟩ := (hexpected.artifacts.bound path).mp (by rw [hstate]; rfl)
  have hbinding : value.binding = artifact path := hbuilt.artifactBindings path value hvalue
  unfold validateInverseArtifact
  refine bind_eq_ok.mpr ⟨_, orRaise_eq_ok.mpr hinverse, ?_⟩
  refine bind_unit_eq_ok.mpr ⟨refuseIf_neg ?_, ?_⟩
  · rintro (hother | hother)
    · exact hother hids
    · exact hother hroles
  change (validateBinding value.binding _ >>= _) = _
  rw [hbinding]
  refine bind_unit_eq_ok.mpr ⟨?_, ?_⟩
  · rw [validateBinding_eq_ok (bindCommittedFile_spec ((hbound entry hentry).artifacts path hpath))]
    exact hnonempty entry hentry path hpath
  · rw [hexpected.boundArtifacts entry hentry path hpath]
    exact refuseIf_neg (not_not.mpr hbinding)

omit [TraceabilityPrimitives] [PythonSource] in
theorem validateInverseHistorical_ok {built : BuildState}
    (hbuilt : built.Filed artifact result entries) {expected : ExpectedIndex}
    (hexpected : expected.Filed artifact result entries) {path : String} {ids : List String}
    (hids : expected.historical.find? path = some ids) :
    validateInverseHistorical built.inverseIndex.historicalResults expected.historicalBindings
      (path, ids) = .ok () := by
  obtain ⟨value, hvalue⟩ := hexpected.historical.partner hbuilt.results hids
  have hinverse : built.inverseIndex.historicalResults.find? path = some value.sorted := by
    rw [BuildState.inverseIndex, SortedMap.find?_mapValues, hvalue]
    rfl
  have hsorted := hbuilt.results.sorted_eq hexpected.historical hvalue hids
  obtain ⟨id, entry, hentry, hpath, _⟩ := (hexpected.historical.bound path).mp (by rw [hids]; rfl)
  unfold validateInverseHistorical
  refine bind_eq_ok.mpr ⟨_, orRaise_eq_ok.mpr hinverse, ?_⟩
  refine bind_unit_eq_ok.mpr ⟨refuseIf_neg (not_not.mpr hsorted), ?_⟩
  rw [hexpected.boundResults entry hentry path hpath]
  exact refuseIf_neg (not_not.mpr (hbuilt.resultBindings path value hvalue))

/-- Two indices of the same entries agree. -/
theorem validateInverseIndex_ok {built : BuildState} (hbuilt : built.Filed artifact result entries)
    {expected : ExpectedIndex} (hexpected : expected.Filed artifact result entries)
    (hbound : ∀ entry ∈ entries, entry.Bound checkout commit artifact result)
    (hnonempty : ∀ entry ∈ entries, ∀ path ∈ entry.rolePaths.all, 0 < (artifact path).bytes) :
    validateInverseIndex built.inverseIndex expected = .ok () := by
  have hinverts := hbuilt.inverts
  unfold validateInverseIndex
  refine bind_unit_eq_ok.mpr ⟨refuseIf_neg (not_not.mpr ?_), ?_⟩
  · exact hinverts.artifacts.keys_eq hexpected.artifacts
  refine bind_unit_eq_ok.mpr ⟨forM_eq_ok.mpr ?_, ?_⟩
  · rintro ⟨path, state⟩ hstate
    exact validateInverseArtifact_ok hbuilt hexpected hbound hnonempty
      (SortedMap.find?_eq_some.mpr hstate)
  refine bind_unit_eq_ok.mpr ⟨refuseIf_neg (not_not.mpr ?_), ?_⟩
  · exact hbuilt.procedures.mapValues_sorted_eq hexpected.procedures
  refine bind_unit_eq_ok.mpr ⟨refuseIf_neg (not_not.mpr ?_), forM_eq_ok.mpr ?_⟩
  · exact hinverts.results.keys_eq hexpected.historical
  · rintro ⟨path, ids⟩ hids
    exact validateInverseHistorical_ok hbuilt hexpected (SortedMap.find?_eq_some.mpr hids)

end

end AegisOt
