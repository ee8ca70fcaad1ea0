import AegisOt.Traceability.Proofs.Expected

/-!
# The builder and the validator agree

The mapping parser, the index builder and the structural validator state the same constraints three
times. The validator knows five more, which `Reviewable` collects; for a mapping that meets them the
build returns its report with an exact inverse index, and for every other one it does not.
-/

namespace AegisOt

/-! ## Exact inverses -/

/-- The inverse index is the exact inverse of the forward index. -/
structure TraceabilityContent.InverseExact (report : TraceabilityContent) : Prop where
  artifacts : ∀ path role id,
    (∃ value, report.inverseIndex.artifacts.find? path = some value ∧ role ∈ value.roles ∧
      id ∈ value.requirementIds) ↔
      ∃ link, report.forwardIndex.find? id = some link ∧
        path ∈ link.artifactPathsByRole.ofRole role
  procedures : ∀ procedure id,
    (∃ ids, report.inverseIndex.procedures.find? procedure = some ids ∧ id ∈ ids) ↔
      ∃ link, report.forwardIndex.find? id = some link ∧ procedure ∈ link.procedureOrTestIds
  results : ∀ path id,
    (∃ value, report.inverseIndex.historicalResults.find? path = some value ∧
      id ∈ value.requirementIds) ↔
      ∃ link, report.forwardIndex.find? id = some link ∧ path ∈ link.historicalResultPaths

/-- No path is an implementation artifact of one entry and a procedure path of another. -/
def EvidenceMapping.Separated (mapping : EvidenceMapping) : Prop :=
  ∀ entry ∈ mapping.entries, ∀ other ∈ mapping.entries, ∀ path ∈ entry.implementationArtifacts,
    path ∉ procedurePaths other.procedureOrTestIds

section

variable {artifact : String → ArtifactBinding} {result : String → HistoricalResultBinding}
  {known : List String} {mapping : EvidenceMapping} {built : BuildState}

theorem EvidenceMapping.Accepted.unique (h : mapping.Accepted known)
    {entry other : EvidenceMappingEntry} (hentry : entry ∈ mapping.entries)
    (hother : other ∈ mapping.entries) (hid : entry.requirementId = other.requirementId) :
    entry = other :=
  List.inj_on_of_nodup_map (h.sorted.imp fun hlt => hlt.ne) hentry hother hid

/-- A link is the link of its entry. -/
theorem BuildState.Filed.exists_link (h : built.Filed artifact result mapping.entries) (id : String)
    {P : ForwardLink → Prop} :
    (∃ link, built.forward.find? id = some link ∧ P link) ↔
      ∃ entry ∈ mapping.entries, P entry.link ∧ entry.requirementId = id := by
  constructor
  · rintro ⟨link, hlink, hP⟩
    obtain ⟨entry, hentry, hid, rfl⟩ := (h.forward id link).mp hlink
    exact ⟨entry, hentry, hP, hid⟩
  · rintro ⟨entry, hentry, hP, hid⟩
    exact ⟨entry.link, (h.forward id entry.link).mpr ⟨entry, hentry, hid, rfl⟩, hP⟩

/-- Two roles of one path in separated entries are the same. -/
theorem EvidenceMapping.Separated.role_eq (h : mapping.Separated)
    {entry other : EvidenceMappingEntry} (hentry : entry ∈ mapping.entries)
    (hother : other ∈ mapping.entries) {path : String} {role role' : ArtifactRole}
    (hrole : path ∈ entry.rolePaths.ofRole role) (hrole' : path ∈ other.rolePaths.ofRole role') :
    role = role' := by
  cases role with
  | implementation =>
    cases role' with
    | implementation => rfl
    | procedure => exact absurd hrole' (h entry hentry other hother path hrole)
  | procedure =>
    cases role' with
    | implementation => exact absurd hrole (h other hother entry hentry path hrole')
    | procedure => rfl

/-- The inverse lists a requirement and a role of a path separately, so it is exact exactly if no
    path has two roles. -/
theorem inverseExact_iff (haccepted : mapping.Accepted known)
    (h : built.Filed artifact result mapping.entries) {report : TraceabilityContent}
    (hforward : report.forwardIndex = built.forward)
    (hinverse : report.inverseIndex = built.inverseIndex) :
    report.InverseExact ↔ mapping.Separated := by
  have hinverts := h.inverts
  constructor
  · intro hexact entry hentry other hother path hpath hprocedure
    have hcited : Cites mapping.entries (fun entry => entry.rolePaths.all) path
        other.requirementId :=
      ⟨other, hother, RolePaths.mem_all.mpr ⟨.procedure, hprocedure⟩, rfl⟩
    obtain ⟨value, hvalue⟩ :=
      Option.isSome_iff_exists.mp ((hinverts.artifacts.bound path).mpr ⟨_, hcited⟩)
    have hid := (hinverts.artifacts.lists path value hvalue other.requirementId).mpr hcited
    have hrole : ArtifactRole.implementation ∈ value.roles :=
      (hinverts.roles.lists path value hvalue _).mpr ⟨entry, hentry, hpath⟩
    have hlinked := (hexact.artifacts path .implementation other.requirementId).mp
      ⟨value, by rw [hinverse]; exact hvalue, hrole, hid⟩
    rw [hforward, h.exists_link] at hlinked
    obtain ⟨same, hsame, himplementation, hsameId⟩ := hlinked
    rw [haccepted.unique hsame hother hsameId] at himplementation
    exact (haccepted.entries other hother).separated path himplementation hprocedure
  · intro hseparated
    refine ⟨fun path role id => ?_, fun procedure id => ?_, fun path id => ?_⟩
    · rw [hforward, hinverse, h.exists_link]
      constructor
      · rintro ⟨value, hvalue, hrole, hid⟩
        obtain ⟨entry, hentry, hpath⟩ := (hinverts.roles.lists path value hvalue role).mp hrole
        obtain ⟨other, hother, hnamed, hotherId⟩ :=
          (hinverts.artifacts.lists path value hvalue id).mp hid
        obtain ⟨role', hrole'⟩ := RolePaths.mem_all.mp hnamed
        rw [← hseparated.role_eq hentry hother hpath hrole'] at hrole'
        exact ⟨other, hother, hrole', hotherId⟩
      · rintro ⟨entry, hentry, hpath, hid⟩
        have hcited : Cites mapping.entries (fun entry => entry.rolePaths.all) path id :=
          ⟨entry, hentry, RolePaths.mem_all.mpr ⟨role, hpath⟩, hid⟩
        obtain ⟨value, hvalue⟩ :=
          Option.isSome_iff_exists.mp ((hinverts.artifacts.bound path).mpr ⟨_, hcited⟩)
        exact ⟨value, hvalue, (hinverts.roles.lists path value hvalue role).mpr
          ⟨entry, hentry, hpath⟩, (hinverts.artifacts.lists path value hvalue id).mpr hcited⟩
    · rw [hforward, hinverse, h.exists_link]
      exact hinverts.procedures.exists_lists
    · rw [hforward, hinverse, h.exists_link]
      exact hinverts.results.exists_lists

/-! ## Records and coverage -/

theorem entryOf_eq (h : mapping.Accepted known) {entry : EvidenceMappingEntry}
    (hentry : entry ∈ mapping.entries) {requirement : Requirement}
    (hid : entry.requirementId = requirement.requirementId) :
    mapping.entryOf requirement = some entry := by
  have hsome : (mapping.entryOf requirement).isSome = true := by
    rw [EvidenceMapping.entryOf, List.find?_isSome]
    exact ⟨entry, hentry, by simpa using hid⟩
  obtain ⟨found, hfound⟩ := Option.isSome_iff_exists.mp hsome
  obtain ⟨hmem, hfoundId⟩ := entryOf_spec hfound
  rw [hfound, h.unique hmem hentry (hfoundId.trans hid.symm)]

variable {baseline : RequirementsBaseline}

theorem recordsById_find? (artifact : String → ArtifactBinding)
    (result : String → HistoricalResultBinding) (mapping : EvidenceMapping)
    {requirement : Requirement} (h : requirement ∈ baseline.requirements) :
    (recordsById (baseline.requirements.map (mapping.recordOf artifact result))).find?
        requirement.requirementId = some (mapping.recordOf artifact result requirement) := by
  have hnodup : ((baseline.requirements.map (mapping.recordOf artifact result)).map
      fun item => item.requirement.requirementId).Nodup := by
    rw [← recordIds, recordIds_map]
    exact baseline.catalog.2.1
  have hfound := SortedMap.find?_foldl_insert (m := .empty) (g := id) hnodup
    (List.mem_map_of_mem h)
  rw [recordOf_requirement] at hfound
  exact hfound

/-- The record of a mapped requirement is found. -/
theorem recordsById_mapped (artifact : String → ArtifactBinding)
    (result : String → HistoricalResultBinding) (h : mapping.Accepted baseline.requirementIds)
    {entry : EvidenceMappingEntry} (hentry : entry ∈ mapping.entries) :
    ∃ requirement, (recordsById (baseline.requirements.map
      (mapping.recordOf artifact result))).find? entry.requirementId =
        some (entry.record artifact result requirement) := by
  obtain ⟨requirement, hrequirement, hid⟩ := List.mem_map.mp (h.entries entry hentry).known
  refine ⟨requirement, ?_⟩
  rw [← hid, recordsById_find? artifact result mapping hrequirement,
    recordOf_mapped (entryOf_eq h hentry hid.symm)]

/-- The record of another requirement is open. -/
theorem validateUnmapped_ok {requirement : Requirement} (h : requirement ∈ baseline.requirements)
    (hunmapped : requirement.requirementId ∉ mapping.entries.map fun entry => entry.requirementId) :
    validateUnmapped (recordsById (baseline.requirements.map (mapping.recordOf artifact result)))
      requirement.requirementId = .ok () := by
  have hrecord := recordsById_find? artifact result mapping h
  rw [recordOf_unmapped fun entry hentry hid => hunmapped
    (List.mem_map.mpr ⟨entry, hentry, hid⟩)] at hrecord
  unfold validateUnmapped
  refine bind_eq_ok.mpr ⟨_, orRaise_eq_ok.mpr hrecord, refuseIf_neg ?_⟩
  simp [Requirement.traceabilityRecord]

/-- The requirements without an entry. -/
def EvidenceMapping.unmappedIds (mapping : EvidenceMapping) (baseline : RequirementsBaseline) :
    List String :=
  (SortedMap.ofKeys (baseline.requirementIds.filter fun id =>
    id ∉ mapping.entries.map fun entry => entry.requirementId)).keys

theorem mem_unmappedIds {id : String} : id ∈ mapping.unmappedIds baseline ↔
    id ∈ baseline.requirementIds ∧ id ∉ mapping.entries.map fun entry => entry.requirementId := by
  simp [EvidenceMapping.unmappedIds, SortedMap.mem_keys_ofKeys, List.mem_filter]

/-- Every requirement of the baseline is mapped or unmapped. -/
theorem perm_mapped_unmapped (h : mapping.Accepted baseline.requirementIds) :
    ((mapping.entries.map fun entry => entry.requirementId) ++
      mapping.unmappedIds baseline).Perm baseline.requirementIds := by
  have hmapped : (mapping.entries.map fun entry => entry.requirementId).Nodup :=
    h.sorted.imp fun hlt => hlt.ne
  have hunmapped : (mapping.unmappedIds baseline).Nodup :=
    (SortedMap.keys_pairwise _).imp fun hlt => hlt.ne
  refine (List.perm_ext_iff_of_nodup ?_ baseline.catalog.2.1).mpr fun id => ?_
  · refine List.nodup_append.mpr ⟨hmapped, hunmapped, fun id hid other hother => ?_⟩
    rintro rfl
    exact (mem_unmappedIds.mp hother).2 hid
  · rw [List.mem_append, mem_unmappedIds]
    by_cases hid : id ∈ mapping.entries.map fun entry => entry.requirementId
    · obtain ⟨entry, hentry, rfl⟩ := List.mem_map.mp hid
      simp [hid, (h.entries entry hentry).known]
    · simp [hid]

theorem length_mapped_add_unmapped (h : mapping.Accepted baseline.requirementIds) :
    mapping.entries.length + (mapping.unmappedIds baseline).length = expectedRequirementCount := by
  have hlength := (perm_mapped_unmapped h).length_eq
  rw [List.length_append, List.length_map, RequirementsBaseline.requirementIds, List.length_map,
    baseline.catalog.1] at hlength
  exact hlength

theorem isRequirementId_ne_empty {id : String} (h : isRequirementId id = true) : id ≠ "" := by
  rintro rfl
  revert h
  decide

/-! ## The checks of the report -/

theorem forward_keys (h : mapping.Accepted known)
    (hfiled : built.Filed artifact result mapping.entries) :
    built.forward.keys = mapping.entries.map fun entry => entry.requirementId := by
  refine eq_of_increasing (SortedMap.keys_pairwise _) h.sorted fun id => ?_
  have hlink := hfiled.exists_link id (P := fun _ => True)
  simp only [and_true, true_and] at hlink
  rw [SortedMap.mem_keys, Option.isSome_iff_exists, hlink, List.mem_map]

theorem validateRequirements_iff :
    validateRequirements (baseline.requirements.map (mapping.recordOf artifact result)) = .ok () ↔
      ∀ id ∈ baseline.requirementIds, isRequirementId id = true := by
  have hrecord (requirement : Requirement) :
      validateRecord (mapping.recordOf artifact result requirement) = .ok () ↔
        isRequirementId requirement.requirementId = true := by
    obtain ⟨hfinding, hclaim, happroving, hhistory⟩ :=
      recordOf_open artifact result mapping requirement
    rw [validateRecord, bind_unit_eq_ok, refuseIf_eq_ok, refuseIf_eq_ok, recordOf_requirement,
      hfinding, hclaim, happroving, hhistory]
    simp
  have hkeys : (SortedMap.ofKeys (recordIds (baseline.requirements.map
      (mapping.recordOf artifact result)))).keys.length = expectedRequirementCount := by
    rw [recordIds_map]
    have hperm : (SortedMap.ofKeys baseline.requirementIds).keys.Perm baseline.requirementIds :=
      (List.perm_ext_iff_of_nodup ((SortedMap.keys_pairwise _).imp fun hlt => hlt.ne)
        baseline.catalog.2.1).mpr fun _ => SortedMap.mem_keys_ofKeys
    rw [← RequirementsBaseline.requirementIds, hperm.length_eq,
      RequirementsBaseline.requirementIds, List.length_map, baseline.catalog.1]
  unfold validateRequirements
  rw [bind_unit_eq_ok, refuseIf_eq_ok, List.length_map, baseline.catalog.1, bind_unit_eq_ok,
    forM_eq_ok, List.forall_mem_map, refuseIf_eq_ok, hkeys]
  simp only [hrecord, RequirementsBaseline.requirementIds, List.forall_mem_map]
  simp

theorem validateTbrs_iff :
    validateTbrs (baseline.tbrs.map ToBeResolved.record) = .ok () ↔
      (baseline.tbrs.map fun item => item.tbrId) = expectedTbrIds := by
  have hids : (baseline.tbrs.map ToBeResolved.record).map (fun item => item.tbr.tbrId) =
      baseline.tbrs.map fun item => item.tbrId := by
    rw [List.map_map]
    rfl
  have hopen : ¬ ∃ item ∈ baseline.tbrs.map ToBeResolved.record, item.status ≠ "open" ∨
      item.closureArtifacts ≠ [] ∨ item.closedBy ≠ none ∨ item.closedAt ≠ none := by
    rintro ⟨item, hitem, hclosed⟩
    obtain ⟨tbr, _, rfl⟩ := List.mem_map.mp hitem
    simp [ToBeResolved.record] at hclosed
  unfold validateTbrs
  rw [bind_unit_eq_ok, refuseIf_eq_ok, List.length_map, baseline.catalog.2.2, bind_unit_eq_ok,
    refuseIf_eq_ok, hids, refuseIf_eq_ok]
  simp only [hopen]
  simp

variable [ReportDigests] {source : ResolvedCommit}
  {requirementsBinding mappingBinding : ArtifactBinding}

/-- The content of the assembled report. -/
abbrev assembledContent (artifact : String → ArtifactBinding)
    (result : String → HistoricalResultBinding) (source : ResolvedCommit)
    (baseline : RequirementsBaseline) (requirementsBinding mappingBinding : ArtifactBinding)
    (mapping : EvidenceMapping) (built : BuildState) : TraceabilityContent :=
  traceabilityContent source baseline requirementsBinding mappingBinding mapping built
    (baseline.requirements.map (mapping.recordOf artifact result))

theorem coverage_eq (h : mapping.Accepted baseline.requirementIds) :
    (assembledContent artifact result source baseline requirementsBinding mappingBinding mapping
      built).coverage =
      { mappedRequirementIds := mapping.entries.map fun entry => entry.requirementId
        unmappedRequirementIds := mapping.unmappedIds baseline } := by
  have hids := recordIds_map artifact result mapping baseline.requirements
  rw [recordIds] at hids
  unfold assembledContent traceabilityContent
  simp only [SortedMap.keys_ofKeys h.sorted, hids]
  rfl

theorem validateSummary_ok (h : mapping.Accepted baseline.requirementIds) :
    validateSummary (assembledContent artifact result source baseline requirementsBinding
      mappingBinding mapping built).summary = .ok () := by
  have hlength := length_mapped_add_unmapped h
  have hpositive : 0 < mapping.entries.length := List.length_pos_of_ne_nil h.nonempty
  have hmapped : (SortedMap.ofKeys
      (mapping.entries.map fun entry => entry.requirementId)).keys.length =
        mapping.entries.length := by
    rw [SortedMap.keys_ofKeys h.sorted, List.length_map]
  refine refuseIf_neg ?_
  dsimp only [assembledContent, traceabilityContent]
  rw [hmapped]
  rintro (hother | hcount | hcount | hother | hother | hother | hother | hother)
  · exact hother rfl
  · omega
  · omega
  all_goals exact hother rfl

theorem validateCoverage_ok (h : mapping.Accepted baseline.requirementIds)
    (hfiled : built.Filed artifact result mapping.entries)
    (hids : ∀ id ∈ baseline.requirementIds, isRequirementId id = true) :
    validateCoverage (assembledContent artifact result source baseline requirementsBinding
      mappingBinding mapping built) = .ok () := by
  have hmapped : "" ∉ mapping.entries.map fun entry => entry.requirementId := by
    intro hempty
    obtain ⟨entry, hentry, hid⟩ := List.mem_map.mp hempty
    exact isRequirementId_ne_empty (h.entries entry hentry).canonicalId hid
  have hunmapped : "" ∉ mapping.unmappedIds baseline := fun hempty =>
    isRequirementId_ne_empty (hids "" (mem_unmappedIds.mp hempty).1) rfl
  have hlength := length_mapped_add_unmapped h
  unfold validateCoverage
  rw [coverage_eq h]
  refine bind_unit_eq_ok.mpr ⟨orderedUniqueStrings_ok ⟨hmapped, h.sorted⟩, ?_⟩
  refine bind_unit_eq_ok.mpr
    ⟨orderedUniqueStrings_ok ⟨hunmapped, SortedMap.keys_pairwise _⟩, refuseIf_neg ?_⟩
  rintro (hforward | hcount | hcount | ⟨id, hid, hother⟩ | hall)
  · exact hforward (forward_keys h hfiled).symm
  · apply hcount
    change _ = (SortedMap.ofKeys _).keys.length
    rw [SortedMap.keys_ofKeys h.sorted]
  · apply hcount
    change (mapping.unmappedIds baseline).length =
      expectedRequirementCount - (SortedMap.ofKeys _).keys.length
    rw [SortedMap.keys_ofKeys h.sorted, List.length_map]
    omega
  · exact (mem_unmappedIds.mp hother).2 hid
  · apply hall
    change _ = (SortedMap.ofKeys (recordIds (baseline.requirements.map _))).keys
    rw [recordIds_map]
    refine eq_of_increasing (SortedMap.keys_pairwise _) (SortedMap.keys_pairwise _) fun id => ?_
    rw [SortedMap.mem_keys_ofKeys, SortedMap.mem_keys_ofKeys]
    exact (perm_mapped_unmapped h).mem_iff

end

/-! ## What the validator alone asks for -/

/-- What neither the parser nor the builder checks: the review authority is the one of the
    implementation, no implementation artifact is an empty file, the identifiers of the baseline are
    canonical, and no path has two roles. -/
structure Reviewable (checkout : Checkout) (baseline : RequirementsBaseline)
    (mapping : EvidenceMapping) : Prop where
  custody : mapping.reviewAuthority = "implementation_custody"
  nonempty : ∀ entry ∈ mapping.entries, ∀ path ∈ entry.implementationArtifacts,
    checkout.working path ≠ some .empty
  requirementIds : ∀ id ∈ baseline.requirementIds, isRequirementId id = true
  tbrIds : (baseline.tbrs.map fun item => item.tbrId) = expectedTbrIds
  separated : mapping.Separated

section

variable [TraceabilityPrimitives] [PythonSource] {checkout : Checkout} {source : ResolvedCommit}
  {requirementsPath mappingPath : String} {baseline : RequirementsBaseline}
  {mapping : EvidenceMapping} {artifact : String → ArtifactBinding}
  {result : String → HistoricalResultBinding} {built : BuildState}

/-- Only an implementation artifact may be empty: a procedure path declares a test. -/
theorem EvidenceMappingEntry.Bound.nonempty_iff {commit : String} {entry : EvidenceMappingEntry}
    (hbound : entry.Bound checkout commit artifact result) :
    (∀ path ∈ entry.rolePaths.all, 0 < (artifact path).bytes) ↔
      ∀ path ∈ entry.implementationArtifacts, checkout.working path ≠ some .empty := by
  constructor
  · intro hnonempty path hpath hempty
    have hall : path ∈ entry.rolePaths.all := RolePaths.mem_all.mpr ⟨.implementation, hpath⟩
    obtain ⟨material, hworking, hbytes, _⟩ :=
      (bindCommittedFile_spec (hbound.artifacts path hall)).content
    rw [hempty, Option.some.injEq] at hworking
    have hpositive := hnonempty path hall
    rw [hbytes, ← hworking] at hpositive
    exact lt_irrefl 0 hpositive
  · intro himplementation path hall
    obtain ⟨material, hworking, hbytes, hshown⟩ :=
      (bindCommittedFile_spec (hbound.artifacts path hall)).content
    rw [hbytes]
    obtain ⟨_ | _, hpath⟩ := RolePaths.mem_all.mp hall
    · refine Nat.pos_of_ne_zero fun hzero => himplementation path hpath ?_
      rw [hworking, ByteArray.size_eq_zero_iff.mp hzero]
    · obtain ⟨procedure, hprocedure, hmatched⟩ :=
        List.mem_filterMap.mp (SortedMap.mem_keys_ofKeys.mp hpath)
      obtain ⟨found, hfound⟩ := hbound.procedures procedure hprocedure
      obtain ⟨hsame, declared, hdeclared, hpositive⟩ := verifyTestProcedure_spec hfound
      rw [hmatched, Option.some.injEq] at hsame
      rw [← hsame, hshown, Except.ok.injEq] at hdeclared
      rw [hdeclared]
      exact hpositive

variable [RequirementsDocx]

theorem validateSourceBinding_ok
    (h : Buildable checkout source requirementsPath mappingPath baseline mapping)
    (hassembled : Assembled checkout source requirementsPath mappingPath mapping artifact result
      built) :
    validateSourceBinding
      { gitCommit := source.commit
        gitTree := source.tree
        requirements := artifact requirementsPath
        mapping := artifact mappingPath } = .ok () := by
  have hrequirements := bindCommittedFile_spec hassembled.requirementsFile
  have hmapping := bindCommittedFile_spec hassembled.mappingFile
  obtain ⟨_, docx, _, hdocx, hbaseline, _⟩ := h.requirementsFile
  obtain ⟨_, material, _, hmaterial, hparsed⟩ := h.mappingFile
  obtain ⟨value, hvalue, _⟩ := bind_eq_ok.mp hparsed
  obtain ⟨docx', hdocx', hdocxBytes, hdocxShown⟩ := hrequirements.content
  rw [hdocx, Option.some.injEq] at hdocx'
  obtain ⟨material', _, hmaterialBytes, hmaterialShown⟩ := hmapping.content
  rw [hmaterialShown, Except.ok.injEq] at hmaterial
  unfold validateSourceBinding
  refine bind_unit_eq_ok.mpr ⟨refuseIf_neg ?_, ?_⟩
  · simp [source.canonical]
  refine bind_unit_eq_ok.mpr ⟨(validateBinding_eq_ok hrequirements).mpr ?_, ?_⟩
  · refine Nat.pos_of_ne_zero fun hzero => RequirementsDocx.parse_empty baseline ?_
    rw [hdocxBytes, ← hdocx', ByteArray.size_eq_zero_iff] at hzero
    rw [← hzero]
    exact hbaseline
  refine bind_unit_eq_ok.mpr ⟨(validateBinding_eq_ok hmapping).mpr ?_, refuseIf_neg ?_⟩
  · rw [hmaterialBytes, hmaterial]
    exact loadStrictJsonBytes_size hvalue
  · -- One file cannot be an archive and JSON.
    intro hsame
    rw [hrequirements.path, hmapping.path] at hsame
    rw [hsame, hmaterialShown, Except.ok.injEq] at hdocxShown
    rw [← hmaterial, hdocxShown, ← hdocx'] at hvalue
    exact RequirementsDocx.parse_not_json _ _ _ _ hbaseline hvalue

variable [ReportDigests]

/-- The validator accepts the assembled report exactly if the mapping meets its own constraints. -/
theorem validateEvidenceTraceabilityStructure_iff
    (h : Buildable checkout source requirementsPath mappingPath baseline mapping)
    (hassembled : Assembled checkout source requirementsPath mappingPath mapping artifact result
      built) :
    validateEvidenceTraceabilityStructure (assembledContent artifact result source baseline
        (artifact requirementsPath) (artifact mappingPath) mapping built).report = .ok () ↔
      mapping.reviewAuthority = "implementation_custody" ∧
        (∀ id ∈ baseline.requirementIds, isRequirementId id = true) ∧
        (baseline.tbrs.map fun item => item.tbrId) = expectedTbrIds ∧
        ∀ entry ∈ mapping.entries, ∀ path ∈ entry.implementationArtifacts,
          checkout.working path ≠ some .empty := by
  have haccepted := h.accepted
  have hcoverage : (assembledContent artifact result source baseline (artifact requirementsPath)
      (artifact mappingPath) mapping built).report.coverage =
        { mappedRequirementIds := mapping.entries.map fun entry => entry.requirementId
          unmappedRequirementIds := mapping.unmappedIds baseline } := coverage_eq haccepted
  have hrecord (entry : EvidenceMappingEntry) (hentry : entry ∈ mapping.entries) :=
    recordsById_mapped artifact result haccepted hentry
  have hnonempty : (∀ entry ∈ mapping.entries, ∀ path ∈ entry.rolePaths.all,
        0 < (artifact path).bytes) ↔
      ∀ entry ∈ mapping.entries, ∀ path ∈ entry.implementationArtifacts,
        checkout.working path ≠ some .empty :=
    forall₂_congr fun entry hentry => (hassembled.bound entry hentry).nonempty_iff
  unfold validateEvidenceTraceabilityStructure
  rw [hcoverage]
  constructor
  · intro hvalid
    simp only [bind_eq_ok, Unique.exists_iff, PUnit.default_eq_unit] at hvalid
    obtain ⟨_, _, hmetadata, _, hids, htbrs, _, _, _, expected, hexpected, _⟩ := hvalid
    refine ⟨?_, validateRequirements_iff.mp hids, validateTbrs_iff.mp htbrs,
      hnonempty.mp (nonempty_of_foldlM_expectLink hassembled.bound hrecord hexpected)⟩
    rw [validateMappingMetadata, refuseIf_eq_ok] at hmetadata
    exact not_not.mp fun hother => hmetadata (.inr (.inr hother))
  · rintro ⟨hcustody, hids, htbrs, hfiles⟩
    have hlink (entry : EvidenceMappingEntry) (hentry : entry ∈ mapping.entries) :
        built.forward.find? entry.requirementId = some entry.link :=
      (hassembled.filed.forward _ _).mpr ⟨entry, hentry, rfl, rfl⟩
    obtain ⟨expected, hexpected, hfiled⟩ := foldlM_expectLink haccepted.entries hassembled.bound
      hlink hrecord (hnonempty.mpr hfiles)
    have hunmapped : (mapping.unmappedIds baseline).forM (validateUnmapped (recordsById
        (baseline.requirements.map (mapping.recordOf artifact result)))) = .ok () := by
      refine forM_eq_ok.mpr fun id hid => ?_
      obtain ⟨hknown, hother⟩ := mem_unmappedIds.mp hid
      obtain ⟨requirement, hrequirement, rfl⟩ := List.mem_map.mp hknown
      exact validateUnmapped_ok hrequirement hother
    refine bind_unit_eq_ok.mpr ⟨refuseIf_neg (not_not.mpr rfl), ?_⟩
    refine bind_unit_eq_ok.mpr ⟨validateSourceBinding_ok h hassembled, ?_⟩
    refine bind_unit_eq_ok.mpr ⟨refuseIf_neg ?_, ?_⟩
    · rintro (hother | hother | hother)
      · exact hother rfl
      · exact hother rfl
      · exact hother hcustody
    refine bind_unit_eq_ok.mpr ⟨validateSummary_ok haccepted, ?_⟩
    refine bind_unit_eq_ok.mpr ⟨validateRequirements_iff.mpr hids, ?_⟩
    refine bind_unit_eq_ok.mpr ⟨validateTbrs_iff.mpr htbrs, ?_⟩
    refine bind_unit_eq_ok.mpr ⟨refuseIf_neg (not_not.mpr h.gates), ?_⟩
    refine bind_unit_eq_ok.mpr ⟨refuseIf_neg (not_not.mpr h.claimStates), ?_⟩
    refine bind_unit_eq_ok.mpr ⟨validateCoverage_ok haccepted hassembled.filed hids, ?_⟩
    refine bind_eq_ok.mpr ⟨expected, hexpected, ?_⟩
    refine bind_unit_eq_ok.mpr ⟨hunmapped, ?_⟩
    refine bind_unit_eq_ok.mpr ⟨validateInverseIndex_ok hassembled.filed hfiled hassembled.bound
      (hnonempty.mpr hfiles), ?_⟩
    refine bind_unit_eq_ok.mpr ⟨refuseIf_neg (not_not.mpr rfl), ?_⟩
    refine bind_unit_eq_ok.mpr ⟨refuseIf_neg (not_not.mpr rfl), ?_⟩
    refine bind_unit_eq_ok.mpr ⟨refuseIf_neg (not_not.mpr rfl), ?_⟩
    exact refuseIf_neg (not_not.mpr rfl)

/-- The builder assembles a report for every mapping it accepts, and returns it with an exact
    inverse index exactly if the mapping meets the validator's own constraints. -/
theorem buildEvidenceTraceability_exact_iff
    (h : Buildable checkout source requirementsPath mappingPath baseline mapping) :
    ∃ report, assembleTraceability checkout source requirementsPath mappingPath = .ok report ∧
      (buildEvidenceTraceability checkout source requirementsPath mappingPath = .ok report ∧
        report.InverseExact ↔ Reviewable checkout baseline mapping) := by
  obtain ⟨artifact, result, built, hassembled, hreport⟩ := h.assembled
  refine ⟨_, hreport, ?_⟩
  have hvalid := validateEvidenceTraceabilityStructure_iff h hassembled
  have hexact : (assembledContent artifact result source baseline (artifact requirementsPath)
      (artifact mappingPath) mapping built).InverseExact ↔ mapping.Separated :=
    inverseExact_iff h.accepted hassembled.filed rfl rfl
  have hbuild (report : TraceabilityReport) :
      (validateEvidenceTraceabilityStructure report >>= fun _ => pure report) = .ok report ↔
        validateEvidenceTraceabilityStructure report = .ok () := by
    rw [bind_unit_eq_ok]
    exact and_iff_left rfl
  rw [buildEvidenceTraceability, hreport, ok_bind, hbuild]
  constructor
  · rintro ⟨haccepted, hinverse⟩
    obtain ⟨hcustody, hids, htbrs, hfiles⟩ := hvalid.mp haccepted
    exact ⟨hcustody, hfiles, hids, htbrs, hexact.mp hinverse⟩
  · intro hreviewable
    refine ⟨hvalid.mpr ?_, hexact.mpr hreviewable.separated⟩
    exact ⟨hreviewable.custody, hreviewable.requirementIds, hreviewable.tbrIds,
      hreviewable.nonempty⟩

/-- A mapping under another review authority is accepted, and its report refused. -/
theorem buildEvidenceTraceability_refused
    (h : Buildable checkout source requirementsPath mappingPath baseline mapping)
    (hother : mapping.reviewAuthority ≠ "implementation_custody") :
    buildEvidenceTraceability checkout source requirementsPath mappingPath =
      .error (.traceability "traceability mapping metadata is not bounded") := by
  obtain ⟨artifact, result, built, hassembled, hreport⟩ := h.assembled
  have hmetadata : validateMappingMetadata (assembledContent artifact result source baseline
      (artifact requirementsPath) (artifact mappingPath) mapping built).mapping =
        .error (.traceability "traceability mapping metadata is not bounded") :=
    refuseIf_pos (.inr (.inr hother))
  rw [buildEvidenceTraceability, hreport, ok_bind, bind_eq_error]
  refine .inl (bind_eq_error.mpr (.inr ⟨(), refuseIf_neg (not_not.mpr rfl), ?_⟩))
  refine bind_eq_error.mpr (.inr ⟨(), validateSourceBinding_ok h hassembled, ?_⟩)
  exact bind_eq_error.mpr (.inl hmetadata)

end

/-! ## A mapping of one requirement -/

namespace ReviewedMapping

def gitBlob : String := String.ofList (List.replicate 40 'a')

def source : ResolvedCommit := ⟨gitBlob, gitBlob, by decide +kernel⟩

def requirementsFile : ByteArray := ⟨#[80, 75, 3, 4]⟩

def threeDigits (n : Nat) : String := String.ofList (List.leftpad 3 '0' (Nat.toDigits 10 n))

def requirement (index : Nat) : Requirement where
  requirementId := "AOT-GWY-" ++ threeDigits (index + 1)
  domain := "GWY"
  ordinal := index + 1
  revision := "1"
  title := "5.1 Gateway (GWY)"
  normativeText := "The gateway shall hold."
  requirementClass := "M"
  applicability := "end-state-assurance-profile"
  verificationMethods := ["Test"]
  gate := "G0"
  tbrs := []
  allocation := "Gateway"
  sourceBasis := "Charter"

def tbr (index : Nat) : ToBeResolved where
  tbrId := "TBR-" ++ threeDigits (index + 1)
  decisionOrValue := "Bound"
  closureAuthority := "Owner"
  dueGate := "G1"
  requiredClosureEvidence := "Record"

def requirements : List Requirement := (List.range expectedRequirementCount).map requirement

def tbrs : List ToBeResolved := (List.range expectedTbrCount).map tbr

theorem requirementIds_eq : (requirements.map fun item => item.requirementId) =
    (List.range expectedRequirementCount).map fun index => (requirement index).requirementId :=
  List.map_map

theorem requirementId_toList (index : Nat) : (requirement index).requirementId.toList =
    ['A', 'O', 'T', '-', 'G', 'W', 'Y', '-'] ++
      List.leftpad 3 '0' (Nat.toDigits 10 (index + 1)) := by
  simp [requirement, threeDigits]

theorem ofDigitChars_leftpad (count : Nat) (digits : List Char) :
    Nat.ofDigitChars 10 (List.leftpad count '0' digits) 0 = Nat.ofDigitChars 10 digits 0 := by
  rw [List.leftpad, Nat.ofDigitChars_append, Nat.ofDigitChars_replicate_zero, Nat.mul_zero]

/-- The number is read back from its digits. -/
theorem threeDigits_injective : Function.Injective threeDigits := by
  intro n m h
  have hvalue := congrArg (Nat.ofDigitChars 10 · 0) (String.ofList_injective h)
  simp only [ofDigitChars_leftpad] at hvalue
  rw [Nat.ofDigitChars_toDigits (by decide) (by decide),
    Nat.ofDigitChars_toDigits (by decide) (by decide)] at hvalue
  exact hvalue

theorem pairwise_ne_threeDigits (start : String) (count : Nat) :
    ((List.range count).map fun index => start ++ threeDigits (index + 1)).Pairwise (· ≠ ·) := by
  refine List.Nodup.map (fun i j h => ?_) List.nodup_range
  have hdigits : threeDigits (i + 1) = threeDigits (j + 1) := by
    have hchars := congrArg String.toList h
    rw [String.toList_append, String.toList_append] at hchars
    exact String.toList_injective (List.append_cancel_left hchars)
  exact Nat.succ_injective (threeDigits_injective hdigits)

theorem tbrIds_eq : (tbrs.map fun item => item.tbrId) = expectedTbrIds := by
  rw [tbrs, List.map_map]
  rfl

theorem validated :
    validateCatalog requirements tbrs expectedGates expectedClaimStates = .ok () := by
  have heach (P : Requirement → Prop) (h : ∀ index, ¬ P (requirement index)) :
      ¬ ∃ item ∈ requirements, P item := by
    rintro ⟨item, hitem, hP⟩
    obtain ⟨index, _, rfl⟩ := List.mem_map.mp hitem
    exact h index hP
  have hshall : ¬ ¬ " shall ".toList <:+: ' ' :: "The gateway shall hold.".toList ++ [' '] := by
    decide +kernel
  unfold validateCatalog
  refine bind_unit_eq_ok.mpr ⟨refuseIf_neg (by simp [requirements]), ?_⟩
  refine bind_unit_eq_ok.mpr ⟨refuseIf_neg (not_not.mpr ?_), ?_⟩
  · rw [requirementIds_eq]
    exact pairwise_ne_threeDigits _ _
  refine bind_unit_eq_ok.mpr ⟨refuseIf_neg (heach _ fun _ => hshall), ?_⟩
  refine bind_unit_eq_ok.mpr ⟨refuseIf_neg (heach _ fun _ => by simp [requirement]), ?_⟩
  refine bind_unit_eq_ok.mpr ⟨refuseIf_neg (heach _ fun _ => by simp [requirement]), ?_⟩
  refine bind_unit_eq_ok.mpr ⟨refuseIf_neg (heach _ fun _ => by simp [requirement, gateIds]), ?_⟩
  refine bind_unit_eq_ok.mpr ⟨refuseIf_neg (heach _ fun _ => by simp [requirement]), ?_⟩
  refine bind_unit_eq_ok.mpr ⟨refuseIf_neg (by simp [tbrs]), ?_⟩
  refine bind_unit_eq_ok.mpr ⟨refuseIf_neg (not_not.mpr ?_), ?_⟩
  · rw [tbrIds_eq]
    exact pairwise_ne_threeDigits _ _
  refine bind_unit_eq_ok.mpr ⟨refuseIf_neg (heach _ fun _ => by simp [requirement]), ?_⟩
  refine bind_unit_eq_ok.mpr ⟨refuseIf_neg (not_not.mpr (by decide +kernel)), ?_⟩
  exact refuseIf_neg (not_not.mpr (by decide +kernel))

def baseline : RequirementsBaseline where
  sourceSha256 := 0
  requirements := requirements
  tbrs := tbrs
  gates := expectedGates
  claimStates := expectedClaimStates
  validated := validated

def entry : EvidenceMappingEntry where
  requirementId := "AOT-GWY-001"
  rationale := "The test exercises the gateway."
  trustBoundary := "gateway"
  procedureOrTestIds := ["pytest::tests/test_gateway.py::test_gateway"]
  configuration := "default"
  environment := "simulation"
  implementationArtifacts := ["src/aegis_ot/gateway.py"]
  resultArtifacts := []
  owner := "maintainer"
  disposition := "open_not_accepted"
  result := "not_executed"
  resultArtifactState := "no_result_artifact"
  limitations := "simulation only"

def mapping (reviewAuthority : String) : EvidenceMapping where
  mappingId := "map-001"
  reviewScope := "gateway"
  reviewAuthority := reviewAuthority
  entries := [entry]

def members (reviewAuthority : String) : List (String × Json) :=
  [("approval_state", .str "not_approved"),
    ("baseline_status", .str "proposed_not_approved"),
    ("entries", .arr
      [.obj
        [("configuration", .str "default"),
          ("disposition", .str "open_not_accepted"),
          ("environment", .str "simulation"),
          ("implementation_artifacts", .arr [.str "src/aegis_ot/gateway.py"]),
          ("limitations", .str "simulation only"),
          ("owner", .str "maintainer"),
          ("procedure_or_test_ids", .arr [.str "pytest::tests/test_gateway.py::test_gateway"]),
          ("rationale", .str "The test exercises the gateway."),
          ("requirement_id", .str "AOT-GWY-001"),
          ("result", .str "not_executed"),
          ("result_artifact_state", .str "no_result_artifact"),
          ("result_artifacts", .arr []),
          ("trust_boundary", .str "gateway")]]),
    ("mapping_id", .str "map-001"),
    ("review_authority", .str reviewAuthority),
    ("review_scope", .str "gateway"),
    ("schema", .str mappingSchema)]

def material (reviewAuthority : String) : ByteArray :=
  Json.canonicalBytes (.obj (members reviewAuthority))

def files (reviewAuthority path : String) : Option ByteArray :=
  if path = "docs/requirements.docx" then some requirementsFile
  else if path = "config/mapping.json" then some (material reviewAuthority)
  else if path = "src/aegis_ot/gateway.py" then some ⟨#[1]⟩
  else if path = "tests/test_gateway.py" then some ⟨#[2]⟩
  else none

def checkout (reviewAuthority : String) : Checkout where
  working := files reviewAuthority
  committed _ path := (files reviewAuthority path).map fun content =>
    ⟨"100644", "blob", gitBlob, content⟩
  tree _ := some gitBlob

scoped instance mappingPrimitives : TraceabilityPrimitives where
  sha256 _ := 0
  publicBytesRaw key := key.toUTF8
  verify _ _ _ := true

scoped instance : PythonSource where
  topLevelFunctions source := some (if source.size = 0 then [] else ["test_gateway"])
  topLevelFunctions_empty := rfl

scoped instance : ReportDigests where
  catalogSha256 _ _ _ _ := 0
  contentSha256 _ := 0

theorem requirementsFile_not_json {label : String} {value : List (String × Json)} :
    loadStrictJsonBytes requirementsFile label ≠ .ok value := by
  have hloads : (Json.loadsBytes requirementsFile).toOption.isNone = true := by decide +kernel
  intro h
  simp only [loadStrictJsonBytes, bind_eq_ok, mapError_eq_ok] at h
  obtain ⟨_, _, parsed, hparsed, _⟩ := h
  rw [hparsed] at hloads
  cases hloads

scoped instance : RequirementsDocx where
  parse material :=
    if material = requirementsFile then .ok baseline
    else .error (.traceability "requirements source is not a valid DOCX archive")
  parse_empty baseline h := by
    rw [if_neg (by decide +kernel)] at h
    cases h
  parse_not_json material found label value h := by
    split at h
    · rename_i hmaterial
      rw [hmaterial]
      exact requirementsFile_not_json
    · cases h

theorem parse_requirementsFile : RequirementsDocx.parse requirementsFile = .ok baseline :=
  if_pos rfl

theorem bindCommittedFile_checkout {reviewAuthority path : String} {content : ByteArray}
    (hcanonical : canonicalRepoPath path = .ok ())
    (hcontent : files reviewAuthority path = some content) :
    bindCommittedFile (checkout reviewAuthority) source.commit path =
      .ok ⟨path, content.size, 0, "100644", gitBlob⟩ := by
  have hcommit : isGitObject source.commit = true := source.canonical.1
  have hblob : isGitObject gitBlob = true := source.canonical.1
  simp [bindCommittedFile, checkout, hcommit, hblob, hcanonical, hcontent, refuseIf, orRaise,
    TraceabilityPrimitives.sha256]

theorem files_requirements (reviewAuthority : String) :
    files reviewAuthority "docs/requirements.docx" = some requirementsFile := by
  simp [files]

theorem files_mapping (reviewAuthority : String) :
    files reviewAuthority "config/mapping.json" = some (material reviewAuthority) := by
  simp [files]

theorem files_implementation (reviewAuthority : String) :
    files reviewAuthority "src/aegis_ot/gateway.py" = some ⟨#[1]⟩ := by
  simp [files]

theorem files_procedure (reviewAuthority : String) :
    files reviewAuthority "tests/test_gateway.py" = some ⟨#[2]⟩ := by
  simp [files]

section

variable {reviewAuthority : String}

theorem gitShow_checkout {path : String} {content : ByteArray}
    (hcontent : files reviewAuthority path = some content) :
    gitShow (checkout reviewAuthority) source.commit path = .ok content := by
  simp [gitShow, checkout, hcontent, orRaise]

/-- The paths that the sources are bound at. -/
theorem canonicalRepoPath_paths : ∀ path ∈ ["docs/requirements.docx", "config/mapping.json",
    "src/aegis_ot/gateway.py", "tests/test_gateway.py"], canonicalRepoPath path = .ok () := by
  decide +kernel

theorem verifyTestProcedure_checkout :
    verifyTestProcedure (checkout reviewAuthority) source.commit
      "pytest::tests/test_gateway.py::test_gateway" = .ok "tests/test_gateway.py" := by
  have hmatched : matchTestId "pytest::tests/test_gateway.py::test_gateway" =
      some ("tests/test_gateway.py", "test_gateway") := by decide +kernel
  rw [verifyTestProcedure, procedurePathAndName, hmatched]
  simp only [orRaise, ok_bind, gitShow_checkout (files_procedure _)]
  rfl

theorem paths_entry :
    procedurePaths entry.procedureOrTestIds = ["tests/test_gateway.py"] ∧
      entry.rolePaths.all = ["src/aegis_ot/gateway.py", "tests/test_gateway.py"] := by
  decide +kernel

/-- The sources are committed and the mapping names what is there. -/
theorem buildable
    (hparsed : parseEvidenceMapping (material reviewAuthority) baseline.requirementIds =
      .ok (mapping reviewAuthority)) :
    Buildable (checkout reviewAuthority) source "docs/requirements.docx" "config/mapping.json"
      baseline (mapping reviewAuthority) where
  requirementsFile := ⟨_, requirementsFile,
    bindCommittedFile_checkout (canonicalRepoPath_paths _ (by simp)) (files_requirements _),
    files_requirements reviewAuthority,
    parse_requirementsFile, rfl⟩
  mappingFile := ⟨_, material reviewAuthority,
    bindCommittedFile_checkout (canonicalRepoPath_paths _ (by simp)) (files_mapping _),
    gitShow_checkout (files_mapping _), hparsed⟩
  artifacts other hother path hpath := by
    rw [List.mem_singleton.mp hother, paths_entry.2, List.mem_cons, List.mem_singleton] at hpath
    rcases hpath with rfl | rfl
    · exact ⟨_, bindCommittedFile_checkout (canonicalRepoPath_paths _ (by simp))
        (files_implementation _)⟩
    · exact ⟨_, bindCommittedFile_checkout (canonicalRepoPath_paths _ (by simp))
        (files_procedure _)⟩
  procedures other hother procedure hprocedure := by
    rw [List.mem_singleton.mp hother] at hprocedure
    rw [List.mem_singleton.mp hprocedure]
    exact ⟨_, verifyTestProcedure_checkout⟩
  results other hother path hpath := by
    rw [List.mem_singleton.mp hother] at hpath
    cases hpath
  gates := rfl
  claimStates := rfl

/-- Both authorities that the parser knows are read. -/
theorem parsed_mapping
    (hauthority : reviewAuthority ∈ ["implementation_custody", "project_maintainer"]) :
    parseEvidenceMapping (material reviewAuthority) baseline.requirementIds =
      .ok (mapping reviewAuthority) := by
  have hparsed : ∀ authority ∈ ["implementation_custody", "project_maintainer"],
      ((Json.obj (members authority)).wellFormed = true ∧
        (Json.obj (members authority)).convertible = true ∧
        4 * (Json.obj (members authority)).write.length ≤ maxJsonBytes) ∧
      EvidenceMapping.ofMembers (members authority) baseline.requirementIds =
        .ok (mapping authority) := by
    decide +kernel
  obtain ⟨⟨hwell, hconvertible, hlength⟩, hmapping⟩ := hparsed reviewAuthority hauthority
  rw [parseEvidenceMapping, material,
    loadStrictJsonBytes_canonicalBytes _ hwell hconvertible hlength, ok_bind, hmapping]

end

theorem isRequirementId_requirement {index : Nat} (h : index < expectedRequirementCount) :
    isRequirementId (requirement index).requirementId = true := by
  have hlength : (Nat.toDigits 10 (index + 1)).length ≤ 3 :=
    (Nat.length_toDigits_le_iff (by decide) (by decide)).mpr
      (by rw [expectedRequirementCount] at h; omega)
  have hcount : (List.leftpad 3 '0' (Nat.toDigits 10 (index + 1))).length = 3 := by
    rw [List.length_leftpad]
    omega
  have hdigits : ∀ c ∈ List.leftpad 3 '0' (Nat.toDigits 10 (index + 1)), c.isDigit = true := by
    intro c hc
    rcases List.mem_append.mp hc with hzero | hdigit
    · rw [List.eq_of_mem_replicate hzero]
      rfl
    · exact Nat.isDigit_of_mem_toDigits (by decide) (by decide) hdigit
  rw [isRequirementId, requirementId_toList]
  generalize List.leftpad 3 '0' (Nat.toDigits 10 (index + 1)) = digits at *
  match digits, hcount with
  | [a, b, c], _ => simpa using hdigits

theorem canonicalIds : ∀ id ∈ baseline.requirementIds, isRequirementId id = true := by
  intro id hid
  change id ∈ requirements.map fun item => item.requirementId at hid
  rw [requirementIds_eq] at hid
  obtain ⟨index, hindex, rfl⟩ := List.mem_map.mp hid
  exact isRequirementId_requirement (List.mem_range.mp hindex)

theorem reviewable : Reviewable (checkout "implementation_custody") baseline
    (mapping "implementation_custody") where
  custody := rfl
  nonempty other hother path hpath hempty := by
    rw [List.mem_singleton.mp hother] at hpath
    rw [List.mem_singleton.mp hpath] at hempty
    have hcontent := (files_implementation "implementation_custody").symm.trans hempty
    cases hcontent
  requirementIds := canonicalIds
  tbrIds := tbrIds_eq
  separated own hown other hother path hpath := by
    rw [List.mem_singleton.mp hown] at hpath
    rw [List.mem_singleton.mp hother, List.mem_singleton.mp hpath, paths_entry.1]
    simp

end ReviewedMapping

section

open ReviewedMapping

theorem buildEvidenceTraceability_exact_of_custody :
    ∃ report, buildEvidenceTraceability (checkout "implementation_custody") source
        "docs/requirements.docx" "config/mapping.json" = .ok report ∧ report.InverseExact := by
  obtain ⟨report, _, hagrees⟩ :=
    buildEvidenceTraceability_exact_iff (buildable (parsed_mapping List.mem_cons_self))
  exact ⟨report, hagrees.mpr reviewable⟩

/-- The parser accepts a mapping that the maintainer reviewed, and the build of its report is
    refused by the validator. -/
theorem maintainer_mapping_refused :
    Buildable (checkout "project_maintainer") source "docs/requirements.docx"
        "config/mapping.json" baseline (mapping "project_maintainer") ∧
      buildEvidenceTraceability (checkout "project_maintainer") source "docs/requirements.docx"
          "config/mapping.json" =
        .error (.traceability "traceability mapping metadata is not bounded") := by
  have hbuildable := buildable (parsed_mapping (List.mem_cons_of_mem _ List.mem_cons_self))
  exact ⟨hbuildable, buildEvidenceTraceability_refused hbuildable (by simp [mapping])⟩

end

end AegisOt
