import AegisOt.Traceability.Structure

/-!
# Accepted mappings and bound artifacts

What `parse_evidence_mapping` accepts, what the bindings of committed files and historical results
say of the checkout, and what an accepted entry links to.
-/

namespace AegisOt

/-! ## Accepted mappings -/

theorem uniqueSortedStrings_spec {value : Option Json} {label : String} {maximum : Nat}
    {texts : List String} (h : uniqueSortedStrings value label maximum = .ok texts) :
    texts ≠ [] ∧ "" ∉ texts ∧ texts.Pairwise (· < ·) := by
  unfold uniqueSortedStrings at h
  simp only [bind_eq_ok, Unique.exists_iff, orRaise_eq_ok, refuseIf_eq_ok, pure_eq_ok,
    Except.ok.injEq] at h
  obtain ⟨items, _, hcount, texts', htexts, hnonempty, hsorted, rfl⟩ := h
  refine ⟨?_, hnonempty, not_not.mp hsorted⟩
  rintro rfl
  cases items with
  | nil => exact hcount (.inl rfl)
  | cons item rest =>
    rw [List.mapM_cons, Option.bind_eq_bind, Option.bind_eq_some_iff] at htexts
    obtain ⟨text, _, hrest⟩ := htexts
    rw [Option.bind_eq_bind, Option.bind_eq_some_iff] at hrest
    obtain ⟨others, _, hothers⟩ := hrest
    cases hothers

theorem uniqueSortedStringsOrNone_spec {value : Option Json} {label : String} {maximum : Nat}
    {texts : List String} (h : uniqueSortedStringsOrNone value label maximum = .ok texts) :
    "" ∉ texts ∧ texts.Pairwise (· < ·) := by
  unfold uniqueSortedStringsOrNone at h
  split at h
  · rw [← Except.ok.inj h]
    exact ⟨List.not_mem_nil, .nil⟩
  · exact (uniqueSortedStrings_spec h).2

namespace EvidenceMappingEntry

/-- The current artifacts that an entry names, by role. -/
def rolePaths (entry : EvidenceMappingEntry) : RolePaths where
  implementation := entry.implementationArtifacts
  procedure := procedurePaths entry.procedureOrTestIds

/-- The link of an entry. -/
def link (entry : EvidenceMappingEntry) : ForwardLink where
  artifactPathsByRole := entry.rolePaths
  procedureOrTestIds := entry.procedureOrTestIds
  historicalResultPaths := entry.resultArtifacts
  owner := entry.owner
  disposition := entry.disposition
  result := entry.result
  resultArtifactState := entry.resultArtifactState

/-- What `parse_evidence_mapping` checks of an entry. -/
structure Accepted (known : List String) (entry : EvidenceMappingEntry) : Prop where
  canonicalId : isRequirementId entry.requirementId = true
  known : entry.requirementId ∈ known
  procedures : "" ∉ entry.procedureOrTestIds ∧ entry.procedureOrTestIds.Pairwise (· < ·)
  matched : ∀ procedure ∈ entry.procedureOrTestIds, matchTestId procedure ≠ none
  implementation : "" ∉ entry.implementationArtifacts ∧
    entry.implementationArtifacts.Pairwise (· < ·)
  results : "" ∉ entry.resultArtifacts ∧ entry.resultArtifacts.Pairwise (· < ·)
  separated : ∀ path ∈ entry.implementationArtifacts,
    path ∉ procedurePaths entry.procedureOrTestIds
  disposition : entry.disposition = "open_not_accepted"
  result : entry.result = "not_executed"
  state : entry.resultArtifactState ∈ resultArtifactStates
  historical : entry.resultArtifacts ≠ [] ↔
    entry.resultArtifactState = "historical_only_no_current_result"

end EvidenceMappingEntry

theorem parseMappingEntry_accepted {known : List String} {index : Nat} {item : Json}
    {entry : EvidenceMappingEntry} (h : parseMappingEntry known index item = .ok entry) :
    entry.Accepted known := by
  unfold parseMappingEntry at h
  simp only [bind_eq_ok, Unique.exists_iff, PUnit.default_eq_unit, orRaise_eq_ok, refuseIf_eq_ok,
    forM_eq_ok, pure_eq_ok, Except.ok.injEq, not_or, not_not] at h
  obtain ⟨members, _, _, requirementId, _, ⟨hid, hknown⟩, procedures, hprocedures, hmatched,
    implementation, himplementation, results, hresults, _, _, hnodup, disposition, _, result, _,
    state, _, ⟨hdisposition, hresult, hstate, hhistorical⟩, h⟩ := h
  obtain ⟨rationale, _, trustBoundary, _, configuration, _, environment, _, owner, _, limitations,
    _, rfl⟩ := h
  refine ⟨by simpa using hid, hknown, (uniqueSortedStrings_spec hprocedures).2, hmatched,
    (uniqueSortedStrings_spec himplementation).2, uniqueSortedStringsOrNone_spec hresults, ?_,
    hdisposition, List.mem_singleton.mp hresult, hstate, hhistorical⟩
  intro path hpath hprocedure
  rw [List.append_assoc, List.nodup_append] at hnodup
  exact hnodup.2.2 path hpath path (List.mem_append_right _ hprocedure) rfl

/-- What `parse_evidence_mapping` checks of a mapping. -/
structure EvidenceMapping.Accepted (known : List String) (mapping : EvidenceMapping) : Prop where
  nonempty : mapping.entries ≠ []
  entries : ∀ entry ∈ mapping.entries, entry.Accepted known
  sorted : (mapping.entries.map fun entry => entry.requirementId).Pairwise (· < ·)

theorem parseEvidenceMapping_accepted {material : ByteArray} {known : List String}
    {mapping : EvidenceMapping} (h : parseEvidenceMapping material known = .ok mapping) :
    mapping.Accepted known := by
  unfold parseEvidenceMapping EvidenceMapping.ofMembers at h
  simp only [bind_eq_ok, Unique.exists_iff, PUnit.default_eq_unit, orRaise_eq_ok, refuseIf_eq_ok,
    pure_eq_ok, Except.ok.injEq, not_not] at h
  obtain ⟨raw, _, _, _, _, _, mappingId, _, reviewScope, _, reviewAuthority, _, _, entriesRaw, _,
    hnonempty, entries, hentries, hsorted, rfl⟩ := h
  rw [mapM_eq_ok] at hentries
  refine ⟨?_, fun entry hentry => ?_, hsorted⟩
  · rintro rfl
    have hempty := hentries.length_eq
    rw [List.length_zipIdx, List.length_nil, List.length_eq_zero_iff] at hempty
    exact hnonempty (by rw [hempty]; rfl)
  · obtain ⟨item, _, hitem⟩ := exists_mem_of_forall₂ hentries hentry
    exact parseMappingEntry_accepted hitem

/-! ## Bound artifacts -/

section

variable {checkout : Checkout} {commit relative : String}

/-- What a binding says of the file. -/
structure ArtifactBinding.Of (binding : ArtifactBinding) (checkout : Checkout)
    (commit relative : String) : Prop where
  path : binding.path = relative
  canonical : canonicalRepoPath relative = .ok ()
  mode : binding.gitMode ∈ ["100644", "100755"]
  blob : isGitObject binding.gitBlob = true
  content : ∃ material, checkout.working relative = some material ∧
    binding.bytes = material.size ∧ gitShow checkout commit relative = .ok material

theorem bindCommittedFile_spec [TraceabilityPrimitives] {binding : ArtifactBinding}
    (h : bindCommittedFile checkout commit relative = .ok binding) :
    binding.Of checkout commit relative := by
  unfold bindCommittedFile at h
  simp only [bind_eq_ok, Unique.exists_iff, PUnit.default_eq_unit, orRaise_eq_ok, refuseIf_eq_ok,
    pure_eq_ok, Except.ok.injEq, not_or, not_not] at h
  obtain ⟨_, hcanonical, working, hworking, entry, hentry, ⟨_, hmode, hblob⟩, hsame, rfl⟩ := h
  refine ⟨rfl, hcanonical, hmode, by simpa using hblob, working, hworking, rfl, ?_⟩
  rw [gitShow, hentry, hsame]
  rfl

/-- A bound file lacks nothing but content. -/
theorem validateBinding_eq_ok {binding : ArtifactBinding} (h : binding.Of checkout commit relative)
    {label : String} : validateBinding binding label = .ok () ↔ 0 < binding.bytes := by
  unfold validateBinding
  rw [bind_unit_eq_ok, refuseIf_eq_ok, h.path]
  constructor
  · rintro ⟨hbytes, _⟩
    exact not_le.mp fun hle => hbytes (.inl hle)
  · intro hbytes
    refine ⟨?_, h.canonical⟩
    rintro (hle | hmode | hblob)
    · exact absurd hbytes (not_lt.mpr hle)
    · exact hmode h.mode
    · rw [h.blob] at hblob
      cases hblob

/-- A result that says what it exercised. -/
structure HistoricalResultBinding.Of (binding : HistoricalResultBinding) (checkout : Checkout)
    (commit relative : String) : Prop where
  artifact : binding.artifact.Of checkout commit relative
  nonempty : 0 < binding.artifact.bytes
  commit : isGitObject binding.exercisedGitCommit = true
  tree : isGitObject binding.exercisedGitTree = true
  sourceFiles : 0 < binding.sourceFilesVerified

theorem loadStrictJsonBytes_size {material : ByteArray} {label : String}
    {members : List (String × Json)} (h : loadStrictJsonBytes material label = .ok members) :
    0 < material.size := by
  unfold loadStrictJsonBytes at h
  rw [bind_unit_eq_ok, refuseIf_eq_ok] at h
  exact Nat.pos_of_ne_zero fun hzero => h.1 (.inl hzero)

/-- What is written canonically is loaded back. -/
theorem loadStrictJsonBytes_canonicalBytes {members : List (String × Json)} (label : String)
    (hwell : (Json.obj members).wellFormed = true)
    (hconvertible : (Json.obj members).convertible = true)
    (hlength : 4 * (Json.obj members).write.length ≤ maxJsonBytes) :
    loadStrictJsonBytes (Json.canonicalBytes (.obj members)) label = .ok members := by
  have hloads := Json.loadsBytes_canonicalBytes hwell
  have hsize := Json.size_canonicalBytes_le (.obj members)
  have hempty : (Json.loadsBytes .empty).toOption.isNone = true := by decide +kernel
  have hallowed : ¬ ((Json.canonicalBytes (.obj members)).size = 0 ∨
      maxJsonBytes < (Json.canonicalBytes (.obj members)).size) := by
    rintro (hzero | hlarge)
    · rw [ByteArray.size_eq_zero_iff] at hzero
      rw [hzero] at hloads
      rw [hloads] at hempty
      cases hempty
    · omega
  unfold loadStrictJsonBytes
  rw [refuseIf_neg hallowed, ok_bind, hloads]
  refine bind_eq_ok.mpr ⟨_, rfl, bind_unit_eq_ok.mpr ⟨refuseIf_neg ?_, rfl⟩⟩
  rw [hconvertible]
  decide

theorem historicalSourceIdentity_spec {value : List (String × Json)} {commit : String}
    {hashes : List (String × Json)} (h : historicalSourceIdentity value = .ok (commit, hashes)) :
    isGitObject commit = true ∧ hashes ≠ [] := by
  unfold historicalSourceIdentity at h
  split at h
  simp only [bind_eq_ok, Unique.exists_iff, orRaise_eq_ok, refuseIf_eq_ok, pure_eq_ok,
    Except.ok.injEq, Prod.mk.injEq, not_or] at h
  obtain ⟨commit, _, hcommit, _, hashes, _, ⟨hhashes, _⟩, rfl, rfl⟩ := h
  exact ⟨by simpa using hcommit, by simpa using hhashes⟩

theorem bindHistoricalResult_spec [TraceabilityPrimitives]
    {binding : HistoricalResultBinding}
    (h : bindHistoricalResult checkout commit relative = .ok binding) :
    binding.Of checkout commit relative := by
  unfold bindHistoricalResult at h
  simp only [bind_eq_ok, Unique.exists_iff, PUnit.default_eq_unit, orRaise_eq_ok, refuseIf_eq_ok,
    pure_eq_ok, Except.ok.injEq] at h
  obtain ⟨artifact, hartifact, material, hmaterial, value, hvalue, ⟨exercised, hashes⟩, hidentity,
    tree, _, htree, _, rfl⟩ := h
  have hbound := bindCommittedFile_spec hartifact
  obtain ⟨material', _, hbytes, hshown⟩ := hbound.content
  rw [hshown, Except.ok.injEq] at hmaterial
  obtain ⟨hcommit, hhashes⟩ := historicalSourceIdentity_spec hidentity
  refine ⟨hbound, ?_, hcommit, by simpa using htree, List.length_pos_of_ne_nil hhashes⟩
  rw [hbytes, hmaterial]
  exact loadStrictJsonBytes_size hvalue

/-- The path of a test that exists, whose module is not empty. -/
theorem verifyTestProcedure_spec [PythonSource] {procedure path : String}
    (h : verifyTestProcedure checkout commit procedure = .ok path) :
    (matchTestId procedure).map Prod.fst = some path ∧
      ∃ source, gitShow checkout commit path = .ok source ∧ 0 < source.size := by
  unfold verifyTestProcedure procedurePathAndName at h
  simp only [bind_eq_ok, Unique.exists_iff, orRaise_eq_ok, refuseIf_eq_ok, pure_eq_ok,
    Except.ok.injEq, not_not] at h
  obtain ⟨⟨relative, name⟩, hmatched, source, hsource, declared, hdeclared, hname, rfl⟩ := h
  refine ⟨by rw [hmatched]; rfl, source, hsource, Nat.pos_of_ne_zero fun hzero => ?_⟩
  rw [ByteArray.size_eq_zero_iff] at hzero
  rw [hzero, PythonSource.topLevelFunctions_empty] at hdeclared
  rw [← Option.some.inj hdeclared] at hname
  cases hname

end

end AegisOt
