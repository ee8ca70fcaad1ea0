import AegisOt.Traceability.Proofs.Accepted

/-!
# What the builder indexes

The dictionaries behind a prefix of the entries are the inverses of what these entries name, and
every binding in them is the one of its path. The step lemma is about one entry; the run over the
entries of a mapping follows by the rule of loops.
-/

namespace AegisOt

/-! ## Citations -/

theorem RolePaths.mem_all {roles : RolePaths} {path : String} :
    path ∈ roles.all ↔ ∃ role, path ∈ roles.ofRole role := by
  rw [RolePaths.all, SortedMap.mem_keys_ofKeys, List.mem_append]
  constructor
  · rintro (himplementation | hprocedure)
    · exact ⟨.implementation, himplementation⟩
    · exact ⟨.procedure, hprocedure⟩
  · rintro ⟨_ | _, hpath⟩
    · exact .inl hpath
    · exact .inr hpath

theorem RolePaths.all_nodup (roles : RolePaths) : roles.all.Nodup :=
  (SortedMap.keys_pairwise _).imp fun hlt => hlt.ne

theorem ArtifactRole.mem_all (role : ArtifactRole) : role ∈ ArtifactRole.all := by
  cases role <;> decide

theorem ArtifactRole.mem_sorted {roles : List ArtifactRole} {role : ArtifactRole} :
    role ∈ ArtifactRole.sorted roles ↔ role ∈ roles := by
  simp [ArtifactRole.sorted, ArtifactRole.mem_all]

/-- Sorted roles are determined by their set. -/
theorem ArtifactRole.sorted_congr {roles roles' : List ArtifactRole}
    (h : ∀ role, role ∈ roles ↔ role ∈ roles') :
    ArtifactRole.sorted roles = ArtifactRole.sorted roles' := by
  unfold ArtifactRole.sorted
  exact List.filter_congr fun role _ => decide_eq_decide.mpr (h role)

/-- The requirement of an entry names the path, procedure or result. -/
def Cites (entries : List EvidenceMappingEntry) (named : EvidenceMappingEntry → List String)
    (name id : String) : Prop :=
  ∃ entry ∈ entries, name ∈ named entry ∧ entry.requirementId = id

/-- An entry names the path in the role. -/
def CitedAs (entries : List EvidenceMappingEntry) (path : String) (role : ArtifactRole) : Prop :=
  ∃ entry ∈ entries, path ∈ entry.rolePaths.ofRole role

section

variable {entries : List EvidenceMappingEntry} {entry : EvidenceMappingEntry}
  {named : EvidenceMappingEntry → List String}

theorem cites_append {name id : String} :
    Cites (entries ++ [entry]) named name id ↔
      Cites entries named name id ∨ name ∈ named entry ∧ id = entry.requirementId := by
  simp only [Cites, List.mem_append, List.mem_singleton, or_and_right, exists_or,
    exists_eq_left]
  exact or_congr_right (and_congr_right fun _ => eq_comm)

theorem citedAs_append {path : String} {role : ArtifactRole} :
    CitedAs (entries ++ [entry]) path role ↔
      CitedAs entries path role ∨ path ∈ entry.rolePaths.ofRole role := by
  simp only [CitedAs, List.mem_append, List.mem_singleton, or_and_right, exists_or,
    exists_eq_left]

variable {β : Type} {m : SortedMap String β} {fresh : String → β} {change : String → β → β}

/-- Filing a requirement under everything its entry names. -/
theorem indexes_cites_append {ids : β → List String}
    (h : m.Indexes (fun value id => id ∈ ids value) (Cites entries named))
    (hfresh : ∀ name, ids (fresh name) = [])
    (hchange : ∀ name value id,
      id ∈ ids (change name value) ↔ id ∈ ids value ∨ id = entry.requirementId) :
    ((named entry).foldl (fun m name => m.file name (fresh name) (change name)) m).Indexes
      (fun value id => id ∈ ids value) (Cites (entries ++ [entry]) named) := by
  have hunlisted (name id : String) : id ∉ ids (fresh name) := by simp [hfresh]
  have hfiled := h.fileAll (S := fun _ id => id = entry.requirementId) (named entry)
    (fun _ _ => ⟨entry.requirementId, rfl⟩) hunlisted hchange
  exact hfiled.congr fun name id => cites_append.symm

/-- Adding a role under everything named in it. -/
theorem indexes_role_append {R : String → ArtifactRole → Prop} {roles : β → List ArtifactRole}
    {paths : List String} {S : String → ArtifactRole → Prop}
    (h : m.Indexes (fun value role => role ∈ roles value) R)
    (hsome : ∀ path ∈ paths, ∃ role, S path role) (hfresh : ∀ path, roles (fresh path) = [])
    (hchange : ∀ path value role,
      role ∈ roles (change path value) ↔ role ∈ roles value ∨ S path role) :
    (paths.foldl (fun m path => m.file path (fresh path) (change path)) m).Indexes
      (fun value role => role ∈ roles value) fun path role =>
        R path role ∨ path ∈ paths ∧ S path role := by
  have hunlisted (path : String) (role : ArtifactRole) : role ∉ roles (fresh path) := by
    simp [hfresh]
  exact h.fileAll paths hsome hunlisted hchange

end

/-! ## One entry -/

section

variable {artifact : String → ArtifactBinding} {result : String → HistoricalResultBinding}

/-- Every binding is the one of its path. -/
abbrev Faithful {β : Type} (bindings : SortedMap String β) (binding : String → β) : Prop :=
  bindings.Each fun path found => found = binding path

theorem Faithful.insert {β : Type} {bindings : SortedMap String β} {binding : String → β}
    (h : Faithful bindings binding) (path : String) :
    Faithful (bindings.insert path (binding path)) binding := SortedMap.Each.insert h rfl

theorem Faithful.insertAll {β : Type} {bindings : SortedMap String β} {binding : String → β}
    (h : Faithful bindings binding) (paths : List String) :
    Faithful (paths.foldl (fun m path => m.insert path (binding path)) bindings) binding := by
  intro path found hfound
  rw [SortedMap.find?_foldl_insert_value] at hfound
  split at hfound
  · exact (Option.some.inj hfound).symm
  · exact h path found hfound

/-- Everything that the entries name stays bound. -/
theorem bound_append {β : Type} {bindings : SortedMap String β} {binding : String → β}
    {entries : List EvidenceMappingEntry} {entry : EvidenceMappingEntry}
    {named : EvidenceMappingEntry → List String}
    (h : ∀ entry ∈ entries, ∀ path ∈ named entry, bindings.find? path = some (binding path)) :
    ∀ other ∈ entries ++ [entry], ∀ path ∈ named other,
      ((named entry).foldl (fun m path => m.insert path (binding path)) bindings).find? path =
        some (binding path) := by
  intro other hother path hpath
  rw [SortedMap.find?_foldl_insert_value]
  split
  · rfl
  · rename_i hunnamed
    rcases List.mem_append.mp hother with hother | hother
    · exact h other hother path hpath
    · rw [List.mem_singleton.mp hother] at hpath
      exact absurd hpath hunnamed

/-- What one current artifact adds to the inverse index. -/
def addArtifact (entry : EvidenceMappingEntry) (path : String) (inverse : InverseArtifact) :
    InverseArtifact :=
  { inverse with
    requirementIds := inverse.requirementIds ++ [entry.requirementId]
    roles := inverse.roles ++ ArtifactRole.all.filter fun role =>
      path ∈ entry.rolePaths.ofRole role ∧ role ∉ inverse.roles }

theorem mem_roles_addArtifact {entry : EvidenceMappingEntry} {path : String}
    {inverse : InverseArtifact} {role : ArtifactRole} :
    role ∈ (addArtifact entry path inverse).roles ↔
      role ∈ inverse.roles ∨ path ∈ entry.rolePaths.ofRole role := by
  simp only [addArtifact, List.mem_append, List.mem_filter, ArtifactRole.mem_all, true_and,
    decide_eq_true_eq]
  by_cases hrole : role ∈ inverse.roles <;> simp [hrole]

/-- The dictionaries behind one more entry. -/
def BuildState.indexed (artifact : String → ArtifactBinding)
    (result : String → HistoricalResultBinding) (built : BuildState)
    (entry : EvidenceMappingEntry) : BuildState where
  cache := entry.rolePaths.all.foldl (fun cache path => cache.insert path (artifact path))
    built.cache
  forward := built.forward.insert entry.requirementId entry.link
  inverseArtifacts := entry.rolePaths.all.foldl
    (fun m path => m.file path ⟨artifact path, [], []⟩ (addArtifact entry path))
    built.inverseArtifacts
  inverseHistoricalResults := entry.resultArtifacts.foldl
    (fun m path => m.file path ⟨result path, []⟩ fun inverse =>
      { inverse with requirementIds := inverse.requirementIds ++ [entry.requirementId] })
    built.inverseHistoricalResults
  inverseProcedures := entry.procedureOrTestIds.foldl
    (fun m procedure => m.file procedure [] fun ids => ids ++ [entry.requirementId])
    built.inverseProcedures
  historicalByRequirement :=
    built.historicalByRequirement.insert entry.requirementId (entry.resultArtifacts.map result)

variable [TraceabilityPrimitives] {checkout : Checkout} {commit : String}

/-- Everything that an entry names is committed, and its results are historical. -/
structure EvidenceMappingEntry.Bound [PythonSource] (checkout : Checkout) (commit : String)
    (artifact : String → ArtifactBinding) (result : String → HistoricalResultBinding)
    (entry : EvidenceMappingEntry) : Prop where
  procedures : ∀ procedure ∈ entry.procedureOrTestIds,
    ∃ path, verifyTestProcedure checkout commit procedure = .ok path
  artifacts : ∀ path ∈ entry.rolePaths.all,
    bindCommittedFile checkout commit path = .ok (artifact path)
  results : ∀ path ∈ entry.resultArtifacts,
    bindHistoricalResult checkout commit path = .ok (result path) ∧
      (result path).relationshipToCurrentSource = "historical"

theorem bindCached_ok {cache : SortedMap String ArtifactBinding} {path : String}
    (hcache : Faithful cache artifact)
    (hbound : bindCommittedFile checkout commit path = .ok (artifact path)) :
    bindCached checkout commit path cache =
      .ok (artifact path, cache.insert path (artifact path)) := by
  unfold bindCached
  cases hfound : cache.find? path with
  | none =>
    simp only [hbound]
    rfl
  | some binding =>
    have hsame : binding = artifact path := hcache path binding hfound
    subst hsame
    rw [SortedMap.insert_eq_self hfound]
    rfl

omit [TraceabilityPrimitives] in
theorem foldlM_indexProcedure [PythonSource] {id : String} {procedures : List String}
    (h : ∀ procedure ∈ procedures, ∃ path, verifyTestProcedure checkout commit procedure = .ok path)
    (built : BuildState) (paths : List String) :
    procedures.foldlM (indexProcedure checkout commit id) (built, paths) =
      .ok
        ({ built with
            inverseProcedures := procedures.foldl
              (fun m procedure => m.file procedure [] fun ids => ids ++ [id])
              built.inverseProcedures },
          paths ++ procedures.filterMap fun procedure => (matchTestId procedure).map Prod.fst) := by
  induction procedures generalizing built paths with
  | nil => simp
  | cons procedure rest ih =>
    obtain ⟨⟨path, hpath⟩, hrest⟩ := List.forall_mem_cons.mp h
    have hmatched := (verifyTestProcedure_spec hpath).1
    rw [List.foldlM_cons, indexProcedure, hpath, ok_bind, pure_eq_ok, ok_bind, ih hrest,
      List.filterMap_cons, hmatched, List.append_assoc]
    rfl

theorem foldlM_indexPath (entry : EvidenceMappingEntry) {paths : List String}
    (h : ∀ path ∈ paths, bindCommittedFile checkout commit path = .ok (artifact path))
    (built : BuildState) (hcache : Faithful built.cache artifact) :
    paths.foldlM (indexPath checkout commit entry.requirementId entry.rolePaths) built =
      .ok
        { built with
          cache := paths.foldl (fun cache path => cache.insert path (artifact path)) built.cache
          inverseArtifacts := paths.foldl
            (fun m path => m.file path ⟨artifact path, [], []⟩ (addArtifact entry path))
            built.inverseArtifacts } := by
  induction paths generalizing built with
  | nil => rfl
  | cons path rest ih =>
    obtain ⟨hpath, hrest⟩ := List.forall_mem_cons.mp h
    rw [List.foldlM_cons, indexPath, bindCached_ok hcache hpath]
    exact ih hrest _ (hcache.insert path)

theorem foldlM_indexResult {id : String} {paths : List String}
    (h : ∀ path ∈ paths, bindHistoricalResult checkout commit path = .ok (result path) ∧
      (result path).relationshipToCurrentSource = "historical")
    (built : BuildState) (results : List HistoricalResultBinding) :
    paths.foldlM (indexResult checkout commit id) (built, results) =
      .ok
        ({ built with
            inverseHistoricalResults := paths.foldl
              (fun m path => m.file path ⟨result path, []⟩ fun inverse =>
                { inverse with requirementIds := inverse.requirementIds ++ [id] })
              built.inverseHistoricalResults },
          results ++ paths.map result) := by
  induction paths generalizing built results with
  | nil => simp
  | cons path rest ih =>
    obtain ⟨⟨hpath, hhistorical⟩, hrest⟩ := List.forall_mem_cons.mp h
    rw [List.foldlM_cons, indexResult, hpath, ok_bind, refuseIf_neg (not_not.mpr hhistorical),
      ok_bind, pure_eq_ok, ok_bind, ih hrest, List.append_assoc]
    rfl

theorem indexEntry_ok [PythonSource] {entry : EvidenceMappingEntry}
    (h : entry.Bound checkout commit artifact result) {built : BuildState}
    (hcache : Faithful built.cache artifact) :
    indexEntry checkout commit built entry = .ok (built.indexed artifact result entry) := by
  unfold indexEntry
  rw [foldlM_indexProcedure h.procedures, ok_bind]
  change (entry.rolePaths.all.foldlM
    (indexPath checkout commit entry.requirementId entry.rolePaths) _ >>= _) = _
  rw [foldlM_indexPath entry h.artifacts, ok_bind, foldlM_indexResult h.results]
  · rfl
  · exact hcache

/-! ## All entries -/

/-- The dictionaries behind some entries. -/
structure BuildState.Filed (artifact : String → ArtifactBinding)
    (result : String → HistoricalResultBinding) (entries : List EvidenceMappingEntry)
    (built : BuildState) : Prop where
  cache : Faithful built.cache artifact
  cached : ∀ entry ∈ entries, ∀ path ∈ entry.rolePaths.all,
    built.cache.find? path = some (artifact path)
  forward : ∀ id link, built.forward.find? id = some link ↔
    ∃ entry ∈ entries, entry.requirementId = id ∧ entry.link = link
  historicalByRequirement : ∀ entry ∈ entries,
    built.historicalByRequirement.find? entry.requirementId =
      some (entry.resultArtifacts.map result)
  artifactBindings : built.inverseArtifacts.Each fun path value => value.binding = artifact path
  artifacts : built.inverseArtifacts.Indexes (fun value id => id ∈ value.requirementIds)
    (Cites entries fun entry => entry.rolePaths.all)
  roles : built.inverseArtifacts.Indexes (fun value role => role ∈ value.roles) (CitedAs entries)
  resultBindings : built.inverseHistoricalResults.Each fun path value =>
    value.binding = result path
  results : built.inverseHistoricalResults.Indexes (fun value id => id ∈ value.requirementIds)
    (Cites entries fun entry => entry.resultArtifacts)
  procedures : built.inverseProcedures.Indexes (fun ids id => id ∈ ids)
    (Cites entries fun entry => entry.procedureOrTestIds)

omit [TraceabilityPrimitives] in
theorem filed_start {cache : SortedMap String ArtifactBinding} (hcache : Faithful cache artifact) :
    BuildState.Filed artifact result [] ⟨cache, .empty, .empty, .empty, .empty, .empty⟩ where
  cache := hcache
  cached entry hentry := by cases hentry
  forward id link := by simp
  historicalByRequirement entry hentry := by cases hentry
  artifactBindings := SortedMap.each_empty _
  artifacts := SortedMap.indexes_empty.congr fun _ _ => by simp [Cites]
  roles := SortedMap.indexes_empty.congr fun _ _ => by simp [CitedAs]
  resultBindings := SortedMap.each_empty _
  results := SortedMap.indexes_empty.congr fun _ _ => by simp [Cites]
  procedures := SortedMap.indexes_empty.congr fun _ _ => by simp [Cites]

omit [TraceabilityPrimitives] in
/-- One entry more. -/
theorem BuildState.Filed.indexed {entries : List EvidenceMappingEntry} {built : BuildState}
    (h : built.Filed artifact result entries) {entry : EvidenceMappingEntry}
    (hnew : ∀ other ∈ entries, other.requirementId ≠ entry.requirementId) :
    (built.indexed artifact result entry).Filed artifact result (entries ++ [entry]) where
  cache := h.cache.insertAll _
  cached := bound_append h.cached
  forward id link := by
    change (built.forward.insert entry.requirementId entry.link).find? id = some link ↔ _
    simp only [List.mem_append, List.mem_singleton, or_and_right, exists_or, exists_eq_left]
    by_cases hid : entry.requirementId = id
    · subst hid
      rw [SortedMap.find?_insert_self, Option.some.injEq]
      constructor
      · intro hlink
        exact .inr ⟨rfl, hlink⟩
      · rintro (⟨other, hother, hsame, _⟩ | ⟨_, hlink⟩)
        · exact absurd hsame (hnew other hother)
        · exact hlink
    · rw [SortedMap.find?_insert_of_ne _ _ hid, h.forward]
      simp [hid]
  historicalByRequirement other hother := by
    change (built.historicalByRequirement.insert entry.requirementId _).find? _ = _
    rcases List.mem_append.mp hother with hother | hother
    · rw [SortedMap.find?_insert_of_ne _ _ (hnew other hother).symm]
      exact h.historicalByRequirement other hother
    · rw [List.mem_singleton.mp hother, SortedMap.find?_insert_self]
  artifactBindings := h.artifactBindings.fileAll (fun _ _ => rfl) fun _ _ hvalue => hvalue
  artifacts := indexes_cites_append h.artifacts (fun _ => rfl) fun _ _ _ => by simp [addArtifact]
  roles := by
    refine (indexes_role_append h.roles (fun path hpath => RolePaths.mem_all.mp hpath)
      (fun _ => rfl) fun _ _ _ => mem_roles_addArtifact).congr fun path role => ?_
    rw [citedAs_append]
    refine or_congr_right ⟨fun hrole => hrole.2, fun hrole => ⟨?_, hrole⟩⟩
    exact RolePaths.mem_all.mpr ⟨role, hrole⟩
  resultBindings := h.resultBindings.fileAll (fun _ _ => rfl) fun _ _ hvalue => hvalue
  results := indexes_cites_append h.results (fun _ => rfl) fun _ _ _ => by simp
  procedures := indexes_cites_append h.procedures (fun _ => rfl) fun _ _ _ => by simp

/-- The index is the inverse of what the entries name. -/
structure InverseIndex.Inverts (inverse : InverseIndex) (entries : List EvidenceMappingEntry) :
    Prop where
  artifacts : inverse.artifacts.Indexes (fun value id => id ∈ value.requirementIds)
    (Cites entries fun entry => entry.rolePaths.all)
  roles : inverse.artifacts.Indexes (fun value role => role ∈ value.roles) (CitedAs entries)
  results : inverse.historicalResults.Indexes (fun value id => id ∈ value.requirementIds)
    (Cites entries fun entry => entry.resultArtifacts)
  procedures : inverse.procedures.Indexes (fun ids id => id ∈ ids)
    (Cites entries fun entry => entry.procedureOrTestIds)

omit [TraceabilityPrimitives] in
theorem BuildState.Filed.inverts {entries : List EvidenceMappingEntry} {built : BuildState}
    (h : built.Filed artifact result entries) : built.inverseIndex.Inverts entries where
  artifacts := h.artifacts.mapValues (f := InverseArtifact.sorted) fun _ _ =>
    SortedMap.mem_keys_ofKeys
  roles := h.roles.mapValues (f := InverseArtifact.sorted) fun _ _ => ArtifactRole.mem_sorted
  results := h.results.mapValues (f := InverseHistoricalResult.sorted) fun _ _ =>
    SortedMap.mem_keys_ofKeys
  procedures := h.procedures.mapValues (f := fun ids => (SortedMap.ofKeys ids).keys) fun _ _ =>
    SortedMap.mem_keys_ofKeys

/-- The loop of the builder indexes the whole mapping. -/
theorem foldlM_indexEntry [PythonSource] {entries : List EvidenceMappingEntry} {built : BuildState}
    (hstart : built.Filed artifact result [])
    (hbound : ∀ entry ∈ entries, entry.Bound checkout commit artifact result)
    (hsorted : (entries.map fun entry => entry.requirementId).Pairwise (· < ·)) :
    ∃ built', entries.foldlM (indexEntry checkout commit) built = .ok built' ∧
      built'.Filed artifact result entries := by
  refine foldlM_ok hstart fun done entry rest built hentries hdone => ?_
  have hentry : entry ∈ entries := by simp [hentries]
  refine ⟨_, indexEntry_ok (hbound entry hentry) hdone.cache, hdone.indexed fun other hother => ?_⟩
  rw [hentries, List.map_append, List.map_cons, List.pairwise_append] at hsorted
  exact (hsorted.2.2 _ (List.mem_map_of_mem hother) _ List.mem_cons_self).ne

end

end AegisOt
