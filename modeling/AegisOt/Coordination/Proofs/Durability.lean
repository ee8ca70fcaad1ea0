import AegisOt.Coordination.Proofs.Steps
import AegisOt.Misc.JsonRoundTrip

/-!
# Loading what was persisted

`_load` of the bytes that `_persist` wrote gives the map back, for every map a journal can
reach, and accepts no other encoding of a map. Each check of `_load` follows from a check of
the writers: shape and fields from `_document`, the record and role checks from
`_validated_record`, the order from the sorted keys, the indexes from `_store` and the two
limits from `_persist`. pydantic's dump and parse are assumed to be inverse on the records
that are loaded (`RoundTrips`).
-/

namespace AegisOt

section

variable [Primitives] [RecordCodec] {role : JournalRole}

/-- `model_validate_json` reads back what `model_dump` wrote. -/
def RoundTrips (record : CoordinationJournalRecord) : Prop :=
  RecordCodec.parse (RecordCodec.dump record).members = some record

/-! ## Entries -/

/-- The raw entry of a record. -/
def rawEntry (record : CoordinationJournalRecord) : Json := .obj (RecordCodec.dump record).members

theorem loadEntry_rawEntry {entry : JournalEntry role} (h : RoundTrips entry.record) :
    loadEntry role (rawEntry entry.record) = .ok entry := by
  have hvalidated : validatedRecord role entry.record = .ok entry := validatedRecord_eq_ok.mpr rfl
  have hparse : RecordCodec.parse (RecordCodec.dump entry.record).members = some entry.record := h
  simp only [loadEntry, rawEntry, hparse, orRaise, ok_bind, hvalidated]

theorem loadEntries_cons {records : RecordMap role} {priorEffectId : Option EffectId} {raw : Json}
    {rest : List Json} {entry : JournalEntry role} (hentry : loadEntry role raw = .ok entry)
    (horder : ∀ prior ∈ priorEffectId, prior < entry.record.effect.effectId) :
    loadEntries records priorEffectId (raw :: rest) =
      loadEntries (records.insert entry.record.effect.effectId entry)
        (some entry.record.effect.effectId) rest := by
  have hlater : ¬ ∃ prior ∈ priorEffectId, entry.record.effect.effectId ≤ prior := by
    rintro ⟨prior, hmem, hle⟩
    exact absurd (horder prior hmem) (not_lt.mpr hle)
  rw [loadEntries, hentry, ok_bind]
  dsimp only
  rw [refuseIf, if_neg hlater, ok_bind]

/-- The loop reads the entries of a map behind those it has. -/
theorem loadEntries_rawEntries {done : RecordMap role} {priorEffectId : Option EffectId}
    {rest : List (EffectId × JournalEntry role)} (hsorted : KeysSorted (done.entries ++ rest))
    (hprior : ∀ prior ∈ priorEffectId, ∃ entry, (prior, entry) ∈ done.entries)
    (hkeyed : ∀ p ∈ rest, p.2.record.effect.effectId = p.1)
    (htrips : ∀ p ∈ rest, RoundTrips p.2.record) :
    loadEntries done priorEffectId (rest.map fun p => rawEntry p.2.record) =
      .ok ⟨done.entries ++ rest, hsorted⟩ := by
  induction rest generalizing done priorEffectId with
  | nil => simp [loadEntries]
  | cons binding rest ih =>
    obtain ⟨key, entry⟩ := binding
    have hkey : entry.record.effect.effectId = key := hkeyed _ List.mem_cons_self
    have hbefore : ∀ p ∈ done.entries, p.1 < key := fun p hp =>
      (List.pairwise_append.mp hsorted).2.2 p hp _ List.mem_cons_self
    have hinsert : (done.insert key entry).entries = done.entries ++ [(key, entry)] :=
      insertSorted_append entry hbefore
    have horder : ∀ prior ∈ priorEffectId, prior < entry.record.effect.effectId := by
      intro prior hmem
      obtain ⟨last, hlast⟩ := hprior prior hmem
      exact hkey ▸ hbefore _ hlast
    have happend :
        (done.insert key entry).entries ++ rest = done.entries ++ (key, entry) :: rest := by
      rw [hinsert, List.append_assoc, List.singleton_append]
    have hinserted : ∀ prior ∈ some key,
        ∃ entry', (prior, entry') ∈ (done.insert key entry).entries := by
      intro prior hmem
      refine ⟨entry, ?_⟩
      rw [hinsert, ← Option.some.inj hmem]
      exact List.mem_append_right _ List.mem_cons_self
    rw [List.map_cons, loadEntries_cons (loadEntry_rawEntry (htrips _ List.mem_cons_self)) horder,
      hkey, ih (happend ▸ hsorted) hinserted (fun p hp => hkeyed p (List.mem_cons_of_mem _ hp))
        (fun p hp => htrips p (List.mem_cons_of_mem _ hp))]
    exact congrArg Except.ok (SortedMap.ext happend)

/-! ## Documents -/

/-- The raw entries of a map. -/
def rawEntries (records : RecordMap role) : List Json :=
  records.entries.map fun p => rawEntry p.2.record

theorem rawEntries_eq (records : RecordMap role) :
    records.list.map (fun r => Json.obj (RecordCodec.dump r).members) = rawEntries records := by
  simp only [RecordMap.list, SortedMap.values, List.map_map, rawEntries]
  rfl

theorem wellFormedItems_rawEntries (entries : List (EffectId × JournalEntry role)) :
    Json.wellFormedItems (entries.map fun p => rawEntry p.2.record) = true := by
  induction entries with
  | nil => rfl
  | cons p rest ih =>
    simp only [List.map_cons, Json.wellFormedItems, ih, Bool.and_true]
    exact (RecordCodec.dump p.2.record).wellFormed

omit [Primitives] [RecordCodec] in
theorem keysSorted_document (entries journalRole ownerSubject schemaVersion : Json) :
    KeysSorted [("entries", entries), ("journal_role", journalRole),
      ("owner_subject", ownerSubject), ("schema_version", schemaVersion)] := by
  have hlt (a b : String) (h : a.toList < b.toList) : a < b := String.lt_iff_toList_lt.mpr h
  have hentries := hlt "entries" "journal_role" (by decide)
  have hrole := hlt "journal_role" "owner_subject" (by decide)
  have howner := hlt "owner_subject" "schema_version" (by decide)
  simp only [KeysSorted, List.pairwise_cons, List.mem_cons, List.not_mem_nil, or_false,
    forall_eq_or_imp, forall_eq, IsEmpty.forall_iff, implies_true, List.Pairwise.nil, and_true]
  exact ⟨⟨hentries, hentries.trans hrole, (hentries.trans hrole).trans howner⟩,
    ⟨hrole, hrole.trans howner⟩, howner⟩

theorem wellFormed_document (ownerSubject : String) (records : RecordMap role) :
    (document ownerSubject records).wellFormed = true := by
  simp only [document, rawEntries_eq, Json.wellFormed, keysSorted_document, decide_true,
    Json.wellFormedMembers, rawEntries, wellFormedItems_rawEntries, Bool.and_self]

/-- `json.loads` of a document's bytes. -/
theorem parseJournal_document (ownerSubject : String) (records : RecordMap role) :
    parseJournal (document ownerSubject records).canonicalBytes =
      .ok (document ownerSubject records) := by
  rw [parseJournal, Json.loadsBytes_canonicalBytes (wellFormed_document ownerSubject records)]

theorem documentFields_document (ownerSubject : String) (records : RecordMap role) :
    documentFields (document ownerSubject records) =
      some ⟨.arr (rawEntries records), .str role.value, .str ownerSubject,
        .str journalSchemaVersion⟩ := by
  rw [document, rawEntries_eq]
  rfl

/-- A map that could be written loads from its bytes. -/
theorem load_document {j : Journal role} {records : RecordMap role} (hkeyed : Keyed records)
    (hwritable : j.Writable records) (htrips : ∀ e ∈ records.values, RoundTrips e.record) :
    load role j.ownerSubject (document j.ownerSubject records).canonicalBytes = .ok records := by
  obtain ⟨⟨indexes, hindexes⟩, hfits⟩ := hwritable
  obtain ⟨hentries, hbytes⟩ := not_or.mp hfits
  have hsorted : KeysSorted ((SortedMap.empty : RecordMap role).entries ++ records.entries) :=
    records.sorted
  have hloop : loadEntries SortedMap.empty none (rawEntries records) = .ok records := by
    refine loadEntries_rawEntries hsorted (by simp) ?_ ?_
    · intro p hp
      exact hkeyed p.1 p.2 (SortedMap.find?_eq_some.mpr hp)
    · intro p hp
      exact htrips p.2 (List.mem_map_of_mem hp)
  have hlength : ¬ maxEntries < (rawEntries records).length := by
    rw [rawEntries, List.length_map]
    exact hentries
  simp only [load, refuseIf, hbytes, if_false, parseJournal_document, documentFields_document,
    orRaise, isText, arrayItems, hlength, hloop, hindexes, ok_bind, decide_true,
    Bool.true_eq_false, or_self, ne_eq, not_true_eq_false, pure, Except.pure]

/-- A file that loads is the encoding of what it loads to. -/
theorem canonical_of_load {ownerSubject : String} {material : ByteArray} {records : RecordMap role}
    (h : load role ownerSubject material = .ok records) :
    material = (document ownerSubject records).canonicalBytes := by
  simp only [load, bind_eq_ok, refuseIf_eq_ok, pure_eq_ok, not_not, Except.ok.injEq] at h
  obtain ⟨-, -, parsed, -, fields, -, -, -, -, -, entries, -, -, -, loaded, -, indexes, -, -,
    hcanonical, rfl⟩ := h
  exact hcanonical

end

section

variable [Primitives] [RecordCodec] {role : JournalRole}

/-- Every map a journal reaches, in memory or in its file, loads from the bytes written for
    it, and a byte string that loads is the encoding of the map it loads to, so that no two
    byte strings load to one map. -/
theorem Journal.Reachable.load_inverts_persist {j : Journal role} (h : j.Reachable)
    (hrecords : ∀ e ∈ j.records.values, RoundTrips e.record)
    (hfile : ∀ e ∈ j.file.values, RoundTrips e.record) :
    load role j.ownerSubject (document j.ownerSubject j.records).canonicalBytes = .ok j.records ∧
    load role j.ownerSubject j.fileBytes = .ok j.file ∧
    (∀ material records, load role j.ownerSubject material = .ok records →
      material = (document j.ownerSubject records).canonicalBytes) ∧
    (∀ material material' records, load role j.ownerSubject material = .ok records →
      load role j.ownerSubject material' = .ok records → material = material') := by
  have hconsistent := h.consistent
  refine ⟨load_document hconsistent.recordsKeyed hconsistent.recordsWritable hrecords,
    load_document hconsistent.fileKeyed hconsistent.fileWritable hfile, ?_, ?_⟩
  · exact fun material records hload => canonical_of_load hload
  · intro material material' records hload hload'
    rw [canonical_of_load hload, canonical_of_load hload']

end

set_option maxRecDepth 10000 in
open Sample in
theorem load_inverts_persist_received :
    (gatewayJournal.runOps receiving).Reachable ∧
    (RecordMap.list (gatewayJournal.runOps receiving).records) = [newRecord samplePrepare none 1] ∧
    load .gateway (gatewayJournal.runOps receiving).ownerSubject
      (gatewayJournal.runOps receiving).fileBytes = .ok (gatewayJournal.runOps receiving).file := by
  have hreachable := reachable_runOps receiving
  have hrecords : RecordMap.list (gatewayJournal.runOps receiving).records =
      [newRecord samplePrepare none 1] := by decide +kernel
  have hfile : RecordMap.list (gatewayJournal.runOps receiving).file =
      [newRecord samplePrepare none 1] := by decide +kernel
  have htrips (m : RecordMap .gateway) (hlist : m.list = [newRecord samplePrepare none 1]) :
      ∀ e ∈ m.values, RoundTrips e.record := by
    intro e he
    have hmem : e.record ∈ m.list := List.mem_map_of_mem he
    rw [hlist, List.mem_singleton] at hmem
    rw [hmem]
    rfl
  exact ⟨hreachable, hrecords,
    (hreachable.load_inverts_persist (htrips _ hrecords) (htrips _ hfile)).2.1⟩

end AegisOt
