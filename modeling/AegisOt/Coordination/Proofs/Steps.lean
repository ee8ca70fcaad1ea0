import AegisOt.Coordination.Proofs.Updates
import AegisOt.Coordination.Sample

/-!
# Steps of a journal

From one record to the whole journal. `store_cases` says what `_store` can do, once; every
operation is then described by `Journal.Stepped`: the records it leaves behind grow out of the
ones before, the file with them, and only a failed write separates the two. The run lemmas at
the end are the inductions over sequences of operations, restarts included.
-/

namespace AegisOt

section

variable [Primitives] {role : JournalRole}

open CoordinationJournalRecord

/-! ## Growth of a map of records -/

/-- Every entry of `m` is extended in `m'`, and a new entry grew from a first record. -/
structure RecordsGrow (changes : Changes) (m m' : RecordMap role) : Prop where
  kept : ∀ k e, m.find? k = some e → ∃ e', m'.find? k = some e' ∧ e.record.Extends changes e'.record
  created : ∀ k e', m'.find? k = some e' → m.find? k = none →
    changes.create k ∧
      ∃ request receipt time, (newRecord request receipt time).Extends changes e'.record

namespace RecordsGrow

variable {changes : Changes} {m m' m'' : RecordMap role}

theorem refl (m : RecordMap role) : RecordsGrow changes m m :=
  ⟨fun _ e he => ⟨e, he, .refl _⟩, fun _ _ he hnone => by simp [hnone] at he⟩

theorem trans (h : RecordsGrow changes m m') (h' : RecordsGrow changes m' m'') :
    RecordsGrow changes m m'' := by
  refine ⟨?_, ?_⟩
  · intro k e he
    obtain ⟨e', he', hext⟩ := h.kept k e he
    obtain ⟨e'', he'', hext'⟩ := h'.kept k e' he'
    exact ⟨e'', he'', hext.trans hext'⟩
  · intro k e'' he'' hnone
    cases hmiddle : m'.find? k with
    | none => exact h'.created k e'' he'' hmiddle
    | some e' =>
      obtain ⟨hcreate, request, receipt, time, hnew⟩ := h.created k e' hmiddle hnone
      obtain ⟨f, hf, hext⟩ := h'.kept k e' hmiddle
      obtain rfl : f = e'' := Option.some.inj (hf.symm.trans he'')
      exact ⟨hcreate, request, receipt, time, hnew.trans hext⟩

theorem weaken {changes' : Changes} (hsub : changes.Within changes')
    (h : RecordsGrow changes m m') : RecordsGrow changes' m m' := by
  refine ⟨?_, ?_⟩
  · intro k e he
    obtain ⟨e', he', hext⟩ := h.kept k e he
    exact ⟨e', he', hext.weaken hsub⟩
  · intro k e' he' hnone
    obtain ⟨hcreate, request, receipt, time, hext⟩ := h.created k e' he' hnone
    exact ⟨hsub.2.2 k hcreate, request, receipt, time, hext.weaken hsub⟩

/-- Storing a permitted record grows the map. -/
theorem insert {j : Journal role} {entry : JournalEntry role}
    (h : j.Update changes entry.record) :
    RecordsGrow changes j.records (j.records.insert entry.record.effect.effectId entry) := by
  generalize hrecord : entry.record = r at h
  cases h with
  | create request receipt time hcreate hnew =>
    have hkey : entry.record.effect.effectId = request.effect.effectId := by rw [hrecord]; rfl
    rw [← hrecord]
    refine ⟨?_, ?_⟩
    · intro k e he
      have hne : entry.record.effect.effectId ≠ k := by
        rintro rfl
        rw [hkey, hnew] at he
        cases he
      exact ⟨e, by rw [SortedMap.find?_insert_of_ne _ _ hne]; exact he, .refl _⟩
    · intro k e' he' hnone
      rw [SortedMap.find?_insert] at he'
      split at he'
      · rename_i hk
        obtain rfl := Option.some.inj he'
        exact ⟨hk ▸ hkey ▸ hcreate, request, receipt, time, hrecord ▸ .refl _⟩
      · rw [hnone] at he'
        cases he'
  | extend old _ hfound hext =>
    have hkey : entry.record.effect.effectId = old.record.effect.effectId := by
      rw [hrecord, hext.effect]
    rw [← hrecord] at hext ⊢
    refine ⟨?_, ?_⟩
    · intro k e he
      rw [SortedMap.find?_insert]
      split
      · rename_i hk
        rw [← hk, hkey, hfound] at he
        obtain rfl := Option.some.inj he
        exact ⟨entry, rfl, hext⟩
      · exact ⟨e, he, .refl _⟩
    · intro k e' he' hnone
      rw [SortedMap.find?_insert] at he'
      split at he'
      · rename_i hk
        rw [← hk, hkey, hfound] at hnone
        cases hnone
      · rw [hnone] at he'
        cases he'

/-- A property of records that new records have and extensions keep stays true of a map. -/
theorem all {P : CoordinationJournalRecord → Prop} (h : RecordsGrow changes m m')
    (hextends : ∀ r r', r.Extends changes r' → P r → P r')
    (hnew : ∀ request receipt time, P (newRecord request receipt time))
    (hall : ∀ k e, m.find? k = some e → P e.record) :
    ∀ k e, m'.find? k = some e → P e.record := by
  intro k e' he'
  cases hfound : m.find? k with
  | none =>
    obtain ⟨-, request, receipt, time, hext⟩ := h.created k e' he' hfound
    exact hextends _ _ hext (hnew request receipt time)
  | some e =>
    obtain ⟨f, hf, hext⟩ := h.kept k e hfound
    obtain rfl : f = e' := Option.some.inj (hf.symm.trans he')
    exact hextends _ _ hext (hall k e hfound)

end RecordsGrow

theorem RecordMap.mem_list {records : RecordMap role} {r : CoordinationJournalRecord} :
    r ∈ records.list ↔ ∃ k e, records.find? k = some e ∧ e.record = r := by
  simp only [RecordMap.list, List.mem_map, SortedMap.mem_values]
  constructor
  · rintro ⟨e, ⟨k, hk⟩, rfl⟩
    exact ⟨k, e, hk, rfl⟩
  · rintro ⟨k, e, hk, rfl⟩
    exact ⟨e, ⟨k, hk⟩, rfl⟩

/-- Every entry sits under its own effect. -/
def Keyed (m : RecordMap role) : Prop :=
  ∀ k e, m.find? k = some e → e.record.effect.effectId = k

theorem Keyed.insert {m : RecordMap role} (h : Keyed m) (entry : JournalEntry role) :
    Keyed (m.insert entry.record.effect.effectId entry) := by
  intro k e he
  rw [SortedMap.find?_insert] at he
  split at he
  · obtain rfl := Option.some.inj he
    assumption
  · exact h k e he

/-! ## Stores -/

variable [RecordCodec]

omit [RecordCodec] in
theorem validatedRecord_eq_ok {record : CoordinationJournalRecord} {entry : JournalEntry role} :
    validatedRecord role record = .ok entry ↔ entry.record = record := by
  unfold validatedRecord
  constructor
  · intro h
    split at h
    · cases h
    · split at h
      · cases h
      · rw [← Except.ok.inj h]
  · rintro rfl
    split
    · rename_i cause hinvalid
      rw [entry.valid] at hinvalid
      cases hinvalid
    · split
      · rename_i error hinvalid
        rw [entry.roleValid] at hinvalid
        cases hinvalid
      · rfl

/-- The two checks a map passes before it is written. -/
structure Journal.Writable (j : Journal role) (records : RecordMap role) : Prop where
  indexed : ∃ indexes, actionIndexes records = .ok indexes
  fits : ¬ j.atCapacity records

theorem Journal.Writable.of_owner {j j' : Journal role} {records : RecordMap role}
    (h : j.Writable records) (howner : j'.ownerSubject = j.ownerSubject) : j'.Writable records := by
  refine ⟨h.indexed, ?_⟩
  have hfits := h.fits
  rw [Journal.atCapacity, ← howner] at hfits
  exact hfits

omit [RecordCodec] in
/-- What `_action_material` and `_action_indexes` raise. -/
theorem raises_scanActionMaterial {P : PyError → Prop} (hjournal : ∀ m, P (.journal m))
    (hcollision : ∀ m, P (.collision m)) (material : Option ActionMaterial)
    (attempts : List CoordinationAttempt) : Raises P (scanActionMaterial material attempts) := by
  induction attempts generalizing material with
  | nil => simp [scanActionMaterial]
  | cons a rest ih =>
    cases a <;> simp [scanActionMaterial, checkIdentity, ih, hjournal, hcollision]

omit [RecordCodec] in
theorem raises_scanActionIndexes {P : PyError → Prop} (hjournal : ∀ m, P (.journal m))
    (hcollision : ∀ m, P (.collision m)) (indexes : ActionIndexes)
    (records : List CoordinationJournalRecord) :
    Raises P (scanActionIndexes indexes records) := by
  induction records generalizing indexes with
  | nil => simp [scanActionIndexes]
  | cons r rest ih =>
    simp [scanActionIndexes, actionMaterial, raises_scanActionMaterial hjournal hcollision, ih,
      hcollision]

omit [RecordCodec] in
/-- What `_validated_record` raises. -/
theorem raises_validatedRecord {P : PyError → Prop} (hjournal : ∀ m, P (.journal m))
    {record : CoordinationJournalRecord}
    (hinvalid : ∀ cause, record.validate = .error cause → P (.invalidRecord cause)) :
    Raises P (validatedRecord role record) := by
  intro error h
  unfold validatedRecord at h
  split at h
  · rename_i cause hcause
    exact Except.error.inj h ▸ hinvalid cause hcause
  · split at h
    · rename_i error' hrole
      rw [validateRoleHistory, refuseIf_eq_error] at hrole
      rw [← Except.error.inj h, ← hrole.2]
      exact hjournal _
    · cases h

/-- What `_store` does to the journal. -/
inductive Journal.Stored (j : Journal role) (record : CoordinationJournalRecord) :
    WriteResult → Except PyError (JournalEntry role) × Journal role → Prop where
  /-- It raised before the file was touched. -/
  | refused (write : WriteResult) (error : PyError) (hcertain : error ≠ .uncertainUpdate) :
      Stored j record write (.error error, j)
  /-- The write failed. -/
  | uncertain (entry : JournalEntry role) (hentry : entry.record = record) (replaced : Bool)
      (hwritable : j.Writable (j.records.insert entry.record.effect.effectId entry)) :
      Stored j record (.failed replaced) (.error .uncertainUpdate, { j with
        unusable := true
        file := if replaced then j.records.insert entry.record.effect.effectId entry
          else j.file })
  /-- The record is in the file and in memory. -/
  | stored (entry : JournalEntry role) (hentry : entry.record = record)
      (hwritable : j.Writable (j.records.insert entry.record.effect.effectId entry)) :
      Stored j record .written (.ok entry, { j with
        records := j.records.insert entry.record.effect.effectId entry
        file := j.records.insert entry.record.effect.effectId entry })

theorem Journal.store_cases (j : Journal role) (record : CoordinationJournalRecord)
    (write : WriteResult) : j.Stored record write (j.store record write) := by
  unfold Journal.store
  split
  · rename_i error hinvalid
    exact .refused write _ (raises_validatedRecord (P := fun e => e ≠ .uncertainUpdate) (by simp)
      (by simp) error hinvalid)
  · rename_i entry hvalidated
    have hentry := validatedRecord_eq_ok.mp hvalidated
    dsimp only
    split
    · rename_i error hcollides
      exact .refused write _ (raises_scanActionIndexes (P := fun e => e ≠ .uncertainUpdate)
        (by simp) (by simp) _ _ error hcollides)
    · rename_i indexes hindexed
      cases write with
      | refused message => exact .refused _ _ (by simp)
      | failed replaced =>
        by_cases hfull : j.atCapacity (j.records.insert entry.record.effect.effectId entry)
        · simp only [Journal.persist, hfull, if_true]
          exact .refused _ _ (by simp)
        · simp only [Journal.persist, hfull, if_false]
          exact .uncertain entry hentry replaced ⟨⟨indexes, hindexed⟩, hfull⟩
      | written =>
        by_cases hfull : j.atCapacity (j.records.insert entry.record.effect.effectId entry)
        · simp only [Journal.persist, hfull, if_true]
          exact .refused _ _ (by simp)
        · simp only [Journal.persist, hfull, if_false]
          exact .stored entry hentry ⟨⟨indexes, hindexed⟩, hfull⟩

/-! ## Steps -/

/-- Memory and file agree unless a write failed, and then the file is ahead. -/
structure Journal.Consistent (j : Journal role) : Prop where
  recordsKeyed : Keyed j.records
  fileKeyed : Keyed j.file
  usable : j.unusable = false → j.file = j.records
  ahead : RecordsGrow .any j.records j.file
  recordsWritable : j.Writable j.records
  fileWritable : j.Writable j.file

/-- One operation: everything grows. -/
structure Journal.Stepped (changes : Changes) (j j' : Journal role) : Prop where
  consistent : j'.Consistent
  owner : j'.ownerSubject = j.ownerSubject
  records : RecordsGrow changes j.records j'.records
  file : RecordsGrow changes j.file j'.file

namespace Journal.Stepped

variable {changes : Changes} {j j' j'' : Journal role}

theorem refl (h : j.Consistent) : j.Stepped changes j :=
  ⟨h, rfl, .refl _, .refl _⟩

theorem trans (h : j.Stepped changes j') (h' : j'.Stepped changes j'') : j.Stepped changes j'' :=
  ⟨h'.consistent, h'.owner.trans h.owner, h.records.trans h'.records, h.file.trans h'.file⟩

theorem weaken {changes' : Changes} (hsub : changes.Within changes')
    (h : j.Stepped changes j') : j.Stepped changes' j' :=
  ⟨h.consistent, h.owner, h.records.weaken hsub, h.file.weaken hsub⟩

end Journal.Stepped

/-- A property of every record in memory and in the file. -/
def Journal.Everywhere (P : CoordinationJournalRecord → Prop) (j : Journal role) : Prop :=
  (∀ k e, j.records.find? k = some e → P e.record) ∧ ∀ k e, j.file.find? k = some e → P e.record

theorem Journal.Stepped.everywhere {P : CoordinationJournalRecord → Prop} {changes : Changes}
    {j j' : Journal role} (h : j.Stepped changes j')
    (hextends : ∀ r r', r.Extends changes r' → P r → P r')
    (hnew : ∀ request receipt time, P (newRecord request receipt time))
    (hall : j.Everywhere P) : j'.Everywhere P :=
  ⟨h.records.all hextends hnew hall.1, h.file.all hextends hnew hall.2⟩

/-- A usable journal that stores a permitted record steps. -/
theorem Journal.stepped_store {changes : Changes} {j : Journal role}
    {record : CoordinationJournalRecord} (write : WriteResult) (hconsistent : j.Consistent)
    (husable : j.unusable = false) (hupdate : j.Update changes record) :
    j.Stepped changes (j.store record write).2 := by
  have hfile := hconsistent.usable husable
  generalize hresult : j.store record write = result
  have hcases := j.store_cases record write
  rw [hresult] at hcases
  cases hcases with
  | refused _ error _ => exact .refl hconsistent
  | uncertain entry hentry replaced hwritable =>
    subst hentry
    have hgrow := RecordsGrow.insert hupdate
    have hkeyed := hconsistent.recordsKeyed.insert entry
    cases replaced with
    | false =>
      exact ⟨⟨hconsistent.recordsKeyed, hconsistent.fileKeyed, by simp, hconsistent.ahead,
        hconsistent.recordsWritable.of_owner rfl, hconsistent.fileWritable.of_owner rfl⟩, rfl,
        .refl _, .refl _⟩
    | true =>
      exact ⟨⟨hconsistent.recordsKeyed, hkeyed, by simp, hgrow.weaken changes.within_any,
        hconsistent.recordsWritable.of_owner rfl, hwritable.of_owner rfl⟩, rfl, .refl _,
        by rw [hfile]; exact hgrow⟩
  | stored entry hentry hwritable =>
    subst hentry
    have hgrow := RecordsGrow.insert hupdate
    have hkeyed := hconsistent.recordsKeyed.insert entry
    exact ⟨⟨hkeyed, hkeyed, fun _ => rfl, .refl _, hwritable.of_owner rfl,
      hwritable.of_owner rfl⟩, rfl, hgrow, by rw [hfile]; exact hgrow⟩

theorem Journal.stepped_carryOut {α : Type} {changes : Changes}
    {j : Journal role} {plan : Except PyError (Plan role α)} {write : WriteResult}
    (hconsistent : j.Consistent) (husable : j.unusable = false)
    (hplan : ∀ record k, plan = .ok (.store record k) → j.Update changes record) :
    j.Stepped changes (j.carryOut plan write).2 := by
  unfold Journal.carryOut
  split
  · exact .refl hconsistent
  · exact .refl hconsistent
  · rename_i record k
    have hstep := Journal.stepped_store write hconsistent husable (hplan record k rfl)
    split <;> simp_all

omit [RecordCodec] in
theorem Journal.usable_of_assertWriter {j : Journal role} (h : j.assertWriter = .ok ()) :
    j.unusable = false := by
  simp only [Journal.assertWriter, bind_unit_eq_ok, refuseIf_eq_ok] at h
  simpa using h.1

/-- An operation that is one guarded plan runs it on a usable journal. -/
theorem Journal.stepped_guarded_usable {α : Type} {changes : Changes}
    {j : Journal role} {plan : Except PyError (Plan role α)} {write : WriteResult}
    (hconsistent : j.Consistent)
    (hplan : j.unusable = false →
      ∀ record k, plan = .ok (.store record k) → j.Update changes record) :
    j.Stepped changes (j.carryOut (j.guarded plan) write).2 := by
  cases hwriter : j.assertWriter with
  | error error =>
    simp only [Journal.guarded, hwriter, error_bind, Journal.carryOut]
    exact .refl hconsistent
  | ok u =>
    have husable := Journal.usable_of_assertWriter hwriter
    simp only [Journal.guarded, hwriter, ok_bind]
    exact Journal.stepped_carryOut hconsistent husable (hplan husable)

/-- An operation that is one guarded plan. -/
theorem Journal.stepped_guarded {α : Type} {changes : Changes}
    {j : Journal role} {plan : Except PyError (Plan role α)} {write : WriteResult}
    (hconsistent : j.Consistent)
    (hplan : ∀ record k, plan = .ok (.store record k) → j.Update changes record) :
    j.Stepped changes (j.carryOut (j.guarded plan) write).2 :=
  Journal.stepped_guarded_usable hconsistent (fun _ => hplan)

/-- A stored entry is found under its effect. -/
theorem Journal.carryOut_store_ok {α : Type} {j : Journal role}
    {record : CoordinationJournalRecord} {k : JournalEntry role → α}
    {write : WriteResult} {result : α}
    (h : (j.carryOut (.ok (.store record k)) write).1 = .ok result) :
    ∃ entry, entry.record = record ∧ k entry = result ∧
      (j.carryOut (.ok (.store record k)) write).2.records.find? entry.record.effect.effectId =
        some entry := by
  simp only [Journal.carryOut] at h ⊢
  have hcases := j.store_cases record write
  generalize j.store record write = stored at hcases h ⊢
  cases hcases with
  | refused _ error _ => cases h
  | uncertain entry hentry replaced hwritable => cases h
  | stored entry hentry hwritable => exact ⟨entry, hentry, Except.ok.inj h, by simp⟩

/-- A plan that returned did not lose the journal. -/
theorem Journal.carryOut_ok_unusable {α : Type} {j : Journal role}
    {plan : Except PyError (Plan role α)} {write : WriteResult} {result : α}
    (h : (j.carryOut plan write).1 = .ok result) :
    (j.carryOut plan write).2.unusable = j.unusable := by
  unfold Journal.carryOut at h ⊢
  split at h
  · rfl
  · rfl
  · rename_i record k
    have hcases := j.store_cases record write
    generalize j.store record write = stored at hcases h ⊢
    cases hcases with
    | refused _ error _ => rfl
    | uncertain entry hentry replaced hwritable => cases h
    | stored entry hentry hwritable => rfl

/-- `_begin_query_record` returns the entry that is in the journal, with the attempt in it. -/
theorem Journal.beginQueryRecord_found {j : Journal role} {request : SignedEffectQueryRequest}
    {recordedAt : Option RecordedAt} {now : Time} {allowTerminal : Bool} {write : WriteResult}
    {entry : JournalEntry role} {attempt : EffectQueryAttempt}
    (h : (j.carryOut (j.beginQueryRecord request recordedAt now allowTerminal) write).1 =
      .ok (entry, attempt)) :
    (j.carryOut (j.beginQueryRecord request recordedAt now allowTerminal)
        write).2.records.find? entry.record.effect.effectId = some entry ∧
      .query attempt ∈ entry.record.attempts := by
  cases hplan : j.beginQueryRecord request recordedAt now allowTerminal with
  | error error =>
    rw [hplan] at h
    cases h
  | ok plan =>
    rw [hplan] at h
    simp only [Journal.beginQueryRecord, bind_eq_ok, orRaise_eq_ok] at hplan
    obtain ⟨found, hlookup, old, rfl, hplan⟩ := hplan
    split at hplan
    · rename_i retained hretained
      obtain rfl := Except.ok.inj hplan
      obtain ⟨rfl, rfl⟩ := Prod.mk.inj (Except.ok.inj h)
      exact ⟨Journal.found_of_lookup hlookup, (mem_of_queryAttempt hretained).1⟩
    · simp only [bind_eq_ok] at hplan
      obtain ⟨⟨⟩, -, ⟨⟩, -, time, -, ⟨⟩, -, hplan⟩ := hplan
      obtain rfl := Except.ok.inj hplan
      obtain ⟨stored, hrecord, hresult, hfound⟩ := Journal.carryOut_store_ok h
      obtain ⟨rfl, rfl⟩ := Prod.mk.inj hresult
      refine ⟨hfound, ?_⟩
      rw [hrecord]
      simp [CoordinationJournalRecord.appendAttempt]

omit [RecordCodec] in
/-- `_complete_query_record` finds the entry that is in the journal, with the attempt in it. -/
theorem Journal.findQuery_found {j : Journal role} {request : SignedEffectQueryRequest}
    {outcome : SignedEffectOutcome} {recordedAt : Option RecordedAt} {now time : Time}
    {entry : JournalEntry role} {attempt : EffectQueryAttempt}
    (h : j.findQuery request outcome recordedAt now = .ok (entry, time, some attempt)) :
    j.records.find? entry.record.effect.effectId = some entry ∧
      .query attempt ∈ entry.record.attempts := by
  simp only [Journal.findQuery, bind_eq_ok, orRaise_eq_ok] at h
  obtain ⟨⟨⟩, -, found, hlookup, old, rfl, ⟨⟩, -, when_, -, h⟩ := h
  simp only [pure_eq_ok, Except.ok.injEq, Prod.mk.injEq] at h
  obtain ⟨rfl, rfl, hattempt⟩ := h
  exact ⟨Journal.found_of_lookup hlookup, (mem_of_queryAttempt hattempt).1⟩

theorem Journal.stepped_completeQueryRecord {changes : Changes}
    {j : Journal role} {request : SignedEffectQueryRequest} {outcome : SignedEffectOutcome}
    {recordedAt : Option RecordedAt} {now : Time} {create : Bool}
    {writes : WriteResult × WriteResult} (hfresh : changes.outcome outcome)
    (hconsistent : j.Consistent) (husable : j.unusable = false) :
    j.Stepped changes
      (j.completeQueryRecord request outcome recordedAt now create writes).2 := by
  unfold Journal.completeQueryRecord
  split
  · exact .refl hconsistent
  · rename_i entry time attempt hquery
    obtain ⟨hfound, hattempt⟩ := Journal.findQuery_found hquery
    exact Journal.stepped_carryOut hconsistent husable
      (fun _ _ hplan => update_completeRetainedQuery hfresh hfound hattempt hplan)
  · rename_i time hquery
    split
    · have hfirst : j.Stepped changes (j.carryOut
          (j.beginQueryRecord request (some (.aware time)) now true) writes.1).2 :=
        Journal.stepped_carryOut hconsistent husable
          (fun _ _ hplan => update_beginQueryRecord hplan)
      split
      · rename_i error j' hresult
        exact (congrArg Prod.snd hresult) ▸ hfirst
      · rename_i entry attempt j' hresult
        obtain ⟨hfound, hattempt⟩ := Journal.beginQueryRecord_found (congrArg Prod.fst hresult)
        have husable' := Journal.carryOut_ok_unusable (congrArg Prod.fst hresult)
        rw [hresult] at hfirst hfound husable'
        exact hfirst.trans (Journal.stepped_carryOut hfirst.consistent
          (husable'.trans husable)
          (fun _ _ hplan => update_completeRetainedQuery hfresh hfound hattempt hplan))
    · exact .refl hconsistent

/-- What `_begin_commit_record` returned: a retained attempt and no write, or a record that had
    no commit attempt before and was stored with one. -/
inductive Journal.CommitBegun (j : Journal role) (request : SignedEffectCommitRequest)
    (issue : Option CommitAcceptanceIssuer) (recordedAt : Option RecordedAt) (j' : Journal role) :
    JournalEntry role × Bool → Prop where
  | retained (entry : JournalEntry role) (hsame : j' = j)
      (hfound : j.records.find? request.effect.effectId = some entry)
      (heffect : entry.record.effect = request.effect)
      (hretained : (entry.record.commitAttempt request).isSome = true) :
      CommitBegun j request issue recordedAt j' (entry, false)
  | created (old entry : JournalEntry role) (acceptance : Option DurableCommitAcceptance)
      (time : Time) (htime : ∀ t, recordedAt = some (.aware t) → time = t)
      (hold : j.records.find? request.effect.effectId = some old)
      (heffect : old.record.effect = request.effect) (hfresh : old.record.hasCommit = false)
      (hstate : old.record.state = .dispatchArmed)
      (hissued : issueAcceptanceFor issue request time = .ok acceptance)
      (hrecord : committedRecord old.record request acceptance time = .ok entry.record)
      (hfound : j'.records.find? entry.record.effect.effectId = some entry) :
      CommitBegun j request issue recordedAt j' (entry, true)

theorem Journal.commitBegun {j : Journal role} {request : SignedEffectCommitRequest}
    {issue : Option CommitAcceptanceIssuer} {recordedAt : Option RecordedAt} {now : Time}
    {write : WriteResult} {result : JournalEntry role × Bool}
    (h : (j.carryOut (j.guarded (j.beginCommitRecord request issue recordedAt now)) write).1 =
      .ok result) :
    j.CommitBegun request issue recordedAt (j.carryOut
      (j.guarded (j.beginCommitRecord request issue recordedAt now)) write).2 result := by
  cases hplan : j.guarded (j.beginCommitRecord request issue recordedAt now) with
  | error error =>
    rw [hplan] at h
    cases h
  | ok plan =>
    rw [hplan] at h
    simp only [Journal.guarded, Journal.beginCommitRecord, bind_eq_ok, orRaise_eq_ok] at hplan
    obtain ⟨⟨⟩, -, found, hlookup, old, rfl, hplan⟩ := hplan
    obtain ⟨hfound, heffect⟩ := Journal.lookup_eq_some.mp hlookup
    split at hplan
    · rename_i hretained
      obtain rfl := Except.ok.inj hplan
      obtain rfl := Except.ok.inj h
      exact .retained old rfl hfound heffect hretained
    · simp only [bind_eq_ok, refuseIf_eq_ok, exists_const] at hplan
      obtain ⟨hfresh, -, hstate, -, -, -, time, hwhen, acceptance, hissued, updated, hupdated,
        hplan⟩ := hplan
      obtain rfl := Except.ok.inj hplan
      obtain ⟨entry, rfl, rfl, hstored⟩ := Journal.carryOut_store_ok h
      have htime : ∀ t, recordedAt = some (.aware t) → time = t := by
        rintro t rfl
        exact (Except.ok.inj hwhen).symm
      exact .created old entry acceptance time htime hfound heffect (by simpa using hfresh)
        (not_not.mp hstate) hissued hupdated hstored

/-! ## Operations -/

/-- What a gateway operation may bring into a record. -/
def GatewayOp.changes (j : Journal .gateway) : GatewayOp → Changes
  | .retainCommitOutcome _ outcome _ | .completeQuery _ outcome _ =>
      .answering (fun o => o = outcome)
  | .closeNotDispatched effect .. =>
      ⟨fun _ => False, fun committed => ∃ e, j.records.find? effect.effectId = some e ∧
        e.record.state.canTransitionTo .notDispatched = true ∧ e.record.hasCommit = committed,
        fun _ => False⟩
  | .begin request _ => .creating request.effect.effectId
  | .retainPreparation .. | .beginCommit .. | .markCommitUnknown .. | .beginQuery ..
  | .failQuery .. => .none

/-- What an effect-coordinator operation may bring into a record. -/
def EffectOp.changes : EffectOp → Changes
  | .finishCommit _ outcome _ | .retainQueryOutcome _ outcome _ =>
      .answering (fun o => o = outcome)
  | .answerQuery request issue _ =>
      .answering (fun o => ∃ record time, issue request record time = .ok o)
  | .prepareEffect request .. => .creating request.effect.effectId
  | .beginCommit .. | .markCommitUnknown .. => .none

theorem Journal.stepped_completeQuery {changes : Changes} {j : Journal role}
    {request : SignedEffectQueryRequest} {outcome : SignedEffectOutcome}
    {recordedAt : Option RecordedAt} {now : Time} {create : Bool}
    {writes : WriteResult × WriteResult} (hfresh : changes.outcome outcome)
    (hconsistent : j.Consistent) :
    j.Stepped changes (j.completeQuery request outcome recordedAt now create writes).2 := by
  unfold Journal.completeQuery
  split
  · exact .refl hconsistent
  · rename_i hwriter
    exact Journal.stepped_completeQueryRecord hfresh hconsistent
      (Journal.usable_of_assertWriter hwriter)

theorem GatewayOp.run_stepped (op : GatewayOp) {j : Journal .gateway} (env : OpEnv)
    (hconsistent : j.Consistent) : j.Stepped (op.changes j) (op.run j env).2 := by
  cases op with
  | begin request recordedAt =>
    exact Journal.stepped_guarded hconsistent (fun _ _ h => update_begin rfl h)
  | retainPreparation request receipt recordedAt =>
    exact Journal.stepped_guarded hconsistent (fun _ _ h => update_retainPreparation h)
  | beginCommit request recordedAt =>
    exact Journal.stepped_guarded hconsistent (fun _ _ h => update_beginCommitRecord h)
  | markCommitUnknown request reason evidence recordedAt =>
    exact Journal.stepped_guarded hconsistent (fun _ _ h => update_markCommitUnknownRecord h)
  | retainCommitOutcome request outcome recordedAt =>
    exact Journal.stepped_guarded hconsistent (fun _ _ h => update_finishCommitRecord rfl h)
  | beginQuery request recordedAt =>
    exact Journal.stepped_guarded hconsistent (fun _ _ h => update_beginQueryRecord h)
  | completeQuery request outcome recordedAt =>
    exact Journal.stepped_completeQuery rfl hconsistent
  | failQuery request reason evidence recordedAt =>
    exact Journal.stepped_guarded hconsistent (fun _ _ h => update_failQueryRecord h)
  | closeNotDispatched effect reason evidence recordedAt =>
    exact Journal.stepped_guarded hconsistent (fun _ _ h => update_closeNotDispatched
      (fun e hfound hlegal => ⟨e, hfound, hlegal, rfl⟩) h)

omit [RecordCodec] in
/-- An answer that is issued comes from the caller's issuer, on a usable journal. -/
theorem Journal.issueAnswer_issued {j : Journal .effectCoordinator}
    {request : SignedEffectQueryRequest} {issue : OutcomeIssuer}
    {recordedAt : Option RecordedAt} {now time : Time} {outcome : SignedEffectOutcome}
    (h : j.issueAnswer request issue recordedAt now = .ok (.inr (time, outcome))) :
    j.unusable = false ∧ ∃ record, issue request record time = .ok outcome := by
  simp only [Journal.issueAnswer, bind_eq_ok, orRaise_eq_ok] at h
  obtain ⟨⟨⟩, hwriter, found, -, entry, rfl, hanswer⟩ := h
  split at hanswer
  · cases hanswer
  · simp only [bind_eq_ok, calling_eq_ok] at hanswer
    obtain ⟨when_, -, issued, hissued, hanswer⟩ := hanswer
    simp only [pure_eq_ok, Except.ok.injEq, Sum.inr.injEq, Prod.mk.injEq] at hanswer
    obtain ⟨rfl, rfl⟩ := hanswer
    exact ⟨Journal.usable_of_assertWriter hwriter, entry.record, hissued⟩

/-- An answer brings the one outcome that was issued for it. -/
theorem Journal.stepped_issuedAnswer {j : Journal .effectCoordinator}
    {request : SignedEffectQueryRequest} {issue : OutcomeIssuer}
    {recordedAt : Option RecordedAt} {now : Time} {writes : WriteResult × WriteResult}
    (hconsistent : j.Consistent) :
    j.Stepped (.answering (fun o =>
        ∃ time, j.issueAnswer request issue recordedAt now = .ok (.inr (time, o))))
      (j.answerQuery request issue recordedAt now writes).2 := by
  unfold Journal.answerQuery
  split
  · exact .refl hconsistent
  · exact .refl hconsistent
  · rename_i time outcome hanswer
    exact Journal.stepped_completeQueryRecord ⟨time, hanswer⟩ hconsistent
      (Journal.issueAnswer_issued hanswer).1

theorem Journal.stepped_answerQuery {j : Journal .effectCoordinator}
    {request : SignedEffectQueryRequest} {issue : OutcomeIssuer}
    {recordedAt : Option RecordedAt} {now : Time} {writes : WriteResult × WriteResult}
    (hconsistent : j.Consistent) :
    j.Stepped (.answering (fun o => ∃ record time, issue request record time = .ok o))
      (j.answerQuery request issue recordedAt now writes).2 := by
  refine (Journal.stepped_issuedAnswer hconsistent).weaken (Changes.answering_within ?_)
  rintro outcome ⟨time, hanswer⟩
  obtain ⟨-, record, hissued⟩ := Journal.issueAnswer_issued hanswer
  exact ⟨record, time, hissued⟩

theorem EffectOp.run_stepped (op : EffectOp) {j : Journal .effectCoordinator} (env : OpEnv)
    (hconsistent : j.Consistent) : j.Stepped op.changes (op.run j env).2 := by
  cases op with
  | prepareEffect request issue recordedAt =>
    exact Journal.stepped_guarded hconsistent (fun _ _ h => update_prepareEffect rfl h)
  | beginCommit request issue recordedAt =>
    exact Journal.stepped_guarded hconsistent (fun _ _ h => update_beginCommitRecord h)
  | finishCommit request outcome recordedAt =>
    have hfresh : (EffectOp.finishCommit request outcome recordedAt).changes.outcome outcome := rfl
    exact Journal.stepped_guarded hconsistent (fun _ _ h => update_finishCommitRecord hfresh h)
  | markCommitUnknown request reason evidence recordedAt =>
    exact Journal.stepped_guarded hconsistent (fun _ _ h => update_markCommitUnknownRecord h)
  | retainQueryOutcome request outcome recordedAt =>
    exact Journal.stepped_completeQuery rfl hconsistent
  | answerQuery request issue recordedAt => exact Journal.stepped_answerQuery hconsistent

theorem JournalOp.run_stepped (op : JournalOp role) {j : Journal role} (env : OpEnv)
    (hconsistent : j.Consistent) : j.Stepped .any (op.run j env).2 := by
  cases op with
  | gateway op => exact (op.run_stepped env hconsistent).weaken (Changes.within_any _)
  | effect op => exact (op.run_stepped env hconsistent).weaken (Changes.within_any _)

/-! ## Runs -/

theorem Journal.consistent_restart {j : Journal role} (h : j.Consistent) :
    j.restart.Consistent :=
  ⟨h.fileKeyed, h.fileKeyed, fun _ => rfl, .refl _, h.fileWritable.of_owner rfl,
    h.fileWritable.of_owner rfl⟩

/-- One event of a journal's life grows the records and the file. -/
theorem JournalStep.stepped {j j' : Journal role} (h : JournalStep j j')
    (hconsistent : j.Consistent) : j.Stepped .any j' := by
  cases h with
  | op op env => exact op.run_stepped env hconsistent
  | close =>
    exact ⟨⟨hconsistent.recordsKeyed, hconsistent.fileKeyed, hconsistent.usable,
      hconsistent.ahead, hconsistent.recordsWritable.of_owner rfl,
      hconsistent.fileWritable.of_owner rfl⟩, rfl, .refl _, .refl _⟩
  | restart =>
    exact ⟨Journal.consistent_restart hconsistent, rfl, hconsistent.ahead, .refl _⟩

/-- So does a whole run. -/
theorem JournalRun.stepped {j j' : Journal role} (h : JournalRun j j')
    (hconsistent : j.Consistent) : j.Stepped .any j' := by
  induction h with
  | refl => exact .refl hconsistent
  | tail _ hstep ih => exact ih.trans (hstep.stepped ih.consistent)

theorem Journal.consistent_initialized {ownerSubject : String} {write : WriteResult}
    {j : Journal role} (h : Journal.initialized ownerSubject write = .ok j) :
    j.Consistent ∧ j.records = SortedMap.empty ∧ j.file = SortedMap.empty := by
  simp only [Journal.initialized, bind_eq_ok, pure_eq_ok, Except.ok.injEq] at h
  obtain ⟨owner, -, ⟨⟩, hwritten, rfl⟩ := h
  cases write with
  | refused message => cases hwritten
  | failed replaced =>
    simp only [Journal.persist] at hwritten
    split at hwritten <;> cases hwritten
  | written =>
    simp only [Journal.persist] at hwritten ⊢
    split at hwritten
    · cases hwritten
    · rename_i hfits
      rw [if_neg hfits]
      have hkeyed : Keyed (SortedMap.empty : RecordMap role) := fun k e he => by simp at he
      exact ⟨⟨hkeyed, hkeyed, fun _ => rfl, .refl _, ⟨⟨_, rfl⟩, hfits⟩, ⟨⟨_, rfl⟩, hfits⟩⟩,
        rfl, rfl⟩

theorem Journal.everywhere_initialized {P : CoordinationJournalRecord → Prop}
    {ownerSubject : String} {write : WriteResult} {j : Journal role}
    (h : Journal.initialized ownerSubject write = .ok j) : j.Everywhere P := by
  obtain ⟨-, hrecords, hfile⟩ := Journal.consistent_initialized h
  refine ⟨fun k e he => ?_, fun k e he => ?_⟩
  · simp [hrecords] at he
  · simp [hfile] at he

theorem Journal.Reachable.consistent {j : Journal role} (h : j.Reachable) : j.Consistent := by
  obtain ⟨owner, write, j₀, hinit, hrun⟩ := h
  exact (hrun.stepped (Journal.consistent_initialized hinit).1).consistent

theorem Journal.Reachable.run {j j' : Journal role} (h : j.Reachable) (hrun : JournalRun j j') :
    j'.Reachable := by
  obtain ⟨owner, write, j₀, hinit, hrun₀⟩ := h
  exact ⟨owner, write, j₀, hinit, hrun₀.trans hrun⟩

theorem JournalRun.runOps (j : Journal role) (ops : List (JournalOp role × OpEnv)) :
    JournalRun j (j.runOps ops) := by
  induction ops generalizing j with
  | nil => exact .refl
  | cons step rest ih => exact .head (.op j step.1 step.2) (ih _)

omit [RecordCodec] in
/-- An entry with a property that can be evaluated. -/
theorem Journal.exists_entry (j : Journal role) (k : EffectId) (p : JournalEntry role → Bool)
    (h : (j.records.find? k).any p = true) : ∃ e, j.records.find? k = some e ∧ p e = true := by
  simpa [Option.any_eq_true] using h

end

open Sample in
/-- What the sample journal reaches by operations is reachable. -/
theorem Sample.reachable_runOps (ops : List (JournalOp .gateway × OpEnv)) :
    (gatewayJournal.runOps ops).Reachable :=
  ⟨"gateway", .written, gatewayJournal, by decide +kernel, .runOps _ _⟩

end AegisOt
