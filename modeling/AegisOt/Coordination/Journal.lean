import AegisOt.Coordination.Record
import AegisOt.Misc.Json
import Mathlib.Order.Fin.Basic

/-!
# The durable journal

`_DurableCoordinationJournal` of `coordination_journal.py`: the map of validated records held
in memory, the file that `_persist` replaces, and the checks of `_store`. The operating system
enters as a `WriteResult`: what happened to one call of `_persist`.

The file is represented by the map its bytes encode; `Journal.fileBytes` are the bytes.
`AegisOt.Coordination.Proofs.Durability` proves that `_load` of these bytes gives that map
back, so a restart (`Journal.restart`) continues from it.
-/

namespace AegisOt

/-! ## Exceptions -/

/-- What a caller's callback raises inside an operation. -/
inductive CallbackError where
  /-- `ValueError`, pydantic's `ValidationError` included. -/
  | value (message : String)
  /-- `CapabilityRuntimeUnavailable` of the OT runtime. -/
  | unavailable (reason : String)
  deriving DecidableEq

/-- The exceptions the modelled code raises, with their texts. -/
inductive PyError where
  /-- `CoordinationJournalError`. -/
  | journal (message : String)
  /-- `CoordinationCollisionError`. -/
  | collision (message : String)
  /-- `IllegalCoordinationTransition`. -/
  | illegal (message : String)
  /-- The `CoordinationJournalError` "coordination journal record is invalid", with the
      `ValueError` it was raised from. -/
  | invalidRecord (cause : ValidationError)
  /-- The `CoordinationJournalError` of a failed `_persist`, after which the journal is
      unusable. -/
  | uncertainUpdate
  /-- `ValueError`, pydantic's `ValidationError` included. -/
  | value (cause : ValidationError)
  /-- What a caller's callback raised. -/
  | callback (cause : CallbackError)
  deriving DecidableEq

/-- A pydantic validator raising `ValidationError`. -/
def validating {α : Type} : Except ValidationError α → Except PyError α
  | .ok a => .ok a
  | .error cause => .error (.value cause)

@[simp] theorem validating_eq_ok {α : Type} {x : Except ValidationError α} {a : α} :
    validating x = .ok a ↔ x = .ok a := by
  cases x <;> simp [validating]

/-- A caller's callback raising. -/
def calling {α : Type} : Except CallbackError α → Except PyError α
  | .ok a => .ok a
  | .error cause => .error (.callback cause)

@[simp] theorem calling_eq_ok {α : Type} {x : Except CallbackError α} {a : α} :
    calling x = .ok a ↔ x = .ok a := by
  cases x <;> simp [calling]

/-! ## Entries -/

/-- `JOURNAL_ROLE`. -/
inductive JournalRole where
  | gateway
  | effectCoordinator
  deriving DecidableEq, Repr

/-- `_validate_role_history`. -/
def validateRoleHistory (role : JournalRole) (record : CoordinationJournalRecord) :
    Except PyError Unit :=
  refuseIf (role = .effectCoordinator ∧
      ∃ attempt ∈ record.attempts, attempt.isCommit = true ∧ attempt.acceptance? = none)
    (.journal "effect-coordinator commit history lacks durable acceptance")

variable [Primitives]

/-- A record that passed `_validated_record` under a role. The journal holds no other. -/
structure JournalEntry (role : JournalRole) where
  record : CoordinationJournalRecord
  valid : record.validate = .ok ()
  roleValid : validateRoleHistory role record = .ok ()

namespace JournalEntry

variable {role : JournalRole}

@[ext] theorem ext {a b : JournalEntry role} (h : a.record = b.record) : a = b := by
  cases a; cases b; simp_all

instance : DecidableEq (JournalEntry role) := fun a b =>
  decidable_of_iff (a.record = b.record) ⟨ext, fun h => h ▸ rfl⟩

end JournalEntry

/-- `_validated_record`. -/
def validatedRecord (role : JournalRole) (record : CoordinationJournalRecord) :
    Except PyError (JournalEntry role) :=
  match valid : record.validate with
  | .error cause => .error (.invalidRecord cause)
  | .ok () =>
      match roleValid : validateRoleHistory role record with
      | .error error => .error error
      | .ok () => .ok ⟨record, valid, roleValid⟩

/-! ## Action replay namespaces -/

/-- `_identity`. -/
def checkIdentity (label value : String) : Except PyError String := do
  refuseIf (lengthWithin 1 256 value = false ∨ hasOuterWhitespace value = true)
    (.journal ("coordination journal " ++ label ++ " is invalid"))
  pure value

/-- The digest, actor and nonce of an agent action. -/
structure ActionMaterial where
  requestSha256 : Sha256
  actorId : String
  proposalNonce : String
  deriving DecidableEq

/-- The loop of `_action_material`. -/
def scanActionMaterial (material : Option ActionMaterial) :
    List CoordinationAttempt → Except PyError (Option ActionMaterial)
  | [] => pure material
  | .prepare attempt :: rest => do
      let action := attempt.request.dispatch.request
      let actorId ← checkIdentity "action actor ID" action.proposal.actorId
      let proposalNonce ← checkIdentity "action proposal nonce" action.proposal.nonce
      let candidate : ActionMaterial := ⟨action.digest, actorId, proposalNonce⟩
      refuseIf (∃ m ∈ material, m ≠ candidate)
        (.collision "coordination effect retains conflicting agent action material")
      scanActionMaterial (some candidate) rest
  | .commit _ :: rest => scanActionMaterial material rest
  | .query _ :: rest => scanActionMaterial material rest

/-- `_action_material`. -/
def actionMaterial (record : CoordinationJournalRecord) : Except PyError ActionMaterial := do
  let material ← scanActionMaterial none record.attempts
  let missing : PyError := .collision "coordination effect lacks its exact agent action request"
  let material ← orRaise material missing
  refuseIf (material.requestSha256 ≠ record.effect.requestSha256) missing
  pure material

/-- The two indexes `_action_indexes` builds, newest assignment first. -/
structure ActionIndexes where
  byRequest : List (Sha256 × CoordinationJournalRecord)
  byActorNonce : List ((String × String) × CoordinationJournalRecord)

/-- The loop of `_action_indexes` over the records in key order. -/
def scanActionIndexes (indexes : ActionIndexes) :
    List CoordinationJournalRecord → Except PyError ActionIndexes
  | [] => pure indexes
  | record :: rest => do
      let material ← actionMaterial record
      refuseIf (∃ retained ∈ lookupEntry material.requestSha256 indexes.byRequest,
          retained.effect ≠ record.effect)
        (.collision "coordination action request digest maps to multiple effects")
      let replayKey := (material.actorId, material.proposalNonce)
      refuseIf (∃ retained ∈ lookupEntry replayKey indexes.byActorNonce,
          retained.effect ≠ record.effect ∨
            retained.effect.requestSha256 ≠ material.requestSha256)
        (.collision "coordination agent replay key maps to multiple actions or effects")
      scanActionIndexes
        { byRequest := (material.requestSha256, record) :: indexes.byRequest
          byActorNonce := (replayKey, record) :: indexes.byActorNonce } rest

/-- `self._records`. -/
abbrev RecordMap (role : JournalRole) := SortedMap EffectId (JournalEntry role)

/-- The records in key order. -/
def RecordMap.list {role : JournalRole} (records : RecordMap role) :
    List CoordinationJournalRecord :=
  records.values.map (fun e => e.record)

/-- `_action_indexes`. -/
def actionIndexes {role : JournalRole} (records : RecordMap role) :
    Except PyError ActionIndexes :=
  scanActionIndexes ⟨[], []⟩ records.list

/-! ## The document -/

/-- `MAX_ENTRIES`. -/
def maxEntries : Nat := 8192

/-- `MAX_JOURNAL_BYTES`. -/
def maxJournalBytes : Nat := 8 * 1024 * 1024

/-- `SCHEMA_VERSION`. -/
def journalSchemaVersion : String := "m4i-coordination-journal-v2"

/-- The enumeration value. -/
def JournalRole.value : JournalRole → String
  | .gateway => "gateway"
  | .effectCoordinator => "effect_coordinator"

/-- pydantic on journal records: `model_dump(mode="json")`, and `model_validate_json` of a raw
    entry before the validators run (`none` is a `ValidationError` on the entry's shape). -/
class RecordCodec where
  dump : CoordinationJournalRecord → JsonObject
  parse : List (String × Json) → Option CoordinationJournalRecord

variable [RecordCodec]

/-- `_document`. -/
def document {role : JournalRole} (ownerSubject : String) (records : RecordMap role) : Json :=
  .obj [("entries", .arr (records.list.map (fun r => .obj (RecordCodec.dump r).members))),
    ("journal_role", .str role.value),
    ("owner_subject", .str ownerSubject),
    ("schema_version", .str journalSchemaVersion)]

/-! ## Loading -/

/-- `value == text` for a parsed value. -/
def isText (text : String) : Json → Bool
  | .str value => decide (value = text)
  | _ => false

/-- The fields of a parsed document. -/
structure DocumentFields where
  entries : Json
  journalRole : Json
  ownerSubject : Json
  schemaVersion : Json

/-- The `isinstance` and field-set check of `_load`: a parsed object holds its keys in order. -/
def documentFields : Json → Option DocumentFields
  | .obj [(entriesKey, entries), (roleKey, journalRole), (ownerKey, ownerSubject),
      (schemaKey, schemaVersion)] =>
      if entriesKey = "entries" ∧ roleKey = "journal_role" ∧ ownerKey = "owner_subject" ∧
          schemaKey = "schema_version" then
        some ⟨entries, journalRole, ownerSubject, schemaVersion⟩
      else none
  | _ => none

/-- The items of a parsed array. -/
def arrayItems : Json → Option (List Json)
  | .arr items => some items
  | _ => none

/-- `json.loads` with the hooks of `_load`. -/
def parseJournal (material : ByteArray) : Except PyError Json :=
  match Json.loadsBytes material with
  | .ok parsed => .ok parsed
  | .error .duplicateKey => .error (.journal "coordination journal has a duplicate JSON key")
  | .error .value => .error (.journal "coordination journal is not strict UTF-8 JSON")

/-- One raw entry of `_load`: its shape, `model_validate_json` and `_validate_role_history`. -/
def loadEntry (role : JournalRole) : Json → Except PyError (JournalEntry role)
  | .obj members => do
      let invalid : PyError := .journal "coordination journal contains an invalid record"
      let record ← orRaise (RecordCodec.parse members) invalid
      match validatedRecord role record with
      | .error (.invalidRecord _) => .error invalid
      | result => result
  | _ => .error (.journal "coordination journal entry shape is invalid")

/-- The loop of `_load` over the raw entries. -/
def loadEntries {role : JournalRole} (records : RecordMap role)
    (priorEffectId : Option EffectId) : List Json → Except PyError (RecordMap role)
  | [] => pure records
  | rawEntry :: rest => do
      let entry ← loadEntry role rawEntry
      let effectId := entry.record.effect.effectId
      refuseIf (∃ prior ∈ priorEffectId, effectId ≤ prior)
        (.journal "coordination journal entries are not sorted and unique")
      loadEntries (records.insert effectId entry) (some effectId) rest

/-- `_load` of the bytes that `_read` returned. -/
def load (role : JournalRole) (ownerSubject : String) (material : ByteArray) :
    Except PyError (RecordMap role) := do
  refuseIf (maxJournalBytes < material.size)
    (.journal "coordination journal exceeds its size limit")
  let parsed ← parseJournal material
  let fields ← orRaise (documentFields parsed)
    (.journal "coordination journal has unexpected or missing fields")
  refuseIf (isText journalSchemaVersion fields.schemaVersion = false)
    (.journal "coordination journal schema is unsupported")
  refuseIf (isText role.value fields.journalRole = false ∨
      isText ownerSubject fields.ownerSubject = false)
    (.journal "coordination journal identity does not match configuration")
  let invalidEntries : PyError := .journal "coordination journal entry set is invalid"
  let entries ← orRaise (arrayItems fields.entries) invalidEntries
  refuseIf (maxEntries < entries.length) invalidEntries
  let records ← loadEntries SortedMap.empty none entries
  let _ ← actionIndexes records
  refuseIf (material ≠ (document ownerSubject records).canonicalBytes)
    (.journal "coordination journal encoding is not canonical")
  pure records

/-! ## State and persistence -/

/-- A journal object and its file. -/
structure Journal (role : JournalRole) where
  ownerSubject : String
  /-- `self._records`. -/
  records : RecordMap role
  /-- The map the file's bytes encode. -/
  file : RecordMap role
  /-- `self._unusable`. -/
  unusable : Bool
  /-- `self._writer_lock` is held by this process. -/
  lockHeld : Bool
  deriving DecidableEq

/-- The argument of `get`: an identity, or a text. A text that is no digest names no record. -/
inductive EffectRef where
  | identity (effect : EffectIdentity)
  | effectId (effectId : EffectId)
  | text (value : String)
  deriving DecidableEq

/-- What the operating system did with one `_persist`. -/
inductive WriteResult where
  /-- The file was replaced and the directory synced. -/
  | written
  /-- `_assert_writer` or `_check_parent` refused before anything was written. -/
  | refused (message : String)
  /-- An `OSError`, before or after `os.replace`. -/
  | failed (replaced : Bool)
  deriving DecidableEq

namespace Journal

variable {role : JournalRole}

/-- The bytes of the journal file. -/
def fileBytes (j : Journal role) : ByteArray :=
  (document j.ownerSubject j.file).canonicalBytes

/-- `_assert_writer`. -/
def assertWriter (j : Journal role) : Except PyError Unit := do
  refuseIf (j.unusable = true)
    (.journal "coordination journal is unusable after an uncertain update")
  refuseIf (j.lockHeld = false) (.journal "coordination writer lock is closed")

/-- The two capacity checks of `_persist`. -/
def atCapacity (j : Journal role) (records : RecordMap role) : Prop :=
  maxEntries < records.size ∨
    maxJournalBytes < (document j.ownerSubject records).canonicalBytes.size

instance (j : Journal role) (records : RecordMap role) : Decidable (j.atCapacity records) := by
  unfold atCapacity; infer_instance

/-- `_persist`. -/
def persist (j : Journal role) (records : RecordMap role) (write : WriteResult) :
    Except PyError Unit × Journal role :=
  match write with
  | .refused message => (.error (.journal message), j)
  | .failed replaced =>
      if j.atCapacity records then
        (.error (.journal "coordination journal is at capacity"), j)
      else
        (.error .uncertainUpdate,
          { j with unusable := true, file := if replaced then records else j.file })
  | .written =>
      if j.atCapacity records then
        (.error (.journal "coordination journal is at capacity"), j)
      else (.ok (), { j with file := records })

/-- `_store`. -/
def store (j : Journal role) (record : CoordinationJournalRecord) (write : WriteResult) :
    Except PyError (JournalEntry role) × Journal role :=
  match validatedRecord role record with
  | .error error => (.error error, j)
  | .ok entry =>
      let candidate := j.records.insert entry.record.effect.effectId entry
      match actionIndexes candidate with
      | .error error => (.error error, j)
      | .ok _ =>
          match j.persist candidate write with
          | (.error error, j) => (.error error, j)
          | (.ok (), j) => (.ok entry, { j with records := candidate })

/-- `_lookup`. -/
def lookup (j : Journal role) (effect : EffectIdentity) :
    Except PyError (Option (JournalEntry role)) := do
  let entry := j.records.find? effect.effectId
  refuseIf (∃ e ∈ entry, e.record.effect ≠ effect)
    (.collision "coordination effect ID collides with different immutable material")
  pure entry

/-- `get`. -/
def get (j : Journal role) (effect : EffectRef) :
    Except PyError (Option (JournalEntry role)) := do
  j.assertWriter
  match effect with
  | .identity effect => j.lookup effect
  | .effectId effectId => pure (j.records.find? effectId)
  | .text value => do
      let _ ← checkIdentity "effect ID" value
      pure none

/-- `records()`. -/
def listRecords (j : Journal role) : Except PyError (List CoordinationJournalRecord) := do
  j.assertWriter
  pure (RecordMap.list j.records)

/-- `pending()`. -/
def pending (j : Journal role) : Except PyError (List CoordinationJournalRecord) := do
  let records ← j.listRecords
  pure (records.filter (fun r => !r.state.terminal))

/-- `find_action`. A request digest that is not 64 hexadecimal digits is not a `Sha256`. -/
def findAction (j : Journal role) (requestSha256 : Sha256) (actorId proposalNonce : String) :
    Except PyError (Option CoordinationJournalRecord) := do
  let actorId ← checkIdentity "action actor ID" actorId
  let proposalNonce ← checkIdentity "action proposal nonce" proposalNonce
  j.assertWriter
  let indexes ← actionIndexes j.records
  let requestRecord := lookupEntry requestSha256 indexes.byRequest
  let replayRecord := lookupEntry (actorId, proposalNonce) indexes.byActorNonce
  refuseIf (requestRecord ≠ replayRecord)
    (.collision "coordination action lookup collides with retained replay material")
  pure requestRecord

/-- The constructor with `initialize=True`: the file of the empty map is written and loaded. -/
def initialized (ownerSubject : String) (write : WriteResult) : Except PyError (Journal role) := do
  let ownerSubject ← checkIdentity "owner subject" ownerSubject
  let j : Journal role :=
    { ownerSubject := ownerSubject
      records := SortedMap.empty
      file := SortedMap.empty
      unusable := false
      lockHeld := true }
  let result := j.persist SortedMap.empty write
  result.1
  pure result.2

/-- A new process: the journal object is rebuilt by `_load` from the file. -/
def restart (j : Journal role) : Journal role :=
  { j with records := j.file, unusable := false, lockHeld := true }

/-- `close()`. -/
def close (j : Journal role) : Journal role := { j with lockHeld := false }

end Journal

end AegisOt
