import AegisOt.Misc.Json
import AegisOt.Misc.Method
import AegisOt.Runtime.VirtualPlc

/-!
# The replay ledger file

`OrderlyRestartReplayReservations` of `semantic_replay.py`: four sets of consumed identifiers in
memory and their JSON text in a file. `_load` reads the text back under its own conditions,
`_persist` writes whatever the sets are, and `reserve` does one after the other. The file system
and the writer lock may fail at any point; `LedgerIo` says how.
-/

namespace AegisOt

/-- `MAX_LEDGER_BYTES`. -/
def maxLedgerBytes : Nat := 4 * 1024 * 1024

/-- A `set` of identifiers. -/
abbrev IdentifierSet := SortedMap String Unit

/-- `_state`, under the keys of `_empty`. -/
structure ReservationSets where
  requestDigests : IdentifierSet
  permitIds : IdentifierSet
  permitNonces : IdentifierSet
  commandIds : IdentifierSet
  deriving DecidableEq

/-- The arguments of `replay_reason` and of `reserve`. -/
structure ReservationIds where
  requestDigest : String
  permitId : String
  permitNonce : String
  commandId : String
  deriving DecidableEq

namespace ReservationSets

/-- `_empty`. -/
def empty : ReservationSets := ⟨.empty, .empty, .empty, .empty⟩

/-- `_replay_reason`. -/
def replayReason (sets : ReservationSets) (ids : ReservationIds) : Option String :=
  if (sets.requestDigests.find? ids.requestDigest).isSome then some "transaction_replayed"
  else if (sets.permitIds.find? ids.permitId).isSome then some "permit_replayed"
  else if (sets.permitNonces.find? ids.permitNonce).isSome then some "permit_nonce_replayed"
  else if (sets.commandIds.find? ids.commandId).isSome then some "command_replayed"
  else none

/-- The four `add` statements of `reserve`. -/
def add (sets : ReservationSets) (ids : ReservationIds) : ReservationSets :=
  { requestDigests := sets.requestDigests.insert ids.requestDigest ()
    permitIds := sets.permitIds.insert ids.permitId ()
    permitNonces := sets.permitNonces.insert ids.permitNonce ()
    commandIds := sets.commandIds.insert ids.commandId () }

/-- `sorted(values)` as a JSON value. -/
def identifiers (values : IdentifierSet) : Json := .arr (values.keys.map .str)

/-- The items of the dictionary that `_persist` writes, in key order. -/
def members (sets : ReservationSets) : List (String × Json) :=
  [("command_ids", identifiers sets.commandIds),
    ("permit_ids", identifiers sets.permitIds),
    ("permit_nonces", identifiers sets.permitNonces),
    ("request_digests", identifiers sets.requestDigests)]

/-- The dictionary that `_persist` writes. -/
def document (sets : ReservationSets) : Json := .obj sets.members

/-- The bytes that `_persist` writes. -/
def material (sets : ReservationSets) : ByteArray := Json.canonicalBytes sets.document

/-! ## Reading -/

/-- `all(isinstance(value, str) and value for value in values)`, with the strings. -/
def nonemptyStrings : List Json → Option (List String)
  | [] => some []
  | .str text :: rest =>
      if text = "" then none else (nonemptyStrings rest).map (fun texts => text :: texts)
  | _ :: _ => none

def invalidSet : LedgerError := .value "PLC replay ledger has an invalid reservation set"

/-- One reservation set of the parsed document. -/
def readSet (members : List (String × Json)) (key : String) : Except LedgerError IdentifierSet :=
  match lookupEntry key members with
  | some (.arr items) => do
      let values ← orRaise (nonemptyStrings items) invalidSet
      refuseIf (values ≠ (SortedMap.ofKeys values).keys) invalidSet
      pure (SortedMap.ofKeys values)
  | _ => .error invalidSet

/-- What `json.loads` raises under `closed_object`; a `JSONDecodeError` is a `ValueError`. -/
def parseError : Json.LoadsError → LedgerError
  | .duplicateKey => .value "PLC replay ledger contains a duplicate key"
  | .value => .value "PLC replay ledger is not JSON"

/-- `_load` on what stands in the file. -/
def load : Option ByteArray → Except LedgerError ReservationSets
  | none => .error (.value "PLC replay ledger is missing or unavailable")
  | some material => do
      refuseIf (maxLedgerBytes < material.size)
        (.value "PLC replay ledger exceeds its size limit")
      let parsed ← (Json.loadsBytes material).mapError parseError
      match parsed with
      | .obj members => do
          refuseIf (members.map Prod.fst ≠
              ["command_ids", "permit_ids", "permit_nonces", "request_digests"])
            (.value "PLC replay ledger has unexpected or missing fields")
          let requestDigests ← readSet members "request_digests"
          let permitIds ← readSet members "permit_ids"
          let permitNonces ← readSet members "permit_nonces"
          let commandIds ← readSet members "command_ids"
          pure ⟨requestDigests, permitIds, permitNonces, commandIds⟩
      | _ => .error (.value "PLC replay ledger root must be an object")

end ReservationSets

/-! ## The object -/

/-- How the writes of `_persist` end. -/
inductive PersistOutcome where
  | written
  /-- Something raised up to `os.replace`; the temporary file is unlinked. -/
  | notReplaced (error : LedgerError)
  /-- Something raised after `os.replace`. -/
  | replaced (error : LedgerError)
  deriving DecidableEq

/-- What the file system and the writer lock do during one call. -/
structure LedgerIo where
  /-- What `_load` raises before it has the text. -/
  load : Option LedgerError
  persist : PersistOutcome
  deriving DecidableEq

/-- An open ledger: its file and its `_state`. -/
structure ReplayLedger where
  file : Option ByteArray
  state : ReservationSets
  deriving DecidableEq

namespace ReplayLedger

/-- `_load`. -/
def load (io : LedgerIo) (file : Option ByteArray) : Except LedgerError ReservationSets :=
  match io.load with
  | some error => .error error
  | none => ReservationSets.load file

/-- `_persist`. -/
def persist (io : LedgerIo) : Method ReplayLedger LedgerError Unit :=
  match io.persist with
  | .written => .assign fun ledger => { ledger with file := some ledger.state.material }
  | .notReplaced error => .check (.error error)
  | .replaced error => do
      Method.assign fun ledger => { ledger with file := some ledger.state.material }
      Method.check (.error error)

/-- `__init__`; `initializing` is its `initialize` flag. -/
def create (initializing : Bool) (file : Option ByteArray) (io : LedgerIo) :
    Except LedgerError ReplayLedger := do
  if initializing then do
    refuseIf (file ≠ none)
      (.value "PLC replay ledger already exists; refusing to initialize")
    let written := Method.call (persist io) ⟨file, .empty⟩
    written.1
    let state ← load io written.2.file
    pure ⟨written.2.file, state⟩
  else do
    let state ← load io file
    pure ⟨file, state⟩

/-- `reserve`. -/
def reserve (ids : ReservationIds) (io : LedgerIo) : Method ReplayLedger LedgerError Unit := do
  let ledger ← Method.self
  let state ← Method.check (load io ledger.file)
  Method.assign fun ledger => { ledger with state := state }
  match state.replayReason ids with
  | some reason => Method.check (.error (.value reason))
  | none => do
      Method.assign fun ledger => { ledger with state := state.add ids }
      persist io

end ReplayLedger

end AegisOt
