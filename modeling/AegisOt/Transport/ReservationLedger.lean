import AegisOt.Coordination.Models
import AegisOt.Misc.AtomicFile
import AegisOt.Misc.Json
import AegisOt.Misc.Method

/-!
# The reservation ledgers of the transport

`DurableTransportReplayLedger` of `transport_replay.py` and `DurableWorkloadReplayLedger` of
`workload_replay.py` are one body over different identity fields and texts:
`ReservationLedgerKind` holds what differs. A ledger object is the dictionary `_reservations` over a
file that is replaced as a whole. The checks of the file's mode and of the writer lock are part of
what the file system may answer.

Texts are sequences of Unicode scalar values, which is what the request models that carry a nonce
accept. `json.loads` is called without `parse_constant`: a `NaN` it reads is refused by the checks
of the fields, here already by the reader.
-/

namespace AegisOt

/-- `MAX_LEDGER_BYTES` of both ledgers. -/
def maxReservationLedgerBytes : Nat := 4 * 1024 * 1024

/-- `MAX_RESERVATIONS`. -/
def maxReservations : Nat := 8192

/-- `MIN_NONCE_LENGTH`. -/
def minNonceLength : Nat := 16

/-- `MAX_NONCE_LENGTH`. -/
def maxNonceLength : Nat := 256

/-- `_reservations`: the request digest of each nonce. -/
abbrev Reservations := SortedMap String String

/-- What the two classes differ in. -/
structure ReservationLedgerKind where
  /-- The first words of the error texts. -/
  label : String
  nonceLabel : String
  schemaVersion : String
  /-- The identity fields of the document with the configured values. -/
  identity : List (String × String)
  fieldsDistinct : ("reservations" :: "schema_version" :: identity.map Prod.fst).Nodup
  deriving DecidableEq

/-- `DurableTransportReplayLedger.__init__` up to the writer lock. -/
def transportReplayLedger (audience gatewayKeyId gatewayPublicKeySha256 : String) :
    Except String ReservationLedgerKind := do
  refuseIf (lengthWithin 1 256 audience = false) "transport replay audience is invalid"
  refuseIf (lengthWithin 1 256 gatewayKeyId = false) "transport replay gateway key ID is invalid"
  refuseIf (isHexDigest gatewayPublicKeySha256 = false) "transport replay digest is invalid"
  pure
    { label := "transport replay"
      nonceLabel := "transport"
      schemaVersion := "m4f-transport-replay-ledger-v1"
      identity := [("audience", audience), ("gateway_key_id", gatewayKeyId),
        ("gateway_public_key_sha256", gatewayPublicKeySha256)]
      fieldsDistinct := by simp }

/-- `DurableWorkloadReplayLedger._bounded_identity`. -/
def workloadIdentityInvalid (value : String) : Bool :=
  lengthWithin 1 256 value = false || hasOuterWhitespace value

/-- `DurableWorkloadReplayLedger.__init__` up to the writer lock. -/
def workloadReplayLedger (audience trustDomain workloadSubject authorityKeyId : String) :
    Except String ReservationLedgerKind := do
  refuseIf (workloadIdentityInvalid audience) "workload replay audience is invalid"
  refuseIf (workloadIdentityInvalid trustDomain) "workload replay trust domain is invalid"
  refuseIf (workloadIdentityInvalid workloadSubject) "workload replay workload subject is invalid"
  refuseIf (workloadIdentityInvalid authorityKeyId) "workload replay authority key ID is invalid"
  pure
    { label := "workload replay"
      nonceLabel := "workload replay"
      schemaVersion := "m4g-workload-replay-ledger-v1"
      identity := [("audience", audience), ("authority_key_id", authorityKeyId),
        ("trust_domain", trustDomain), ("workload_subject", workloadSubject)]
      fieldsDistinct := by simp }

namespace ReservationLedgerKind

variable (kind : ReservationLedgerKind)

/-- `_nonce`. -/
def nonce (value : String) : Except String Unit :=
  refuseIf (lengthWithin minNonceLength maxNonceLength value = false)
    (kind.nonceLabel ++ " nonce length is invalid")

/-- `_digest`. -/
def digest (value : String) : Except String Unit :=
  refuseIf (isHexDigest value = false) (kind.label ++ " digest is invalid")

/-! ## The document -/

/-- One item of `reservations`. -/
def entry (reservation : String × String) : Json :=
  .obj [("nonce", .str reservation.1), ("signed_request_sha256", .str reservation.2)]

/-- `_document`, its items in key order. -/
def document (reservations : Reservations) : SortedMap String Json :=
  .ofEntries (("reservations", .arr (reservations.entries.map entry)) ::
    ("schema_version", .str kind.schemaVersion) ::
      kind.identity.map (fun field => (field.1, .str field.2)))

/-- `_canonical_bytes(_document(reservations))`. -/
def material (reservations : Reservations) : ByteArray :=
  Json.canonicalBytes (.obj (kind.document reservations).entries)

/-- The keys that `_load` expects. -/
def fields : List String :=
  (SortedMap.ofKeys ("reservations" :: "schema_version" :: kind.identity.map Prod.fst)).keys

/-! ## Reading -/

/-- `value == text` for a parsed value. -/
def isText : Option Json → String → Bool
  | some (.str value), text => decide (value = text)
  | _, _ => false

/-- `isinstance(value, str)` in `_nonce` and `_digest`. -/
def readText (check : String → Except String Unit) (error : String) :
    Option Json → Except String String
  | some (.str value) => do
      check value
      pure value
  | _ => .error error

/-- The shape of an entry with its nonce and digest. -/
def readEntry : Json → Except String (String × String)
  | .obj members => do
      refuseIf (members.map Prod.fst ≠ ["nonce", "signed_request_sha256"])
        (kind.label ++ " ledger reservation shape is invalid")
      let nonce ← readText kind.nonce (kind.nonceLabel ++ " nonce length is invalid")
        (lookupEntry "nonce" members)
      let digest ← readText kind.digest (kind.label ++ " digest is invalid")
        (lookupEntry "signed_request_sha256" members)
      pure (nonce, digest)
  | _ => .error (kind.label ++ " ledger reservation shape is invalid")

/-- The loop of `_load` over the entries. -/
def readEntries (reservations : Reservations) (requestDigests : List String)
    (priorNonce : Option String) : List Json → Except String Reservations
  | [] => pure reservations
  | item :: rest => do
      let reservation ← kind.readEntry item
      refuseIf (∃ prior ∈ priorNonce, reservation.1 ≤ prior)
        (kind.label ++ " ledger reservations are not sorted and unique")
      refuseIf (reservation.2 ∈ requestDigests)
        (kind.label ++ " ledger request digest is duplicated")
      readEntries (reservations.insert reservation.1 reservation.2)
        (reservation.2 :: requestDigests) (some reservation.1) rest

/-- What `json.loads` raises under `_closed_object`. -/
def parseError : Json.LoadsError → String
  | .duplicateKey => kind.label ++ " ledger has a duplicate key"
  | .value => kind.label ++ " ledger is not strict UTF-8 JSON"

/-- `_load` on what stands in the file. -/
def load : Option ByteArray → Except String Reservations
  | none => .error (kind.label ++ " ledger is missing or unavailable")
  | some material => do
      refuseIf (maxReservationLedgerBytes < material.size)
        (kind.label ++ " ledger exceeds its size limit")
      let parsed ← (Json.loadsBytes material).mapError kind.parseError
      match parsed with
      | .obj members => do
          refuseIf (members.map Prod.fst ≠ kind.fields)
            (kind.label ++ " ledger has unexpected or missing fields")
          refuseIf (isText (lookupEntry "schema_version" members) kind.schemaVersion = false)
            (kind.label ++ " ledger schema is unsupported")
          refuseIf (∃ field ∈ kind.identity, isText (lookupEntry field.1 members) field.2 = false)
            (kind.label ++ " ledger identity does not match configuration")
          match lookupEntry "reservations" members with
          | some (.arr entries) => do
              refuseIf (maxReservations < entries.length)
                (kind.label ++ " ledger reservation set is invalid")
              let reservations ← kind.readEntries .empty [] none entries
              refuseIf (material ≠ kind.material reservations)
                (kind.label ++ " ledger encoding is not canonical")
              pure reservations
          | _ => .error (kind.label ++ " ledger reservation set is invalid")
      | _ => .error (kind.label ++ " ledger has unexpected or missing fields")

end ReservationLedgerKind

/-! ## The object -/

/-- How the writes of `_persist` end. -/
inductive ReservationWrite where
  | written
  /-- Something raised up to `os.replace`; the temporary file is unlinked. -/
  | notReplaced (error : String)
  /-- The directory could not be opened, synced or closed after `os.replace`. -/
  | replaced (synced : Bool) (error : String)
  deriving DecidableEq

/-- What the file system and the writer lock do during one call. -/
structure ReservationIo where
  /-- What `_read` raises before it has the text. -/
  read : Option String
  /-- What `_assert_writer` and `_check_parent` raise in `_persist`. -/
  ready : Option String
  write : ReservationWrite
  deriving DecidableEq

/-- An open ledger: its file and its `_reservations`. -/
structure ReservationLedger where
  file : AtomicFile ByteArray
  reservations : Reservations
  deriving DecidableEq

namespace ReservationLedger

variable (kind : ReservationLedgerKind)

/-- `_load`. -/
def load (io : ReservationIo) (file : AtomicFile ByteArray) : Except String Reservations :=
  match io.read with
  | some error => .error error
  | none => kind.load file.visible

/-- The writes of `_persist`. -/
def replaceFile (material : ByteArray) : ReservationWrite → Method ReservationLedger String Unit
  | .written => .assign fun ledger => { ledger with file := (ledger.file.replace material).sync }
  | .notReplaced error => .check (.error error)
  | .replaced synced error => do
      Method.assign fun ledger =>
        { ledger with
          file := if synced then (ledger.file.replace material).sync
            else ledger.file.replace material }
      Method.check (.error error)

/-- `_persist`. -/
def persist (io : ReservationIo) : Method ReservationLedger String Unit := do
  let ledger ← Method.self
  match io.ready with
  | some error => Method.check (.error error)
  | none => do
      let material := kind.material ledger.reservations
      Method.check (refuseIf (maxReservations < ledger.reservations.size)
        (kind.label ++ " ledger is at capacity"))
      Method.check (refuseIf (maxReservationLedgerBytes < material.size)
        (kind.label ++ " ledger is at capacity"))
      replaceFile material io.write

/-- `__init__` once the writer lock is held; `initializing` is its `initialize` flag. -/
def create (initializing : Bool) (io : ReservationIo) : Method ReservationLedger String Unit := do
  if initializing then do
    let ledger ← Method.self
    Method.check (refuseIf (ledger.file.visible ≠ none)
      (kind.label ++ " ledger already exists; refusing to initialize"))
    persist kind io
  let ledger ← Method.self
  let reservations ← Method.check (load kind io ledger.file)
  Method.assign fun ledger => { ledger with reservations := reservations }

/-- `contains`. -/
def contains (nonce : String) (io : ReservationIo) : Method ReservationLedger String Bool := do
  Method.check (kind.nonce nonce)
  let ledger ← Method.self
  let reservations ← Method.check (load kind io ledger.file)
  Method.assign fun ledger => { ledger with reservations := reservations }
  pure (reservations.find? nonce).isSome

/-- `reserve`. -/
def reserve (nonce signedRequestSha256 : String) (io : ReservationIo) :
    Method ReservationLedger String Bool := do
  Method.check (kind.nonce nonce)
  Method.check (kind.digest signedRequestSha256)
  let ledger ← Method.self
  let reservations ← Method.check (load kind io ledger.file)
  Method.assign fun ledger => { ledger with reservations := reservations }
  if (reservations.find? nonce).isSome then pure false
  else if signedRequestSha256 ∈ reservations.values then pure false
  else do
    Method.assign fun ledger =>
      { ledger with reservations := reservations.insert nonce signedRequestSha256 }
    Method.catching (persist kind io) (fun error => do
      Method.assign fun ledger => { ledger with reservations := reservations }
      Method.check (.error error))
    pure true

end ReservationLedger

/-! ## Runs -/

/-- The file, the `_reservations` of the object that holds the writer lock, and the reservations
    that `reserve` has reported as fresh, oldest first. -/
structure ReservationWorld where
  file : AtomicFile ByteArray
  opened : Option Reservations
  reported : List (String × String)
  deriving DecidableEq

inductive ReservationEvent where
  /-- A process constructs a ledger. -/
  | create (initializing : Bool) (io : ReservationIo)
  | reserve (nonce signedRequestSha256 : String) (io : ReservationIo)
  | contains (nonce : String) (io : ReservationIo)
  /-- `close`, or the end of the process between two calls. -/
  | close
  /-- The end of the process during `reserve`, when the file system has done this much of it. -/
  | killed (nonce signedRequestSha256 : String) (io : ReservationIo)
  | writeback (count : Nat)
  | powerLoss (count : Nat)
  deriving DecidableEq

namespace ReservationWorld

variable (kind : ReservationLedgerKind)

/-- A new process finds a file. -/
def start (file : AtomicFile ByteArray) : ReservationWorld := ⟨file, none, []⟩

/-- One event. Without the writer lock no object is constructed, and without an object there is
    nothing to call. -/
def step (w : ReservationWorld) : ReservationEvent → ReservationWorld
  | .create initializing io =>
      match w.opened with
      | some _ => w
      | none =>
          match Method.call (ReservationLedger.create kind initializing io) ⟨w.file, .empty⟩ with
          | (.ok _, ledger) => { w with file := ledger.file, opened := some ledger.reservations }
          | (.error _, ledger) => { w with file := ledger.file }
  | .reserve nonce signedRequestSha256 io =>
      match w.opened with
      | none => w
      | some reservations =>
          match Method.call (ReservationLedger.reserve kind nonce signedRequestSha256 io)
              ⟨w.file, reservations⟩ with
          | (.ok true, ledger) =>
              ⟨ledger.file, some ledger.reservations,
                w.reported ++ [(nonce, signedRequestSha256)]⟩
          | (_, ledger) => ⟨ledger.file, some ledger.reservations, w.reported⟩
  | .contains nonce io =>
      match w.opened with
      | none => w
      | some reservations =>
          let called :=
            Method.call (ReservationLedger.contains kind nonce io) ⟨w.file, reservations⟩
          { w with file := called.2.file, opened := some called.2.reservations }
  | .close => { w with opened := none }
  | .killed nonce signedRequestSha256 io =>
      match w.opened with
      | none => w
      | some reservations =>
          let called := Method.call (ReservationLedger.reserve kind nonce signedRequestSha256 io)
            ⟨w.file, reservations⟩
          { w with file := called.2.file, opened := none }
  | .writeback count => { w with file := w.file.writeback count }
  | .powerLoss count => { w with file := w.file.powerLoss count, opened := none }

end ReservationWorld

end AegisOt
