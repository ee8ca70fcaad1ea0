import AegisOt.Artifacts
import AegisOt.Misc.HashChain
import AegisOt.Misc.JsonNumber

/-!
# Decision evidence

`EvidenceChain` of `evidence.py`: records that each carry the digest of their own content and of
the record before them. The payload is a type of its own: all the chain does with it is to write
it as JSON, where `default=str` replaces every object that JSON does not know by its text.
-/

namespace AegisOt

/-- What `json.dumps(..., sort_keys=True, default=str)` makes of a payload. -/
class EvidencePayload (P : Type) where
  json : P → Json

instance : EvidencePayload JsonObject := ⟨fun payload => .obj payload.members⟩

/-- A `datetime`: the microseconds its fields spell, and its UTC offset if it has one. -/
structure Timestamp where
  wall : ℤ
  utcOffset : Option ℤ
  deriving DecidableEq, Repr

/-- `datetime.now(UTC)`. -/
def Timestamp.utc (now : Time) : Timestamp := ⟨now, some 0⟩

/-- `hashlib.sha256` and `datetime.isoformat`. -/
class EvidencePrimitives where
  sha256 : ByteArray → Sha256
  isoformat : Timestamp → String

/-- `hexdigest()`. -/
def hexdigest (digest : Sha256) : String :=
  String.ofList ((List.range 64).map (fun i => Nat.digitChar (digest.val / 16 ^ (63 - i) % 16)))

/-- What the dictionary `material` of `append` and of `verify` is made from. -/
structure EvidenceMaterial (P : Type) where
  sequence : ℤ
  recordedAt : Timestamp
  proposalId : String
  decisionId : String
  previousHash : String
  payload : P
  deriving DecidableEq

/-- `EvidenceRecord`. -/
structure EvidenceRecord (P : Type) extends EvidenceMaterial P where
  recordHash : String
  deriving DecidableEq

/-- `EvidenceChain`, by its `_records`. -/
structure EvidenceChain (P : Type) where
  records : List (EvidenceRecord P)
  deriving DecidableEq

/-- `"0" * 64`. -/
def genesisHash : String := String.ofList (List.replicate 64 '0')

section

variable {P : Type} [EvidencePayload P] [EvidencePrimitives]

namespace EvidenceMaterial

/-- The items of the dictionary, in key order. -/
def members (m : EvidenceMaterial P) : List (String × Json) :=
  [("decision_id", .str m.decisionId),
    ("payload", EvidencePayload.json m.payload),
    ("previous_hash", .str m.previousHash),
    ("proposal_id", .str m.proposalId),
    ("recorded_at", .str (EvidencePrimitives.isoformat m.recordedAt)),
    ("sequence", .ofInt m.sequence)]

/-- The text that `_digest` hashes. -/
def canonical (m : EvidenceMaterial P) : ByteArray := Json.canonicalBytes (.obj m.members)

def sha256 (m : EvidenceMaterial P) : Sha256 := EvidencePrimitives.sha256 m.canonical

/-- `EvidenceChain._digest`. -/
def digest (m : EvidenceMaterial P) : String := hexdigest m.sha256

end EvidenceMaterial

namespace EvidenceChain

/-- `__init__`. -/
def empty : EvidenceChain P := ⟨[]⟩

/-- The hash of the last record, if there is one. -/
def lastRecordHash (chain : EvidenceChain P) : Option String :=
  chain.records.getLast?.map EvidenceRecord.recordHash

/-- The record that `append` adds when the clock reads `now`. -/
def nextRecord (chain : EvidenceChain P) (now : Time) (proposalId decisionId : String)
    (payload : P) : EvidenceRecord P :=
  let material : EvidenceMaterial P :=
    { sequence := chain.records.length
      recordedAt := .utc now
      proposalId := proposalId
      decisionId := decisionId
      previousHash := chain.lastRecordHash.getD genesisHash
      payload := payload }
  { material with recordHash := material.digest }

/-- `append`. -/
def append (chain : EvidenceChain P) (now : Time) (proposalId decisionId : String)
    (payload : P) : EvidenceRecord P × EvidenceChain P :=
  let record := chain.nextRecord now proposalId decisionId payload
  (record, ⟨chain.records ++ [record]⟩)

/-- The loop of `verify`. -/
def verifyFrom (previousHash : String) : List (EvidenceRecord P) → Bool
  | [] => true
  | record :: rest =>
      let chainBroken := decide (record.previousHash ≠ previousHash)
      let digestMismatch := decide (record.recordHash ≠ record.toEvidenceMaterial.digest)
      if chainBroken || digestMismatch then false
      else verifyFrom record.recordHash rest

/-- `verify`. -/
def verify (chain : EvidenceChain P) : Bool := verifyFrom genesisHash chain.records

end EvidenceChain

/-- The arguments of one `append` call, with the clock reading. -/
structure EvidenceEntry (P : Type) where
  now : Time
  proposalId : String
  decisionId : String
  payload : P

namespace EvidenceChain

/-- The chain after a sequence of `append` calls. -/
def afterAppends (chain : EvidenceChain P) : List (EvidenceEntry P) → EvidenceChain P
  | [] => chain
  | entry :: rest =>
      (chain.append entry.now entry.proposalId entry.decisionId entry.payload).2.afterAppends rest

end EvidenceChain

end

end AegisOt
