import AegisOt.Traceability.Attestation

/-!
# The attestation replay state

The file that remembers which attestations were consumed, and for each authority key the highest
sequence. `ofMembers` is `_validate_replay_state`, read as a state; `parse` is what
`_read_replay_state` makes of the bytes of the file, `consume` what an ingestion does to the state,
and `material` what `_write_replay_state` writes.
-/

namespace AegisOt

open WorkloadTrustSequenceState (readStr)

/-- `ATTESTATION_REPLAY_SCHEMA`. -/
def attestationReplaySchema : String := "aegis-ot-m8-attestation-replay-state-v1"

/-- One item of `consumed`. -/
structure ConsumedEntry where
  attestationId : String
  contentSha256 : String
  challengeNonce : String
  sequence : ℤ
  deriving DecidableEq

/-- One entry of `authorities`. -/
structure AuthorityEntry where
  authorityId : String
  keyId : String
  highestSequence : ℤ
  consumed : List ConsumedEntry
  deriving DecidableEq

/-- The item that is appended for an attestation. -/
def VerifiedAttestation.consumed (verified : VerifiedAttestation) : ConsumedEntry :=
  ⟨verified.attestationId, verified.attestationContentSha256, verified.challengeNonce,
    verified.sequence⟩

/-- The state, without its constant `schema` and its `integrity`. -/
structure ReplayState where
  authorities : SortedMap String AuthorityEntry

/-! ## Reading -/

namespace ConsumedEntry

/-- The item, in key order. -/
def toJson (entry : ConsumedEntry) : Json :=
  .obj [("attestation_id", .str entry.attestationId),
    ("challenge_nonce", .str entry.challengeNonce),
    ("content_sha256", .str entry.contentSha256), ("sequence", .ofInt entry.sequence)]

/-- What the validator demands of the values of an item. -/
def WellFormed (entry : ConsumedEntry) : Prop :=
  isHexDigest entry.contentSha256 = true ∧ 0 < entry.sequence

instance (entry : ConsumedEntry) : Decidable entry.WellFormed := by
  unfold WellFormed; infer_instance

/-- The checks of one item. -/
def ofJson (item : Json) : Except IngestError ConsumedEntry := do
  let inexact : IngestError := .traceability "attestation replay-state consumed entry is invalid"
  let invalid : IngestError := .traceability "attestation replay-state consumed value is invalid"
  let members ← orRaise item.members? inexact
  refuseIf (members.map Prod.fst ≠
    ["attestation_id", "challenge_nonce", "content_sha256", "sequence"]) inexact
  let attestationId ← orRaise (readStr members "attestation_id") invalid
  let contentSha256 ← orRaise (readStr members "content_sha256") invalid
  let challengeNonce ← orRaise (readStr members "challenge_nonce") invalid
  let sequence ← orRaise ((lookupEntry "sequence" members).bind Json.toInt?) invalid
  let entry : ConsumedEntry := ⟨attestationId, contentSha256, challengeNonce, sequence⟩
  refuseIf (¬ entry.WellFormed) invalid
  pure entry

end ConsumedEntry

/-- `len(consumed) > 10_000`. -/
def maxConsumed : Nat := 10000

/-- `len(authorities) > 128`. -/
def maxAuthorities : Nat := 128

/-- Consumed attestations differ in everything that must not be used again, and the later one has
    the higher sequence. -/
structure ConsumedEntry.Precedes (a b : ConsumedEntry) : Prop where
  attestationId : a.attestationId ≠ b.attestationId
  contentSha256 : a.contentSha256 ≠ b.contentSha256
  challengeNonce : a.challengeNonce ≠ b.challengeNonce
  sequence : a.sequence < b.sequence

instance (a b : ConsumedEntry) : Decidable (a.Precedes b) :=
  decidable_of_iff (a.attestationId ≠ b.attestationId ∧ a.contentSha256 ≠ b.contentSha256 ∧
      a.challengeNonce ≠ b.challengeNonce ∧ a.sequence < b.sequence)
    ⟨fun ⟨h₁, h₂, h₃, h₄⟩ => ⟨h₁, h₂, h₃, h₄⟩, fun ⟨h₁, h₂, h₃, h₄⟩ => ⟨h₁, h₂, h₃, h₄⟩⟩

namespace AuthorityEntry

/-- The entry, in key order. -/
def toJson (entry : AuthorityEntry) : Json :=
  .obj [("authority_id", .str entry.authorityId),
    ("consumed", .arr (entry.consumed.map ConsumedEntry.toJson)),
    ("highest_sequence", .ofInt entry.highestSequence), ("key_id", .str entry.keyId)]

/-- The checks of the monotonic history. -/
def MonotonicHistory (entry : AuthorityEntry) : Prop :=
  let sequences := entry.consumed.map ConsumedEntry.sequence
  (entry.consumed.map ConsumedEntry.attestationId).Nodup ∧
    (entry.consumed.map ConsumedEntry.contentSha256).Nodup ∧
    (entry.consumed.map ConsumedEntry.challengeNonce).Nodup ∧
    sequences.Pairwise (· ≤ ·) ∧ sequences.Nodup ∧
    (∀ last ∈ sequences.getLast?, entry.highestSequence = last) ∧
    (sequences = [] → entry.highestSequence = 0)

instance (entry : AuthorityEntry) : Decidable entry.MonotonicHistory := by
  unfold MonotonicHistory; infer_instance

/-- The checks of one entry, which stands under a key. -/
def ofJson (keyId : String) (value : Json) : Except IngestError AuthorityEntry := do
  let invalid : IngestError := .traceability "attestation replay-state authority entry is invalid"
  let members ← orRaise value.members? invalid
  refuseIf (members.map Prod.fst ≠ ["authority_id", "consumed", "highest_sequence", "key_id"])
    invalid
  refuseIf (readStr members "key_id" ≠ some keyId) invalid
  let authorityId ← orRaise (readStr members "authority_id") invalid
  let highestSequence ← orRaise ((lookupEntry "highest_sequence" members).bind Json.toInt?) invalid
  refuseIf (highestSequence < 0) invalid
  let log : IngestError := .traceability "attestation replay-state consumption log is invalid"
  let items ← orRaise ((lookupEntry "consumed" members).bind Json.items?) log
  refuseIf (maxConsumed < items.length) log
  let consumed ← items.mapM ConsumedEntry.ofJson
  let entry : AuthorityEntry := ⟨authorityId, keyId, highestSequence, consumed⟩
  refuseIf (¬ entry.MonotonicHistory)
    (.traceability "attestation replay-state monotonic history is inconsistent")
  pure entry

end AuthorityEntry

/-- One member of `authorities`. -/
def readAuthority (member : String × Json) : Except IngestError (String × AuthorityEntry) := do
  let entry ← AuthorityEntry.ofJson member.1 member.2
  pure (member.1, entry)

section

variable [TraceabilityPrimitives]

namespace ReplayState

/-- The state without its `integrity`, in key order. -/
def unsigned (state : ReplayState) : Json :=
  .obj [("authorities", .obj (state.authorities.entries.map (fun e => (e.1, e.2.toJson)))),
    ("schema", .str attestationReplaySchema)]

/-- The state, in key order. -/
def members (state : ReplayState) : List (String × Json) :=
  [("authorities", .obj (state.authorities.entries.map (fun e => (e.1, e.2.toJson)))),
    ("integrity", .obj [("canonical_payload_sha256", .str (sha256Json state.unsigned))]),
    ("schema", .str attestationReplaySchema)]

/-- `_validate_replay_state`, read as a state. -/
def ofMembers (value : List (String × Json)) : Except IngestError ReplayState := do
  refuseIf (value.map Prod.fst ≠ ["authorities", "integrity", "schema"])
    (.traceability "attestation replay-state fields are not exact")
  refuseIf (readStr value "schema" ≠ some attestationReplaySchema)
    (.traceability "attestation replay-state schema is unsupported")
  let catalog : IngestError :=
    .traceability "attestation replay-state authority catalog is invalid"
  let authorities ← orRaise ((lookupEntry "authorities" value).bind Json.members?) catalog
  refuseIf (maxAuthorities < authorities.length) catalog
  let entries ← authorities.mapM readAuthority
  let state : ReplayState := ⟨.ofEntries entries⟩
  let integrity : IngestError := .traceability "attestation replay-state integrity is invalid"
  let members ← orRaise ((lookupEntry "integrity" value).bind Json.members?) integrity
  refuseIf (members.map Prod.fst ≠ ["canonical_payload_sha256"] ∨
    readStr members "canonical_payload_sha256" ≠ some (sha256Json state.unsigned)) integrity
  pure state

/-- `_initial_replay_state`. -/
def initial : ReplayState := ⟨.empty⟩

/-- What `ingest_external_attestation` does to the state it read. -/
def consume (state : ReplayState) (authority : TrustedAttestationAuthority)
    (verified : VerifiedAttestation) : Except IngestError ReplayState := do
  let keyId := authority.keyId
  let entry := (state.authorities.find? keyId).getD ⟨authority.authorityId, keyId, 0, []⟩
  refuseIf (entry.authorityId ≠ authority.authorityId)
    (.traceability "attestation replay-state authority conflicts")
  refuseIf (∃ item ∈ entry.consumed, item.attestationId = verified.attestationId)
    (.traceability "external attestation ID was already consumed")
  refuseIf (∃ item ∈ entry.consumed, item.contentSha256 = verified.attestationContentSha256)
    (.traceability "external attestation content was already consumed")
  refuseIf (∃ item ∈ entry.consumed, item.challengeNonce = verified.challengeNonce)
    (.traceability "external attestation challenge was already consumed")
  refuseIf (verified.sequence ≤ entry.highestSequence)
    (.traceability "external attestation sequence is not monotonic")
  refuseIf (maxConsumed ≤ entry.consumed.length)
    (.traceability "attestation replay-state capacity is exhausted")
  pure ⟨state.authorities.insert keyId
    { entry with
      highestSequence := verified.sequence
      consumed := entry.consumed ++ [verified.consumed] }⟩

/-- What `_read_replay_state` makes of the bytes of the file. -/
def parse (material : ByteArray) : Except IngestError ReplayState := do
  let value ← loadStrictJsonBytes material "attestation replay-state"
  ofMembers value

/-- What `_read_replay_state` makes of the file, if there is one. -/
def ofFile : Option ByteArray → Except IngestError ReplayState
  | none => .ok initial
  | some bytes => parse bytes

/-- The bytes of a state. -/
def material (state : ReplayState) : ByteArray := Json.indentedFileBytes (.obj state.members)

/-- `_write_replay_state` up to the temporary file: the bytes it is about to write. -/
def stage (state : ReplayState) : Except IngestError ByteArray := do
  let _ ← ofMembers state.members
  refuseIf (maxJsonBytes < state.material.size)
    (.traceability "attestation replay-state exceeds its size limit")
  pure state.material

end ReplayState

end

end AegisOt
