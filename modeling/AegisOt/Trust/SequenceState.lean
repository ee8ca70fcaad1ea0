import AegisOt.Coordination.Models
import AegisOt.Gateway.Evidence

/-!
# The trust-sequence checkpoint

`WorkloadTrustSequenceState` of `workload_trust_state.py`: the file that remembers the highest trust
bundle a directory has seen, and the loader that accepts it only in its canonical encoding.
`parse_eq_ok` says what that comes to: a file is accepted exactly if it is the encoding of a valid
state.
-/

namespace AegisOt

/-- `_MAX_STATE_BYTES`. -/
def maxStateBytes : Nat := 4096

/-- `schema_version`. -/
def trustSequenceSchemaVersion : String := "m4g-workload-trust-sequence-state-v1"

/-- `hashlib.sha256` behind `_STATE_INTEGRITY_DOMAIN`. -/
class TrustStatePrimitives where
  stateIntegritySha256 : ByteArray → Sha256

/-- `WorkloadTrustSequenceState`, without its constant `schema_version`. -/
structure WorkloadTrustSequenceState where
  trustDomain : String
  authorityKeyId : String
  authorityPublicKeySha256 : String
  highestSequence : ℤ
  highestBundleSha256 : String
  integritySha256 : String
  deriving DecidableEq

/-- `_identity` and the validators of `trust_domain` and `authority_key_id`. -/
def isTrustIdentity (value : String) : Bool :=
  lengthWithin 3 128 value && !value.toList.any isPySpace

/-- 64 hexadecimal digits. -/
theorem isHexDigest_hexdigest (digest : Sha256) : isHexDigest (hexdigest digest) = true := by
  have hdigit : ∀ n < 16, ('0' ≤ Nat.digitChar n ∧ Nat.digitChar n ≤ '9') ∨
      ('a' ≤ Nat.digitChar n ∧ Nat.digitChar n ≤ 'f') := by decide
  rw [isHexDigest, Bool.and_eq_true, decide_eq_true_eq, hexdigest, String.length_ofList,
    String.toList_ofList, List.all_eq_true]
  refine ⟨by simp, ?_⟩
  intro c hc
  obtain ⟨i, -, rfl⟩ := List.mem_map.mp hc
  exact decide_eq_true (hdigit _ (Nat.mod_lt _ (by omega)))

section

variable [TrustStatePrimitives]

namespace WorkloadTrustSequenceState

/-- `integrity_fields()`, in key order. -/
def integrityFields (trustDomain authorityKeyId authorityPublicKeySha256 : String)
    (highestSequence : ℤ) (highestBundleSha256 : String) : List (String × Json) :=
  [("authority_key_id", .str authorityKeyId),
    ("authority_public_key_sha256", .str authorityPublicKeySha256),
    ("highest_bundle_sha256", .str highestBundleSha256),
    ("highest_sequence", .ofInt highestSequence),
    ("schema_version", .str trustSequenceSchemaVersion),
    ("trust_domain", .str trustDomain)]

/-- `_state_integrity_sha256(integrity_fields())`. -/
def integrity (s : WorkloadTrustSequenceState) : String :=
  hexdigest (TrustStatePrimitives.stateIntegritySha256 (Json.canonicalBytes (.obj
    (integrityFields s.trustDomain s.authorityKeyId s.authorityPublicKeySha256 s.highestSequence
      s.highestBundleSha256))))

/-- `create`. -/
def create (trustDomain authorityKeyId authorityPublicKeySha256 : String) (highestSequence : ℤ)
    (highestBundleSha256 : String) : WorkloadTrustSequenceState where
  trustDomain := trustDomain
  authorityKeyId := authorityKeyId
  authorityPublicKeySha256 := authorityPublicKeySha256
  highestSequence := highestSequence
  highestBundleSha256 := highestBundleSha256
  integritySha256 := hexdigest (TrustStatePrimitives.stateIntegritySha256 (Json.canonicalBytes
    (.obj (integrityFields trustDomain authorityKeyId authorityPublicKeySha256 highestSequence
      highestBundleSha256))))

/-- The constraints of the fields and `require_valid_integrity`. -/
structure Valid (s : WorkloadTrustSequenceState) : Prop where
  trustDomain : isTrustIdentity s.trustDomain = true
  authorityKeyId : isTrustIdentity s.authorityKeyId = true
  authorityPublicKeySha256 : isHexDigest s.authorityPublicKeySha256 = true
  highestSequence : 1 ≤ s.highestSequence
  highestBundleSha256 : isHexDigest s.highestBundleSha256 = true
  integritySha256 : isHexDigest s.integritySha256 = true
  integrity : s.integritySha256 = s.integrity

instance (s : WorkloadTrustSequenceState) : Decidable s.Valid :=
  decidable_of_iff (isTrustIdentity s.trustDomain = true ∧ isTrustIdentity s.authorityKeyId = true ∧
      isHexDigest s.authorityPublicKeySha256 = true ∧ 1 ≤ s.highestSequence ∧
      isHexDigest s.highestBundleSha256 = true ∧ isHexDigest s.integritySha256 = true ∧
      s.integritySha256 = s.integrity)
    ⟨fun ⟨h₁, h₂, h₃, h₄, h₅, h₆, h₇⟩ => ⟨h₁, h₂, h₃, h₄, h₅, h₆, h₇⟩,
      fun ⟨h₁, h₂, h₃, h₄, h₅, h₆, h₇⟩ => ⟨h₁, h₂, h₃, h₄, h₅, h₆, h₇⟩⟩

/-- `model_dump`, in key order. -/
def members (s : WorkloadTrustSequenceState) : List (String × Json) :=
  [("authority_key_id", .str s.authorityKeyId),
    ("authority_public_key_sha256", .str s.authorityPublicKeySha256),
    ("highest_bundle_sha256", .str s.highestBundleSha256),
    ("highest_sequence", .ofInt s.highestSequence),
    ("integrity_sha256", .str s.integritySha256),
    ("schema_version", .str trustSequenceSchemaVersion),
    ("trust_domain", .str s.trustDomain)]

/-- `_canonical_json_file_bytes`. -/
def material (s : WorkloadTrustSequenceState) : ByteArray := Json.fileBytes (.obj s.members)

/-! ## Reading -/

/-- A required `str` field. -/
def readStr (members : List (String × Json)) (key : String) : Option String :=
  match lookupEntry key members with
  | some (.str text) => some text
  | _ => none

/-- `schema_version`, which has a default. -/
def schemaAccepted (members : List (String × Json)) : Bool :=
  match lookupEntry "schema_version" members with
  | none => true
  | some (.str text) => decide (text = trustSequenceSchemaVersion)
  | some _ => false

/-- `model_validate` under `extra="forbid"` and `strict=True`: the fields, before their
    constraints. -/
def ofMembers (members : List (String × Json)) : Option WorkloadTrustSequenceState :=
  if (members.map Prod.fst).all (fun key => key ∈ ["authority_key_id",
      "authority_public_key_sha256", "highest_bundle_sha256", "highest_sequence",
      "integrity_sha256", "schema_version", "trust_domain"]) && schemaAccepted members then do
    let trustDomain ← readStr members "trust_domain"
    let authorityKeyId ← readStr members "authority_key_id"
    let authorityPublicKeySha256 ← readStr members "authority_public_key_sha256"
    let highestSequence ← (lookupEntry "highest_sequence" members).bind Json.toInt?
    let highestBundleSha256 ← readStr members "highest_bundle_sha256"
    let integritySha256 ← readStr members "integrity_sha256"
    pure ⟨trustDomain, authorityKeyId, authorityPublicKeySha256, highestSequence,
      highestBundleSha256, integritySha256⟩
  else none

/-- `model_validate`. -/
def validate : Json → Option WorkloadTrustSequenceState
  | .obj members => (ofMembers members).filter (fun s => decide s.Valid)
  | _ => none

/-- What `_load_locked` makes of the bytes it read. -/
def parse (bytes : ByteArray) : Except String WorkloadTrustSequenceState := do
  refuseIf (bytes.size < 1 ∨ maxStateBytes < bytes.size)
    "workload trust-sequence checkpoint is outside its size limit"
  let parsed ← (Json.loadsBytes bytes).mapError
    (fun _ => "workload trust-sequence checkpoint is invalid")
  let state ← orRaise (validate parsed) "workload trust-sequence checkpoint is invalid"
  refuseIf (bytes ≠ state.material)
    "workload trust-sequence checkpoint encoding is not canonical"
  pure state

/-! ## The round trip -/

omit [TrustStatePrimitives] in
theorem wellFormed_members (s : WorkloadTrustSequenceState) :
    (Json.obj s.members).wellFormed = true := by
  have hkeys : KeysSorted s.members := by
    simp only [KeysSorted, members, List.pairwise_cons, List.mem_cons, List.not_mem_nil, or_false,
      forall_eq_or_imp, forall_eq, IsEmpty.forall_iff, implies_true, List.Pairwise.nil, and_true]
    decide +kernel
  rw [Json.wellFormed, Bool.and_eq_true, decide_eq_true_eq, Json.wellFormedMembers_iff]
  refine ⟨hkeys, ?_⟩
  simp [members, Json.wellFormed, Json.wellFormed_ofInt]

omit [TrustStatePrimitives] in
theorem ofMembers_members (s : WorkloadTrustSequenceState) : ofMembers s.members = some s := by
  simp [ofMembers, members, schemaAccepted, readStr, lookupEntry]

omit [TrustStatePrimitives] in
theorem size_material_pos (s : WorkloadTrustSequenceState) : 0 < s.material.size := by
  have hsize : s.material.size =
      (String.ofList (Json.obj s.members).write ++ String.ofList ['\n']).utf8ByteSize := by
    rw [material, Json.fileBytes, ← String.ofList_append]
    rfl
  rw [hsize, String.utf8ByteSize_append]
  have hnewline : (String.ofList ['\n']).utf8ByteSize = 1 := by decide
  omega

/-- A checkpoint is accepted exactly if it encodes a valid state. -/
theorem parse_eq_ok {bytes : ByteArray} {s : WorkloadTrustSequenceState} :
    parse bytes = .ok s ↔ bytes = s.material ∧ s.Valid ∧ s.material.size ≤ maxStateBytes := by
  constructor
  · intro h
    rw [parse, bind_unit_eq_ok, refuseIf_eq_ok] at h
    obtain ⟨hsize, h⟩ := h
    obtain ⟨parsed, -, h⟩ := bind_eq_ok.mp h
    obtain ⟨state, hstate, h⟩ := bind_eq_ok.mp h
    rw [bind_unit_eq_ok, refuseIf_eq_ok, not_not] at h
    obtain ⟨rfl, hreturned⟩ := h
    obtain rfl := Except.ok.inj hreturned
    refine ⟨rfl, ?_, not_lt.mp (not_or.mp hsize).2⟩
    rw [orRaise_eq_ok] at hstate
    cases parsed with
    | obj members => exact of_decide_eq_true (Option.filter_eq_some_iff.mp hstate).2
    | null => cases hstate
    | bool value => cases hstate
    | num token => cases hstate
    | str text => cases hstate
    | arr items => cases hstate
  · rintro ⟨rfl, hvalid, hsize⟩
    have hpos := s.size_material_pos
    have hparsed : Json.loadsBytes s.material = .ok (.obj s.members) :=
      Json.loadsBytes_fileBytes s.wellFormed_members
    have hvalidated : validate (.obj s.members) = some s := by
      rw [validate, ofMembers_members]
      exact Option.filter_eq_some_iff.mpr ⟨rfl, decide_eq_true hvalid⟩
    rw [parse, refuseIf_neg (by omega), hparsed]
    simp only [ok_bind, Except.mapError, hvalidated, orRaise]
    rw [refuseIf_neg (not_not.mpr rfl)]
    rfl

/- From here on the bytes of a state are known by `parse_eq_ok` only. -/
attribute [irreducible] material

/-- A state that is created from valid fields is valid. -/
theorem valid_create {trustDomain authorityKeyId authorityPublicKeySha256 : String}
    {highestSequence : ℤ} {highestBundleSha256 : String}
    (htrustDomain : isTrustIdentity trustDomain = true)
    (hauthorityKeyId : isTrustIdentity authorityKeyId = true)
    (hauthorityKey : isHexDigest authorityPublicKeySha256 = true)
    (hsequence : 1 ≤ highestSequence) (hbundle : isHexDigest highestBundleSha256 = true) :
    (create trustDomain authorityKeyId authorityPublicKeySha256 highestSequence
      highestBundleSha256).Valid :=
  ⟨htrustDomain, hauthorityKeyId, hauthorityKey, hsequence, hbundle, isHexDigest_hexdigest _, rfl⟩

end WorkloadTrustSequenceState

end

end AegisOt
