import AegisOt.Traceability.Material
import Mathlib.Algebra.Order.Ring.Nat

/-!
# External attestations

`verify_external_attestation_stateless` of `m8_evidence_traceability.py`: the trust configuration,
the context an attestation is bound to, and every check in the order of the source.
-/

namespace AegisOt

/-! ## Texts -/

/-- `[0-9a-f]`. -/
def isHexDigit (c : Char) : Bool := decide (('0' ≤ c ∧ c ≤ '9') ∨ ('a' ≤ c ∧ c ≤ 'f'))

/-- `GIT_OBJECT_RE.fullmatch`. -/
def isGitObject (text : String) : Bool :=
  decide (text.length = 40 ∨ text.length = 64) && text.toList.all isHexDigit

/-- `REQUIREMENT_RE.fullmatch`. -/
def isRequirementId (text : String) : Bool :=
  let rest := text.toList.drop 4
  let letters := rest.takeWhile (fun c => decide ('A' ≤ c ∧ c ≤ 'Z'))
  let suffix := rest.drop letters.length
  decide (text.toList.take 4 = ['A', 'O', 'T', '-'] ∧ letters ≠ [] ∧ suffix.length = 4 ∧
    suffix.head? = some '-') && (suffix.drop 1).all Char.isDigit

/-- The pattern of an attestation identifier, a lower-case UUID. -/
def isAttestationId (text : String) : Bool :=
  match text.splitOn "-" with
  | [a, b, c, d, e] =>
      decide (a.length = 8 ∧ b.length = 4 ∧ c.length = 4 ∧ d.length = 4 ∧ e.length = 12) &&
        (a ++ b ++ c ++ d ++ e).toList.all isHexDigit &&
        decide (c.toList.head? ∈ ['1', '2', '3', '4', '5'].map some ∧
          d.toList.head? ∈ ['8', '9', 'a', 'b'].map some)
  | _ => false

/-- The value of a URL-safe Base64 character. -/
def base64Value (c : Char) : Option Nat :=
  if 'A' ≤ c ∧ c ≤ 'Z' then some (c.toNat - 65)
  else if 'a' ≤ c ∧ c ≤ 'z' then some (c.toNat - 71)
  else if '0' ≤ c ∧ c ≤ '9' then some (c.toNat + 4)
  else if c = '-' then some 62
  else if c = '_' then some 63
  else none

/-- `_canonical_signature` accepts the text: it is what `urlsafe_b64encode` writes for 64 bytes.
    The source words the refusal of a text that does not decode differently. -/
def isCanonicalSignature (text : String) : Bool :=
  let digits := text.toList.take 86
  decide (digits.length = 86 ∧ text.toList.drop 86 = ['=', '=']) &&
    digits.all (fun c => (base64Value c).isSome) &&
    (digits.getLast?.bind base64Value).any (fun value => decide (value % 16 = 0))

/-! ## Times -/

/-- The number that a run of decimal digits spells. -/
def decimalDigits (count : Nat) (cs : List Char) : Option Nat :=
  if cs.length = count ∧ cs.all Char.isDigit = true then
    some (cs.foldl (fun value c => 10 * value + (c.toNat - 48)) 0)
  else none

/-- `calendar.isleap`. -/
def isLeapYear (year : Nat) : Bool :=
  decide (year % 4 = 0 ∧ (year % 100 ≠ 0 ∨ year % 400 = 0))

/-- The days of the months of a year. -/
def monthDays (year : Nat) : List Nat :=
  [31, if isLeapYear year then 29 else 28, 31, 30, 31, 30, 31, 31, 30, 31, 30, 31]

/-- The microseconds since 1970 of a date and time of day. -/
def civilTime (year month day hour minute seconds microseconds : Nat) : Time :=
  let before := year - 1
  let days := 365 * before + before / 4 - before / 100 + before / 400 +
    ((monthDays year).take (month - 1)).sum + day
  ((days : ℤ) - 719163) * 86400 * second +
    ((3600 * hour + 60 * minute + seconds : ℕ) : ℤ) * second + microseconds

/-- `_canonical_time`: the time whose `isoformat` in UTC is the text. -/
def canonicalTime (text : String) : Option Time := do
  let cs := text.toList
  let year ← decimalDigits 4 (cs.take 4)
  let month ← decimalDigits 2 ((cs.drop 5).take 2)
  let day ← decimalDigits 2 ((cs.drop 8).take 2)
  let hour ← decimalDigits 2 ((cs.drop 11).take 2)
  let minute ← decimalDigits 2 ((cs.drop 14).take 2)
  let seconds ← decimalDigits 2 ((cs.drop 17).take 2)
  let zone := ['+', '0', '0', ':', '0', '0']
  let microseconds ←
    if cs.drop 19 = zone then some 0
    else if cs[19]? = some '.' ∧ cs.drop 26 = zone then
      (decimalDigits 6 ((cs.drop 20).take 6)).filter (fun value => decide (value ≠ 0))
    else none
  if cs[4]? = some '-' ∧ cs[7]? = some '-' ∧ cs[10]? = some 'T' ∧ cs[13]? = some ':' ∧
      cs[16]? = some ':' ∧ 1 ≤ year ∧ 1 ≤ month ∧ month ≤ 12 ∧ 1 ≤ day ∧
      day ≤ (monthDays year).getD (month - 1) 0 ∧ hour < 24 ∧ minute < 60 ∧ seconds < 60 then
    some (civilTime year month day hour minute seconds microseconds)
  else none

/-! ## Configuration -/

/-- `TrustedAttestationAuthority`, with what `__post_init__` demands. -/
structure TrustedAttestationAuthority where
  authorityId : String
  publicKey : PublicKey
  allowedRequirementIds : List String
  maximumAge : Time
  maximumValidity : Time
  futureSkew : Time
  authorityIdCanonical : authorityId ≠ "" ∧ hasOuterWhitespace authorityId = false
  scopeValid : allowedRequirementIds ≠ [] ∧ ∀ id ∈ allowedRequirementIds, isRequirementId id = true
  limitsValid : 0 < maximumAge ∧ 0 < maximumValidity ∧ 0 ≤ futureSkew

/-- `AttestedArtifactBinding`. -/
structure AttestedArtifactBinding where
  path : String
  sha256 : String
  gitBlob : String
  deriving DecidableEq

/-- `AttestationContext`. -/
structure AttestationContext where
  requirementsSourceSha256 : String
  gitCommit : String
  gitTree : String
  mappingSha256 : String
  traceabilityContentSha256 : String
  purpose : String
  audience : String
  challengeNonce : String
  artifactsByRequirement : SortedMap String (List AttestedArtifactBinding)

/-- The fields that must repeat the context. -/
def AttestationContext.bindings (context : AttestationContext) : List (String × String) :=
  [("requirements_source_sha256", context.requirementsSourceSha256),
    ("git_commit", context.gitCommit),
    ("git_tree", context.gitTree),
    ("mapping_sha256", context.mappingSha256),
    ("traceability_content_sha256", context.traceabilityContentSha256),
    ("purpose", context.purpose),
    ("audience", context.audience),
    ("challenge_nonce", context.challengeNonce)]

/-- `ATTESTATION_SCHEMA`. -/
def attestationSchema : String := "aegis-ot-m8-external-attestation-v1"

/-- `EXPECTED_REQUIREMENT_COUNT`. -/
def expectedRequirementCount : Nat := 223

/-- `_ATTESTATION_FIELDS`, in key order. -/
def attestationFields : List String :=
  ["attestation_id", "audience", "authority_id", "challenge_nonce", "expires_at", "findings",
    "git_commit", "git_tree", "issued_at", "key_id", "mapping_sha256", "purpose",
    "requirement_ids", "requirements_source_sha256", "schema", "sequence", "signature",
    "traceability_content_sha256"]

/-- What `verify_external_attestation_stateless` returns, and `ingest_external_attestation` with
    other flags. -/
structure VerifiedAttestation where
  attestationId : String
  authorityId : String
  keyId : String
  issuedAt : String
  expiresAt : String
  purpose : String
  audience : String
  challengeNonce : String
  sequence : ℤ
  requirementIds : List String
  dispositions : List (String × String)
  attestationContentSha256 : String
  signatureAndBindingsVerified : Bool
  replaySafeIngestionCompleted : Bool
  automaticRequirementAcceptance : Bool
  independentValidationEstablished : Bool
  deriving DecidableEq

open WorkloadTrustSequenceState (readStr)

/-! ## Findings -/

/-- One entry of `artifact_bindings`. -/
def attestedArtifact (requirementId : String) (artifact : Json) :
    Except IngestError AttestedArtifactBinding := do
  let members ← orRaise artifact.members? (.traceability
    ("external attestation artifact is not an object: " ++ requirementId))
  exactFields members ["git_blob", "path", "sha256"] ("attested artifact for " ++ requirementId)
  let path ← requiredText members "path" requirementId
  let digest ← requiredText members "sha256" requirementId
  let blob ← requiredText members "git_blob" requirementId
  refuseIf (isHexDigest digest = false ∨ isGitObject blob = false)
    (.traceability ("external attestation artifact digest is invalid: " ++ requirementId))
  pure ⟨path, digest, blob⟩

/-- One finding: its requirement and disposition. -/
def attestedFinding (context : AttestationContext) (index : Nat) (finding : Json) :
    Except IngestError (String × String) := do
  let members ← orRaise finding.members? (.traceability
    ("external attestation finding " ++ toString index ++ " must be an object"))
  let label := "attestation finding " ++ toString index
  exactFields members ["artifact_bindings", "disposition", "requirement_id", "statement"] label
  let requirementId ← requiredText members "requirement_id" label
  let disposition ← requiredText members "disposition" requirementId
  refuseIf (disposition ∉ ["satisfied", "not_satisfied", "inconclusive"])
    (.traceability ("external attestation disposition is invalid: " ++ requirementId))
  let _ ← requiredText members "statement" requirementId
  let artifacts ← orRaise ((lookupEntry "artifact_bindings" members).bind Json.items?)
    (.traceability ("external attestation artifacts are invalid: " ++ requirementId))
  let normalized ← artifacts.mapM (attestedArtifact requirementId)
  let expected ← orRaise (context.artifactsByRequirement.find? requirementId)
    (.key requirementId)
  refuseIf (normalized ≠ expected) (.traceability
    ("external attestation artifact binding does not match exactly: " ++ requirementId))
  pure (requirementId, disposition)

/-- The findings, with their indices. -/
def attestedFindings (context : AttestationContext) :
    Nat → List Json → Except IngestError (List (String × String))
  | _, [] => pure []
  | index, finding :: rest => do
      let found ← attestedFinding context index finding
      let others ← attestedFindings context (index + 1) rest
      pure (found :: others)

/-! ## Verification -/

/-- The freshness checks. -/
def checkFreshness (authority : TrustedAttestationAuthority) (now issuedAt expiresAt : Time) :
    Except IngestError Unit := do
  refuseIf (now + authority.futureSkew < issuedAt)
    (.traceability "external attestation is issued too far in the future")
  refuseIf (issuedAt < now - authority.maximumAge)
    (.traceability "external attestation is stale")
  refuseIf (expiresAt ≤ now) (.traceability "external attestation is expired")
  refuseIf (expiresAt ≤ issuedAt ∨ authority.maximumValidity < expiresAt - issuedAt)
    (.traceability "external attestation validity interval is invalid")

/-- The instant of a timezone-aware time. -/
def DateTime.instant? : DateTime → Option Time
  | .aware instant => some instant
  | .naive => none

/-- A field that must hold a canonical time. The source words the refusal of a text that is no
    timestamp at all differently. -/
def timeField (members : List (String × Json)) (label : String) :
    Except IngestError (String × Time) := do
  let text ← orRaise (readStr members label)
    (.traceability (label ++ " must be canonical UTC text"))
  let time ← orRaise (canonicalTime text)
    (.traceability (label ++ " must be canonical timezone-aware UTC text"))
  pure (text, time)

variable [TraceabilityPrimitives]

/-- `key_id`. -/
def TrustedAttestationAuthority.keyId (authority : TrustedAttestationAuthority) : String :=
  "ed25519-sha256:" ++ hexdigest (TraceabilityPrimitives.sha256
    (TraceabilityPrimitives.publicBytesRaw authority.publicKey))

/-- `attestation_signing_bytes`. -/
def attestationSigningBytes (unsigned : List (String × Json)) : ByteArray :=
  "AEGIS-OT:M8:EXTERNAL-ATTESTATION:V1\x00".toUTF8 ++ Json.canonicalBytes (.obj unsigned)

/-- The requirements an attestation may speak of, and its findings on them. -/
def attestedRequirements (authority : TrustedAttestationAuthority) (context : AttestationContext)
    (members : List (String × Json)) :
    Except IngestError (List String × List (String × String)) := do
  let requirementIds ← uniqueSortedStrings (lookupEntry "requirement_ids" members)
    "external attestation requirement_ids" expectedRequirementCount
  refuseIf (∃ id ∈ requirementIds, id ∉ authority.allowedRequirementIds)
    (.traceability "external attestation exceeds the configured authority scope")
  refuseIf (∃ id ∈ requirementIds, (context.artifactsByRequirement.find? id).isNone = true)
    (.traceability "external attestation names an unmapped requirement")
  let mismatch : IngestError :=
    .traceability "external attestation findings do not match its exact scope"
  let findings ← orRaise ((lookupEntry "findings" members).bind Json.items?) mismatch
  refuseIf (findings.length ≠ requirementIds.length) mismatch
  let dispositions ← attestedFindings context 0 findings
  refuseIf (dispositions.map Prod.fst ≠ requirementIds) (.traceability
    "external attestation findings must be unique and ordered like requirement_ids")
  pure (requirementIds, dispositions)

/-- `verify_external_attestation_stateless`. -/
def verifyExternalAttestationStateless (material : ByteArray)
    (authority : TrustedAttestationAuthority) (context : AttestationContext) (now : DateTime) :
    Except IngestError VerifiedAttestation := do
  let members ← loadStrictJsonBytes material "external attestation"
  exactFields members attestationFields "external attestation"
  refuseIf (readStr members "schema" ≠ some attestationSchema)
    (.traceability "external attestation schema is unsupported")
  refuseIf (readStr members "authority_id" ≠ some authority.authorityId ∨
      readStr members "key_id" ≠ some authority.keyId)
    (.traceability "external attestation authority is not the configured authority")
  context.bindings.forM (fun binding =>
    refuseIf (readStr members binding.1 ≠ some binding.2)
      (.traceability ("external attestation " ++ binding.1 ++ " binding does not match")))
  let notPositive : IngestError :=
    .traceability "external attestation sequence is not a positive integer"
  let sequence ← orRaise ((lookupEntry "sequence" members).bind Json.toInt?) notPositive
  refuseIf (sequence ≤ 0) notPositive
  let notUuid : IngestError :=
    .traceability "external attestation ID is not a canonical UUID"
  let attestationId ← orRaise (readStr members "attestation_id") notUuid
  refuseIf (isAttestationId attestationId = false) notUuid
  let now ← orRaise now.instant?
    (.traceability "attestation verification time must be timezone-aware")
  let issuedAt ← timeField members "issued_at"
  let expiresAt ← timeField members "expires_at"
  checkFreshness authority now issuedAt.2 expiresAt.2
  let requirements ← attestedRequirements authority context members
  let signature ← orRaise (readStr members "signature")
    (.traceability "attestation signature must be canonical URL-safe Base64")
  refuseIf (isCanonicalSignature signature = false)
    (.traceability "attestation signature is not canonical Ed25519 Base64")
  let unsigned := members.filter (fun member => decide (member.1 ≠ "signature"))
  refuseIf (TraceabilityPrimitives.verify authority.publicKey (attestationSigningBytes unsigned)
      signature = false) (.traceability "external attestation signature is invalid")
  pure
    { attestationId := attestationId
      authorityId := authority.authorityId
      keyId := authority.keyId
      issuedAt := issuedAt.1
      expiresAt := expiresAt.1
      purpose := context.purpose
      audience := context.audience
      challengeNonce := context.challengeNonce
      sequence := sequence
      requirementIds := requirements.1
      dispositions := requirements.2
      attestationContentSha256 := sha256Json (.obj unsigned)
      signatureAndBindingsVerified := true
      replaySafeIngestionCompleted := false
      automaticRequirementAcceptance := false
      independentValidationEstablished := false }

end AegisOt
