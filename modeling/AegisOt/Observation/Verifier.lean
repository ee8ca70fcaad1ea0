import AegisOt.Capability
import AegisOt.Misc.Checks

/-!
# The signed-observation verifier

`SignedObservationVerifier` of `capability_control.py`. Each call gives its reasons and the
verifier it leaves. An evaluation time without a timezone has no age, and the subtraction
raises.
-/

namespace AegisOt

/-- The part of `ObserverProcessInfo` that is pinned. -/
structure ObserverProcessInfo where
  observerId : String
  bootEpoch : String
  keyId : String
  publicKey : PublicKey
  deriving DecidableEq

/-- The part of `PlantProcessInfo` that an observation repeats. -/
structure PlantProcessInfo where
  modelDigest : Sha256
  simulatorVersion : String
  observationSourceId : String
  deriving DecidableEq

/-- `SignedObservationVerifier`. -/
structure SignedObservationVerifier where
  observerInfo : ObserverProcessInfo
  plantInfo : PlantProcessInfo
  maximumAge : Time
  lastSequence : Nat
  acceptedChallenges : List String
  maximumAge_pos : 0 < maximumAge

namespace SignedObservationVerifier

/-- `__init__`. -/
def init (observerInfo : ObserverProcessInfo) (plantInfo : PlantProcessInfo)
    (maximumAge : Time) : Except String SignedObservationVerifier :=
  if h : maximumAge ≤ 0 then .error "maximum observation age must be positive"
  else .ok
    { observerInfo := observerInfo
      plantInfo := plantInfo
      maximumAge := maximumAge
      lastSequence := 0
      acceptedChallenges := []
      maximumAge_pos := not_le.mp h }

/-- The two branches on the age of an observation. -/
def ageReasons (v : SignedObservationVerifier) (age : Time) : List String :=
  if age < 0 then ["observation_from_future"]
  else reasonIf (v.maximumAge < age) "observation_stale"

/-- `_accept`. -/
def accept (v : SignedObservationVerifier) (observation : SignedObservationEnvelope) :
    SignedObservationVerifier :=
  { v with
    lastSequence := observation.observerSequence
    acceptedChallenges := observation.challengeNonce :: v.acceptedChallenges }

/-- The end of both calls: accept what has no reasons against it. -/
def conclude (v : SignedObservationVerifier) (observation : SignedObservationEnvelope)
    (reasons : List String) : List String × SignedObservationVerifier :=
  (reasons, if reasons = [] then v.accept observation else v)

variable [Primitives]

/-- `_common_reasons`. -/
def commonReasons (v : SignedObservationVerifier) (observation : SignedObservationEnvelope)
    (evaluatedAt : DateTime) : Except String (List String) :=
  match evaluatedAt with
  | .naive => .error "can't subtract offset-naive and offset-aware datetimes"
  | .aware instant => .ok <|
    reasonIf (observation.observerId ≠ v.observerInfo.observerId)
      "observation_source_mismatch" ++
    reasonIf (observation.observerKeyId ≠ v.observerInfo.keyId) "observation_key_mismatch" ++
    reasonIf (observation.observerBootEpoch ≠ v.observerInfo.bootEpoch)
      "observation_boot_mismatch" ++
    reasonIf (¬ observation.verify v.observerInfo.publicKey) "observation_signature_invalid" ++
    reasonIf (observation.snapshot.observationSourceId ≠ v.plantInfo.observationSourceId)
      "plant_observation_source_mismatch" ++
    reasonIf (observation.snapshot.modelDigest ≠ v.plantInfo.modelDigest)
      "plant_model_digest_mismatch" ++
    reasonIf (observation.snapshot.simulatorVersion ≠ v.plantInfo.simulatorVersion)
      "plant_simulator_version_mismatch" ++
    reasonIf (¬ observation.snapshot.verifyDigest) "observation_state_digest_invalid" ++
    v.ageReasons (instant - observation.capturedAt) ++
    reasonIf (observation.observerSequence ≤ v.lastSequence) "observation_sequence_regressed" ++
    reasonIf (observation.challengeNonce ∈ v.acceptedChallenges)
      "observation_challenge_replayed"

/-- What `verify_pre` adds: the bindings of the request and its proposal. -/
def preReasons (observation : SignedObservationEnvelope) (request : CapabilityActionRequest) :
    List String :=
  reasonIf (observation.phase ≠ .preAuthorization) "observation_phase_mismatch" ++
  reasonIf (observation.observationId ≠ request.observationId) "observation_id_mismatch" ++
  reasonIf (observation.envelopeDigest ≠ request.observationEnvelopeDigest)
    "observation_envelope_digest_mismatch" ++
  reasonIf (observation.challengeNonce ≠ request.observationChallengeNonce)
    "observation_challenge_mismatch" ++
  reasonIf (observation.correlationId ≠ request.correlationId)
    "observation_correlation_mismatch" ++
  reasonIf (request.proposal.observedStateVersion ≠ observation.snapshot.stateVersion)
    "proposal_observation_version_mismatch" ++
  reasonIf (request.proposal.observedAt ≠ observation.snapshot.observedAt)
    "proposal_observation_time_mismatch"

/-- What `verify_post` adds: the bindings of the dispatch and its acknowledgment. -/
def postReasons (observation : SignedObservationEnvelope) (request : CapabilityActionRequest)
    (permit : CapabilityExecutionPermit) (acknowledgment : PlcCommandAcknowledgment)
    (challengeNonce : String) : List String :=
  let base := permit.basePermit
  reasonIf (observation.phase ≠ .postDispatch) "post_observation_phase_mismatch" ++
  reasonIf (observation.correlationId ≠ request.correlationId)
    "post_observation_correlation_mismatch" ++
  reasonIf (observation.challengeNonce ≠ challengeNonce)
    "post_observation_challenge_mismatch" ++
  reasonIf (observation.permitId ≠ some base.permitId) "post_observation_permit_mismatch" ++
  reasonIf (observation.commandDigest ≠ some base.commandDigest)
    "post_observation_command_mismatch" ++
  reasonIf (observation.plcAcknowledgmentDigest ≠ some acknowledgment.digest)
    "post_observation_acknowledgment_mismatch" ++
  reasonIf (observation.previousEnvelopeDigest ≠ some permit.observationEnvelopeDigest)
    "post_observation_previous_envelope_mismatch" ++
  reasonIf (observation.capturedAt < acknowledgment.acknowledgedAt)
    "post_observation_precedes_acknowledgment"

/-- `verify_pre`. -/
def verifyPre (v : SignedObservationVerifier) (observation : SignedObservationEnvelope)
    (request : CapabilityActionRequest) (evaluatedAt : DateTime) :
    Except String (List String × SignedObservationVerifier) := do
  let common ← v.commonReasons observation evaluatedAt
  pure (v.conclude observation (common ++ preReasons observation request))

/-- `verify_post`. -/
def verifyPost (v : SignedObservationVerifier) (observation : SignedObservationEnvelope)
    (request : CapabilityActionRequest) (permit : CapabilityExecutionPermit)
    (acknowledgment : PlcCommandAcknowledgment) (challengeNonce : String)
    (evaluatedAt : DateTime) : Except String (List String × SignedObservationVerifier) := do
  let common ← v.commonReasons observation evaluatedAt
  pure (v.conclude observation
    (common ++ postReasons observation request permit acknowledgment challengeNonce))

/-- One use of a verifier, with the arguments of the call. -/
inductive Call where
  | pre (observation : SignedObservationEnvelope) (request : CapabilityActionRequest)
      (evaluatedAt : DateTime)
  | post (observation : SignedObservationEnvelope) (request : CapabilityActionRequest)
      (permit : CapabilityExecutionPermit) (acknowledgment : PlcCommandAcknowledgment)
      (challengeNonce : String) (evaluatedAt : DateTime)

/-- The observation that a call is about. -/
def Call.observation : Call → SignedObservationEnvelope
  | .pre observation _ _ => observation
  | .post observation _ _ _ _ _ => observation

def Call.perform (v : SignedObservationVerifier) :
    Call → Except String (List String × SignedObservationVerifier)
  | .pre observation request evaluatedAt => v.verifyPre observation request evaluatedAt
  | .post observation request permit acknowledgment challengeNonce evaluatedAt =>
      v.verifyPost observation request permit acknowledgment challengeNonce evaluatedAt

end SignedObservationVerifier

end AegisOt
