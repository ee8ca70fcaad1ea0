import AegisOt.Degraded.Publication
import AegisOt.Misc.Checks
import AegisOt.Misc.Interleaving

/-!
# The publisher of degraded-operation publications

`DegradedPublicationPublisher.publish_once` over the two files it shares with other calls: the
durable state, which allocates and commits sequences under its lock, and the sink, which holds one
publication. A call reads the sink, allocates, replaces the sink and commits as separate actions;
each of them may raise, and a replacement or a write may have happened before it raises.
-/

namespace AegisOt

/-- Ed25519 signing of a publication. -/
class PublicationSigning extends PublicationPrimitives where
  publicKeyOf : PrivateKey → PublicKey
  signPublication : PrivateKey → DegradedRuntimePublication → String

section

variable [PublicationPrimitives]

/-! ## The state store -/

namespace DegradedPublisherState

/-- The state belongs to this credential. -/
def Matches (state : DegradedPublisherState) (credential : DegradedPublisherCredential) : Prop :=
  state.authorityKeyId = credential.authorityKeyId ∧
    state.publisherCredentialSha256 = credential.digest ∧
    state.publisherKeyId = credential.publisherKeyId

instance (state : DegradedPublisherState) (credential : DegradedPublisherCredential) :
    Decidable (state.Matches credential) := by
  unfold Matches; infer_instance

/-- `create` with a later publication as the latest one. -/
def adopt (state : DegradedPublisherState) (publication : DegradedRuntimePublication)
    (h : state.latestPublishedSequence < publication.sequence ∧
      publication.sequence ≤ state.highestAllocatedSequence) : DegradedPublisherState :=
  { state with
    latestPublishedSequence := publication.sequence
    latestPublicationSha256 := some publication.digest
    publishedAllocated := h.2
    publishedDigest := by
      constructor
      · intro hzero
        omega
      · nofun }

/-- `create` with the next sequence allocated and a status input noted. -/
def allocateNext (state : DegradedPublisherState) (statusInput : DegradedStatusInput) :
    DegradedPublisherState :=
  { state with
    highestAllocatedSequence := state.highestAllocatedSequence + 1
    publishedAllocated := state.publishedAllocated.trans (Nat.le_succ _)
    highestStatusInputSequence :=
      max state.highestStatusInputSequence statusInput.sequence
    latestStatusInputSha256 :=
      if state.highestStatusInputSequence < statusInput.sequence then some statusInput.digest
      else state.latestStatusInputSha256
    statusDigest := by
      have hold := state.statusDigest
      split
      · rename_i hnewer
        simp only [reduceCtorEq, iff_false]
        omega
      · rename_i hnewer
        rw [max_eq_left (not_lt.mp hnewer)]
        exact hold }

end DegradedPublisherState

/-- The publication names the credential and carries its publisher's signature. -/
def DegradedRuntimePublication.trustedBy (publication : DegradedRuntimePublication)
    (credential : DegradedPublisherCredential) : Bool :=
  decide (publication.publisherCredentialSha256 = credential.digest ∧
    publication.publisherKeyId = credential.publisherKeyId ∧
    publication.healthSourceId = credential.healthSourceId) &&
  publication.verify credential.publisherPublicKey

namespace FileDegradedPublisherStateStore

/-- `_reconciled_state`. -/
def reconciledState (state : DegradedPublisherState)
    (currentPublication : Option DegradedRuntimePublication)
    (credential : DegradedPublisherCredential) : Except String DegradedPublisherState :=
  if ¬ state.Matches credential then .error "publisher state does not match its credential"
  else
    match currentPublication with
    | none =>
        if state.latestPublishedSequence ≠ 0 then
          .error "published output is missing after a committed publication"
        else .ok state
    | some publication =>
        if publication.trustedBy credential = false then
          .error "current publisher output is outside configured trust"
        else if publication.sequence = state.latestPublishedSequence then
          if some publication.digest ≠ state.latestPublicationSha256 then
            .error "current publisher output equivocated at its committed sequence"
          else .ok state
        else if h : state.latestPublishedSequence < publication.sequence ∧
            publication.sequence ≤ state.highestAllocatedSequence then
          if publication.previousPublicationSha256 ≠ state.latestPublicationSha256 then
            .error "recovered publisher output has an inconsistent predecessor"
          else .ok (state.adopt publication h)
        else .error "current publisher output is outside durable allocation state"

/-- The closure `transition` of `allocate`. -/
def allocate (currentPublication : Option DegradedRuntimePublication)
    (credential : DegradedPublisherCredential) (statusInput : DegradedStatusInput)
    (state : DegradedPublisherState) :
    Except String (DegradedPublisherState × Nat × Option Sha256) := do
  let reconciled ← reconciledState state currentPublication credential
  refuseIf (statusInput.sequence < reconciled.highestStatusInputSequence)
    "status input sequence rolled back"
  refuseIf (statusInput.sequence = reconciled.highestStatusInputSequence ∧
      some statusInput.digest ≠ reconciled.latestStatusInputSha256)
    "status input equivocated at its sequence"
  pure (reconciled.allocateNext statusInput, reconciled.highestAllocatedSequence + 1,
    reconciled.latestPublicationSha256)

/-- The closure `transition` of `commit`. -/
def commit (publication : DegradedRuntimePublication) (credential : DegradedPublisherCredential)
    (state : DegradedPublisherState) :
    Except String (DegradedPublisherState × DegradedPublisherState) :=
  if ¬ state.Matches credential ∨ publication.trustedBy credential = false then
    .error "publisher commit is outside configured trust"
  else if publication.sequence = state.latestPublishedSequence then
    if some publication.digest ≠ state.latestPublicationSha256 then
      .error "publisher commit equivocated at its committed sequence"
    else .ok (state, state)
  else if h : state.latestPublishedSequence < publication.sequence ∧
      publication.sequence ≤ state.highestAllocatedSequence then
    if publication.previousPublicationSha256 ≠ state.latestPublicationSha256 then
      .error "publisher commit predecessor is inconsistent"
    else .ok (state.adopt publication h, state.adopt publication h)
  else .error "publisher commit sequence was not allocated"

end FileDegradedPublisherStateStore

/-! ## The shared files -/

/-- The durable state, the publication in the sink, and the publications that were put there,
    oldest first. -/
structure PublicationFiles where
  state : DegradedPublisherState
  sink : Option DegradedRuntimePublication
  visible : List DegradedRuntimePublication

/-- An action of `publish_once` on the files. -/
inductive PublisherAct where
  | readSink
  | allocate (currentPublication : Option DegradedRuntimePublication)
      (credential : DegradedPublisherCredential) (statusInput : DegradedStatusInput)
  | publish (publication : DegradedRuntimePublication)
  | commit (publication : DegradedRuntimePublication) (credential : DegradedPublisherCredential)

/-- What an action answers; `none` and `false` stand for an exception. -/
def PublisherAct.Reply : PublisherAct → Type
  | .readSink => Option (Option DegradedRuntimePublication)
  | .allocate _ _ _ => Option (Nat × Option Sha256)
  | .publish _ => Bool
  | .commit _ _ => Bool

namespace PublicationFiles

/-- `os.replace` of the publication file. -/
def replace (s : PublicationFiles) (publication : DegradedRuntimePublication) : PublicationFiles :=
  { s with sink := some publication, visible := s.visible ++ [publication] }

/-- What an action does to the files. -/
inductive Perform (s : PublicationFiles) :
    (action : PublisherAct) → action.Reply → PublicationFiles → Prop where
  | read : Perform s .readSink (some s.sink) s
  | unreadable : Perform s .readSink (none : Option (Option DegradedRuntimePublication)) s
  | allocate (outcome : MutateOutcome)
      (currentPublication : Option DegradedRuntimePublication)
      (credential : DegradedPublisherCredential) (statusInput : DegradedStatusInput) :
      Perform s (.allocate currentPublication credential statusInput)
        (mutateState outcome (FileDegradedPublisherStateStore.allocate currentPublication credential
          statusInput) s.state).1
        { s with state := (mutateState outcome (FileDegradedPublisherStateStore.allocate
          currentPublication credential statusInput) s.state).2 }
  | published (publication : DegradedRuntimePublication) (returned : Bool) :
      Perform s (.publish publication) returned (s.replace publication)
  | unpublished (publication : DegradedRuntimePublication) :
      Perform s (.publish publication) false s
  | commit (outcome : MutateOutcome) (publication : DegradedRuntimePublication)
      (credential : DegradedPublisherCredential) :
      Perform s (.commit publication credential)
        (mutateState outcome (FileDegradedPublisherStateStore.commit publication credential)
          s.state).1.isSome
        { s with state := (mutateState outcome (FileDegradedPublisherStateStore.commit publication
          credential) s.state).2 }

/-- The files when nothing fails. -/
def answer (s : PublicationFiles) : (action : PublisherAct) → action.Reply × PublicationFiles
  | .readSink => (some s.sink, s)
  | .allocate currentPublication credential statusInput =>
      let outcome := mutateState .returned (FileDegradedPublisherStateStore.allocate
        currentPublication credential statusInput) s.state
      (outcome.1, { s with state := outcome.2 })
  | .publish publication => (true, s.replace publication)
  | .commit publication credential =>
      let outcome := mutateState .returned (FileDegradedPublisherStateStore.commit publication
        credential) s.state
      (outcome.1.isSome, { s with state := outcome.2 })

theorem perform_answer (s : PublicationFiles) (action : PublisherAct) :
    s.Perform action (s.answer action).1 (s.answer action).2 := by
  cases action with
  | readSink => exact .read
  | allocate currentPublication credential statusInput => exact .allocate .returned _ _ _
  | publish publication => exact .published publication true
  | commit publication credential => exact .commit .returned _ _

end PublicationFiles

end

/-! ## `publish_once` -/

variable [PublicationSigning]

/-- `DegradedPublicationPublisher`, with what its constructor and its credential check. -/
structure DegradedPublicationPublisher where
  authorityPublicKey : PublicKey
  credential : DegradedPublisherCredential
  publisherPrivateKey : PrivateKey
  credentialVerified : credential.verify authorityPublicKey = true
  keysMatch : PublicationSigning.publicKeyOf publisherPrivateKey = credential.publisherPublicKey
  /-- `require_closed_credential`. -/
  publisherKey : credential.publisherKeyId = keyId credential.publisherPublicKey

/-- What `publish_once` reads from its clock, its sources and `secrets`. -/
structure PublisherInputs where
  now : DateTime
  statusInput : SourceAnswer DegradedStatusInput
  authorization : SourceAnswer StableDegradedAuthorization
  snapshotToken : String
  publicationToken : String

/-- `signed`. -/
def DegradedRuntimePublication.signed (publication : DegradedRuntimePublication)
    (publisherPrivateKey : PrivateKey) : DegradedRuntimePublication :=
  { publication with
    signature := PublicationSigning.signPublication publisherPrivateKey
      { publication with signature := "" } }

/-- `publish_once` as a process. -/
abbrev PublisherProgram := Program PublisherAct PublisherAct.Reply String

/-- `self.sink.current()`. -/
def readSink : PublisherProgram (Option (Option DegradedRuntimePublication)) :=
  Program.call PublisherAct.readSink

/-- `self.state_store.allocate(…)`. -/
def allocateNext (currentPublication : Option DegradedRuntimePublication)
    (credential : DegradedPublisherCredential) (statusInput : DegradedStatusInput) :
    PublisherProgram (Option (Nat × Option Sha256)) :=
  Program.call (PublisherAct.allocate currentPublication credential statusInput)

/-- `self.sink.publish(publication)`. -/
def publishToSink (publication : DegradedRuntimePublication) : PublisherProgram Bool :=
  Program.call (PublisherAct.publish publication)

/-- `self.state_store.commit(…)`. -/
def commitState (publication : DegradedRuntimePublication)
    (credential : DegradedPublisherCredential) : PublisherProgram Bool :=
  Program.call (PublisherAct.commit publication credential)

namespace DegradedPublicationPublisher

variable (publisher : DegradedPublicationPublisher)

/-- `_trusted_authorization`. -/
def trustedAuthorization (authorization : StableDegradedAuthorization) : Prop :=
  authorization.verify publisher.authorityPublicKey = true ∧
    authorization.authorityId = publisher.credential.authorityId ∧
    authorization.publisherCredentialSha256 = publisher.credential.digest ∧
    authorization.publisherKeyId = publisher.credential.publisherKeyId

instance (authorization : StableDegradedAuthorization) :
    Decidable (publisher.trustedAuthorization authorization) := by
  unfold trustedAuthorization; infer_instance

/-- The checks of `publish_once` on the clock and the status input. -/
def checkStatus (now : Time) (statusInput : DegradedStatusInput) : Except String Unit := do
  let maximumStatusAge := publisher.credential.maximumStatusInputAge
  refuseIf (statusInput.sourceId ≠ publisher.credential.healthSourceId)
    "status input source is not credentialed"
  refuseIf (now < statusInput.observedAt) "status input observation is from the future"
  refuseIf (maximumStatusAge < now - statusInput.observedAt) "status input observation is stale"
  refuseIf (maximumStatusAge < statusInput.expiresAt - statusInput.observedAt)
    "status input lifetime exceeds its credential"
  refuseIf (statusInput.expiresAt ≤ now) "status input observation is expired"

/-- Everything that `publish_once` checks before it touches a file. -/
def checkInputs (inputs : PublisherInputs) :
    Except String (Time × DegradedStatusInput × StableDegradedAuthorization) := do
  let now ← timezoneAware inputs.now "degraded publication clock"
  refuseIf (¬ (publisher.credential.issuedAt ≤ now ∧ now < publisher.credential.expiresAt))
    "publisher credential is not currently active"
  let statusInput ←
    match inputs.statusInput with
    | .raised => .error "status source raised"
    | .invalid => .error "status source returned an invalid model"
    | .value statusInput => .ok statusInput
  publisher.checkStatus now statusInput
  let authorization ←
    match inputs.authorization with
    | .raised => .error "authorization source raised"
    | .invalid => .error "authorization source returned an invalid model"
    | .value authorization => .ok authorization
  refuseIf (¬ publisher.trustedAuthorization authorization)
    "stable authorization is outside publisher trust"
  pure (now, statusInput, authorization)

/-- The publication that `publish_once` builds and signs. -/
def publication (inputs : PublisherInputs) (now : Time) (statusInput : DegradedStatusInput)
    (authorization : StableDegradedAuthorization) (sequence : Nat)
    (previousDigest : Option Sha256) : DegradedRuntimePublication :=
  let unsigned : DegradedRuntimePublication :=
    { publicationId := "m5-degraded-publication-" ++ inputs.publicationToken
      sequence := sequence
      previousPublicationSha256 := previousDigest
      publisherCredentialSha256 := publisher.credential.digest
      publisherKeyId := publisher.credential.publisherKeyId
      healthSourceId := publisher.credential.healthSourceId
      statusInputSha256 := statusInput.digest
      publishedAt := now
      expiresAt := now + publisher.credential.maximumPublicationAge
      snapshot :=
        { snapshotId := "m5-degraded-snapshot-" ++ inputs.snapshotToken
          capturedAt := statusInput.observedAt
          roleConditions := statusInput.roleConditions
          communicationConditions := statusInput.communicationConditions
          unresolvedEffect := statusInput.unresolvedEffect }
      authorization := some authorization
      signature := "" }
  unsigned.signed publisher.publisherPrivateKey

/-- `publish_once`. -/
def publishOnce (inputs : PublisherInputs) : PublisherProgram DegradedRuntimePublication := do
  let (now, statusInput, authorization) ← Program.result (publisher.checkInputs inputs)
  let current ← readSink
  let current ← Program.result (orRaise current "degraded publication file cannot be read")
  let allocated ← allocateNext current publisher.credential statusInput
  let (sequence, previousDigest) ← Program.result
    (orRaise allocated "degraded state allocation failed")
  let publication := publisher.publication inputs now statusInput authorization sequence
    previousDigest
  let published ← publishToSink publication
  Program.require (published = false) "degraded publication could not be persisted"
  let committed ← commitState publication publisher.credential
  Program.require (committed = false) "degraded publisher commit failed"
  pure publication

end DegradedPublicationPublisher

end AegisOt
