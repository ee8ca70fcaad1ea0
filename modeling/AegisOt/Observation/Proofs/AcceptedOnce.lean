import AegisOt.Coordination.Sample
import AegisOt.Observation.Verifier

/-!
# Every observation counts once

A verifier is used for many observations, before a dispatch and after it, in any order. What it
accepts is a log of observations with increasing sequences and fresh challenges, and the state
it is left in is that log.
-/

namespace AegisOt.SignedObservationVerifier

section

variable [Primitives]

/-! ## What one call does -/

/-- The observation carries the signature and the names of one boot of one observer. -/
structure Genuine (observerInfo : ObserverProcessInfo) (observation : SignedObservationEnvelope) :
    Prop where
  source : observation.observerId = observerInfo.observerId
  key : observation.observerKeyId = observerInfo.keyId
  boot : observation.observerBootEpoch = observerInfo.bootEpoch
  signature : observation.verify observerInfo.publicKey = true

/-- What the verifier's own state asks of the next observation. -/
structure Admits (v : SignedObservationVerifier) (observation : SignedObservationEnvelope) :
    Prop where
  genuine : Genuine v.observerInfo observation
  later : v.lastSequence < observation.observerSequence
  fresh : observation.challengeNonce ∉ v.acceptedChallenges

variable {v w : SignedObservationVerifier} {call : Call}

theorem admits_of_commonReasons {observation : SignedObservationEnvelope} {evaluatedAt : DateTime}
    (h : v.commonReasons observation evaluatedAt = .ok []) : v.Admits observation := by
  cases evaluatedAt with
  | naive => cases h
  | aware instant =>
    have hnil := Except.ok.inj h
    simp only [List.append_eq_nil_iff, reasonIf_eq_nil, not_not, not_le] at hnil
    obtain ⟨⟨⟨⟨⟨⟨⟨⟨⟨⟨hsource, hkey⟩, hboot⟩, hsignature⟩, -⟩, -⟩, -⟩, -⟩, -⟩, hlater⟩, hfresh⟩ :=
      hnil
    exact ⟨⟨hsource, hkey, hboot, hsignature⟩, hlater, hfresh⟩

/-- Both calls put their own reasons behind the common ones, and conclude. -/
theorem perform_eq_ok {reasons : List String} (h : call.perform v = .ok (reasons, w)) :
    ∃ evaluatedAt common own, v.commonReasons call.observation evaluatedAt = .ok common ∧
      reasons = common ++ own ∧ v.conclude call.observation reasons = (reasons, w) := by
  cases call with
  | pre observation request evaluatedAt =>
    obtain ⟨common, hcommon, hconclude⟩ := bind_eq_ok.mp h
    have hpair := Except.ok.inj hconclude
    have hreasons : common ++ preReasons observation request = reasons :=
      congrArg Prod.fst hpair
    refine ⟨evaluatedAt, common, preReasons observation request, hcommon, hreasons.symm, ?_⟩
    rw [← hreasons]
    rw [← hreasons] at hpair
    exact hpair
  | post observation request permit acknowledgment challengeNonce evaluatedAt =>
    obtain ⟨common, hcommon, hconclude⟩ := bind_eq_ok.mp h
    have hpair := Except.ok.inj hconclude
    have hreasons : common ++
        postReasons observation request permit acknowledgment challengeNonce = reasons :=
      congrArg Prod.fst hpair
    refine ⟨evaluatedAt, common, _, hcommon, hreasons.symm, ?_⟩
    rw [← hreasons]
    rw [← hreasons] at hpair
    exact hpair

theorem perform_accepted (h : call.perform v = .ok ([], w)) :
    v.Admits call.observation ∧ w = v.accept call.observation := by
  obtain ⟨evaluatedAt, common, own, hcommon, hreasons, hconclude⟩ := perform_eq_ok h
  have hnil : common = [] := (List.append_eq_nil_iff.mp hreasons.symm).1
  rw [hnil] at hcommon
  have hstate : v.accept call.observation = w := by
    simpa [conclude] using hconclude
  exact ⟨admits_of_commonReasons hcommon, hstate.symm⟩

theorem perform_refused {reasons : List String} (h : call.perform v = .ok (reasons, w))
    (hreasons : reasons ≠ []) : w = v := by
  obtain ⟨_, _, _, _, _, hconclude⟩ := perform_eq_ok h
  have hstate : v = w := by
    simpa [conclude, hreasons] using hconclude
  exact hstate.symm

/-! ## What a run accepts -/

/-- The verifier behind a call. One that raises assigns nothing. -/
def after (v : SignedObservationVerifier) (call : Call) : SignedObservationVerifier :=
  match call.perform v with
  | .ok (_, w) => w
  | .error _ => v

/-- What a call accepts. -/
def acceptedBy (v : SignedObservationVerifier) (call : Call) : List SignedObservationEnvelope :=
  match call.perform v with
  | .ok ([], _) => [call.observation]
  | _ => []

/-- The verifier behind a run. -/
def run (v : SignedObservationVerifier) (calls : List Call) : SignedObservationVerifier :=
  calls.foldl after v

/-- The observations that a run accepts, in their order. -/
def accepted (v : SignedObservationVerifier) : List Call → List SignedObservationEnvelope
  | [] => []
  | call :: rest => v.acceptedBy call ++ (v.after call).accepted rest

/-- A log that a verifier could have accepted from here on. -/
inductive Log : SignedObservationVerifier → List SignedObservationEnvelope → Prop where
  | nil (v : SignedObservationVerifier) : Log v []
  | cons {v : SignedObservationVerifier} {observation : SignedObservationEnvelope}
      {rest : List SignedObservationEnvelope} (admits : v.Admits observation)
      (log : Log (v.accept observation) rest) : Log v (observation :: rest)

/-- One call extends the log by its observation, or changes nothing. -/
theorem after_cases (v : SignedObservationVerifier) (call : Call) :
    (v.Admits call.observation ∧ v.acceptedBy call = [call.observation] ∧
      v.after call = v.accept call.observation) ∨
    (v.acceptedBy call = [] ∧ v.after call = v) := by
  unfold acceptedBy after
  cases h : call.perform v with
  | error error => exact .inr ⟨rfl, rfl⟩
  | ok outcome =>
    obtain ⟨reasons, w⟩ := outcome
    cases reasons with
    | nil =>
      obtain ⟨hadmits, hstate⟩ := perform_accepted h
      exact .inl ⟨hadmits, rfl, hstate⟩
    | cons reason rest => exact .inr ⟨rfl, perform_refused h (List.cons_ne_nil _ _)⟩

/-- What a run accepts is a log. -/
theorem log_accepted (v : SignedObservationVerifier) (calls : List Call) :
    Log v (v.accepted calls) := by
  induction calls generalizing v with
  | nil => exact .nil v
  | cons call rest ih =>
    have hrest := ih (v.after call)
    show Log v (v.acceptedBy call ++ (v.after call).accepted rest)
    obtain ⟨hadmits, haccepted, hafter⟩ | ⟨haccepted, hafter⟩ := after_cases v call
    · rw [haccepted]
      rw [hafter] at hrest ⊢
      exact .cons hadmits hrest
    · rw [haccepted]
      rw [hafter] at hrest ⊢
      exact hrest

/-- The state behind a run is the start and the log, so what was refused left no trace. -/
theorem run_eq_foldl_accept (v : SignedObservationVerifier) (calls : List Call) :
    v.run calls = (v.accepted calls).foldl accept v := by
  induction calls generalizing v with
  | nil => rfl
  | cons call rest ih =>
    show (v.after call).run rest =
      (v.acceptedBy call ++ (v.after call).accepted rest).foldl accept v
    rw [ih, List.foldl_append]
    obtain ⟨_, haccepted, hafter⟩ | ⟨haccepted, hafter⟩ := after_cases v call
    · rw [haccepted, hafter]
      rfl
    · rw [haccepted, hafter]
      rfl

/-! ## What a log satisfies -/

variable {log : List SignedObservationEnvelope} {observation : SignedObservationEnvelope}

theorem Log.genuine (h : Log v log) (hmem : observation ∈ log) :
    Genuine v.observerInfo observation := by
  induction h with
  | nil => cases hmem
  | cons admits _ ih =>
    rcases List.mem_cons.mp hmem with rfl | hrest
    · exact admits.genuine
    · exact ih hrest

theorem Log.later (h : Log v log) (hmem : observation ∈ log) :
    v.lastSequence < observation.observerSequence := by
  induction h with
  | nil => cases hmem
  | cons admits _ ih =>
    rcases List.mem_cons.mp hmem with rfl | hrest
    · exact admits.later
    · exact admits.later.trans (ih hrest)

theorem Log.fresh (h : Log v log) (hmem : observation ∈ log) :
    observation.challengeNonce ∉ v.acceptedChallenges := by
  induction h with
  | nil => cases hmem
  | cons admits _ ih =>
    rcases List.mem_cons.mp hmem with rfl | hrest
    · exact admits.fresh
    · intro hknown
      exact ih hrest (List.mem_cons_of_mem _ hknown)

theorem Log.sequences_increase (h : Log v log) :
    log.Pairwise (fun first second => first.observerSequence < second.observerSequence) := by
  induction h with
  | nil => exact .nil
  | cons _ hrest ih =>
    apply List.Pairwise.cons
    · intro second hsecond
      exact hrest.later hsecond
    · exact ih

theorem Log.challenges_differ (h : Log v log) :
    log.Pairwise (fun first second => first.challengeNonce ≠ second.challengeNonce) := by
  induction h with
  | nil => exact .nil
  | cons _ hrest ih =>
    apply List.Pairwise.cons
    · intro second hsecond heq
      apply hrest.fresh hsecond
      rw [← heq]
      exact List.mem_cons_self
    · exact ih

theorem Log.nodup (h : Log v log) : log.Nodup := by
  apply h.sequences_increase.imp
  intro first second hlt heq
  rw [heq] at hlt
  exact Nat.lt_irrefl _ hlt

omit [Primitives] in
theorem observerInfo_of_init {observerInfo : ObserverProcessInfo} {plantInfo : PlantProcessInfo}
    {maximumAge : Time} (h : init observerInfo plantInfo maximumAge = .ok v) :
    v.observerInfo = observerInfo := by
  unfold init at h
  split at h
  · cases h
  · rw [← Except.ok.inj h]

/-- On one verifier, calls of both kinds in any order accept each observation once: sequences
    increase, challenges differ, all come from the pinned boot of the observer, and a call that
    gives a reason leaves the verifier as it was. -/
theorem accepts_each_observation_once {observerInfo : ObserverProcessInfo}
    {plantInfo : PlantProcessInfo} {maximumAge : Time}
    (h : init observerInfo plantInfo maximumAge = .ok v) (calls : List Call) :
    (v.accepted calls).Pairwise
      (fun first second => first.observerSequence < second.observerSequence) ∧
    (v.accepted calls).Pairwise
      (fun first second => first.challengeNonce ≠ second.challengeNonce) ∧
    (v.accepted calls).Nodup ∧
    (∀ observation ∈ v.accepted calls, Genuine observerInfo observation) ∧
    ∀ (call : Call) (reasons : List String) (w : SignedObservationVerifier),
      call.perform (v.run calls) = .ok (reasons, w) → reasons ≠ [] → w = v.run calls := by
  have hlog := log_accepted v calls
  refine ⟨hlog.sequences_increase, hlog.challenges_differ, hlog.nodup, ?_, ?_⟩
  · intro observation hmem
    rw [← observerInfo_of_init h]
    exact hlog.genuine hmem
  · intro call reasons w hperform hreasons
    exact perform_refused hperform hreasons

end

open Sample in
/-- A dispatch with an observation before it and one after it, and the first once more. -/
theorem accepts_before_and_after_dispatch :
    let before := observation
    let behind : SignedObservationEnvelope :=
      { observation with
        observationId := "observation-2"
        phase := .postDispatch
        challengeNonce := "challenge-nonce-2"
        observerSequence := 2
        capturedAt := 4
        snapshot := { snapshot 1 with observedAt := 4 }
        permitId := some "permit-1"
        commandDigest := some (sha 3000)
        plcAcknowledgmentDigest := some (sha 3007)
        previousEnvelopeDigest := some (sha 3006) }
    let calls : List Call :=
      [.pre before (actionRequest "action-1") (.aware 2),
        .post behind (actionRequest "action-1") (dispatch "action-1").permit
          (appliedAcknowledgment "action-1" "acknowledgment-1" 3) "challenge-nonce-2" (.aware 5),
        .pre before (actionRequest "action-1") (.aware 5)]
    ∃ v, init ⟨"observer", "observer-boot-epoch", "observer-key", "observer-public-key"⟩
        ⟨sha 1, "1.0", "observer"⟩ (5 * second) = .ok v ∧
      v.accepted calls = [before, behind] ∧ (v.accepted calls).Nodup := by
  intro before behind calls
  have haccepted : ∃ v, init ⟨"observer", "observer-boot-epoch", "observer-key",
      "observer-public-key"⟩ ⟨sha 1, "1.0", "observer"⟩ (5 * second) = .ok v ∧
      v.accepted calls = [before, behind] := by
    refine ⟨_, rfl, ?_⟩
    decide +kernel
  obtain ⟨v, hinit, hlog⟩ := haccepted
  exact ⟨v, hinit, hlog, (accepts_each_observation_once hinit calls).2.2.1⟩

end AegisOt.SignedObservationVerifier
