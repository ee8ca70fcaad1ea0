import AegisOt.Anchor.Projection
import AegisOt.Coordination.Proofs.RecoveryVerdict

/-!
# Every recovery result can be projected

The recovery has many exits, and two closed models each restrict how its result fills the same
fields. What both ask is one predicate on results, and every exit satisfies it.
-/

namespace AegisOt

/-- What the closed models ask of a recovery result. -/
structure CoordinationRecoveryResult.Closed (result : CoordinationRecoveryResult) : Prop where
  pendingCount_le : result.pendingEffectCount ≤ 1
  counts : result.appliedEffectCount + result.pendingEffectCount ≤ result.recordCount
  latestVersion : result.latestAppliedStateVersion = none ↔ result.appliedEffectCount = 0
  latestDigest : result.latestAppliedStateDigest = none ↔ result.appliedEffectCount = 0
  latest_pos : result.latestAppliedStateVersion ≠ some 0
  pendingId : result.pendingEffectId = none ↔ result.pendingEffectCount = 0
  pendingVersion : result.pendingExpectedPostStateVersion = none ↔ result.pendingEffectCount = 0
  pendingDigest : result.pendingExpectedPostStateDigest = none ↔ result.pendingEffectCount = 0
  pending_pos : result.pendingExpectedPostStateVersion ≠ some 0
  aligned : result.status = .aligned → result.pendingEffectCount = 0 ∧
    result.reason = if result.plantStateVersion = 0 then .alignedEmptyBaseline
      else .alignedAppliedChain
  required : result.status = .recoveryRequired → result.pendingEffectCount = 1

/-! ## The closed models accept it -/

/-- A fencing token with the anchor it was granted on, or neither. -/
def ConsistentLineage (writerFencingToken : Nat) (basedOnAnchorSequence : Option Nat)
    (basedOnAnchorSha256 : Option Sha256) : Prop :=
  if writerFencingToken = 0 then basedOnAnchorSequence = none ∧ basedOnAnchorSha256 = none
  else basedOnAnchorSequence ≠ none ∧ basedOnAnchorSha256 ≠ none

theorem isNone_eq_of_iff {α β : Type} {a : Option α} {b : Option β} {c : Prop}
    (ha : a = none ↔ c) (hb : b = none ↔ c) : a.isNone = b.isNone := by
  rw [Bool.eq_iff_iff, Option.isNone_iff_eq_none, Option.isNone_iff_eq_none, ha, hb]

namespace LocalCoordinationProjection

theorem requireLineage_of_consistent {p : LocalCoordinationProjection}
    (h : ConsistentLineage p.writerFencingToken p.basedOnAnchorSequence p.basedOnAnchorSha256) :
    p.requireLineage = .ok () := by
  unfold ConsistentLineage at h
  unfold requireLineage
  by_cases hzero : p.writerFencingToken = 0
  · rw [if_pos hzero] at h ⊢
    exact refuseIf_neg (not_not.mpr h)
  · rw [if_neg hzero] at h ⊢
    exact refuseIf_neg (not_or.mpr h)

theorem requireAlignment_of_reason {p : LocalCoordinationProjection}
    (hpending : p.pendingEffectCount = 0)
    (hreason : p.recoveryReason =
      if p.plantStateVersion = 0 then .alignedEmptyBaseline else .alignedAppliedChain) :
    p.requireAlignment = .ok () := by
  unfold requireAlignment
  rw [refuseIf_neg (not_not.mpr hpending), ok_bind]
  by_cases hzero : p.plantStateVersion = 0
  · rw [if_pos hzero] at hreason ⊢
    exact refuseIf_neg (not_not.mpr hreason)
  · rw [if_neg hzero] at hreason ⊢
    exact refuseIf_neg (not_not.mpr hreason)

theorem fromRecovery_of_closed {result : CoordinationRecoveryResult} (h : result.Closed)
    (gatewayJournalSha256 otJournalSha256 plantModelSha256 : Sha256)
    {writerFencingToken : Nat} {basedOnAnchorSequence : Option Nat}
    {basedOnAnchorSha256 : Option Sha256}
    (hlineage : ConsistentLineage writerFencingToken basedOnAnchorSequence basedOnAnchorSha256) :
    ∃ projection, fromRecovery result gatewayJournalSha256 otJournalSha256 plantModelSha256
      writerFencingToken basedOnAnchorSequence basedOnAnchorSha256 = .ok projection := by
  have hcomplete := isNone_eq_of_iff h.latestVersion h.latestDigest
  have hempty : ¬ (result.appliedEffectCount = 0 ∧ result.latestAppliedStateVersion ≠ none) :=
    fun hbad => hbad.2 (h.latestVersion.mpr hbad.1)
  have hnonempty : ¬ (0 < result.appliedEffectCount ∧ result.latestAppliedStateVersion = none) := by
    rintro ⟨hpos, hnone⟩
    rw [h.latestVersion.mp hnone] at hpos
    exact Nat.lt_irrefl 0 hpos
  refine ⟨_, bind_unit_eq_ok.mpr ⟨?_, rfl⟩⟩
  unfold validate
  rw [refuseIf_neg (not_lt.mpr h.pendingCount_le), ok_bind, refuseIf_neg h.latest_pos, ok_bind,
    requireLineage_of_consistent hlineage, ok_bind, refuseIf_neg (not_not.mpr hcomplete), ok_bind,
    refuseIf_neg hempty, ok_bind, refuseIf_neg hnonempty, ok_bind,
    refuseIf_neg (not_lt.mpr h.counts), ok_bind]
  by_cases haligned : result.status = .aligned
  · obtain ⟨hpending, hreason⟩ := h.aligned haligned
    rw [if_pos haligned]
    exact requireAlignment_of_reason hpending hreason
  · rw [if_neg haligned]
    rfl

end LocalCoordinationProjection

theorem OtCoordinationRecoveryMetadata.ofRecovery_of_closed {result : CoordinationRecoveryResult}
    (h : result.Closed) (plant : PlantHealthMetadata) (marker : Option LiveCommitMarker) :
    ∃ metadata, ofRecovery result plant marker = .ok metadata := by
  have hlatest : result.appliedEffectCount = 0 ↔
      result.latestAppliedStateVersion = none ∧ result.latestAppliedStateDigest = none := by
    rw [h.latestVersion, h.latestDigest, and_self]
  have hpending : result.pendingEffectCount = 0 ↔ result.pendingEffectId = none ∧
      result.pendingExpectedPostStateVersion = none ∧
      result.pendingExpectedPostStateDigest = none := by
    rw [h.pendingId, h.pendingVersion, h.pendingDigest, and_self, and_self]
  -- a marker that the refresh kept belongs to a recoverable pending effect
  have hmarker : ¬ ((marker.filter (OtProgram.pendingAtPreState result)).isSome = true ∧
      (result.status ≠ .recoveryRequired ∨ result.pendingEffectCount ≠ 1)) := by
    rintro ⟨harmed, hbad⟩
    obtain ⟨kept, hkept⟩ := Option.isSome_iff_exists.mp harmed
    have hstate := (Option.filter_eq_some_iff.mp hkept).2
    have hrequired : result.status = .recoveryRequired := (of_decide_eq_true hstate).1
    rcases hbad with hstatus | hcount
    · exact hstatus hrequired
    · exact hcount (h.required hrequired)
  refine ⟨_, bind_unit_eq_ok.mpr ⟨?_, rfl⟩⟩
  unfold validate
  rw [refuseIf_neg (not_lt.mpr h.pendingCount_le), ok_bind, refuseIf_neg h.pending_pos, ok_bind,
    refuseIf_neg (not_lt.mpr h.counts), ok_bind, refuseIf_neg (not_not.mpr hlatest), ok_bind,
    refuseIf_neg (not_not.mpr hpending), ok_bind]
  exact refuseIf_neg hmarker

/-! ## Every exit satisfies it -/

section

variable [Primitives] {records : List CoordinationJournalRecord} {plant : PlantHealthMetadata}
  {applied : List AppliedLink} {pending : Option CoordinationJournalRecord}

/-- The links and the pending record of an exit are different records of the journal, with
    effects that lead to a positive version. -/
structure Retained (records : List CoordinationJournalRecord) (applied : List AppliedLink)
    (pending : Option CoordinationJournalRecord) : Prop where
  counts : applied.length + (if pending = none then 0 else 1) ≤ records.length
  applied_pos : ∀ link ∈ applied, link.postVersion ≠ 0
  pending_pos : ∀ r, pending = some r → r.effect.expectedPostStateVersion ≠ 0

omit [Primitives] in
theorem recoveryResult_closed (h : Retained records applied pending)
    {status : CoordinationRecoveryStatus} {reason : CoordinationRecoveryReason}
    (haligned : status = .aligned → pending = none ∧
      reason = if plant.stateVersion = 0 then .alignedEmptyBaseline else .alignedAppliedChain)
    (hrequired : status = .recoveryRequired → pending ≠ none) :
    (recoveryResult records plant status reason applied pending).Closed := by
  have hcount : (if pending = none then 0 else 1) = 0 ↔ pending = none := by
    by_cases hnone : pending = none
    · simp [hnone]
    · simp [hnone]
  have hlatest {β : Type} (f : AppliedLink → β) :
      applied.getLast?.map f = none ↔ applied.length = 0 := by
    rw [Option.map_eq_none_iff, List.getLast?_eq_none_iff, List.length_eq_zero_iff]
  have hpending {β : Type} (f : CoordinationJournalRecord → β) :
      pending.map f = none ↔ (if pending = none then 0 else 1) = 0 := by
    rw [Option.map_eq_none_iff, hcount]
  refine ⟨?_, h.counts, hlatest _, hlatest _, ?_, hpending _, hpending _, hpending _, ?_, ?_, ?_⟩
  · show (if pending = none then 0 else 1) ≤ 1
    split
    · exact Nat.zero_le 1
    · exact Nat.le_refl 1
  · intro hzero
    obtain ⟨link, hlast, hversion⟩ := Option.map_eq_some_iff.mp hzero
    exact h.applied_pos link (List.mem_of_getLast? hlast) hversion
  · intro hzero
    obtain ⟨r, hr, hversion⟩ := Option.map_eq_some_iff.mp hzero
    exact h.pending_pos r hr hversion
  · intro hstatus
    obtain ⟨hnone, hreason⟩ := haligned hstatus
    exact ⟨hcount.mpr hnone, hreason⟩
  · intro hstatus
    exact if_neg (hrequired hstatus)

/-- The applied and the pending records of a journal are different records. -/
theorem length_links_pending (records : List CoordinationJournalRecord) :
    (records.filterMap linkOf).length + (pendingOf records).length ≤ records.length := by
  induction records with
  | nil => exact Nat.le_refl 0
  | cons r rest ih =>
    unfold pendingOf at ih ⊢
    cases hlink : linkOf r with
    | some link =>
      have hstate := (linkOf_eq_some.mp hlink).1
      have hfilter : (r :: rest).filter (fun r => !r.state.terminal) =
          rest.filter (fun r => !r.state.terminal) := by
        apply List.filter_cons_of_neg
        rw [hstate]
        decide
      rw [List.filterMap_cons_some hlink, hfilter, List.length_cons, List.length_cons]
      omega
    | none =>
      rw [List.filterMap_cons_none hlink, List.length_cons]
      have hfilter : ((r :: rest).filter (fun r => !r.state.terminal)).length ≤
          (rest.filter (fun r => !r.state.terminal)).length + 1 := by
        rw [List.filter_cons]
        split
        · exact Nat.le_refl _
        · exact Nat.le_succ _
      omega

theorem retained_of_links (heffects : ∀ r ∈ records, r.effect.validate = .ok ())
    (hlinks : ∀ link ∈ applied, link ∈ records.filterMap linkOf)
    (hlength : applied.length ≤ (records.filterMap linkOf).length) :
    Retained records applied (pendingOf records).head? := by
  have hpost : ∀ r ∈ records, r.effect.expectedPostStateVersion ≠ 0 := by
    intro r hr hzero
    rw [EffectIdentity.post_of_validate (heffects r hr)] at hzero
    exact Nat.succ_ne_zero _ hzero
  have hdisjoint := length_links_pending records
  have hhead :
      (if (pendingOf records).head? = none then 0 else 1) ≤ (pendingOf records).length := by
    cases pendingOf records with
    | nil => exact Nat.le_refl 0
    | cons r rest => exact Nat.succ_le_succ (Nat.zero_le _)
  refine ⟨by omega, ?_, ?_⟩
  · intro link hlink
    obtain ⟨r, hr, hlinkOf⟩ := List.mem_filterMap.mp (hlinks link hlink)
    rw [AppliedLink.postVersion, appliedLink_record (linkOf_eq_some.mp hlinkOf).2]
    exact hpost r hr
  · intro r hr
    have hmem : r ∈ pendingOf records := List.mem_of_mem_head? hr
    exact hpost r (List.mem_of_mem_filter hmem)

omit [Primitives] in
/-- An aligned chain without a pending effect has the reason of its version. -/
theorem appliedPosition_reason (hpos : ∀ link ∈ applied, link.postVersion ≠ 0)
    (h : (appliedPosition applied plant).1 = .aligned) :
    (appliedPosition applied plant).2 =
      if plant.stateVersion = 0 then .alignedEmptyBaseline else .alignedAppliedChain := by
  unfold appliedPosition at h ⊢
  cases hlast : applied.getLast? with
  | none =>
    rw [hlast] at h
    simp only at h ⊢
    by_cases hzero : plant.stateVersion = 0
    · rw [if_neg (not_not.mpr hzero), if_pos hzero]
    · rw [if_pos hzero] at h
      cases h
  | some latest =>
    rw [hlast] at h
    have hlatest := hpos latest (List.mem_of_getLast? hlast)
    simp only at h ⊢
    split_ifs at h ⊢ with hbehind hahead hdigest hzero
    · omega
    · rfl

theorem validateChain_position (plant : PlantHealthMetadata)
    (pending : Option CoordinationJournalRecord)
    (hpos : ∀ link ∈ applied, link.postVersion ≠ 0) :
    ((validateChain records plant applied pending).1 = .aligned → pending = none ∧
      (validateChain records plant applied pending).2 =
        if plant.stateVersion = 0 then .alignedEmptyBaseline else .alignedAppliedChain) ∧
    ((validateChain records plant applied pending).1 = .recoveryRequired → pending ≠ none) := by
  obtain ⟨hstatus, -⟩ | hposition := validateChain_cases records plant applied pending
  · rw [List.mem_cons, List.mem_singleton] at hstatus
    rcases hstatus with hstatus | hstatus
    · rw [hstatus]
      exact ⟨nofun, nofun⟩
    · rw [hstatus]
      exact ⟨nofun, nofun⟩
  · rw [hposition]
    cases pending with
    | some r => exact ⟨fun h => absurd h pendingPosition_not_aligned, fun _ => nofun⟩
    | none =>
      exact ⟨fun h => ⟨rfl, appliedPosition_reason hpos h⟩,
        fun h => absurd h appliedPosition_ne_recoveryRequired⟩

/-- Every exit of the recovery fills the shared fields as the closed models ask. -/
theorem validateCoordinationRecovery_closed (plant : PlantHealthMetadata)
    (heffects : ∀ r ∈ records, r.effect.validate = .ok ()) :
    (validateCoordinationRecovery records plant).Closed := by
  have hnothing : Retained records [] none := by
    refine ⟨Nat.zero_le _, List.forall_mem_nil _, ?_⟩
    intro r hr
    cases hr
  by_cases hlimit : maxRecoveryRecords < records.length
  · unfold validateCoordinationRecovery
    rw [if_pos hlimit]
    exact ⟨Nat.zero_le 1, Nat.zero_le _, by simp, by simp, nofun, by simp, by simp, by simp, nofun,
      nofun, nofun⟩
  unfold validateCoordinationRecovery
  rw [if_neg hlimit]
  dsimp only
  by_cases hpending : 1 < (records.filter (fun r => !r.state.terminal)).length
  · rw [if_pos hpending]
    exact recoveryResult_closed hnothing nofun nofun
  rw [if_neg hpending]
  by_cases hdistinct : (records.map (fun r => r.effect.effectId)).Nodup
  swap
  · rw [if_pos hdistinct]
    exact recoveryResult_closed hnothing nofun nofun
  rw [if_neg (not_not.mpr hdistinct)]
  by_cases hlinked : AllLinked records
  · rw [collectApplied_of_linked hlinked, List.nil_append]
    have hretained : Retained records (sortedLinks records) (pendingOf records).head? := by
      apply retained_of_links heffects
      · intro link hlink
        exact List.mem_mergeSort.mp hlink
      · exact le_of_eq (List.length_mergeSort _)
    obtain ⟨haligned, hrequired⟩ :=
      validateChain_position plant (pendingOf records).head? hretained.applied_pos
    exact recoveryResult_closed hretained haligned hrequired
  · obtain ⟨before, r, after, reason, heq, hbefore, hstate, hreason, hcollect⟩ :=
      collectApplied_of_unlinked hlinked []
    rw [hcollect, List.nil_append]
    have hall : records.filterMap linkOf =
        before.filterMap linkOf ++ (r :: after).filterMap linkOf := by
      rw [heq, List.filterMap_append]
    have hretained : Retained records (before.filterMap linkOf) (pendingOf records).head? := by
      apply retained_of_links heffects
      · intro link hlink
        rw [hall]
        exact List.mem_append_left _ hlink
      · rw [hall, List.length_append]
        exact Nat.le_add_right _ _
    exact recoveryResult_closed hretained nofun nofun

/-- Both closed models accept every recovery result: of any journal records whose effects are
    effect identities, valid or not, and of any plant. -/
theorem every_recovery_result_projects
    (heffects : ∀ r ∈ records, r.effect.validate = .ok ()) (plant : PlantHealthMetadata)
    (marker : Option LiveCommitMarker) (gatewayJournalSha256 otJournalSha256 : Sha256)
    {writerFencingToken : Nat} {basedOnAnchorSequence : Option Nat}
    {basedOnAnchorSha256 : Option Sha256}
    (hlineage : ConsistentLineage writerFencingToken basedOnAnchorSequence basedOnAnchorSha256) :
    (∃ metadata, OtCoordinationRecoveryMetadata.ofRecovery
      (validateCoordinationRecovery records plant) plant marker = .ok metadata) ∧
    ∃ projection, LocalCoordinationProjection.fromRecovery
      (validateCoordinationRecovery records plant) gatewayJournalSha256 otJournalSha256
      plant.modelDigest writerFencingToken basedOnAnchorSequence basedOnAnchorSha256 =
        .ok projection := by
  have hclosed := validateCoordinationRecovery_closed plant heffects
  constructor
  · exact OtCoordinationRecoveryMetadata.ofRecovery_of_closed hclosed plant marker
  · exact LocalCoordinationProjection.fromRecovery_of_closed hclosed _ _ _ hlineage

end

open Sample in
set_option maxRecDepth 10000 in
/-- The aligned sample journal, projected for a fenced writer. -/
theorem applied_recovery_projects :
    let result := validateCoordinationRecovery (runEffects applying).records.list appliedPlant
    (∃ metadata, OtCoordinationRecoveryMetadata.ofRecovery result appliedPlant none =
      .ok metadata) ∧
    ∃ projection, LocalCoordinationProjection.fromRecovery result (sha 1) (sha 2)
      appliedPlant.modelDigest 1 (some 0) (some (sha 3)) = .ok projection :=
  every_recovery_result_projects (by decide +kernel) appliedPlant none (sha 1) (sha 2)
    (by simp [ConsistentLineage])

end AegisOt
