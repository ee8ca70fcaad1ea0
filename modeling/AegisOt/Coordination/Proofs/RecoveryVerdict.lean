import AegisOt.Coordination.Proofs.RecoveryAgreement
import Mathlib.Data.List.Chain

/-!
# The recovery verdict

What `validate_coordination_recovery` decides, said without its algorithm: the applied effects of
the journal form one chain from version zero, in some order, and the plant stands at the end of
it, or at either side of the one pending effect that continues it. The function looks for the
chain by sorting; the versions of a chain increase, so the sorted list is the only order in which
the effects can form one.
-/

namespace AegisOt

section

variable [Primitives]

/-! ## Chains of effects -/

namespace EffectIdentity

/-- The effect starts in the state where the one before it ended. -/
def Continues (prior next : EffectIdentity) : Prop :=
  next.authorizedStateVersion = prior.expectedPostStateVersion ∧
    next.authorizedStateSha256 = prior.expectedPostStateSha256

/-- The sort key of the recovery, on effects. -/
def Before (a b : EffectIdentity) : Prop :=
  a.authorizedStateVersion < b.authorizedStateVersion ∨
    (a.authorizedStateVersion = b.authorizedStateVersion ∧
      (a.expectedPostStateVersion < b.expectedPostStateVersion ∨
        (a.expectedPostStateVersion = b.expectedPostStateVersion ∧ a.effectId ≤ b.effectId)))

omit [Primitives] in
theorem Before.antisymm {a b : EffectIdentity} (hab : a.Before b) (hba : b.Before a) :
    a.effectId = b.effectId := by
  rcases hab with hab | ⟨hpre, hab | ⟨hpost, hab⟩⟩
  · rcases hba with hba | ⟨hba, -⟩
    · omega
    · omega
  · rcases hba with hba | ⟨-, hba | ⟨hba, -⟩⟩
    · omega
    · omega
    · omega
  · rcases hba with hba | ⟨-, hba | ⟨-, hba⟩⟩
    · omega
    · omega
    · exact le_antisymm hab hba

omit [Primitives] in
theorem Before.trans {a b c : EffectIdentity} (hab : a.Before b) (hbc : b.Before c) :
    a.Before c := by
  rcases hab with hab | ⟨hpre, hab | ⟨hpost, hab⟩⟩
  · exact .inl (by rcases hbc with hbc | ⟨hbc, -⟩ <;> omega)
  · rcases hbc with hbc | ⟨hpre', hbc | ⟨hpost', -⟩⟩
    · exact .inl (by omega)
    · exact .inr ⟨by omega, .inl (by omega)⟩
    · exact .inr ⟨by omega, .inl (by omega)⟩
  · rcases hbc with hbc | ⟨hpre', hbc | ⟨hpost', hbc⟩⟩
    · exact .inl (by omega)
    · exact .inr ⟨by omega, .inl (by omega)⟩
    · exact .inr ⟨by omega, .inr ⟨by omega, hab.trans hbc⟩⟩

omit [Primitives] in
theorem Before.total (a b : EffectIdentity) : a.Before b ∨ b.Before a := by
  rcases lt_trichotomy a.authorizedStateVersion b.authorizedStateVersion with h | h | h
  · exact .inl (.inl h)
  · rcases lt_trichotomy a.expectedPostStateVersion b.expectedPostStateVersion with h' | h' | h'
    · exact .inl (.inr ⟨h, .inl h'⟩)
    · rcases le_total a.effectId b.effectId with hid | hid
      · exact .inl (.inr ⟨h, .inr ⟨h', hid⟩⟩)
      · exact .inr (.inr ⟨h.symm, .inr ⟨h'.symm, hid⟩⟩)
    · exact .inr (.inr ⟨h.symm, .inl h'⟩)
  · exact .inr (.inl h)

theorem post_of_validate {e : EffectIdentity} (h : e.validate = .ok ()) :
    e.expectedPostStateVersion = e.authorizedStateVersion + 1 := by
  simp only [validate, bind_unit_eq_ok, refuseIf_eq_ok, not_not] at h
  exact h.2.2.1

end EffectIdentity

/-- The effects follow each other from version zero. -/
def EffectChain (effects : List EffectIdentity) : Prop :=
  (∀ e ∈ effects.head?, e.authorizedStateVersion = 0) ∧
    effects.IsChain EffectIdentity.Continues

omit [Primitives] in
/-- A chain is sorted: each effect starts one version after the one before it. -/
theorem EffectChain.sorted {effects : List EffectIdentity} (h : EffectChain effects)
    (hstep : ∀ e ∈ effects, e.expectedPostStateVersion = e.authorizedStateVersion + 1) :
    effects.Pairwise EffectIdentity.Before := by
  have hrise :
      effects.IsChain (fun a b => a.authorizedStateVersion < b.authorizedStateVersion) := by
    refine h.2.imp_of_mem_imp fun a b ha _ hab => ?_
    have hpost := hstep a ha
    rw [hab.1]
    omega
  have hversions := List.isChain_iff_pairwise.mp
    ((List.isChain_map (fun e : EffectIdentity => e.authorizedStateVersion)).mpr hrise)
  exact (List.pairwise_map.mp hversions).imp (fun hab => .inl hab)

omit [Primitives] in
/-- Effects with different ids have at most one sorted order. -/
theorem order_unique {effects effects' : List EffectIdentity} (hperm : effects.Perm effects')
    (hdistinct : (effects.map EffectIdentity.effectId).Nodup)
    (hsorted : effects.Pairwise EffectIdentity.Before)
    (hsorted' : effects'.Pairwise EffectIdentity.Before) : effects = effects' := by
  refine hperm.eq_of_pairwise ?_ hsorted hsorted'
  intro a b ha hb hab hba
  exact List.inj_on_of_nodup_map hdistinct ha (hperm.mem_iff.mpr hb) (hab.antisymm hba)

omit [Primitives] in
theorem effectChain_append {effects : List EffectIdentity} {e : EffectIdentity} :
    EffectChain (effects ++ [e]) ↔ EffectChain effects ∧
      match effects.getLast? with
      | none => e.authorizedStateVersion = 0
      | some last => last.Continues e := by
  unfold EffectChain
  rw [List.isChain_append]
  cases effects with
  | nil => simp
  | cons first rest =>
    rw [List.getLast?_eq_some_getLast (List.cons_ne_nil first rest)]
    simp [and_assoc]

/-! ## The links of the applied records -/

/-- `_applied_link` on an APPLIED record; other records have no link. -/
def linkOf (r : CoordinationJournalRecord) : Option AppliedLink :=
  if r.state = .applied then (appliedLink r).toOption else none

/-- `_applied_link` succeeds on every APPLIED record. -/
def AllLinked (records : List CoordinationJournalRecord) : Prop :=
  ∀ r ∈ records, r.state = .applied → ∃ link, appliedLink r = .ok link

theorem appliedLink_record {r : CoordinationJournalRecord} {link : AppliedLink}
    (h : appliedLink r = .ok link) : link.record = r := by
  simp only [appliedLink, bind_eq_ok, pure_eq_ok, Except.ok.injEq] at h
  obtain ⟨_, -, _, -, _, -, rfl⟩ := h
  rfl

theorem linkOf_eq_some {r : CoordinationJournalRecord} {link : AppliedLink} :
    linkOf r = some link ↔ r.state = .applied ∧ appliedLink r = .ok link := by
  unfold linkOf
  split
  · rename_i hstate
    rw [toOption_eq_some]
    exact ⟨fun h => ⟨hstate, h⟩, fun h => h.2⟩
  · rename_i hstate
    exact ⟨nofun, fun h => absurd h.1 hstate⟩

theorem allLinked_cons {r : CoordinationJournalRecord} {rest : List CoordinationJournalRecord} :
    AllLinked (r :: rest) ↔
      (r.state = .applied → ∃ link, appliedLink r = .ok link) ∧ AllLinked rest :=
  List.forall_mem_cons

/-- The loop returns the links of all APPLIED records, when they all have one. -/
theorem collectApplied_of_linked {records : List CoordinationJournalRecord}
    (h : AllLinked records) (found : List AppliedLink) :
    collectApplied found records = .ok (found ++ records.filterMap linkOf) := by
  induction records generalizing found with
  | nil => simp [collectApplied]
  | cons r rest ih =>
    obtain ⟨hfirst, hrest⟩ := allLinked_cons.mp h
    unfold collectApplied
    by_cases hstate : r.state = .applied
    · obtain ⟨link, hlink⟩ := hfirst hstate
      rw [if_pos hstate, hlink, List.filterMap_cons_some (linkOf_eq_some.mpr ⟨hstate, hlink⟩)]
      simp only
      rw [ih hrest, List.append_assoc, List.singleton_append]
    · have hnone : linkOf r = none := if_neg hstate
      rw [if_neg hstate, ih hrest, List.filterMap_cons_none hnone]

/-- Otherwise it fails at the first APPLIED record without a link, with the links before it. -/
theorem collectApplied_of_unlinked {records : List CoordinationJournalRecord}
    (h : ¬ AllLinked records) (found : List AppliedLink) :
    ∃ before r after reason, records = before ++ r :: after ∧ AllLinked before ∧
      r.state = .applied ∧ appliedLink r = .error reason ∧
      collectApplied found records = .error (reason, found ++ before.filterMap linkOf) := by
  induction records generalizing found with
  | nil => exact absurd (fun r hr => absurd hr List.not_mem_nil) h
  | cons r rest ih =>
    unfold collectApplied
    by_cases hstate : r.state = .applied
    · rw [if_pos hstate]
      cases hlink : appliedLink r with
      | error reason =>
        refine ⟨[], r, rest, reason, rfl, List.forall_mem_nil _, hstate, hlink, ?_⟩
        simp
      | ok link =>
        have hrest : ¬ AllLinked rest :=
          fun hall => h (allLinked_cons.mpr ⟨fun _ => ⟨link, hlink⟩, hall⟩)
        obtain ⟨before, bad, after, reason, rfl, hbefore, hbad, hreason, hcollect⟩ :=
          ih hrest (found ++ [link])
        refine ⟨r :: before, bad, after, reason, rfl,
          allLinked_cons.mpr ⟨fun _ => ⟨link, hlink⟩, hbefore⟩, hbad, hreason, ?_⟩
        rw [List.filterMap_cons_some (linkOf_eq_some.mpr ⟨hstate, hlink⟩)]
        simp only
        rw [hcollect, List.append_assoc, List.singleton_append]
    · have hnone : linkOf r = none := if_neg hstate
      have hrest : ¬ AllLinked rest :=
        fun hall => h (allLinked_cons.mpr ⟨fun happlied => absurd happlied hstate, hall⟩)
      obtain ⟨before, bad, after, reason, rfl, hbefore, hbad, hreason, hcollect⟩ := ih hrest found
      refine ⟨r :: before, bad, after, reason, rfl,
        allLinked_cons.mpr ⟨fun happlied => absurd happlied hstate, hbefore⟩, hbad, hreason, ?_⟩
      rw [if_neg hstate, hcollect, List.filterMap_cons_none hnone]

/-! ## The ordered links -/

omit [Primitives] in
theorem precedes_iff {a b : AppliedLink} :
    a.precedes b = true ↔ a.record.effect.Before b.record.effect :=
  decide_eq_true_iff

omit [Primitives] in
theorem mergeSort_precedes_sorted (links : List AppliedLink) :
    ((links.mergeSort AppliedLink.precedes).map (fun link => link.record.effect)).Pairwise
      EffectIdentity.Before := by
  rw [List.pairwise_map]
  refine (List.pairwise_mergeSort ?_ ?_ links).imp (fun h => precedes_iff.mp h)
  · intro a b c hab hbc
    exact precedes_iff.mpr ((precedes_iff.mp hab).trans (precedes_iff.mp hbc))
  · intro a b
    rw [Bool.or_eq_true]
    exact (EffectIdentity.Before.total _ _).imp precedes_iff.mpr precedes_iff.mpr

omit [Primitives] in
theorem chainMatches_eq_true (prior : Option AppliedLink) (links : List AppliedLink) :
    chainMatches prior links = true ↔
      match prior with
      | none => EffectChain (links.map (fun link => link.record.effect))
      | some p => (p.record.effect :: links.map (fun link => link.record.effect)).IsChain
          EffectIdentity.Continues := by
  induction links generalizing prior with
  | nil => cases prior <;> simp [chainMatches, EffectChain]
  | cons link rest ih =>
    cases prior with
    | none =>
      simp only [chainMatches, Bool.and_eq_true, ih, EffectChain, List.map_cons, List.head?_cons,
        Option.mem_some_iff, forall_eq', decide_eq_true_eq]
      exact Iff.rfl
    | some p =>
      simp only [chainMatches, Bool.and_eq_true, ih, List.map_cons, List.isChain_cons_cons,
        decide_eq_true_eq]
      exact Iff.rfl

/-- The effects of the APPLIED records. -/
def appliedEffects (records : List CoordinationJournalRecord) : List EffectIdentity :=
  (records.filter (fun r => decide (r.state = .applied))).map (fun r => r.effect)

theorem map_effect_links {records : List CoordinationJournalRecord} (h : AllLinked records) :
    (records.filterMap linkOf).map (fun link => link.record.effect) = appliedEffects records := by
  induction records with
  | nil => rfl
  | cons r rest ih =>
    obtain ⟨hfirst, hrest⟩ := allLinked_cons.mp h
    by_cases hstate : r.state = .applied
    · obtain ⟨link, hlink⟩ := hfirst hstate
      rw [List.filterMap_cons_some (linkOf_eq_some.mpr ⟨hstate, hlink⟩), List.map_cons, ih hrest,
        appliedLink_record hlink]
      simp [appliedEffects, hstate]
    · have hnone : linkOf r = none := if_neg hstate
      rw [List.filterMap_cons_none hnone, ih hrest]
      simp [appliedEffects, hstate]

/-! ## The checks of an ordered chain -/

/-- The plant stands at the end of the chain; no effect has moved it when there is none. -/
def PlantHealthMetadata.AtEnd (plant : PlantHealthMetadata) (effects : List EffectIdentity) :
    Prop :=
  match effects.getLast? with
  | none => plant.stateVersion = 0
  | some last => plant.AtPostState last

/-- Every effect was authorized for the model the plant runs. -/
def PlantHealthMetadata.RunsModel (plant : PlantHealthMetadata) (effects : List EffectIdentity) :
    Prop :=
  ∀ e ∈ effects, e.authorizedModelSha256 = plant.modelDigest

variable {records : List CoordinationJournalRecord} {plant : PlantHealthMetadata}
  {applied : List AppliedLink} {pending : Option CoordinationJournalRecord}

omit [Primitives] in
theorem appliedPosition_aligned : (appliedPosition applied plant).1 = .aligned ↔
    plant.AtEnd (applied.map (fun link => link.record.effect)) := by
  unfold appliedPosition PlantHealthMetadata.AtEnd
  rw [List.getLast?_map]
  cases applied.getLast? with
  | none =>
    by_cases h : plant.stateVersion = 0
    · simp [h]
    · simp [h]
  | some latest =>
    simp only [Option.map_some, PlantHealthMetadata.AtPostState]
    change _ ↔ plant.stateVersion = latest.postVersion ∧ plant.stateDigest = latest.postDigest
    rcases lt_trichotomy plant.stateVersion latest.postVersion with h | h | h
    · simp [h, h.ne]
    · by_cases hdigest : plant.stateDigest = latest.postDigest
      · simp [h, hdigest]
      · simp [h, hdigest]
    · simp [h, h.ne', h.not_gt]

omit [Primitives] in
theorem pendingPosition_recoveryRequired {effect : EffectIdentity} :
    (pendingPosition effect plant).1 = .recoveryRequired ↔
      plant.AtPreState effect ∨ plant.AtPostState effect := by
  unfold pendingPosition PlantHealthMetadata.AtPreState PlantHealthMetadata.AtPostState
  split_ifs <;> simp_all

omit [Primitives] in
theorem modelMatches_eq_true : modelMatches applied pending plant = true ↔
    plant.RunsModel (applied.map (fun link => link.record.effect) ++
      (pending.map (fun r => r.effect)).toList) := by
  unfold modelMatches PlantHealthMetadata.RunsModel
  rw [List.all_eq_true]
  cases pending <;> simp [or_imp, forall_and]

omit [Primitives] in
theorem pendingChainMatches_eq_true {r : CoordinationJournalRecord}
    (hchain : EffectChain (applied.map (fun link => link.record.effect))) :
    pendingChainMatches applied r = true ↔
      EffectChain (applied.map (fun link => link.record.effect) ++ [r.effect]) := by
  unfold pendingChainMatches
  rw [effectChain_append, List.getLast?_map]
  cases applied.getLast? with
  | none => simp [hchain]
  | some last =>
    rw [decide_eq_true_iff]
    exact (and_iff_right hchain).symm

/-- What the checks before the plant's position establish. -/
structure ChainChecked (plant : PlantHealthMetadata) (applied : List AppliedLink)
    (pending : Option CoordinationJournalRecord) : Prop where
  chain : EffectChain (applied.map (fun link => link.record.effect) ++
    (pending.map (fun r => r.effect)).toList)
  evidence : ∀ link ∈ applied, appliedEvidenceValid link = true
  model : plant.RunsModel (applied.map (fun link => link.record.effect) ++
    (pending.map (fun r => r.effect)).toList)

omit [Primitives] in
theorem pendingMatches_iff (hchain : EffectChain (applied.map (fun link => link.record.effect))) :
    ¬ pending.any (fun r => !pendingChainMatches applied r) = true ↔
      EffectChain (applied.map (fun link => link.record.effect) ++
        (pending.map (fun r => r.effect)).toList) := by
  cases pending with
  | none => simp [hchain]
  | some r => simp [← pendingChainMatches_eq_true hchain]

/-- Over valid records, the plant decides exactly when the chain passes its checks. -/
theorem validateChain_eq (plant : PlantHealthMetadata) (applied : List AppliedLink)
    (pending : Option CoordinationJournalRecord)
    (hvalid : ∀ r ∈ records, r.validate = .ok ()) :
    (ChainChecked plant applied pending ∧ validateChain records plant applied pending =
      match pending with
      | some r => pendingPosition r.effect plant
      | none => appliedPosition applied plant) ∨
    (¬ ChainChecked plant applied pending ∧
      (validateChain records plant applied pending).1 ≠ .aligned ∧
      (validateChain records plant applied pending).1 ≠ .recoveryRequired) := by
  have hrecords : ¬ records.any (fun r => decide (r.validate ≠ .ok ())) = true := by
    rw [List.any_eq_true]
    rintro ⟨r, hr, hinvalid⟩
    exact of_decide_eq_true hinvalid (hvalid r hr)
  have hmatches := chainMatches_eq_true none applied
  unfold validateChain
  rw [if_neg hrecords]
  by_cases hchain : chainMatches none applied = true
  · have heffects := hmatches.mp hchain
    rw [if_neg (by simp [hchain])]
    by_cases hevidence : applied.all appliedEvidenceValid = true
    · rw [if_neg (by simp [hevidence])]
      by_cases hpending : pending.any (fun r => !pendingChainMatches applied r) = true
      · rw [if_pos hpending]
        refine .inr ⟨fun h => ?_, by simp, by simp⟩
        exact (pendingMatches_iff heffects).mpr h.chain hpending
      · rw [if_neg hpending]
        by_cases hmodel : modelMatches applied pending plant = true
        · rw [if_neg (by simp [hmodel])]
          exact .inl ⟨⟨(pendingMatches_iff heffects).mp hpending, List.all_eq_true.mp hevidence,
            modelMatches_eq_true.mp hmodel⟩, rfl⟩
        · rw [if_pos (Bool.not_eq_true _ ▸ hmodel)]
          exact .inr ⟨fun h => hmodel (modelMatches_eq_true.mpr h.model), by simp, by simp⟩
    · rw [if_pos (Bool.not_eq_true _ ▸ hevidence)]
      exact .inr ⟨fun h => hevidence (List.all_eq_true.mpr h.evidence), by simp, by simp⟩
  · rw [if_pos (Bool.not_eq_true _ ▸ hchain)]
    refine .inr ⟨fun h => hchain (hmatches.mpr ?_), by simp, by simp⟩
    cases pending with
    | none => simpa using h.chain
    | some r => exact (effectChain_append.mp h.chain).1

/-! ## The verdict -/

/-- The nonterminal records. -/
def pendingOf (records : List CoordinationJournalRecord) : List CoordinationJournalRecord :=
  records.filter (fun r => !r.state.terminal)

/-- The applied links in the order the recovery checks them. -/
def sortedLinks (records : List CoordinationJournalRecord) : List AppliedLink :=
  (records.filterMap linkOf).mergeSort AppliedLink.precedes

/-- Past the limit and the duplicates, the recovery decides over the sorted links. -/
theorem validateCoordinationRecovery_linked (hlimit : records.length ≤ maxRecoveryRecords)
    (hdistinct : (records.map (fun r => r.effect.effectId)).Nodup)
    (hpending : (pendingOf records).length ≤ 1) (hlinked : AllLinked records) :
    validateCoordinationRecovery records plant =
      recoveryResult records plant
        (validateChain records plant (sortedLinks records) (pendingOf records).head?).1
        (validateChain records plant (sortedLinks records) (pendingOf records).head?).2
        (sortedLinks records) (pendingOf records).head? := by
  have hsingle : ¬ 1 < (records.filter (fun r => !r.state.terminal)).length :=
    Nat.not_lt.mpr hpending
  unfold validateCoordinationRecovery
  rw [if_neg (Nat.not_lt.mpr hlimit)]
  dsimp only
  rw [if_neg hsingle, if_neg (not_not.mpr hdistinct),
    collectApplied_of_linked hlinked, List.nil_append]
  rfl

/-- With several pending records or an APPLIED record without a link it is unavailable. -/
theorem validateCoordinationRecovery_refused
    (h : ¬ ((pendingOf records).length ≤ 1 ∧ AllLinked records)) :
    (validateCoordinationRecovery records plant).status = .unavailable := by
  unfold validateCoordinationRecovery
  split
  · rfl
  dsimp only
  split
  · rfl
  rename_i hpending
  split
  · rfl
  have hlinked : ¬ AllLinked records := fun hall => h ⟨Nat.not_lt.mp hpending, hall⟩
  obtain ⟨_, _, _, _, -, -, -, -, hcollect⟩ := collectApplied_of_unlinked hlinked []
  rw [hcollect]
  rfl

theorem allLinked_of_accepts
    (h : ∀ r ∈ records, r.state = .applied → r.RecoveryAccepts) : AllLinked records := by
  intro r hr hstate
  obtain ⟨link, hlink, -⟩ := h r hr hstate
  exact ⟨link, hlink⟩

theorem mem_sortedLinks {link : AppliedLink} :
    link ∈ sortedLinks records ↔ ∃ r ∈ records, r.state = .applied ∧ appliedLink r = .ok link := by
  unfold sortedLinks
  rw [List.mem_mergeSort, List.mem_filterMap]
  simp only [linkOf_eq_some]

/-- Every link passes the evidence check exactly when every APPLIED record is accepted. -/
theorem sortedLinks_valid_iff (hlinked : AllLinked records) :
    (∀ link ∈ sortedLinks records, appliedEvidenceValid link = true) ↔
      ∀ r ∈ records, r.state = .applied → r.RecoveryAccepts := by
  constructor
  · intro h r hr hstate
    obtain ⟨link, hlink⟩ := hlinked r hr hstate
    exact ⟨link, hlink, h link (mem_sortedLinks.mpr ⟨r, hr, hstate, hlink⟩)⟩
  · intro h link hmem
    obtain ⟨r, hr, hstate, hlink⟩ := mem_sortedLinks.mp hmem
    obtain ⟨link', hlink', hvalid⟩ := h r hr hstate
    rw [hlink, Except.ok.injEq] at hlink'
    rw [hlink']
    exact hvalid

theorem sortedLinks_perm (hlinked : AllLinked records) :
    ((sortedLinks records).map (fun link => link.record.effect)).Perm (appliedEffects records) := by
  rw [← map_effect_links hlinked]
  exact (List.mergeSort_perm _ _).map _

omit [Primitives] in
theorem appliedEffects_sublist :
    ((appliedEffects records).map (fun e => e.effectId)).Sublist
      (records.map (fun r => r.effect.effectId)) := by
  unfold appliedEffects
  rw [List.map_map]
  exact List.filter_sublist.map _

/-- If the applied effects form a chain at all, the sorted links are in its order. -/
theorem chain_eq_sortedLinks (hvalid : ∀ r ∈ records, r.validate = .ok ())
    (hdistinct : (records.map (fun r => r.effect.effectId)).Nodup) (hlinked : AllLinked records)
    {order : List EffectIdentity} (hperm : order.Perm (appliedEffects records))
    (hchain : EffectChain order) :
    order = (sortedLinks records).map (fun link => link.record.effect) := by
  refine order_unique (hperm.trans (sortedLinks_perm hlinked).symm) ?_ (hchain.sorted ?_)
    (mergeSort_precedes_sorted _)
  · exact (hperm.map _).nodup_iff.mpr (appliedEffects_sublist.nodup hdistinct)
  · intro e he
    obtain ⟨r, hr, rfl⟩ := List.mem_map.mp (hperm.mem_iff.mp he)
    have hrecord := hvalid r (List.mem_filter.mp hr).1
    simp only [CoordinationJournalRecord.validate, bind_unit_eq_ok, raising_eq_ok] at hrecord
    exact EffectIdentity.post_of_validate hrecord.1

/-- The journal is closed, and its applied effects lead to the state the plant is in. -/
structure JournalAligned (records : List CoordinationJournalRecord) (plant : PlantHealthMetadata) :
    Prop where
  closed : ∀ r ∈ records, r.state.terminal = true
  evidence : ∀ r ∈ records, r.state = .applied → r.RecoveryAccepts
  chain : ∃ order, order.Perm (appliedEffects records) ∧ EffectChain order ∧
    plant.RunsModel order ∧ plant.AtEnd order

/-- One effect is open on top of the applied ones, and the plant is at either side of it. -/
structure JournalRecoverable (records : List CoordinationJournalRecord)
    (plant : PlantHealthMetadata) : Prop where
  evidence : ∀ r ∈ records, r.state = .applied → r.RecoveryAccepts
  pending : ∃ r, pendingOf records = [r] ∧
    (∃ order, order.Perm (appliedEffects records) ∧ EffectChain (order ++ [r.effect]) ∧
      plant.RunsModel (order ++ [r.effect])) ∧
    (plant.AtPreState r.effect ∨ plant.AtPostState r.effect)

omit [Primitives] in
theorem pendingOf_eq_nil : pendingOf records = [] ↔ ∀ r ∈ records, r.state.terminal = true := by
  simp [pendingOf]

/-- The checked chain, when there is one, is the sorted one. -/
theorem chainChecked_iff (plant : PlantHealthMetadata) (hvalid : ∀ r ∈ records, r.validate = .ok ())
    (hdistinct : (records.map (fun r => r.effect.effectId)).Nodup) (hlinked : AllLinked records)
    (above : Option CoordinationJournalRecord) :
    ChainChecked plant (sortedLinks records) above ↔
      (∀ r ∈ records, r.state = .applied → r.RecoveryAccepts) ∧
      ∃ order, order.Perm (appliedEffects records) ∧
        EffectChain (order ++ (above.map (fun r => r.effect)).toList) ∧
        plant.RunsModel (order ++ (above.map (fun r => r.effect)).toList) := by
  constructor
  · intro h
    exact ⟨(sortedLinks_valid_iff hlinked).mp h.evidence, _, sortedLinks_perm hlinked, h.chain,
      h.model⟩
  · rintro ⟨haccepts, order, hperm, hchain, hmodel⟩
    have horder : EffectChain order := by
      cases above with
      | none => simpa using hchain
      | some r => exact (effectChain_append.mp hchain).1
    obtain rfl := chain_eq_sortedLinks hvalid hdistinct hlinked hperm horder
    exact ⟨hchain, (sortedLinks_valid_iff hlinked).mpr haccepts, hmodel⟩

/-- The recovery is ALIGNED exactly on an aligned journal. -/
theorem validateCoordinationRecovery_aligned_iff (hlimit : records.length ≤ maxRecoveryRecords)
    (hvalid : ∀ r ∈ records, r.validate = .ok ())
    (hdistinct : (records.map (fun r => r.effect.effectId)).Nodup) :
    (validateCoordinationRecovery records plant).status = .aligned ↔
      JournalAligned records plant := by
  by_cases hsound : (pendingOf records).length ≤ 1 ∧ AllLinked records
  · obtain ⟨hpending, hlinked⟩ := hsound
    have hchecked := chainChecked_iff plant hvalid hdistinct hlinked
    rw [validateCoordinationRecovery_linked hlimit hdistinct hpending hlinked]
    change (validateChain records plant (sortedLinks records) (pendingOf records).head?).1 = _ ↔ _
    rcases validateChain_eq plant (sortedLinks records) (pendingOf records).head?
      hvalid with ⟨hchain, heq⟩ | ⟨hchain, hne, -⟩
    · rw [heq]
      cases hopen : (pendingOf records).head? with
      | some r =>
        refine ⟨fun h => absurd h pendingPosition_not_aligned, fun h => ?_⟩
        rw [pendingOf_eq_nil.mpr h.closed] at hopen
        cases hopen
      | none =>
        rw [hopen] at hchain
        rw [appliedPosition_aligned]
        constructor
        · intro hend
          exact ⟨pendingOf_eq_nil.mp (List.head?_eq_none_iff.mp hopen),
            ((hchecked none).mp hchain).1, _, sortedLinks_perm hlinked,
            by simpa using hchain.chain, by simpa using hchain.model, hend⟩
        · rintro ⟨-, -, order, hperm, horder, -, hend⟩
          obtain rfl := chain_eq_sortedLinks hvalid hdistinct hlinked hperm horder
          exact hend
    · refine ⟨fun h => absurd h hne, fun h => absurd ?_ hchain⟩
      rw [pendingOf_eq_nil.mpr h.closed]
      obtain ⟨order, hperm, horder, hmodel, -⟩ := h.chain
      exact (hchecked none).mpr ⟨h.evidence, order, hperm, by simpa using horder,
        by simpa using hmodel⟩
  · rw [validateCoordinationRecovery_refused hsound]
    refine ⟨nofun, fun h => absurd ⟨?_, allLinked_of_accepts h.evidence⟩ hsound⟩
    rw [pendingOf_eq_nil.mpr h.closed]
    exact Nat.zero_le 1

/-- It requires recovery exactly on a recoverable journal. -/
theorem validateCoordinationRecovery_required_iff (hlimit : records.length ≤ maxRecoveryRecords)
    (hvalid : ∀ r ∈ records, r.validate = .ok ())
    (hdistinct : (records.map (fun r => r.effect.effectId)).Nodup) :
    (validateCoordinationRecovery records plant).status = .recoveryRequired ↔
      JournalRecoverable records plant := by
  by_cases hsound : (pendingOf records).length ≤ 1 ∧ AllLinked records
  · obtain ⟨hpending, hlinked⟩ := hsound
    have hchecked := chainChecked_iff plant hvalid hdistinct hlinked
    rw [validateCoordinationRecovery_linked hlimit hdistinct hpending hlinked]
    change (validateChain records plant (sortedLinks records) (pendingOf records).head?).1 = _ ↔ _
    rcases validateChain_eq plant (sortedLinks records) (pendingOf records).head?
      hvalid with ⟨hchain, heq⟩ | ⟨hchain, -, hne⟩
    · rw [heq]
      cases hopen : pendingOf records with
      | nil =>
        refine ⟨fun h => absurd h appliedPosition_ne_recoveryRequired, ?_⟩
        rintro ⟨-, r, hr, -⟩
        rw [hopen] at hr
        cases hr
      | cons r rest =>
        rw [hopen] at hchain hpending
        have hempty : rest.length ≤ 0 := Nat.le_of_succ_le_succ hpending
        obtain rfl : rest = [] := List.length_eq_zero_iff.mp (Nat.le_zero.mp hempty)
        obtain ⟨haccepts, hexists⟩ := (hchecked _).mp hchain
        change (pendingPosition r.effect plant).1 = _ ↔ _
        rw [pendingPosition_recoveryRequired]
        constructor
        · intro hplant
          exact ⟨haccepts, r, hopen, hexists, hplant⟩
        · rintro ⟨-, r', hr', -, hplant⟩
          rw [hopen] at hr'
          obtain rfl : r = r' := List.head_eq_of_cons_eq hr'
          exact hplant
    · refine ⟨fun h => absurd h hne, fun h => absurd ?_ hchain⟩
      obtain ⟨haccepts, r, hr, hexists, -⟩ := h
      rw [hr]
      exact (hchecked (some r)).mpr ⟨haccepts, hexists⟩
  · rw [validateCoordinationRecovery_refused hsound]
    refine ⟨nofun, fun h => absurd ⟨?_, allLinked_of_accepts h.evidence⟩ hsound⟩
    obtain ⟨-, r, hr, -⟩ := h
    rw [hr]
    exact Nat.le_refl 1

/-! ## The order of the records -/

/-- What a result reports apart from the applied effects found before a failure. -/
structure SameReport (a b : CoordinationRecoveryResult) : Prop where
  status : a.status = b.status
  recordCount : a.recordCount = b.recordCount
  pendingEffectCount : a.pendingEffectCount = b.pendingEffectCount
  plantStateVersion : a.plantStateVersion = b.plantStateVersion
  plantStateDigest : a.plantStateDigest = b.plantStateDigest
  pendingEffectId : a.pendingEffectId = b.pendingEffectId
  pendingExpectedPostStateVersion :
    a.pendingExpectedPostStateVersion = b.pendingExpectedPostStateVersion
  pendingExpectedPostStateDigest :
    a.pendingExpectedPostStateDigest = b.pendingExpectedPostStateDigest

omit [Primitives] in
theorem SameReport.of_eq {a b : CoordinationRecoveryResult} (h : a = b) : SameReport a b := by
  subst h
  exact ⟨rfl, rfl, rfl, rfl, rfl, rfl, rfl, rfl⟩

/-- A refusal before the applied links, every APPLIED record linked, or none of them and all for
    one reason. -/
def OrderSettled (records : List CoordinationJournalRecord) : Prop :=
  maxRecoveryRecords < records.length ∨ 1 < (pendingOf records).length ∨
    ¬ (records.map (fun r => r.effect.effectId)).Nodup ∨ AllLinked records ∨
    ∃ reason, ∀ r ∈ records, r.state = .applied → appliedLink r = .error reason

section

variable {records' : List CoordinationJournalRecord} (hperm : records'.Perm records)
include hperm

theorem allLinked_perm : AllLinked records' ↔ AllLinked records :=
  forall_congr' fun _ => by rw [hperm.mem_iff]

omit [Primitives] in
theorem pendingOf_perm : (pendingOf records').Perm (pendingOf records) := hperm.filter _

omit [Primitives] in
theorem pendingOf_head_eq (h : (pendingOf records).length ≤ 1) :
    (pendingOf records').head? = (pendingOf records).head? := by
  have hpending := pendingOf_perm hperm
  match hopen : pendingOf records, h with
  | [], _ =>
    rw [hopen] at hpending
    rw [hpending.eq_nil]
  | [r], _ =>
    rw [hopen] at hpending
    rw [List.perm_singleton.mp hpending]

theorem sortedLinks_eq (hdistinct : (records.map (fun r => r.effect.effectId)).Nodup) :
    sortedLinks records' = sortedLinks records := by
  have hlinks : (sortedLinks records').Perm (sortedLinks records) :=
    (List.mergeSort_perm _ _).trans ((hperm.filterMap _).trans (List.mergeSort_perm _ _).symm)
  refine hlinks.eq_of_pairwise ?_ (List.pairwise_map.mp (mergeSort_precedes_sorted _))
    (List.pairwise_map.mp (mergeSort_precedes_sorted _))
  intro a b ha hb hab hba
  obtain ⟨r, hr, -, hlink⟩ := mem_sortedLinks.mp (hlinks.mem_iff.mp ha)
  obtain ⟨r', hr', -, hlink'⟩ := mem_sortedLinks.mp hb
  have hid := hab.antisymm hba
  rw [appliedLink_record hlink, appliedLink_record hlink'] at hid
  obtain rfl : r = r' := List.inj_on_of_nodup_map hdistinct hr hr' hid
  rw [hlink] at hlink'
  exact Except.ok.inj hlink'

omit [Primitives] in
theorem recoveryResult_perm (status : CoordinationRecoveryStatus)
    (reason : CoordinationRecoveryReason) (applied : List AppliedLink)
    (pending : Option CoordinationJournalRecord) :
    recoveryResult records' plant status reason applied pending =
      recoveryResult records plant status reason applied pending := by
  unfold recoveryResult
  rw [hperm.length_eq]

theorem validateChain_perm (applied : List AppliedLink)
    (pending : Option CoordinationJournalRecord) :
    validateChain records' plant applied pending = validateChain records plant applied pending := by
  have hany : records'.any (fun r => decide (r.validate ≠ .ok ())) =
      records.any (fun r => decide (r.validate ≠ .ok ())) := hperm.any_eq
  unfold validateChain
  rw [hany]

/-- The refusals before the applied links do not depend on the order. -/
theorem validateCoordinationRecovery_perm_early
    (h : maxRecoveryRecords < records.length ∨ 1 < (pendingOf records).length ∨
      ¬ (records.map (fun r => r.effect.effectId)).Nodup) :
    validateCoordinationRecovery records' plant = validateCoordinationRecovery records plant := by
  have hlength := hperm.length_eq
  have hpending : (records'.filter (fun r => !r.state.terminal)).length =
      (records.filter (fun r => !r.state.terminal)).length := (pendingOf_perm hperm).length_eq
  have hnodup := (hperm.map (fun r => r.effect.effectId)).nodup_iff
  unfold validateCoordinationRecovery
  rw [hlength]
  by_cases hlimit : maxRecoveryRecords < records.length
  · rw [if_pos hlimit, if_pos hlimit]
  rw [if_neg hlimit, if_neg hlimit]
  dsimp only
  rw [hpending]
  by_cases hmany : 1 < (records.filter (fun r => !r.state.terminal)).length
  · rw [if_pos hmany, if_pos hmany, recoveryResult_perm hperm]
  have hduplicate : ¬ (records.map (fun r => r.effect.effectId)).Nodup :=
    (h.resolve_left hlimit).resolve_left hmany
  rw [if_neg hmany, if_neg hmany, if_pos hduplicate, if_pos (mt hnodup.mp hduplicate),
    recoveryResult_perm hperm]

/-- Nor does anything, when every APPLIED record has a link. -/
theorem validateCoordinationRecovery_perm_linked (hlimit : records.length ≤ maxRecoveryRecords)
    (hdistinct : (records.map (fun r => r.effect.effectId)).Nodup)
    (hpending : (pendingOf records).length ≤ 1) (hlinked : AllLinked records) :
    validateCoordinationRecovery records' plant = validateCoordinationRecovery records plant := by
  have hlimit' : records'.length ≤ maxRecoveryRecords := hperm.length_eq ▸ hlimit
  have hdistinct' : (records'.map (fun r => r.effect.effectId)).Nodup :=
    (hperm.map _).nodup_iff.mpr hdistinct
  have hpending' : (pendingOf records').length ≤ 1 := (pendingOf_perm hperm).length_eq ▸ hpending
  rw [validateCoordinationRecovery_linked hlimit hdistinct hpending hlinked,
    validateCoordinationRecovery_linked hlimit' hdistinct' hpending'
      ((allLinked_perm hperm).mpr hlinked),
    pendingOf_head_eq hperm hpending, sortedLinks_eq hperm hdistinct, validateChain_perm hperm,
    recoveryResult_perm hperm]

end

/-- An APPLIED record without a link ends the recovery, with the links before the first one. -/
theorem validateCoordinationRecovery_unlinked (plant : PlantHealthMetadata)
    (hlimit : records.length ≤ maxRecoveryRecords)
    (hdistinct : (records.map (fun r => r.effect.effectId)).Nodup)
    (hpending : (pendingOf records).length ≤ 1) (hunlinked : ¬ AllLinked records) :
    ∃ before r after reason, records = before ++ r :: after ∧ AllLinked before ∧
      r.state = .applied ∧ appliedLink r = .error reason ∧
      validateCoordinationRecovery records plant =
        recoveryResult records plant .unavailable reason (before.filterMap linkOf)
          (pendingOf records).head? := by
  have hsingle : ¬ 1 < (records.filter (fun r => !r.state.terminal)).length :=
    Nat.not_lt.mpr hpending
  obtain ⟨before, r, after, reason, hsplit, hbefore, hstate, hreason, hcollect⟩ :=
    collectApplied_of_unlinked hunlinked []
  refine ⟨before, r, after, reason, hsplit, hbefore, hstate, hreason, ?_⟩
  unfold validateCoordinationRecovery
  rw [if_neg (Nat.not_lt.mpr hlimit)]
  dsimp only
  rw [if_neg hsingle, if_neg (not_not.mpr hdistinct), hcollect]
  rfl

/-- Whatever the order, the report is the same but for the applied effects found. -/
theorem validateCoordinationRecovery_sameReport {records' : List CoordinationJournalRecord}
    (hperm : records'.Perm records) :
    SameReport (validateCoordinationRecovery records' plant)
      (validateCoordinationRecovery records plant) := by
  by_cases hlimit : maxRecoveryRecords < records.length
  · exact .of_eq (validateCoordinationRecovery_perm_early hperm (.inl hlimit))
  by_cases hmany : 1 < (pendingOf records).length
  · exact .of_eq (validateCoordinationRecovery_perm_early hperm (.inr (.inl hmany)))
  by_cases hdistinct : (records.map (fun r => r.effect.effectId)).Nodup
  · have hlimit' : records'.length ≤ maxRecoveryRecords := hperm.length_eq ▸ Nat.not_lt.mp hlimit
    have hpending' : (pendingOf records').length ≤ 1 :=
      (pendingOf_perm hperm).length_eq ▸ Nat.not_lt.mp hmany
    by_cases hlinked : AllLinked records
    · exact .of_eq (validateCoordinationRecovery_perm_linked hperm (Nat.not_lt.mp hlimit) hdistinct
        (Nat.not_lt.mp hmany) hlinked)
    · obtain ⟨_, _, _, _, -, -, -, -, hresult⟩ := validateCoordinationRecovery_unlinked
        plant (Nat.not_lt.mp hlimit) hdistinct (Nat.not_lt.mp hmany) hlinked
      obtain ⟨_, _, _, _, -, -, -, -, hresult'⟩ := validateCoordinationRecovery_unlinked
        plant hlimit' ((hperm.map _).nodup_iff.mpr hdistinct) hpending'
        (mt (allLinked_perm hperm).mp hlinked)
      rw [hresult, hresult', pendingOf_head_eq hperm (Nat.not_lt.mp hmany)]
      exact ⟨rfl, hperm.length_eq, rfl, rfl, rfl, rfl, rfl, rfl⟩
  · exact .of_eq (validateCoordinationRecovery_perm_early hperm (.inr (.inr hdistinct)))

/-- With an APPLIED record in front, the result names its failure or counts its link. -/
theorem validateCoordinationRecovery_front {first : CoordinationJournalRecord}
    {rest : List CoordinationJournalRecord} (hperm : (first :: rest).Perm records)
    (hlimit : records.length ≤ maxRecoveryRecords)
    (hdistinct : (records.map (fun r => r.effect.effectId)).Nodup)
    (hpending : (pendingOf records).length ≤ 1) (hunlinked : ¬ AllLinked records)
    (hstate : first.state = .applied) :
    let result := validateCoordinationRecovery (first :: rest) plant
    match appliedLink first with
    | .error reason => result.appliedEffectCount = 0 ∧ result.reason = reason
    | .ok _ => result.appliedEffectCount ≠ 0 := by
  have hlimit' : (first :: rest).length ≤ maxRecoveryRecords := hperm.length_eq ▸ hlimit
  have hpending' : (pendingOf (first :: rest)).length ≤ 1 :=
    (pendingOf_perm hperm).length_eq ▸ hpending
  obtain ⟨before, r, after, reason, hsplit, hbefore, -, hreason, hresult⟩ :=
    validateCoordinationRecovery_unlinked plant hlimit'
      ((hperm.map _).nodup_iff.mpr hdistinct) hpending' (mt (allLinked_perm hperm).mp hunlinked)
  rw [hresult]
  cases before with
  | nil =>
    obtain rfl : first = r := List.head_eq_of_cons_eq hsplit
    rw [hreason]
    exact ⟨rfl, rfl⟩
  | cons other before =>
    obtain rfl : first = other := List.head_eq_of_cons_eq hsplit
    obtain ⟨link, hlink⟩ := hbefore first List.mem_cons_self hstate
    rw [hlink, List.filterMap_cons_some (linkOf_eq_some.mpr ⟨hstate, hlink⟩)]
    exact Nat.succ_ne_zero _

omit [Primitives] in
/-- An APPLIED record can be moved to the front. -/
theorem exists_front {r : CoordinationJournalRecord} (hr : r ∈ records) :
    ∃ rest, (r :: rest).Perm records := by
  obtain ⟨before, after, rfl⟩ := List.append_of_mem hr
  exact ⟨before ++ after, List.perm_middle.symm⟩

/-- The whole result is independent of the order exactly on settled records. -/
theorem validateCoordinationRecovery_settled_iff :
    (∀ records', records'.Perm records → validateCoordinationRecovery records' plant =
        validateCoordinationRecovery records plant) ↔ OrderSettled records := by
  constructor
  · intro hsame
    by_cases hlimit : maxRecoveryRecords < records.length
    · exact .inl hlimit
    by_cases hmany : 1 < (pendingOf records).length
    · exact .inr (.inl hmany)
    by_cases hdistinct : (records.map (fun r => r.effect.effectId)).Nodup
    · by_cases hlinked : AllLinked records
      · exact .inr (.inr (.inr (.inl hlinked)))
      · have hfront {r : CoordinationJournalRecord} (hr : r ∈ records)
            (hstate : r.state = .applied) :
            match appliedLink r with
            | .error reason =>
              (validateCoordinationRecovery records plant).appliedEffectCount = 0 ∧
                (validateCoordinationRecovery records plant).reason = reason
            | .ok _ => (validateCoordinationRecovery records plant).appliedEffectCount ≠ 0 := by
          obtain ⟨rest, hperm⟩ := exists_front hr
          rw [← hsame _ hperm]
          exact validateCoordinationRecovery_front hperm (Nat.not_lt.mp hlimit) hdistinct
            (Nat.not_lt.mp hmany) hlinked hstate
        obtain ⟨_, bad, _, reason, hsplit, -, hbad, hreason, -⟩ :=
          collectApplied_of_unlinked hlinked []
        have hmem : bad ∈ records := by
          rw [hsplit]
          exact List.mem_append_right _ List.mem_cons_self
        have hbadFront := hfront hmem hbad
        rw [hreason] at hbadFront
        refine .inr (.inr (.inr (.inr ⟨reason, fun r hr hstate => ?_⟩)))
        have hrFront := hfront hr hstate
        cases hlink : appliedLink r with
        | error other =>
          rw [hlink] at hrFront
          rw [← hrFront.2, hbadFront.2]
        | ok link =>
          rw [hlink] at hrFront
          exact absurd hbadFront.1 hrFront
    · exact .inr (.inr (.inl hdistinct))
  · intro hsettled records' hperm
    by_cases hearly : maxRecoveryRecords < records.length ∨ 1 < (pendingOf records).length ∨
        ¬ (records.map (fun r => r.effect.effectId)).Nodup
    · exact validateCoordinationRecovery_perm_early hperm hearly
    simp only [not_or, not_not, Nat.not_lt] at hearly
    obtain ⟨hlimit, hpending, hdistinct⟩ := hearly
    by_cases hlinked : AllLinked records
    · exact validateCoordinationRecovery_perm_linked hperm hlimit hdistinct hpending hlinked
    · obtain ⟨reason, hall⟩ : ∃ reason, ∀ r ∈ records, r.state = .applied →
          appliedLink r = .error reason := by
        rcases hsettled with h | h | h | h | h
        · omega
        · omega
        · exact absurd hdistinct h
        · exact absurd h hlinked
        · exact h
      -- Every order fails at its first APPLIED record, for the common reason.
      have hresult {order : List CoordinationJournalRecord} (horder : order.Perm records) :
          validateCoordinationRecovery order plant =
            recoveryResult order plant .unavailable reason [] (pendingOf order).head? := by
        obtain ⟨before, r, after, reason', hsplit, hbefore, hstate, hreason, heq⟩ :=
          validateCoordinationRecovery_unlinked plant (horder.length_eq ▸ hlimit)
            ((horder.map _).nodup_iff.mpr hdistinct)
            ((pendingOf_perm horder).length_eq ▸ hpending) (mt (allLinked_perm horder).mp hlinked)
        have hmem {r' : CoordinationJournalRecord} (hr' : r' ∈ before ++ r :: after) :
            r' ∈ records := horder.mem_iff.mp (hsplit ▸ hr')
        have hnone : before.filterMap linkOf = [] := by
          refine List.filterMap_eq_nil_iff.mpr fun r' hr' => ?_
          refine Option.eq_none_iff_forall_ne_some.mpr fun link hlink => ?_
          obtain ⟨hstate', hlink'⟩ := linkOf_eq_some.mp hlink
          rw [hall r' (hmem (List.mem_append_left _ hr')) hstate'] at hlink'
          cases hlink'
        rw [hall r (hmem (List.mem_append_right _ List.mem_cons_self)) hstate,
          Except.error.injEq] at hreason
        rw [heq, hnone, hreason]
      rw [hresult hperm, hresult (List.Perm.refl records), pendingOf_head_eq hperm hpending,
        recoveryResult_perm hperm]

/-- Valid records link, unless two retained objects share a digest. -/
theorem allLinked_of_valid (hvalid : ∀ r ∈ records, r.validate = .ok ())
    (hdigests : ∀ r ∈ records, r.DigestsDistinct) : AllLinked records := by
  intro r hr hstate
  have hhistory := CoordinationJournalRecord.validate_eq_ok.mp (hvalid r hr)
  obtain ⟨_, _, _, _, he⟩ := hhistory.appliedEvidence hstate
  exact ⟨_, hhistory.appliedLink_eq (hdigests r hr) he⟩

end

/-! ## The results -/

/-- The verdict is exact: ALIGNED on an aligned journal and RECOVERY_REQUIRED on a recoverable
    one, and on no other. -/
theorem recovery_verdict_exact [Primitives] {records : List CoordinationJournalRecord}
    (hlimit : records.length ≤ maxRecoveryRecords) (hvalid : ∀ r ∈ records, r.validate = .ok ())
    (hdistinct : (records.map (fun r => r.effect.effectId)).Nodup) (plant : PlantHealthMetadata) :
    ((validateCoordinationRecovery records plant).status = .aligned ↔
        JournalAligned records plant) ∧
      ((validateCoordinationRecovery records plant).status = .recoveryRequired ↔
        JournalRecoverable records plant) :=
  ⟨validateCoordinationRecovery_aligned_iff hlimit hvalid hdistinct,
    validateCoordinationRecovery_required_iff hlimit hvalid hdistinct⟩

open Sample in
set_option maxRecDepth 10000 in
theorem recovery_verdict_exact_applied :
    let records := (runEffects applying).records.list
    ((validateCoordinationRecovery records appliedPlant).status = .aligned ↔
        JournalAligned records appliedPlant) ∧
      ((validateCoordinationRecovery records appliedPlant).status = .recoveryRequired ↔
        JournalRecoverable records appliedPlant) :=
  recovery_verdict_exact (by decide +kernel) (by decide +kernel) (by decide +kernel) appliedPlant

/-- The order of the records changes at most the reason and the applied effects counted before a
    failure, and it changes nothing exactly on settled records. -/
theorem recovery_verdict_order [Primitives] (records : List CoordinationJournalRecord)
    (plant : PlantHealthMetadata) (unreadable : InvalidPlantInfo) :
    (∀ records', records'.Perm records →
      SameReport (validateCoordinationRecovery records' plant)
          (validateCoordinationRecovery records plant) ∧
        refuseInvalidPlant records' unreadable = refuseInvalidPlant records unreadable) ∧
    ((∀ records', records'.Perm records → validateCoordinationRecovery records' plant =
        validateCoordinationRecovery records plant) ↔ OrderSettled records) := by
  refine ⟨fun records' hperm => ⟨validateCoordinationRecovery_sameReport hperm, ?_⟩,
    validateCoordinationRecovery_settled_iff⟩
  unfold refuseInvalidPlant
  rw [hperm.length_eq]

namespace Sample

/-- The applied sample records, and the same records of another effect without any attempt. -/
def partlyLinked : List CoordinationJournalRecord :=
  let records := (runEffects applying).records.list
  records.map (fun r => { r with effect := { r.effect with effectId := 7 }, attempts := [] }) ++
    records

end Sample

open Sample in
set_option maxRecDepth 10000 in
/-- The scan stops at the bad record: before or after it has counted the good one. -/
theorem recovery_verdict_order_partlyLinked :
    ∃ records', records'.Perm partlyLinked ∧
      validateCoordinationRecovery records' appliedPlant ≠
        validateCoordinationRecovery partlyLinked appliedPlant :=
  ⟨partlyLinked.reverse, List.reverse_perm _, by decide +kernel⟩

end AegisOt
