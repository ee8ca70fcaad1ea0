import AegisOt.Delegation.Sample

/-!
# Delegated authority only shrinks

The validator compares each grant with the one before it, and the proposal with the last one. What
is compared is transitive, so it holds between any two grants of an accepted chain, and what the
last grant allows every grant allows. The mission is only compared for the last grant.
-/

namespace AegisOt

/-- What the second grant may do the first one may do. -/
structure DelegationGrant.Attenuates (parent child : DelegationGrant) : Prop where
  resources : child.resources ⊆ parent.resources
  operations : child.operations ⊆ parent.operations
  riskLimit : child.riskLimit ≤ parent.riskLimit
  notBefore : parent.notBefore.instant ≤ child.notBefore.instant
  expiresAt : child.expiresAt.instant ≤ parent.expiresAt.instant
  depth : child.delegationDepthRemaining < parent.delegationDepthRemaining

/-- The second grant was issued under the first one. -/
structure DelegationGrant.Issues (parent child : DelegationGrant) : Prop where
  parentGrantId : child.parentGrantId = some parent.grantId
  issuerId : child.issuerId = parent.subjectId

/-- The second grant is for the mission of the first one. -/
def DelegationGrant.SameMission (parent child : DelegationGrant) : Prop :=
  child.missionId = parent.missionId

/-- What a grant allows besides its mission. -/
structure DelegationGrant.Covers (grant : DelegationGrant) (proposal : ActionProposal)
    (now : Time) : Prop where
  resource : proposal.resource ∈ grant.resources
  operation : proposal.operation ∈ grant.operations
  riskScore : proposal.riskScore ≤ grant.riskLimit
  notBefore : grant.notBefore.instant ≤ now
  expiresAt : now ≤ grant.expiresAt.instant

namespace DelegationGrant

variable {a b c : DelegationGrant} {chain : List DelegationGrant} {proposal : ActionProposal}
  {now : Time}

theorem Attenuates.trans (h : a.Attenuates b) (h' : b.Attenuates c) : a.Attenuates c where
  resources := List.Subset.trans h'.resources h.resources
  operations := List.Subset.trans h'.operations h.operations
  riskLimit := h'.riskLimit.trans h.riskLimit
  notBefore := h.notBefore.trans h'.notBefore
  expiresAt := h'.expiresAt.trans h.expiresAt
  depth := h'.depth.trans h.depth

instance : Trans Attenuates Attenuates Attenuates := ⟨Attenuates.trans⟩

instance : Trans SameMission SameMission SameMission := ⟨fun h h' => h'.trans h⟩

theorem Attenuates.ne (h : a.Attenuates b) : a ≠ b := by
  intro hsame
  have hdepth := h.depth
  rw [hsame] at hdepth
  exact lt_irrefl _ hdepth

theorem Attenuates.covers (h : a.Attenuates b) (hb : b.Covers proposal now) :
    a.Covers proposal now where
  resource := h.resources hb.resource
  operation := h.operations hb.operation
  riskScore := hb.riskScore.trans h.riskLimit
  notBefore := h.notBefore.trans hb.notBefore
  expiresAt := hb.expiresAt.trans h.expiresAt

/-- The depths of a chain count down, so it has no more grants than the first one allows. -/
theorem length_le_of_attenuates {root : DelegationGrant} {rest : List DelegationGrant}
    (h : (root :: rest).IsChain Attenuates) :
    (root :: rest).length ≤ root.delegationDepthRemaining + 1 := by
  induction rest generalizing root with
  | nil => simp
  | cons next rest ih =>
    obtain ⟨hnext, hrest⟩ := List.isChain_cons_cons.mp h
    have hlength := ih hrest
    have hdepth := hnext.depth
    rw [List.length_cons]
    omega

/-- What the last grant of a chain covers every grant covers. -/
theorem covers_of_getLast {leaf : DelegationGrant} (h : chain.Pairwise Attenuates)
    (hleaf : chain.getLast? = some leaf) (hcovers : leaf.Covers proposal now) :
    ∀ grant ∈ chain, grant.Covers proposal now := by
  obtain ⟨before, rfl⟩ := List.getLast?_eq_some_iff.mp hleaf
  intro grant hgrant
  rcases List.mem_append.mp hgrant with hbefore | hlast
  · have hattenuates := (List.pairwise_append.mp h).2.2 grant hbefore leaf
      (List.mem_singleton_self _)
    exact hattenuates.covers hcovers
  · rw [List.mem_singleton.mp hlast]
    exact hcovers

end DelegationGrant

open DelegationGrant

namespace DelegationValidator

/-! ## What the loops accept -/

theorem linkReasons_eq_nil {parent grant : DelegationGrant} :
    linkReasons parent grant = [] ↔ parent.Attenuates grant ∧ parent.Issues grant := by
  simp only [linkReasons, List.append_eq_nil_iff, reasonIf_eq_nil, not_not, not_le, not_lt,
    not_or]
  constructor
  · rintro ⟨⟨⟨⟨⟨⟨hparent, hissuer⟩, hresources⟩, hoperations⟩, hrisk⟩, hdepth⟩, hbefore, hafter⟩
    exact ⟨⟨hresources, hoperations, hrisk, hbefore, hafter, hdepth⟩, ⟨hparent, hissuer⟩⟩
  · rintro ⟨h, hissues⟩
    exact ⟨⟨⟨⟨⟨⟨hissues.parentGrantId, hissues.issuerId⟩, h.resources⟩, h.operations⟩,
      h.riskLimit⟩, h.depth⟩, h.notBefore, h.expiresAt⟩

theorem linksReasons_eq_nil {parent : DelegationGrant} {rest : List DelegationGrant} :
    linksReasons parent rest = [] ↔
      (parent :: rest).IsChain (fun a b => a.Attenuates b ∧ a.Issues b) := by
  induction rest generalizing parent with
  | nil => simp [linksReasons]
  | cons grant rest ih =>
    rw [linksReasons, List.append_eq_nil_iff, linkReasons_eq_nil, ih, List.isChain_cons_cons]

theorem chainReasons_eq_nil {chain : List DelegationGrant} :
    chainReasons chain = [] ↔ (∀ root ∈ chain.head?, root.parentGrantId = none) ∧
      chain.IsChain (fun a b => a.Attenuates b ∧ a.Issues b) := by
  cases chain with
  | nil => simp [chainReasons]
  | cons root rest =>
    rw [chainReasons, List.append_eq_nil_iff, reasonIf_eq_nil, not_not, linksReasons_eq_nil]
    simp

theorem leafReasons_eq_nil {proposal : ActionProposal} {leaf : DelegationGrant} :
    leafReasons proposal leaf = [] ↔ leaf.subjectId = proposal.actorId ∧
      leaf.missionId = proposal.missionId ∧ proposal.resource ∈ leaf.resources ∧
      proposal.operation ∈ leaf.operations ∧ proposal.riskScore ≤ leaf.riskLimit := by
  simp only [leafReasons, List.append_eq_nil_iff, reasonIf_eq_nil, not_not, not_lt, and_assoc]

section

variable [DelegationPrimitives] {v : DelegationValidator} {proposal : ActionProposal} {now : Time}

/-- A grant that the first loop accepts. -/
structure Honoured (v : DelegationValidator) (now : Time) (grantId : String)
    (grant : DelegationGrant) : Prop where
  found : v.grants grantId = some grant
  signature : v.SignatureValid grant
  unrevoked : grantId ∉ v.revoked
  notBefore : grant.notBefore.instant ≤ now
  expiresAt : now ≤ grant.expiresAt.instant

theorem grantReasons_eq_nil {grantId : String} :
    v.grantReasons now grantId = [] ↔ ∃ grant, v.Honoured now grantId grant := by
  unfold grantReasons
  cases hfound : v.grants grantId with
  | none =>
    simp only [List.cons_ne_self, false_iff, not_exists]
    intro grant h
    rw [h.found] at hfound
    cases hfound
  | some grant =>
    simp only [List.append_eq_nil_iff, reasonIf_eq_nil, not_not]
    constructor
    · rintro ⟨⟨hsignature, hunrevoked⟩, hbefore, hafter⟩
      exact ⟨grant, hfound, hsignature, hunrevoked, hbefore, hafter⟩
    · rintro ⟨grant', h⟩
      obtain rfl := Option.some.inj (hfound.symm.trans h.found)
      exact ⟨⟨h.signature, h.unrevoked⟩, h.notBefore, h.expiresAt⟩

/-- The grants of identifiers that the first loop accepts. -/
theorem forall₂_of_flatMap {ids : List String} (h : ids.flatMap (v.grantReasons now) = []) :
    List.Forall₂ (v.Honoured now) ids (ids.filterMap v.grants) := by
  induction ids with
  | nil => exact .nil
  | cons id rest ih =>
    rw [List.flatMap_cons, List.append_eq_nil_iff] at h
    obtain ⟨grant, hgrant⟩ := grantReasons_eq_nil.mp h.1
    rw [List.filterMap_cons_some hgrant.found]
    exact .cons hgrant (ih h.2)

/-- What an accepted chain went through. -/
structure Accepted (v : DelegationValidator) (proposal : ActionProposal) (now : Time)
    (chain : List DelegationGrant) : Prop where
  distinct : proposal.delegationChain.Nodup
  honoured : List.Forall₂ (v.Honoured now) proposal.delegationChain chain
  root : ∀ root ∈ chain.head?, root.parentGrantId = none
  links : chain.IsChain (fun a b => a.Attenuates b ∧ a.Issues b)
  leaf : ∀ leaf ∈ chain.getLast?, leafReasons proposal leaf = []

/-- The grants of identifiers that the first loop accepts, and what it says of them. -/
theorem chain_of_forall₂ {ids : List String} {chain : List DelegationGrant}
    (h : List.Forall₂ (v.Honoured now) ids chain) :
    ids.filterMap v.grants = chain ∧ ids.flatMap (v.grantReasons now) = [] := by
  induction h with
  | nil => exact ⟨rfl, rfl⟩
  | cons hgrant _ ih =>
    obtain ⟨hchain, hreasons⟩ := ih
    rw [List.filterMap_cons_some hgrant.found, List.flatMap_cons, hchain, hreasons,
      grantReasons_eq_nil.mpr ⟨_, hgrant⟩]
    exact ⟨rfl, rfl⟩

/-- The validator accepts what passes every check, and nothing else. -/
theorem valid_iff : (v.validate proposal now).valid = true ↔
    ∃ chain, v.Accepted proposal now chain := by
  unfold validate
  constructor
  · intro h
    by_cases hdistinct : proposal.delegationChain.Nodup
    · rw [if_neg (not_not.mpr hdistinct)] at h
      dsimp only at h
      split at h
      · cases h
      · rename_i hreasons
        rw [not_or, not_not] at hreasons
        rw [decide_eq_true_eq, List.append_eq_nil_iff, chainReasons_eq_nil] at h
        obtain ⟨⟨hroot, hlinks⟩, hleaf⟩ := h
        refine ⟨_, hdistinct, forall₂_of_flatMap hreasons.1, hroot, hlinks, ?_⟩
        intro leaf hlast
        rw [Option.mem_def.mp hlast] at hleaf
        exact hleaf
    · rw [if_pos hdistinct] at h
      cases h
  · rintro ⟨chain, h⟩
    obtain ⟨hchain, hreasons⟩ := chain_of_forall₂ h.honoured
    have hlength : chain.length = proposal.delegationChain.length := h.honoured.length_eq.symm
    have hleaf : chain.getLast?.elim [] (leafReasons proposal) = [] := by
      cases hlast : chain.getLast? with
      | none => rfl
      | some leaf => exact h.leaf leaf hlast
    rw [if_neg (not_not.mpr h.distinct)]
    simp only [hchain, hreasons, hlength, ne_eq, not_true, or_self, if_false,
      chainReasons_eq_nil.mpr ⟨h.root, h.links⟩, hleaf, List.append_nil, decide_true]

namespace Accepted

variable {chain : List DelegationGrant}

theorem attenuates (h : v.Accepted proposal now chain) : chain.Pairwise Attenuates :=
  (h.links.imp (fun _ _ hlink => hlink.1)).pairwise

theorem leaf_covers (h : v.Accepted proposal now chain) {leaf : DelegationGrant}
    (hleaf : chain.getLast? = some leaf) : leaf.Covers proposal now := by
  obtain ⟨-, -, hresource, hoperation, hrisk⟩ := leafReasons_eq_nil.mp (h.leaf leaf hleaf)
  obtain ⟨id, -, hhonoured⟩ := exists_mem_of_forall₂ h.honoured (List.mem_of_getLast? hleaf)
  exact ⟨hresource, hoperation, hrisk, hhonoured.notBefore, hhonoured.expiresAt⟩

end Accepted

/-- Of an accepted chain every grant is known, signed by its issuer and not revoked; any grant
    allows no more than any earlier one, and for less long and to fewer others; issuers and
    subjects link the root to the actor; and every grant covers the proposal. -/
theorem accepted_chain_attenuates (h : (v.validate proposal now).valid = true) :
    ∃ chain, List.Forall₂ (v.Honoured now) proposal.delegationChain chain ∧
      chain.Pairwise Attenuates ∧ chain.Nodup ∧ chain.IsChain Issues ∧
      (∀ root ∈ chain.head?, root.parentGrantId = none ∧
        chain.length ≤ root.delegationDepthRemaining + 1) ∧
      (∀ leaf ∈ chain.getLast?, leaf.subjectId = proposal.actorId) ∧
      ∀ grant ∈ chain, grant.Covers proposal now := by
  obtain ⟨chain, haccepted⟩ := valid_iff.mp h
  have hattenuates := haccepted.attenuates
  refine ⟨chain, haccepted.honoured, hattenuates, hattenuates.imp Attenuates.ne,
    haccepted.links.imp (fun _ _ hlink => hlink.2), ?_, ?_, ?_⟩
  · intro root hroot
    refine ⟨haccepted.root root hroot, ?_⟩
    obtain ⟨rest, rfl⟩ := List.head?_eq_some_iff.mp hroot
    exact length_le_of_attenuates (haccepted.links.imp (fun _ _ hlink => hlink.1))
  · intro leaf hleaf
    exact (leafReasons_eq_nil.mp (haccepted.leaf leaf hleaf)).1
  · intro grant hgrant
    cases hlast : chain.getLast? with
    | none =>
      rw [List.getLast?_eq_none_iff.mp hlast] at hgrant
      cases hgrant
    | some leaf =>
      exact covers_of_getLast hattenuates hlast (haccepted.leaf_covers hlast) grant hgrant

/-! ## Missions -/

/-- The last grant is for the mission of the proposal; the others are exactly if each of them is
    for the mission of the grant it was issued under, which nothing checks. -/
theorem mission_confined_iff (h : (v.validate proposal now).valid = true) :
    (∀ grant ∈ proposal.delegationChain.filterMap v.grants,
        grant.missionId = proposal.missionId) ↔
      (proposal.delegationChain.filterMap v.grants).IsChain SameMission := by
  obtain ⟨chain, haccepted⟩ := valid_iff.mp h
  rw [(chain_of_forall₂ haccepted.honoured).1]
  constructor
  · intro hmission
    apply List.Pairwise.isChain
    apply List.pairwise_of_forall_mem_list
    intro parent hparent child hchild
    exact (hmission child hchild).trans (hmission parent hparent).symm
  · intro hsame grant hgrant
    have hpairwise : chain.Pairwise SameMission := List.IsChain.pairwise hsame
    cases hlast : chain.getLast? with
    | none =>
      rw [List.getLast?_eq_none_iff.mp hlast] at hgrant
      cases hgrant
    | some leaf =>
      have hleaf := (leafReasons_eq_nil.mp (haccepted.leaf leaf hlast)).2.1
      obtain ⟨before, rfl⟩ := List.getLast?_eq_some_iff.mp hlast
      rcases List.mem_append.mp hgrant with hbefore | hmem
      · have hmission := (List.pairwise_append.mp hpairwise).2.2 grant hbefore leaf
          (List.mem_singleton_self _)
        exact hmission.symm.trans hleaf
      · rw [List.mem_singleton.mp hmem]
        exact hleaf

end

end DelegationValidator

/-! ## A chain across two missions -/

section

open Sample DelegationValidator

theorem accepted_sample (mission : String) (hmission : mission ≠ "") :
    ((delegationValidator (rootGrant mission hmission) leafGrant).validate delegatedProposal
      0).valid = true := by
  have hexpiry : (0 : ℤ) ≤ 3600 * second - 0 := by decide
  refine valid_iff.mpr ⟨[rootGrant mission hmission, leafGrant], by decide, ?_, ?_, ?_, ?_⟩
  · refine .cons ⟨rfl, ⟨"root-key", rfl, verify_spelled _ _⟩, by nofun, le_refl (0 : ℤ),
      hexpiry⟩ ?_
    exact .cons ⟨rfl, ⟨"supervisor-key", rfl, verify_spelled _ _⟩, by nofun, le_refl (0 : ℤ),
      hexpiry⟩ .nil
  · intro root hroot
    obtain rfl := Option.some.inj hroot
    rfl
  · refine List.isChain_cons_cons.mpr ⟨⟨?_, rfl, rfl⟩, List.IsChain.singleton _⟩
    exact ⟨(by decide : ["feeder-1"] ⊆ ["feeder-1", "feeder-2"]),
      (by decide : [Operation.isolateAsset] ⊆ [.isolateAsset, .restoreAsset]),
      le_refl (30 : ℚ), le_refl _, le_refl _, Nat.zero_lt_one⟩
  · intro leaf hleaf
    obtain rfl : leafGrant = leaf := Option.some.inj hleaf
    refine leafReasons_eq_nil.mpr ⟨rfl, rfl, by decide, by decide, ?_⟩
    exact (by decide +kernel : (10 : ℚ) ≤ 30)

theorem sample_chain_attenuates :
    ∃ chain, List.Forall₂ ((delegationValidator (rootGrant "mission-beta" (by decide))
        leafGrant).Honoured 0) delegatedProposal.delegationChain chain ∧
      ∀ grant ∈ chain, grant.Covers delegatedProposal 0 := by
  obtain ⟨chain, hhonoured, -, -, -, -, -, hcovers⟩ :=
    accepted_chain_attenuates (accepted_sample "mission-beta" (by decide))
  exact ⟨chain, hhonoured, hcovers⟩

/-- A grant for one mission is passed on into another one. -/
theorem chain_across_missions :
    ((delegationValidator (rootGrant "mission-alpha" (by decide)) leafGrant).validate
        delegatedProposal 0).valid = true ∧
      delegatedProposal.delegationChain.filterMap
          (delegationValidator (rootGrant "mission-alpha" (by decide)) leafGrant).grants =
        [rootGrant "mission-alpha" (by decide), leafGrant] ∧
      (rootGrant "mission-alpha" (by decide)).missionId ≠ delegatedProposal.missionId := by
  refine ⟨accepted_sample _ _, rfl, ?_⟩
  exact (by decide : "mission-alpha" ≠ "mission-beta")

/-- Where both grants are for the mission of the proposal, the chain stays within it. -/
theorem sample_mission_confined :
    ((delegationValidator (rootGrant "mission-beta" (by decide)) leafGrant).validate
        delegatedProposal 0).valid = true ∧
      ∀ grant ∈ delegatedProposal.delegationChain.filterMap
          (delegationValidator (rootGrant "mission-beta" (by decide)) leafGrant).grants,
        grant.missionId = delegatedProposal.missionId := by
  have haccepted := accepted_sample "mission-beta" (by decide)
  refine ⟨haccepted, (mission_confined_iff haccepted).mpr ?_⟩
  exact List.isChain_cons_cons.mpr ⟨rfl, List.IsChain.singleton _⟩

end

end AegisOt
