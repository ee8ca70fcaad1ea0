import AegisOt.Delegation.Proofs.Attenuation
import AegisOt.Misc.JsonNumber

/-!
# What is signed depends on the order of sets

`signing_bytes` sorts the keys of the dump but not the sets in it. So two objects with the same
value sign the same bytes exactly if they iterate both sets in the same order, and all of them do
exactly if each set has one element.
-/

namespace AegisOt

namespace DelegationGrant

/-- Neither set can be iterated in two ways. -/
def Single (g : DelegationGrant) : Prop := g.resources.length = 1 ∧ g.operations.length = 1

variable [DelegationPrimitives] {g h : DelegationGrant}

/-- The dump is well formed, so its text determines it. -/
theorem wellFormed_members (g : DelegationGrant) : (Json.obj g.members).wellFormed = true := by
  have harr (items : List Json) (hitems : ∀ item ∈ items, item.wellFormed = true) :
      (Json.arr items).wellFormed = true := Json.wellFormedItems_iff.mpr hitems
  have hoperations : (Json.arr (g.operations.map (fun operation =>
      .str operation.value))).wellFormed = true := by
    apply harr
    rw [List.forall_mem_map]
    exact fun _ _ => rfl
  have hresources : (Json.arr (g.resources.map .str)).wellFormed = true := by
    apply harr
    rw [List.forall_mem_map]
    exact fun _ _ => rfl
  have hparent : (g.parentGrantId.elim .null .str : Json).wellFormed = true := by
    cases g.parentGrantId <;> rfl
  have hrisk : (Json.num (DelegationPrimitives.floatRepr g.riskLimit)).wellFormed = true :=
    decide_eq_true (DelegationPrimitives.floatRepr_scanned g.riskLimit)
  refine Json.wellFormed_obj ["delegation_depth_remaining", "expires_at", "grant_id", "issuer_id",
    "mission_id", "not_before", "operations", "parent_grant_id", "resources", "risk_limit",
    "subject_id"] rfl (by decide +kernel) ?_
  simp only [members, List.forall_mem_cons]
  exact ⟨Json.wellFormed_ofInt _, rfl, rfl, rfl, rfl, rfl, hoperations, hparent, hresources, hrisk,
    rfl, by nofun⟩

theorem members_of_signingBytes (hbytes : g.signingBytes = h.signingBytes) :
    g.members = h.members := by
  have hloaded := congrArg Json.loadsBytes hbytes
  unfold signingBytes at hloaded
  rw [Json.loadsBytes_canonicalBytes g.wellFormed_members,
    Json.loadsBytes_canonicalBytes h.wellFormed_members] at hloaded
  exact Json.obj.inj (Except.ok.inj hloaded)

omit [DelegationPrimitives] in
theorem operationValue_injective : Function.Injective Operation.value := by
  intro a b hvalue
  cases a <;> cases b <;> first | rfl | exact absurd hvalue (by decide)

/-- Two objects with the same value sign the same bytes if they iterate both sets alike, and only
    then. -/
theorem signingBytes_reordered_iff {resources : List String} {operations : List Operation}
    {hresources : g.resources.Perm resources} {hoperations : g.operations.Perm operations} :
    g.signingBytes = (g.reordered resources operations hresources hoperations).signingBytes ↔
      g.resources = resources ∧ g.operations = operations := by
  constructor
  · intro hbytes
    have hmembers := members_of_signingBytes hbytes
    have hlist (key : String) := congrArg (lookupEntry key) hmembers
    have hfound : some (Json.arr (g.resources.map .str)) = some (.arr (resources.map .str)) := by
      simpa [members, lookupEntry, reordered] using hlist "resources"
    have hfound' : some (Json.arr (g.operations.map (fun operation => .str operation.value))) =
        some (.arr (operations.map (fun operation => .str operation.value))) := by
      simpa [members, lookupEntry, reordered] using hlist "operations"
    refine ⟨?_, ?_⟩
    · refine List.map_injective_iff.mpr ?_ (Json.arr.inj (Option.some.inj hfound))
      exact fun _ _ => Json.str.inj
    · refine List.map_injective_iff.mpr ?_ (Json.arr.inj (Option.some.inj hfound'))
      exact fun _ _ hstr => operationValue_injective (Json.str.inj hstr)
  · rintro ⟨rfl, rfl⟩
    rfl

omit [DelegationPrimitives] in
/-- A set of two elements can be iterated in two ways. -/
theorem exists_other_order {α : Type} {items : List α} (hnodup : items.Nodup)
    (hlength : 2 ≤ items.length) : ∃ other, items.Perm other ∧ items ≠ other := by
  obtain ⟨a, b, rest, rfl⟩ : ∃ a b rest, items = a :: b :: rest := by
    match items, hlength with
    | a :: b :: rest, _ => exact ⟨a, b, rest, rfl⟩
  refine ⟨b :: a :: rest, List.Perm.swap _ _ _, ?_⟩
  intro hsame
  have hdistinct := (List.nodup_cons.mp hnodup).1
  rw [(List.cons.inj hsame).1] at hdistinct
  exact hdistinct List.mem_cons_self

omit [DelegationPrimitives] in
theorem eq_of_perm_of_length_one {α : Type} {items other : List α} (hlength : items.length = 1)
    (hperm : items.Perm other) : other = items := by
  obtain ⟨a, rfl⟩ := List.length_eq_one_iff.mp hlength
  exact List.perm_singleton.mp hperm.symm

omit [DelegationPrimitives] in
/-- A grant whose sets have one element has only one form. -/
theorem Same.eq_of_single (hsame : g.Same h) (hsingle : g.Single) : h = g := by
  obtain ⟨resources, operations, hresources, hoperations, rfl⟩ := hsame
  obtain rfl := eq_of_perm_of_length_one hsingle.1 hresources
  obtain rfl := eq_of_perm_of_length_one hsingle.2 hoperations
  rfl

theorem single_of_signingBytes (hfree : ∀ h, g.Same h → g.signingBytes = h.signingBytes) :
    g.Single := by
  have hpositive {α : Type} {items : List α} (hne : items ≠ []) : 0 < items.length :=
    List.length_pos_iff.mpr hne
  refine ⟨?_, ?_⟩
  · by_contra hlength
    have htwo : 2 ≤ g.resources.length := by
      have := hpositive g.resourcesValid.1
      omega
    obtain ⟨other, hperm, hne⟩ := exists_other_order g.resourcesValid.2 htwo
    have hbytes := hfree _ ⟨other, g.operations, hperm, .refl _, rfl⟩
    exact hne (signingBytes_reordered_iff.mp hbytes).1
  · by_contra hlength
    have htwo : 2 ≤ g.operations.length := by
      have := hpositive g.operationsValid.1
      omega
    obtain ⟨other, hperm, hne⟩ := exists_other_order g.operationsValid.2 htwo
    have hbytes := hfree _ ⟨g.resources, other, .refl _, hperm, rfl⟩
    exact hne (signingBytes_reordered_iff.mp hbytes).2

end DelegationGrant

namespace DelegationValidator

open DelegationGrant

/-- The same registry in another process. -/
structure SameRegistry (v w : DelegationValidator) : Prop where
  publicKeys : w.publicKeys = v.publicKeys
  revoked : w.revoked = v.revoked
  grants : ∀ id, Option.Rel DelegationGrant.Same (v.grants id) (w.grants id)

variable [DelegationPrimitives] {v w : DelegationValidator} {proposal : ActionProposal}

omit [DelegationPrimitives] in
/-- Where the grants of the chain have one form, another process sees the same ones. -/
theorem SameRegistry.grants_eq (hsame : v.SameRegistry w)
    (hsingle : ∀ id ∈ proposal.delegationChain, ∀ grant ∈ v.grants id, grant.Single) :
    ∀ id ∈ proposal.delegationChain, w.grants id = v.grants id := by
  intro id hid
  have hrel := hsame.grants id
  cases hfound : v.grants id with
  | none =>
    rw [hfound] at hrel
    cases hother : w.grants id with
    | none => rfl
    | some grant =>
      rw [hother] at hrel
      cases hrel
  | some grant =>
    rw [hfound] at hrel
    cases hother : w.grants id with
    | none =>
      rw [hother] at hrel
      cases hrel
    | some grant' =>
      rw [hother] at hrel
      cases hrel with
      | some hgrant =>
        exact congrArg some (hgrant.eq_of_single (hsingle id hid grant (Option.mem_def.mpr hfound)))

theorem validate_congr (hsame : v.SameRegistry w)
    (hgrants : ∀ id ∈ proposal.delegationChain, w.grants id = v.grants id) (now : Time) :
    w.validate proposal now = v.validate proposal now := by
  obtain ⟨grants, publicKeys, revoked⟩ := v
  obtain ⟨grants', publicKeys', revoked'⟩ := w
  obtain rfl : publicKeys' = publicKeys := hsame.publicKeys
  obtain rfl : revoked' = revoked := hsame.revoked
  unfold validate
  have hchain : proposal.delegationChain.filterMap grants' =
      proposal.delegationChain.filterMap grants := List.filterMap_congr hgrants
  have hreasons : proposal.delegationChain.flatMap (grantReasons ⟨grants', publicKeys', revoked'⟩
      now) = proposal.delegationChain.flatMap (grantReasons ⟨grants, publicKeys', revoked'⟩
      now) := by
    apply List.flatMap_congr
    intro id hid
    have hfound : grants' id = grants id := hgrants id hid
    unfold grantReasons
    dsimp only
    rw [hfound]
    rfl
  dsimp only
  rw [hchain, hreasons]

/-- The bytes of a grant depend on its value alone, and its signature verifies in every process,
    exactly if each of its sets has one element; for chains of such grants every process gives the
    same verdict. -/
theorem signing_order_free_iff (g : DelegationGrant) (v : DelegationValidator)
    (proposal : ActionProposal) (now : Time) :
    ((∀ h, g.Same h → g.signingBytes = h.signingBytes ∧ ∀ key publicKey,
        (∀ payload, DelegationPrimitives.verify publicKey payload
          (DelegationPrimitives.sign key payload) = true) →
        DelegationPrimitives.verify publicKey h.signingBytes (g.signed key).signature = true) ↔
      g.Single) ∧
      ((∀ id ∈ proposal.delegationChain, ∀ grant ∈ v.grants id, grant.Single) →
        ∀ w, v.SameRegistry w → w.validate proposal now = v.validate proposal now) := by
  refine ⟨⟨?_, ?_⟩, ?_⟩
  · intro hfree
    exact single_of_signingBytes (fun h hsame => (hfree h hsame).1)
  · intro hsingle h hsame
    obtain rfl := hsame.eq_of_single hsingle
    exact ⟨rfl, fun key publicKey hverifies => hverifies _⟩
  · intro hsingle w hsame
    exact validate_congr hsame (hsame.grants_eq hsingle) now

end DelegationValidator

/-! ## A grant of two resources in two processes -/

section

open Sample DelegationGrant DelegationValidator

theorem spelled_injective {key : String} {payload payload' : ByteArray}
    (h : spelled key payload = spelled key payload') : payload = payload' := by
  have hlist := congrArg String.toList h
  simp only [spelled, String.toList_append, String.toList_ofList] at hlist
  have hbytes := List.append_cancel_left hlist
  have hchar : ∀ n < 256, (Char.ofNat n).toNat = n := by decide +kernel
  have hinjective : Function.Injective (fun byte : UInt8 => Char.ofNat byte.toNat) := by
    intro a b hsame
    have hnat := congrArg Char.toNat hsame
    dsimp only at hnat
    rw [hchar _ a.toNat_lt, hchar _ b.toNat_lt] at hnat
    exact UInt8.toNat_inj.mp hnat
  exact ByteArray.ext (Array.toList_inj.mp (List.map_injective_iff.mpr hinjective hbytes))

/-- The grant of the supervisor for both feeders, in a process that iterates them the other way. -/
def rootElsewhere : DelegationGrant :=
  (rootGrant "mission-beta" (by decide)).reordered ["feeder-2", "feeder-1"]
    [.isolateAsset, .restoreAsset] (List.Perm.swap _ _ _) (.refl _)

/-- The same grant signs other bytes there, its signature is not valid there, and a chain that
    was accepted is not. -/
theorem accepted_here_refused_elsewhere :
    (rootGrant "mission-beta" (by decide)).Same rootElsewhere ∧
      (rootGrant "mission-beta" (by decide)).signingBytes ≠ rootElsewhere.signingBytes ∧
      ((delegationValidator (rootGrant "mission-beta" (by decide)) leafGrant).validate
        delegatedProposal 0).valid = true ∧
      ((delegationValidator rootElsewhere leafGrant).validate delegatedProposal 0).valid =
        false := by
  have hbytes : (rootGrant "mission-beta" (by decide)).signingBytes ≠
      rootElsewhere.signingBytes := by
    intro hsame
    have hresources : ["feeder-1", "feeder-2"] = ["feeder-2", "feeder-1"] :=
      (signingBytes_reordered_iff.mp hsame).1
    exact absurd hresources (by decide)
  refine ⟨⟨_, _, _, _, rfl⟩, hbytes, accepted_sample _ _, ?_⟩
  rw [Bool.eq_false_iff]
  intro hvalid
  obtain ⟨chain, haccepted⟩ := valid_iff.mp hvalid
  have hhonoured := haccepted.honoured
  cases hhonoured with
  | cons hroot _ =>
    obtain rfl := Option.some.inj hroot.found
    obtain ⟨key, hkey, hverified⟩ := hroot.signature
    obtain rfl : "root-key" = key := Option.some.inj hkey
    have hsignature : rootElsewhere.signature =
        spelled "root-key" (rootGrant "mission-beta" (by decide)).signingBytes :=
      signature_rootGrant _ _
    have hspelled := of_decide_eq_true hverified
    rw [hsignature] at hspelled
    exact hbytes (spelled_injective hspelled)

end

end AegisOt
