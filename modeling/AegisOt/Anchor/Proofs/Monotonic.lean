import AegisOt.Anchor.Reference

/-!
# Monotonicity of the anchor authority

What one call of the authority can do, and from it what a whole sequence of calls by any number
of writers does: checkpoints form a chain, fencing tokens only grow, a grant advances the
checkpoint at most once and only while it is the newest, and the anchored plant state never goes
back.
-/

namespace AegisOt

section

variable [AnchorPrimitives]

/-- The anchored plant state does not go back from `a` to `b`. -/
def SignedCoordinationAnchor.PlantMonotone (a b : SignedCoordinationAnchor) : Prop :=
  a.projection.plantStateVersion ≤ b.projection.plantStateVersion ∧
    (a.projection.plantStateVersion = b.projection.plantStateVersion →
      a.projection.plantStateSha256 = b.projection.plantStateSha256)

omit [AnchorPrimitives] in
theorem SignedCoordinationAnchor.PlantMonotone.rfl (a : SignedCoordinationAnchor) :
    a.PlantMonotone a := ⟨le_refl _, fun _ => Eq.refl _⟩

omit [AnchorPrimitives] in
theorem SignedCoordinationAnchor.PlantMonotone.trans {a b c : SignedCoordinationAnchor}
    (hab : a.PlantMonotone b) (hbc : b.PlantMonotone c) : a.PlantMonotone c := by
  refine ⟨le_trans hab.1 hbc.1, ?_⟩
  intro hac
  have hbv : a.projection.plantStateVersion = b.projection.plantStateVersion := by
    have h₁ := hab.1
    have h₂ := hbc.1
    omega
  rw [hab.2 hbv, hbc.2 (by omega)]

/-! ## One call -/

/-- Everything a call can do: the event it leaves, by how it ends. -/
inductive AnchorEvent.Legal (ref : InMemoryMonotonicAnchorReference) : AnchorEvent → Prop
  | raised (call : AnchorCall) (error : AnchorError) :
      Legal ref { before := ref, call := call, result := .error error, after := ref }
  | read (nonce : String) (readAt : DateTime) (lifetime : Time)
      (readback : CoordinationAnchorReadback) :
      Legal ref
        { before := ref
          call := .readback nonce readAt lifetime
          result := .ok (.readback readback)
          after := ref }
  | granted (holder nonce : String) (expected : Sha256) (issuedAt : DateTime) (lifetime : Time)
      (grant : CoordinationFenceGrant) (htoken : grant.fencingToken = ref.fencingToken + 1) :
      Legal ref
        { before := ref
          call := .acquireFence holder nonce expected issuedAt lifetime
          result := .ok (.grant grant)
          after := { ref with fencingToken := ref.fencingToken + 1 } }
  | advanced (expected : Sha256) (projection : LocalCoordinationProjection)
      (fence : CoordinationFenceGrant) (advancedAt : DateTime)
      (anchor : SignedCoordinationAnchor)
      (hsequence : anchor.anchorSequence = ref.anchor.anchorSequence + 1)
      (hlink : anchor.previousAnchorSha256 = some ref.anchor.digest)
      (htoken : anchor.fencingToken = fence.fencingToken)
      (hcurrent : fence.fencingToken = ref.fencingToken)
      (hunused : ref.anchor.fencingToken < fence.fencingToken)
      (hplant : ref.anchor.PlantMonotone anchor) :
      Legal ref
        { before := ref
          call := .compareAndAdvance expected projection fence advancedAt
          result := .ok (.advanced anchor)
          after := { ref with anchor := anchor } }

/-- What an issued checkpoint holds. -/
theorem SignedCoordinationAnchor.issue_spec {streamId : String} {sequence token : Nat}
    {previous : Option Sha256} {projection : LocalCoordinationProjection} {key : PrivateKey}
    {issuedAt : DateTime} {anchor : SignedCoordinationAnchor}
    (h : SignedCoordinationAnchor.issue streamId sequence token previous projection key issuedAt
      = .ok anchor) :
    anchor.anchorSequence = sequence ∧ anchor.fencingToken = token ∧
      anchor.previousAnchorSha256 = previous ∧ anchor.projection = projection := by
  unfold SignedCoordinationAnchor.issue at h
  rw [bind_unit_eq_ok] at h
  obtain ⟨instant, -, hrest⟩ := bind_eq_ok.mp h.2
  obtain ⟨-, heq⟩ := bind_unit_eq_ok.mp hrest
  rw [pure_eq_ok, Except.ok.injEq] at heq
  rw [← heq]
  exact ⟨rfl, rfl, rfl, rfl⟩

/-- The token of an issued grant. -/
theorem CoordinationFenceGrant.issue_spec {streamId holder nonce : String}
    {anchor : SignedCoordinationAnchor} {token : Nat} {key : PrivateKey} {issuedAt : DateTime}
    {lifetime : Time} {grant : CoordinationFenceGrant}
    (h : CoordinationFenceGrant.issue streamId holder nonce anchor token key issuedAt lifetime
      = .ok grant) : grant.fencingToken = token := by
  unfold CoordinationFenceGrant.issue at h
  rw [bind_unit_eq_ok, bind_unit_eq_ok, bind_unit_eq_ok] at h
  obtain ⟨instant, -, hrest⟩ := bind_eq_ok.mp h.2.2.2
  obtain ⟨-, heq⟩ := bind_unit_eq_ok.mp hrest
  rw [pure_eq_ok, Except.ok.injEq] at heq
  rw [← heq]

namespace InMemoryMonotonicAnchorReference

variable {ref after : InMemoryMonotonicAnchorReference}

theorem readback_reads (nonce : String) (readAt : DateTime) (lifetime : Time) :
    Method.Reads (readback nonce readAt lifetime) := by
  intro s
  unfold readback
  rw [Method.call_self_bind, Method.call_check]

/-- The token is assigned last. -/
theorem acquireFence_atomic (holder nonce : String) (expected : Sha256) (issuedAt : DateTime)
    (lifetime : Time) : Method.Atomic (acquireFence holder nonce expected issuedAt lifetime) := by
  unfold acquireFence
  refine Method.reads_self.atomic_bind (fun ref => ?_)
  refine (Method.reads_check _).atomic_bind (fun _ => ?_)
  refine (Method.reads_check _).atomic_bind (fun grant => ?_)
  exact (Method.total_assign_pure _ grant).atomic

/-- The checkpoint is assigned last. -/
theorem compareAndAdvance_atomic (expected : Sha256) (projection : LocalCoordinationProjection)
    (fence : CoordinationFenceGrant) (advancedAt : DateTime) :
    Method.Atomic (compareAndAdvance expected projection fence advancedAt) := by
  unfold compareAndAdvance
  refine Method.reads_self.atomic_bind (fun ref => ?_)
  refine (Method.reads_check _).atomic_bind (fun _ => ?_)
  refine (Method.reads_check _).atomic_bind (fun _ => ?_)
  refine (Method.reads_check _).atomic_bind (fun _ => ?_)
  refine (Method.reads_check _).atomic_bind (fun _ => ?_)
  refine (Method.reads_check _).atomic_bind (fun advanced => ?_)
  exact (Method.total_assign_pure _ advanced).atomic

theorem acquireFence_ok {holder nonce : String} {expected : Sha256} {issuedAt : DateTime}
    {lifetime : Time} {grant : CoordinationFenceGrant}
    (h : Method.call (acquireFence holder nonce expected issuedAt lifetime) ref
      = (.ok grant, after)) :
    grant.fencingToken = ref.fencingToken + 1 ∧
      after = { ref with fencingToken := ref.fencingToken + 1 } := by
  unfold acquireFence at h
  rw [Method.call_self_bind, Method.call_check_bind_eq_ok] at h
  obtain ⟨-, -, h⟩ := h
  obtain ⟨granted, hissue, h⟩ := Method.call_check_bind_eq_ok.mp h
  rw [Method.call_assign_bind, Method.call_pure, Prod.mk.injEq, Except.ok.injEq] at h
  obtain ⟨rfl, rfl⟩ := h
  exact ⟨CoordinationFenceGrant.issue_spec hissue, rfl⟩

theorem compareAndAdvance_ok {expected : Sha256} {projection : LocalCoordinationProjection}
    {fence : CoordinationFenceGrant} {advancedAt : DateTime} {anchor : SignedCoordinationAnchor}
    (h : Method.call (compareAndAdvance expected projection fence advancedAt) ref
      = (.ok anchor, after)) :
    AnchorEvent.Legal ref
      { before := ref
        call := .compareAndAdvance expected projection fence advancedAt
        result := .ok (.advanced anchor)
        after := after } := by
  unfold compareAndAdvance at h
  rw [Method.call_self_bind, Method.call_check_bind_eq_ok] at h
  obtain ⟨-, -, h⟩ := h
  obtain ⟨instant, -, h⟩ := Method.call_check_bind_eq_ok.mp h
  obtain ⟨⟨⟩, hfence, h⟩ := Method.call_check_bind_eq_ok.mp h
  obtain ⟨⟨⟩, hprojection, h⟩ := Method.call_check_bind_eq_ok.mp h
  obtain ⟨advanced, hissue, h⟩ := Method.call_check_bind_eq_ok.mp h
  rw [Method.call_assign_bind, Method.call_pure, Prod.mk.injEq, Except.ok.injEq] at h
  obtain ⟨rfl, rfl⟩ := h
  rw [refuseIf_eq_ok, Bool.not_eq_false] at hfence hprojection
  obtain ⟨hsequence, htoken, hlink, hprojected⟩ := SignedCoordinationAnchor.issue_spec hissue
  have hfenced := (Bool.and_eq_true_iff.mp hfence).2
  obtain ⟨-, -, -, hcurrent, hunused⟩ := of_decide_eq_true hfenced
  obtain ⟨-, -, -, -, -, hversion, hdigest⟩ := of_decide_eq_true hprojection
  refine .advanced _ _ _ _ advanced hsequence hlink htoken hcurrent hunused ?_
  refine ⟨?_, ?_⟩
  · rw [hprojected]
    exact hversion
  · intro heq
    rw [hprojected] at heq ⊢
    exact (hdigest heq.symm).symm

/-- What one call can do. -/
theorem serve_legal (ref : InMemoryMonotonicAnchorReference) (call : AnchorCall) :
    AnchorEvent.Legal ref (ref.serve call) := by
  unfold serve
  rcases hended : Method.call call.body ref with ⟨result, after⟩
  cases result with
  | error e =>
    have hsame : after = ref := by
      cases call with
      | readback nonce readAt lifetime =>
        refine (readback_reads nonce readAt lifetime).atomic_bind (fun reply => ?_) ref e after
          hended
        exact Method.Reads.atomic (fun _ => rfl)
      | acquireFence holder nonce expected issuedAt lifetime =>
        rcases Method.call_bind_eq_error.mp hended with hfirst | ⟨grant, mid, -, hrest⟩
        · exact acquireFence_atomic holder nonce expected issuedAt lifetime ref e after hfirst
        · cases hrest
      | compareAndAdvance expected projection fence advancedAt =>
        rcases Method.call_bind_eq_error.mp hended with hfirst | ⟨anchor, mid, -, hrest⟩
        · exact compareAndAdvance_atomic expected projection fence advancedAt ref e after hfirst
        · cases hrest
    rw [hsame]
    exact .raised call e
  | ok reply =>
    cases call with
    | readback nonce readAt lifetime =>
      obtain ⟨answer, mid, hread, hrest⟩ := Method.call_bind_eq_ok.mp hended
      rw [Method.call_pure, Prod.mk.injEq, Except.ok.injEq] at hrest
      obtain ⟨rfl, rfl⟩ := hrest
      have hsame := readback_reads nonce readAt lifetime ref
      rw [hread] at hsame
      rw [show mid = ref from hsame]
      exact .read nonce readAt lifetime answer
    | acquireFence holder nonce expected issuedAt lifetime =>
      obtain ⟨grant, mid, hgrant, hrest⟩ := Method.call_bind_eq_ok.mp hended
      rw [Method.call_pure, Prod.mk.injEq, Except.ok.injEq] at hrest
      obtain ⟨rfl, rfl⟩ := hrest
      obtain ⟨htoken, rfl⟩ := acquireFence_ok hgrant
      exact .granted holder nonce expected issuedAt lifetime grant htoken
    | compareAndAdvance expected projection fence advancedAt =>
      obtain ⟨anchor, mid, hadvance, hrest⟩ := Method.call_bind_eq_ok.mp hended
      rw [Method.call_pure, Prod.mk.injEq, Except.ok.injEq] at hrest
      obtain ⟨rfl, rfl⟩ := hrest
      exact compareAndAdvance_ok hadvance

end InMemoryMonotonicAnchorReference

/-! ## Sequences of calls -/

namespace InMemoryMonotonicAnchorReference

/-- The authority after a sequence of calls. -/
def afterAll (ref : InMemoryMonotonicAnchorReference) :
    List AnchorCall → InMemoryMonotonicAnchorReference
  | [] => ref
  | call :: rest => (ref.serve call).after.afterAll rest

/-- The grants issued in a sequence of calls, oldest first. -/
def grants (ref : InMemoryMonotonicAnchorReference) (calls : List AnchorCall) :
    List CoordinationFenceGrant := (ref.events calls).filterMap AnchorEvent.issued

/-- The grants that advanced the checkpoint in a sequence of calls, oldest first. -/
def advances (ref : InMemoryMonotonicAnchorReference) (calls : List AnchorCall) :
    List CoordinationFenceGrant := (ref.events calls).filterMap AnchorEvent.used

/-- What the authority promises its writers over a sequence of calls. -/
structure Monotonic (ref : InMemoryMonotonicAnchorReference) (calls : List AnchorCall) :
    Prop where
  chained : ∀ event ∈ ref.events calls, ∀ anchor, event.result = .ok (.advanced anchor) →
    event.after.anchor = anchor ∧
      anchor.anchorSequence = event.before.anchor.anchorSequence + 1 ∧
      anchor.previousAnchorSha256 = some event.before.anchor.digest
  issued : (ref.grants calls).Pairwise (fun a b => a.fencingToken < b.fencingToken)
  once : (ref.advances calls).Pairwise (fun a b => a.fencingToken < b.fencingToken)
  newest : ∀ earlier call later fence, calls = earlier ++ call :: later →
    ((ref.afterAll earlier).serve call).used = some fence →
      ∃ grant, (ref.grants earlier).getLast? = some grant ∧
        grant.fencingToken = fence.fencingToken
  plant : (ref.anchor :: (ref.events calls).map (fun event => event.after.anchor)).Pairwise
    SignedCoordinationAnchor.PlantMonotone
  raised : ∀ event ∈ ref.events calls, ∀ error, event.result = .error error →
    event.after.anchor = event.before.anchor ∧
      event.after.fencingToken = event.before.fencingToken

variable {ref : InMemoryMonotonicAnchorReference}

/-- Every event of a run is one legal call. -/
theorem legal_of_mem_events {calls : List AnchorCall} {event : AnchorEvent}
    (hevent : event ∈ ref.events calls) : AnchorEvent.Legal event.before event := by
  induction calls generalizing ref with
  | nil => cases hevent
  | cons call rest ih =>
    rcases List.mem_cons.mp hevent with rfl | hrest
    · exact ref.serve_legal call
    · exact ih hrest

/-- A call issues a grant exactly when it moves the token, to the grant's own. -/
theorem serve_token (ref : InMemoryMonotonicAnchorReference) (call : AnchorCall) :
    ((ref.serve call).issued = none ∧ (ref.serve call).after.fencingToken = ref.fencingToken) ∨
      ∃ grant, (ref.serve call).issued = some grant ∧
        grant.fencingToken = ref.fencingToken + 1 ∧
        (ref.serve call).after.fencingToken = grant.fencingToken := by
  rcases h : ref.serve call with ⟨before, asked, result, after⟩
  have hlegal := ref.serve_legal call
  rw [h] at hlegal
  cases hlegal with
  | raised _ error => exact .inl ⟨rfl, rfl⟩
  | read nonce readAt lifetime readback => exact .inl ⟨rfl, rfl⟩
  | granted holder nonce expected issuedAt lifetime grant htoken =>
    exact .inr ⟨grant, rfl, htoken, htoken.symm⟩
  | advanced expected projection fence advancedAt anchor hsequence hlink htoken hcurrent hunused
      hplant => exact .inl ⟨rfl, rfl⟩

/-- A call uses a grant exactly when it moves the checkpoint, to the grant's token. -/
theorem serve_used (ref : InMemoryMonotonicAnchorReference) (call : AnchorCall) :
    ((ref.serve call).used = none ∧ (ref.serve call).after.anchor = ref.anchor) ∨
      ∃ fence, (ref.serve call).used = some fence ∧
        fence.fencingToken = ref.fencingToken ∧
        ref.anchor.fencingToken < fence.fencingToken ∧
        (ref.serve call).after.anchor.fencingToken = fence.fencingToken := by
  rcases h : ref.serve call with ⟨before, asked, result, after⟩
  have hlegal := ref.serve_legal call
  rw [h] at hlegal
  cases hlegal with
  | raised _ error => exact .inl ⟨by cases asked <;> rfl, rfl⟩
  | read nonce readAt lifetime readback => exact .inl ⟨rfl, rfl⟩
  | granted holder nonce expected issuedAt lifetime grant htoken => exact .inl ⟨rfl, rfl⟩
  | advanced expected projection fence advancedAt anchor hsequence hlink htoken hcurrent hunused
      hplant => exact .inr ⟨fence, rfl, hcurrent, hunused, htoken⟩

theorem serve_plant (ref : InMemoryMonotonicAnchorReference) (call : AnchorCall) :
    ref.anchor.PlantMonotone (ref.serve call).after.anchor := by
  rcases h : ref.serve call with ⟨before, asked, result, after⟩
  have hlegal := ref.serve_legal call
  rw [h] at hlegal
  cases hlegal with
  | raised _ error => exact .rfl _
  | read nonce readAt lifetime readback => exact .rfl _
  | granted holder nonce expected issuedAt lifetime grant htoken => exact .rfl _
  | advanced expected projection fence advancedAt anchor hsequence hlink htoken hcurrent hunused
      hplant => exact hplant

theorem grants_cons_none {call : AnchorCall} {rest : List AnchorCall}
    (h : (ref.serve call).issued = none) :
    ref.grants (call :: rest) = (ref.serve call).after.grants rest :=
  List.filterMap_cons_none h

theorem grants_cons_some {call : AnchorCall} {rest : List AnchorCall}
    {grant : CoordinationFenceGrant} (h : (ref.serve call).issued = some grant) :
    ref.grants (call :: rest) = grant :: (ref.serve call).after.grants rest :=
  List.filterMap_cons_some h

theorem advances_cons_none {call : AnchorCall} {rest : List AnchorCall}
    (h : (ref.serve call).used = none) :
    ref.advances (call :: rest) = (ref.serve call).after.advances rest :=
  List.filterMap_cons_none h

theorem advances_cons_some {call : AnchorCall} {rest : List AnchorCall}
    {fence : CoordinationFenceGrant} (h : (ref.serve call).used = some fence) :
    ref.advances (call :: rest) = fence :: (ref.serve call).after.advances rest :=
  List.filterMap_cons_some h

/-- Issued tokens lie above the token the run started with and increase. -/
theorem grants_increase (ref : InMemoryMonotonicAnchorReference) (calls : List AnchorCall) :
    (∀ grant ∈ ref.grants calls, ref.fencingToken < grant.fencingToken) ∧
      (ref.grants calls).Pairwise (fun a b => a.fencingToken < b.fencingToken) := by
  induction calls generalizing ref with
  | nil => exact ⟨fun grant h => absurd h List.not_mem_nil, List.Pairwise.nil⟩
  | cons call rest ih =>
    obtain ⟨habove, hincrease⟩ := ih (ref.serve call).after
    rcases ref.serve_token call with ⟨hnone, hsame⟩ | ⟨grant, hsome, htoken, hafter⟩
    · rw [grants_cons_none hnone]
      rw [hsame] at habove
      exact ⟨habove, hincrease⟩
    · rw [grants_cons_some hsome]
      rw [hafter] at habove
      refine ⟨?_, List.pairwise_cons.mpr ⟨habove, hincrease⟩⟩
      intro later hlater
      rcases List.mem_cons.mp hlater with rfl | hlater
      · omega
      · have := habove later hlater
        omega

/-- Used tokens lie above the token of the checkpoint the run started with and increase. -/
theorem advances_increase (ref : InMemoryMonotonicAnchorReference) (calls : List AnchorCall) :
    (∀ fence ∈ ref.advances calls, ref.anchor.fencingToken < fence.fencingToken) ∧
      (ref.advances calls).Pairwise (fun a b => a.fencingToken < b.fencingToken) := by
  induction calls generalizing ref with
  | nil => exact ⟨fun fence h => absurd h List.not_mem_nil, List.Pairwise.nil⟩
  | cons call rest ih =>
    obtain ⟨habove, hincrease⟩ := ih (ref.serve call).after
    rcases ref.serve_used call with ⟨hnone, hsame⟩ | ⟨fence, hsome, -, hunused, hafter⟩
    · rw [advances_cons_none hnone]
      rw [hsame] at habove
      exact ⟨habove, hincrease⟩
    · rw [advances_cons_some hsome]
      rw [hafter] at habove
      refine ⟨?_, List.pairwise_cons.mpr ⟨habove, hincrease⟩⟩
      intro later hlater
      rcases List.mem_cons.mp hlater with rfl | hlater
      · exact hunused
      · exact lt_trans hunused (habove later hlater)

/-- The token of the authority is the one of the newest grant. -/
theorem fencingToken_afterAll (ref : InMemoryMonotonicAnchorReference)
    (calls : List AnchorCall) :
    (ref.afterAll calls).fencingToken =
      ((ref.grants calls).getLast?.map (fun grant => grant.fencingToken)).getD
        ref.fencingToken := by
  induction calls generalizing ref with
  | nil => rfl
  | cons call rest ih =>
    rw [afterAll, ih]
    rcases ref.serve_token call with ⟨hnone, hsame⟩ | ⟨grant, hsome, -, hafter⟩
    · rw [grants_cons_none hnone, hsame]
    · rw [grants_cons_some hsome, hafter, List.getLast?_cons]
      cases ((ref.serve call).after.grants rest).getLast? with
      | none => rfl
      | some newest => rfl

theorem plant_monotone_events (ref : InMemoryMonotonicAnchorReference)
    (calls : List AnchorCall) :
    (ref.anchor :: (ref.events calls).map (fun event => event.after.anchor)).Pairwise
      SignedCoordinationAnchor.PlantMonotone := by
  induction calls generalizing ref with
  | nil => exact List.pairwise_singleton _ _
  | cons call rest ih =>
    have hrest := ih (ref.serve call).after
    refine List.pairwise_cons.mpr ⟨?_, hrest⟩
    intro anchor hanchor
    rcases List.mem_cons.mp hanchor with rfl | hlater
    · exact ref.serve_plant call
    · exact (ref.serve_plant call).trans ((List.pairwise_cons.mp hrest).1 anchor hlater)

/-- A new authority has issued no token. -/
theorem create_fencingToken {streamId : String} {genesis : LocalCoordinationProjection}
    {key : PrivateKey} {initializedAt : DateTime}
    (hcreate : create streamId genesis key initializedAt = .ok ref) : ref.fencingToken = 0 := by
  unfold create at hcreate
  obtain ⟨anchor, -, heq⟩ := bind_eq_ok.mp hcreate
  rw [pure_eq_ok, Except.ok.injEq] at heq
  rw [← heq]

/-- The authority is monotonic from its creation on, whatever its writers call. -/
theorem authority_monotonic {streamId : String} {genesis : LocalCoordinationProjection}
    {key : PrivateKey} {initializedAt : DateTime}
    (hcreate : create streamId genesis key initializedAt = .ok ref) (calls : List AnchorCall) :
    Monotonic ref calls where
  chained := by
    rintro ⟨before, asked, result, after⟩ hevent anchor hresult
    have hlegal : AnchorEvent.Legal before ⟨before, asked, result, after⟩ :=
      legal_of_mem_events hevent
    cases hlegal with
    | raised _ error => cases hresult
    | read nonce readAt lifetime readback => cases hresult
    | granted holder nonce expected issuedAt lifetime grant htoken => cases hresult
    | advanced expected projection fence advancedAt advanced hsequence hlink htoken hcurrent
        hunused hplant =>
      cases hresult
      exact ⟨rfl, hsequence, hlink⟩
  issued := (ref.grants_increase calls).2
  once := (ref.advances_increase calls).2
  newest := by
    intro earlier call later fence _ hused
    have htoken := ref.fencingToken_afterAll earlier
    rw [create_fencingToken hcreate] at htoken
    rcases (ref.afterAll earlier).serve_used call with
      ⟨hnone, -⟩ | ⟨used, hsome, hcurrent, hunused, -⟩
    · rw [hnone] at hused
      cases hused
    · rw [hsome, Option.some.injEq] at hused
      subst hused
      -- A used token is positive, so it is not the token the authority starts with.
      cases hlast : (ref.grants earlier).getLast? with
      | none =>
        rw [hlast] at htoken
        have hzero : (ref.afterAll earlier).fencingToken = 0 := htoken
        omega
      | some grant =>
        rw [hlast] at htoken
        have hnewest : (ref.afterAll earlier).fencingToken = grant.fencingToken := htoken
        exact ⟨grant, rfl, by omega⟩
  plant := ref.plant_monotone_events calls
  raised := by
    rintro ⟨before, asked, result, after⟩ hevent error hresult
    have hlegal : AnchorEvent.Legal before ⟨before, asked, result, after⟩ :=
      legal_of_mem_events hevent
    cases hlegal with
    | raised _ raisedError => exact ⟨rfl, rfl⟩
    | read nonce readAt lifetime readback => cases hresult
    | granted holder nonce expected issuedAt lifetime grant htoken => cases hresult
    | advanced expected projection fence advancedAt advanced hsequence hlink htoken hcurrent
        hunused hplant => cases hresult

end InMemoryMonotonicAnchorReference

end

namespace Sample

/-- Digests that count checkpoints, and signatures that accept their own text. -/
scoped instance anchorPrimitives : AnchorPrimitives where
  canonicalDigest
    | .anchor anchor => ⟨anchor.anchorSequence % 2 ^ 256, Nat.mod_lt _ (by decide)⟩
    | .readback _ => 0
    | .grant _ => 0
    | .projection p =>
        ⟨(1000 * p.writerFencingToken + p.plantStateVersion) % 2 ^ 256, Nat.mod_lt _ (by decide)⟩
  workloadKeyId key := "ed25519:" ++ key
  publicKeyOf key := key
  signBytes _ _ := "signature"
  verifyBytes _ _ signature := decide (signature = "signature")

/-- An aligned local state at a plant version, written under a fence. -/
def projection (version token : Nat) (sequence : Option Nat) (digest : Option Sha256) :
    LocalCoordinationProjection :=
  { gatewayJournalSha256 := 1
    otJournalSha256 := 2
    plantModelSha256 := 3
    plantStateVersion := version
    plantStateSha256 := 4
    recoveryStatus := .aligned
    recoveryReason := if version = 0 then .alignedEmptyBaseline else .alignedAppliedChain
    recordCount := version
    appliedEffectCount := version
    pendingEffectCount := 0
    latestAppliedStateVersion := if version = 0 then none else some version
    latestAppliedStateSha256 := if version = 0 then none else some 4
    writerFencingToken := token
    basedOnAnchorSequence := sequence
    basedOnAnchorSha256 := digest }

/-- An authority that has just signed the empty baseline. -/
def authority : InMemoryMonotonicAnchorReference :=
  { privateKey := "authority"
    anchor :=
      { streamId := "plant"
        anchorSequence := 0
        fencingToken := 0
        previousAnchorSha256 := none
        projection := projection 0 0 none none
        authorityKeyId := "ed25519:authority"
        issuedAt := 0
        signature := "signature" }
    fencingToken := 0 }

/-- The grant the authority signs for the given token. -/
def grant (token : Nat) : CoordinationFenceGrant :=
  { streamId := "plant"
    holderId := "writer"
    requestNonce := "nonce-0123456789"
    basedOnAnchorSequence := 0
    basedOnAnchorSha256 := 0
    fencingToken := token
    authorityKeyId := "ed25519:authority"
    issuedAt := 0
    expiresAt := second
    signature := "signature" }

/-- Two writers take a grant each; the first one finds its grant superseded, the second one
    advances the checkpoint and cannot do so twice. -/
def contendingCalls : List AnchorCall :=
  let acquire := .acquireFence "writer" "nonce-0123456789" 0 (.aware 0) second
  let advance := fun token => .compareAndAdvance 0 (projection 1 token (some 0) (some 0))
    (grant token) (.aware 1)
  [acquire, acquire, advance 1, advance 2, advance 2]

end Sample

open Sample in
set_option maxRecDepth 10000 in
/-- Of the contending calls exactly one advances the checkpoint, with the second grant. -/
theorem authority_monotonic_contended :
    authority.Monotonic contendingCalls ∧
      authority.grants contendingCalls = [grant 1, grant 2] ∧
      authority.advances contendingCalls = [grant 2] :=
  ⟨InMemoryMonotonicAnchorReference.authority_monotonic
      (show InMemoryMonotonicAnchorReference.create "plant" (projection 0 0 none none) "authority"
        (.aware 0) = .ok authority by decide +kernel) contendingCalls,
    by decide +kernel, by decide +kernel⟩

end AegisOt
