import AegisOt.Coordination.Proofs.Steps

/-!
# The action replay index

`_action_indexes` derives the two replay namespaces, request digests and pairs of actor and
proposal nonce, from the prepare attempts of all records. Every map that was ever stored passed
it, so in a reachable journal each key belongs to one effect, and `find_action` answers from
that.
-/

namespace AegisOt

section

variable [Primitives]

/-- The retained prepare requests carry exactly this digest, actor and nonce. -/
structure CoordinationJournalRecord.CarriesAction (r : CoordinationJournalRecord)
    (material : ActionMaterial) : Prop where
  prepared : ∃ a, .prepare a ∈ r.attempts
  exactly : ∀ a, .prepare a ∈ r.attempts →
    a.request.dispatch.request.digest = material.requestSha256 ∧
      a.request.dispatch.request.proposal.actorId = material.actorId ∧
      a.request.dispatch.request.proposal.nonce = material.proposalNonce

namespace CoordinationJournalRecord

variable {r : CoordinationJournalRecord} {m m' : ActionMaterial}

theorem CarriesAction.unique (h : r.CarriesAction m) (h' : r.CarriesAction m') : m = m' := by
  obtain ⟨a, ha⟩ := h.prepared
  obtain ⟨hsha, hactor, hnonce⟩ := h.exactly a ha
  obtain ⟨hsha', hactor', hnonce'⟩ := h'.exactly a ha
  cases m
  cases m'
  simp_all

/-! ## Material of a record -/

omit [Primitives] in
theorem eq_of_checkIdentity {label value checked : String}
    (h : checkIdentity label value = .ok checked) : checked = value := by
  simp only [checkIdentity, bind_unit_eq_ok, pure_eq_ok, Except.ok.injEq] at h
  exact h.2.symm

/-- What the loop of `_action_material` has seen when it ends. -/
theorem scanActionMaterial_spec {start result : Option ActionMaterial}
    {attempts : List CoordinationAttempt}
    (h : scanActionMaterial start attempts = .ok result) :
    (∀ m ∈ start, result = some m) ∧
      (∀ m ∈ result, start = some m ∨ ∃ a, .prepare a ∈ attempts) ∧
      ∀ a, .prepare a ∈ attempts → result = some ⟨a.request.dispatch.request.digest,
        a.request.dispatch.request.proposal.actorId,
        a.request.dispatch.request.proposal.nonce⟩ := by
  induction attempts generalizing start with
  | nil =>
    obtain rfl := Except.ok.inj h
    exact ⟨fun m hm => hm, fun m hm => .inl hm, by simp⟩
  | cons attempt rest ih =>
    cases attempt with
    | prepare a =>
      simp only [scanActionMaterial, bind_eq_ok, refuseIf_eq_ok] at h
      obtain ⟨actor, hactor, nonce, hnonce, ⟨⟩, hsame, h⟩ := h
      obtain rfl := eq_of_checkIdentity hactor
      obtain rfl := eq_of_checkIdentity hnonce
      obtain ⟨hfirst, -, hrest⟩ := ih h
      have hresult := hfirst _ rfl
      refine ⟨?_, ?_, ?_⟩
      · intro m hm
        by_contra hne
        refine hsame ⟨m, hm, ?_⟩
        rintro rfl
        exact hne hresult
      · intro m _
        exact .inr ⟨a, List.mem_cons_self⟩
      · intro b hb
        rcases List.mem_cons.mp hb with hsame | hb
        · cases hsame
          exact hresult
        · exact hrest b hb
    | commit a =>
      obtain ⟨hfirst, hfrom, hrest⟩ := ih h
      refine ⟨hfirst, ?_, fun b hb => hrest b (by simpa using hb)⟩
      intro m hm
      refine (hfrom m hm).imp_right ?_
      rintro ⟨b, hb⟩
      exact ⟨b, List.mem_cons_of_mem _ hb⟩
    | query a =>
      obtain ⟨hfirst, hfrom, hrest⟩ := ih h
      refine ⟨hfirst, ?_, fun b hb => hrest b (by simpa using hb)⟩
      intro m hm
      refine (hfrom m hm).imp_right ?_
      rintro ⟨b, hb⟩
      exact ⟨b, List.mem_cons_of_mem _ hb⟩

theorem carriesAction_of_actionMaterial (h : actionMaterial r = .ok m) : r.CarriesAction m := by
  simp only [actionMaterial, bind_eq_ok, orRaise_eq_ok, pure_eq_ok, Except.ok.injEq] at h
  obtain ⟨found, hscan, material, rfl, ⟨⟩, -, rfl⟩ := h
  obtain ⟨-, hfrom, hexact⟩ := scanActionMaterial_spec hscan
  refine ⟨?_, ?_⟩
  · rcases hfrom material rfl with hnone | hprepared
    · cases hnone
    · exact hprepared
  · intro a ha
    obtain rfl := Option.some.inj (hexact a ha)
    exact ⟨rfl, rfl, rfl⟩

end CoordinationJournalRecord

/-! ## The two indexes -/

/-- A key of an index names one effect. -/
def NamesOneEffect {κ : Type} (entries : List (κ × CoordinationJournalRecord)) : Prop :=
  ∀ k r r', (k, r) ∈ entries → (k, r') ∈ entries → r.effect = r'.effect

omit [Primitives] in
theorem NamesOneEffect.cons {κ : Type} [DecidableEq κ]
    {entries : List (κ × CoordinationJournalRecord)} (h : NamesOneEffect entries) {k : κ}
    {r : CoordinationJournalRecord}
    (hretained : ∀ retained, lookupEntry k entries = some retained → retained.effect = r.effect) :
    NamesOneEffect ((k, r) :: entries) := by
  have hkey : ∀ r', (k, r') ∈ entries → r'.effect = r.effect := by
    intro r' hr'
    cases hlookup : lookupEntry k entries with
    | none => exact absurd hr' (lookupEntry_eq_none_iff.mp hlookup r')
    | some retained =>
      exact (h k r' retained hr' (mem_of_lookupEntry hlookup)).trans (hretained retained hlookup)
  intro k' a b ha hb
  rcases List.mem_cons.mp ha with hanew | haold
  · obtain ⟨rfl, rfl⟩ := Prod.mk.inj hanew
    rcases List.mem_cons.mp hb with hbnew | hbold
    · rw [(Prod.mk.inj hbnew).2]
    · exact (hkey b hbold).symm
  · rcases List.mem_cons.mp hb with hbnew | hbold
    · obtain ⟨rfl, rfl⟩ := Prod.mk.inj hbnew
      exact hkey a haold
    · exact h k' a b haold hbold

/-- What the loop of `_action_indexes` has built when it ends. -/
structure IndexesRecords (before : ActionIndexes) (records : List CoordinationJournalRecord)
    (after : ActionIndexes) : Prop where
  material : ∀ r ∈ records, ∃ m, actionMaterial r = .ok m
  byRequest : ∀ k r, (k, r) ∈ after.byRequest ↔
    (k, r) ∈ before.byRequest ∨ r ∈ records ∧ ∃ m, actionMaterial r = .ok m ∧ m.requestSha256 = k
  byActorNonce : ∀ k r, (k, r) ∈ after.byActorNonce ↔
    (k, r) ∈ before.byActorNonce ∨
      r ∈ records ∧ ∃ m, actionMaterial r = .ok m ∧ (m.actorId, m.proposalNonce) = k
  requestsOnce : NamesOneEffect before.byRequest → NamesOneEffect after.byRequest
  actorsOnce : NamesOneEffect before.byActorNonce → NamesOneEffect after.byActorNonce

theorem indexesRecords_of_scan {before after : ActionIndexes}
    {records : List CoordinationJournalRecord}
    (h : scanActionIndexes before records = .ok after) : IndexesRecords before records after := by
  induction records generalizing before with
  | nil =>
    obtain rfl := Except.ok.inj h
    exact ⟨by simp, by simp, by simp, fun h => h, fun h => h⟩
  | cons r rest ih =>
    simp only [scanActionIndexes, bind_eq_ok, refuseIf_eq_ok] at h
    obtain ⟨m, hmaterial, ⟨⟩, hrequest, ⟨⟩, hactor, h⟩ := h
    have hrest := ih h
    refine ⟨?_, ?_, ?_, ?_, ?_⟩
    · intro r' hr'
      rcases List.mem_cons.mp hr' with rfl | hr'
      · exact ⟨m, hmaterial⟩
      · exact hrest.material r' hr'
    · intro k r'
      rw [hrest.byRequest, List.mem_cons, List.mem_cons, Prod.mk.injEq]
      constructor
      · rintro ((⟨rfl, rfl⟩ | hold) | ⟨hmem, hmaterial'⟩)
        · exact .inr ⟨.inl rfl, m, hmaterial, rfl⟩
        · exact .inl hold
        · exact .inr ⟨.inr hmem, hmaterial'⟩
      · rintro (hold | ⟨rfl | hmem, m', hmaterial', rfl⟩)
        · exact .inl (.inr hold)
        · rw [hmaterial] at hmaterial'
          obtain rfl := Except.ok.inj hmaterial'
          exact .inl (.inl ⟨rfl, rfl⟩)
        · exact .inr ⟨hmem, m', hmaterial', rfl⟩
    · intro k r'
      rw [hrest.byActorNonce, List.mem_cons, List.mem_cons, Prod.mk.injEq]
      constructor
      · rintro ((⟨rfl, rfl⟩ | hold) | ⟨hmem, hmaterial'⟩)
        · exact .inr ⟨.inl rfl, m, hmaterial, rfl⟩
        · exact .inl hold
        · exact .inr ⟨.inr hmem, hmaterial'⟩
      · rintro (hold | ⟨rfl | hmem, m', hmaterial', rfl⟩)
        · exact .inl (.inr hold)
        · rw [hmaterial] at hmaterial'
          obtain rfl := Except.ok.inj hmaterial'
          exact .inl (.inl ⟨rfl, rfl⟩)
        · exact .inr ⟨hmem, m', hmaterial', rfl⟩
    · intro hbefore
      refine hrest.requestsOnce (hbefore.cons ?_)
      intro retained hretained
      by_contra hne
      exact hrequest ⟨retained, hretained, hne⟩
    · intro hbefore
      refine hrest.actorsOnce (hbefore.cons ?_)
      intro retained hretained
      by_contra hne
      exact hactor ⟨retained, hretained, .inl hne⟩

/-! ## The index of a journal -/

variable {role : JournalRole}

/-- The effect of a record determines it. -/
theorem Keyed.eq_of_effect {records : RecordMap role} (h : Keyed records)
    {r r' : CoordinationJournalRecord} (hr : r ∈ records.list) (hr' : r' ∈ records.list)
    (heffect : r.effect = r'.effect) : r = r' := by
  obtain ⟨k, e, hk, rfl⟩ := RecordMap.mem_list.mp hr
  obtain ⟨k', e', hk', rfl⟩ := RecordMap.mem_list.mp hr'
  have hkey : k = k' := by
    rw [← h k e hk, ← h k' e' hk', heffect]
  rw [hkey, hk'] at hk
  rw [Option.some.inj hk]

/-- Each action belongs to one record of the map, under both of its keys. -/
structure RecordMap.ActionsOnce (records : RecordMap role) : Prop where
  carried : ∀ r ∈ records.list, ∃ m, r.CarriesAction m
  request : ∀ r ∈ records.list, ∀ r' ∈ records.list, ∀ m m', r.CarriesAction m →
    r'.CarriesAction m' → m.requestSha256 = m'.requestSha256 → r = r'
  actor : ∀ r ∈ records.list, ∀ r' ∈ records.list, ∀ m m', r.CarriesAction m →
    r'.CarriesAction m' → m.actorId = m'.actorId → m.proposalNonce = m'.proposalNonce → r = r'

/-- The indexes of a map hold each record under its own material, and nothing else. -/
structure RecordMap.Indexed (records : RecordMap role) (indexes : ActionIndexes) : Prop where
  request : ∀ sha r, lookupEntry sha indexes.byRequest = some r ↔
    r ∈ records.list ∧ ∃ m, r.CarriesAction m ∧ m.requestSha256 = sha
  actor : ∀ actor nonce r, lookupEntry (actor, nonce) indexes.byActorNonce = some r ↔
    r ∈ records.list ∧ ∃ m, r.CarriesAction m ∧ m.actorId = actor ∧ m.proposalNonce = nonce

open CoordinationJournalRecord in
theorem RecordMap.actionsOnce_of_indexes {records : RecordMap role} (hkeyed : Keyed records)
    {indexes : ActionIndexes} (h : actionIndexes records = .ok indexes) :
    records.ActionsOnce ∧ records.Indexed indexes := by
  have hindexes := indexesRecords_of_scan h
  have hmaterial : ∀ r ∈ records.list, ∀ m, r.CarriesAction m → actionMaterial r = .ok m := by
    intro r hr m hm
    obtain ⟨m', hm'⟩ := hindexes.material r hr
    rw [hm', hm.unique (carriesAction_of_actionMaterial hm')]
  have hrequest : ∀ k r, (k, r) ∈ indexes.byRequest ↔
      r ∈ records.list ∧ ∃ m, r.CarriesAction m ∧ m.requestSha256 = k := by
    intro k r
    rw [hindexes.byRequest]
    constructor
    · rintro (hnil | ⟨hr, m, hm, hk⟩)
      · cases hnil
      · exact ⟨hr, m, carriesAction_of_actionMaterial hm, hk⟩
    · rintro ⟨hr, m, hm, hk⟩
      exact .inr ⟨hr, m, hmaterial r hr m hm, hk⟩
  have hactor : ∀ k r, (k, r) ∈ indexes.byActorNonce ↔
      r ∈ records.list ∧ ∃ m, r.CarriesAction m ∧ (m.actorId, m.proposalNonce) = k := by
    intro k r
    rw [hindexes.byActorNonce]
    constructor
    · rintro (hnil | ⟨hr, m, hm, hk⟩)
      · cases hnil
      · exact ⟨hr, m, carriesAction_of_actionMaterial hm, hk⟩
    · rintro ⟨hr, m, hm, hk⟩
      exact .inr ⟨hr, m, hmaterial r hr m hm, hk⟩
  have hrequestsOnce := hindexes.requestsOnce (fun _ _ _ hnil => by cases hnil)
  have hactorsOnce := hindexes.actorsOnce (fun _ _ _ hnil => by cases hnil)
  refine ⟨⟨?_, ?_, ?_⟩, ⟨?_, ?_⟩⟩
  · intro r hr
    obtain ⟨m, hm⟩ := hindexes.material r hr
    exact ⟨m, carriesAction_of_actionMaterial hm⟩
  · intro r hr r' hr' m m' hm hm' hsame
    exact hkeyed.eq_of_effect hr hr' (hrequestsOnce _ r r' ((hrequest _ _).mpr ⟨hr, m, hm, rfl⟩)
      ((hrequest _ _).mpr ⟨hr', m', hm', hsame.symm⟩))
  · intro r hr r' hr' m m' hm hm' hsame hsame'
    exact hkeyed.eq_of_effect hr hr' (hactorsOnce _ r r' ((hactor _ _).mpr ⟨hr, m, hm, rfl⟩)
      ((hactor _ _).mpr ⟨hr', m', hm', by rw [hsame, hsame']⟩))
  · intro sha r
    constructor
    · intro hlookup
      exact (hrequest sha r).mp (mem_of_lookupEntry hlookup)
    · intro hr
      refine lookupEntry_of_unique ((hrequest sha r).mpr hr) ?_
      intro r' hr'
      exact hkeyed.eq_of_effect ((hrequest sha r').mp hr').1 hr.1
        (hrequestsOnce sha r' r hr' ((hrequest sha r).mpr hr))
  · intro actor nonce r
    constructor
    · intro hlookup
      obtain ⟨hr, m, hm, hk⟩ := (hactor _ r).mp (mem_of_lookupEntry hlookup)
      exact ⟨hr, m, hm, (Prod.mk.inj hk).1, (Prod.mk.inj hk).2⟩
    · rintro ⟨hr, m, hm, rfl, rfl⟩
      have hmem := (hactor (m.actorId, m.proposalNonce) r).mpr ⟨hr, m, hm, rfl⟩
      refine lookupEntry_of_unique hmem ?_
      intro r' hr'
      exact hkeyed.eq_of_effect ((hactor _ r').mp hr').1 hr (hactorsOnce _ r' r hr' hmem)

/-- What `find_action` may answer for a digest, an actor and a nonce. -/
inductive RecordMap.ActionAnswer (records : RecordMap role) (m : ActionMaterial) :
    Except PyError (Option CoordinationJournalRecord) → Prop where
  /-- The one record whose prepare requests carry exactly this triple. -/
  | found (r : CoordinationJournalRecord) (hmem : r ∈ records.list) (hcarries : r.CarriesAction m)
      (hunique : ∀ r' ∈ records.list, r'.CarriesAction m → r' = r) :
      ActionAnswer records m (.ok (some r))
  /-- Neither key occurs. -/
  | absent (hfresh : ∀ r ∈ records.list, ∀ m', r.CarriesAction m' →
        m'.requestSha256 ≠ m.requestSha256 ∧
          ¬ (m'.actorId = m.actorId ∧ m'.proposalNonce = m.proposalNonce)) :
      ActionAnswer records m (.ok none)
  /-- Some key occurs, but no record carries the triple. -/
  | collision (message : String) (hnone : ∀ r ∈ records.list, ¬ r.CarriesAction m)
      (hused : ∃ r ∈ records.list, ∃ m', r.CarriesAction m' ∧
        (m'.requestSha256 = m.requestSha256 ∨
          m'.actorId = m.actorId ∧ m'.proposalNonce = m.proposalNonce)) :
      ActionAnswer records m (.error (.collision message))

theorem RecordMap.Indexed.answer {records : RecordMap role} {indexes : ActionIndexes}
    (honce : records.ActionsOnce) (h : records.Indexed indexes) (m : ActionMaterial)
    (message : String) :
    records.ActionAnswer m (do
      let requestRecord := lookupEntry m.requestSha256 indexes.byRequest
      refuseIf (requestRecord ≠
          lookupEntry (m.actorId, m.proposalNonce) indexes.byActorNonce)
        (PyError.collision message)
      pure requestRecord) := by
  by_cases hsame : lookupEntry m.requestSha256 indexes.byRequest =
      lookupEntry (m.actorId, m.proposalNonce) indexes.byActorNonce
  · simp only [refuseIf_neg (not_not.mpr hsame), ok_bind, pure_eq_ok]
    cases hrequest : lookupEntry m.requestSha256 indexes.byRequest with
    | some r =>
      rw [hrequest] at hsame
      obtain ⟨hr, m', hm', hsha⟩ := (h.request _ _).mp hrequest
      obtain ⟨-, m'', hm'', hactor, hnonce⟩ := (h.actor _ _ _).mp hsame.symm
      obtain rfl := hm'.unique hm''
      obtain rfl : m' = m := by
        cases m
        cases m'
        simp_all
      refine .found r hr hm' ?_
      intro r' hr' hcarries
      exact honce.request r' hr' r hr m' m' hcarries hm' rfl
    | none =>
      rw [hrequest] at hsame
      refine .absent ?_
      intro r hr m' hm'
      refine ⟨?_, ?_⟩
      · intro hsha
        rw [(h.request _ r).mpr ⟨hr, m', hm', hsha⟩] at hrequest
        cases hrequest
      · rintro ⟨hactor, hnonce⟩
        rw [(h.actor _ _ r).mpr ⟨hr, m', hm', hactor, hnonce⟩] at hsame
        cases hsame
  · simp only [refuseIf_pos hsame, error_bind]
    refine .collision message ?_ ?_
    · intro r hr hcarries
      refine hsame ?_
      rw [(h.request _ r).mpr ⟨hr, m, hcarries, rfl⟩,
        (h.actor _ _ r).mpr ⟨hr, m, hcarries, rfl, rfl⟩]
    · cases hrequest : lookupEntry m.requestSha256 indexes.byRequest with
      | some r =>
        obtain ⟨hr, m', hm', hsha⟩ := (h.request _ _).mp hrequest
        exact ⟨r, hr, m', hm', .inl hsha⟩
      | none =>
        cases hactor : lookupEntry (m.actorId, m.proposalNonce) indexes.byActorNonce with
        | some r =>
          obtain ⟨hr, m', hm', hkeys⟩ := (h.actor _ _ _).mp hactor
          exact ⟨r, hr, m', hm', .inr hkeys⟩
        | none =>
          rw [hrequest, hactor] at hsame
          exact absurd rfl hsame

variable [RecordCodec]

/-- `find_action` refused an argument, or the writer is gone. -/
def Journal.RefusesLookup (j : Journal role) (m : ActionMaterial) (error : PyError) : Prop :=
  checkIdentity "action actor ID" m.actorId = .error error ∨
    checkIdentity "action proposal nonce" m.proposalNonce = .error error ∨
    j.assertWriter = .error error

/-- In every reachable journal an action belongs to one effect under each of its two keys, and
    `find_action` answers from that. -/
theorem Journal.Reachable.action_index {j : Journal role} (h : j.Reachable) :
    RecordMap.ActionsOnce j.records ∧ ∀ m : ActionMaterial,
      (∃ error, j.RefusesLookup m error ∧
        j.findAction m.requestSha256 m.actorId m.proposalNonce = .error error) ∨
      RecordMap.ActionAnswer j.records m
        (j.findAction m.requestSha256 m.actorId m.proposalNonce) := by
  obtain ⟨indexes, hindexes⟩ := h.consistent.recordsWritable.indexed
  obtain ⟨honce, hindexed⟩ := RecordMap.actionsOnce_of_indexes h.consistent.recordsKeyed hindexes
  refine ⟨honce, fun m => ?_⟩
  rw [Journal.findAction]
  cases hactor : checkIdentity "action actor ID" m.actorId with
  | error error => exact .inl ⟨error, .inl hactor, rfl⟩
  | ok actorId =>
    obtain rfl := CoordinationJournalRecord.eq_of_checkIdentity hactor
    cases hnonce : checkIdentity "action proposal nonce" m.proposalNonce with
    | error error => exact .inl ⟨error, .inr (.inl hnonce), rfl⟩
    | ok proposalNonce =>
      obtain rfl := CoordinationJournalRecord.eq_of_checkIdentity hnonce
      cases hwriter : j.assertWriter with
      | error error => exact .inl ⟨error, .inr (.inr hwriter), rfl⟩
      | ok u =>
        simp only [hindexes, ok_bind]
        exact .inr (hindexed.answer honce m _)

end

section

open Sample

set_option maxRecDepth 10000 in
/-- The received sample action is found under its own material. -/
theorem action_index_received :
    ∃ r, (gatewayJournal.runOps receiving).findAction (actionRequest "action-1").digest "agent-1"
        "proposal-nonce-1" = .ok (some r) ∧
      r.CarriesAction ⟨(actionRequest "action-1").digest, "agent-1", "proposal-nonce-1"⟩ := by
  have hfound : ((gatewayJournal.runOps receiving).findAction (actionRequest "action-1").digest
      "agent-1" "proposal-nonce-1").toOption.join.isSome = true := by decide +kernel
  rcases (reachable_runOps receiving).action_index.2
    ⟨(actionRequest "action-1").digest, "agent-1", "proposal-nonce-1"⟩ with ⟨error, -, herror⟩ | h
  · rw [herror] at hfound
    cases hfound
  · generalize hanswer : (gatewayJournal.runOps receiving).findAction
      (actionRequest "action-1").digest "agent-1" "proposal-nonce-1" = answer at h hfound
    cases h with
    | found r hmem hcarries hunique => exact ⟨r, rfl, hcarries⟩
    | absent hfresh => cases hfound
    | collision message hnone hused => cases hfound

end

end AegisOt
