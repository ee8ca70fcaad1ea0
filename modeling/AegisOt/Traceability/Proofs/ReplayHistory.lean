import AegisOt.Traceability.ReplayState

/-!
# The history in the replay state

What the validator accepts (`Valid`), that a written state is read back as it was
(`parse_material`), and that consuming an attestation extends one history by an item that every
earlier one precedes (`consume_eq_ok`).
-/

namespace AegisOt

open WorkloadTrustSequenceState (readStr)

/-! ## Histories -/

/-- A validated history increases strictly, and the highest sequence is the last one. -/
theorem AuthorityEntry.monotonicHistory_iff {entry : AuthorityEntry} :
    entry.MonotonicHistory ↔ entry.consumed.Pairwise ConsumedEntry.Precedes ∧
      (∀ last ∈ entry.consumed.getLast?, entry.highestSequence = last.sequence) ∧
      (entry.consumed = [] → entry.highestSequence = 0) := by
  unfold MonotonicHistory
  simp only [List.Nodup, List.pairwise_map, List.getLast?_map, Option.mem_map,
    forall_exists_index, and_imp, forall_apply_eq_imp_iff₂, List.map_eq_nil_iff]
  constructor
  · rintro ⟨hids, hdigests, hnonces, hsorted, hdistinct, hlast, hempty⟩
    refine ⟨?_, hlast, hempty⟩
    have hall := hids.and (hdigests.and (hnonces.and (hsorted.and hdistinct)))
    refine hall.imp ?_
    rintro a b ⟨hid, hdigest, hnonce, hle, hne⟩
    exact ⟨hid, hdigest, hnonce, lt_of_le_of_ne hle hne⟩
  · rintro ⟨hprecedes, hlast, hempty⟩
    exact ⟨hprecedes.imp (fun h => h.attestationId), hprecedes.imp (fun h => h.contentSha256),
      hprecedes.imp (fun h => h.challengeNonce), hprecedes.imp (fun h => h.sequence.le),
      hprecedes.imp (fun h => h.sequence.ne), hlast, hempty⟩

/-- What the validator demands of the entry under a key. -/
structure AuthorityEntry.WellFormed (keyId : String) (entry : AuthorityEntry) : Prop where
  keyId : entry.keyId = keyId
  highestSequence : 0 ≤ entry.highestSequence
  length : entry.consumed.length ≤ maxConsumed
  consumed : ∀ item ∈ entry.consumed, item.WellFormed
  history : entry.MonotonicHistory

/-- What the validator demands of a state. -/
structure ReplayState.Valid (state : ReplayState) : Prop where
  size : state.authorities.size ≤ maxAuthorities
  entries : ∀ e ∈ state.authorities.entries, e.2.WellFormed e.1

/-- All sequences of the state can be converted. -/
def ReplayState.Narrow (state : ReplayState) : Prop :=
  ∀ e ∈ state.authorities.entries, ∀ item ∈ e.2.consumed, IsNarrow item.sequence

/-- The history of one authority key. -/
def ReplayState.history (state : ReplayState) (keyId : String) : List ConsumedEntry :=
  ((state.authorities.find? keyId).map AuthorityEntry.consumed).getD []

/-- Every sequence of a history is at most the highest one. -/
theorem AuthorityEntry.WellFormed.le_highest {keyId : String} {entry : AuthorityEntry}
    (h : entry.WellFormed keyId) {item : ConsumedEntry} (hitem : item ∈ entry.consumed) :
    item.sequence ≤ entry.highestSequence := by
  obtain ⟨hprecedes, hlast, -⟩ := monotonicHistory_iff.mp h.history
  rcases List.eq_nil_or_concat entry.consumed with hempty | ⟨front, last, hconcat⟩
  · rw [hempty] at hitem
    cases hitem
  · rw [List.concat_eq_append] at hconcat
    rw [hconcat] at hprecedes hitem
    rw [hlast last (by rw [hconcat, List.getLast?_append]; rfl)]
    rcases List.mem_append.mp hitem with hfront | hsame
    · exact ((List.pairwise_append.mp hprecedes).2.2 item hfront last
        List.mem_cons_self).sequence.le
    · rw [List.mem_singleton.mp hsame]

theorem ReplayState.Valid.history {state : ReplayState} (h : state.Valid) (keyId : String) :
    (state.history keyId).Pairwise ConsumedEntry.Precedes := by
  unfold ReplayState.history
  cases hfound : state.authorities.find? keyId with
  | none => exact List.Pairwise.nil
  | some entry =>
    have hentry := h.entries _ (SortedMap.find?_eq_some.mp hfound)
    exact (AuthorityEntry.monotonicHistory_iff.mp hentry.history).1

theorem ReplayState.valid_initial : ReplayState.initial.Valid :=
  ⟨Nat.zero_le _, by nofun⟩

theorem ReplayState.narrow_initial : ReplayState.initial.Narrow := by nofun

/-! ## Reading a valid state back -/

/-- An integer member of a value that was loaded. -/
theorem narrow_of_lookup {members : List (String × Json)} {key : String} {n : ℤ}
    (h : (Json.obj members).convertible = true)
    (hn : (lookupEntry key members).bind Json.toInt? = some n) : IsNarrow n := by
  obtain ⟨value, hfound, hvalue⟩ := Option.bind_eq_some_iff.mp hn
  have hnumber := Json.convertibleMembers_iff.mp h _ (mem_of_lookupEntry hfound)
  cases value with
  | num token => exact of_decide_eq_true hnumber _ hvalue
  | null | bool | str | arr | obj => cases hvalue

theorem convertible_of_load {material : ByteArray} {label : String}
    {members : List (String × Json)} (h : loadStrictJsonBytes material label = .ok members) :
    (Json.obj members).convertible = true := by
  simp only [loadStrictJsonBytes, bind_eq_ok, refuseIf_eq_ok, orRaise_eq_ok, exists_const,
    Bool.not_eq_false] at h
  obtain ⟨-, value, -, hconvertible, hmembers⟩ := h
  obtain rfl := Json.members?_eq_some.mp hmembers
  exact hconvertible

theorem ConsumedEntry.ofJson_eq_ok {item : Json} {entry : ConsumedEntry}
    (h : ConsumedEntry.ofJson item = .ok entry) :
    entry.WellFormed ∧ (item.convertible = true → IsNarrow entry.sequence) := by
  simp only [ofJson, bind_eq_ok, refuseIf_eq_ok, orRaise_eq_ok, not_not, pure_eq_ok,
    Except.ok.injEq, exists_const] at h
  obtain ⟨members, hmembers, -, _, -, _, -, _, -, sequence, hsequence, hwellFormed, rfl⟩ := h
  obtain rfl := Json.members?_eq_some.mp hmembers
  exact ⟨hwellFormed, fun hconvertible => narrow_of_lookup hconvertible hsequence⟩

theorem ConsumedEntry.ofJson_toJson {entry : ConsumedEntry} (h : entry.WellFormed) :
    ConsumedEntry.ofJson entry.toJson = .ok entry := by
  simp [ofJson, toJson, Json.members?, readStr, lookupEntry, orRaise, refuseIf, h]

theorem AuthorityEntry.ofJson_eq_ok {keyId : String} {value : Json} {entry : AuthorityEntry}
    (h : AuthorityEntry.ofJson keyId value = .ok entry) :
    entry.WellFormed keyId ∧
      (value.convertible = true → ∀ item ∈ entry.consumed, IsNarrow item.sequence) := by
  simp only [ofJson, bind_eq_ok, refuseIf_eq_ok, orRaise_eq_ok, not_not, pure_eq_ok, not_lt,
    Except.ok.injEq, exists_const, mapM_eq_ok] at h
  obtain ⟨members, hmembers, -, -, _, -, highest, -, hhighest, items, hitems, hlength, consumed,
    hconsumed, hhistory, rfl⟩ := h
  obtain rfl := Json.members?_eq_some.mp hmembers
  refine ⟨⟨rfl, hhighest, hconsumed.length_eq ▸ hlength, ?_, hhistory⟩, ?_⟩
  · intro item hitem
    obtain ⟨value, -, hvalue⟩ := exists_mem_of_forall₂ hconsumed hitem
    exact (ConsumedEntry.ofJson_eq_ok hvalue).1
  · intro hconvertible item hitem
    obtain ⟨value, hmem, hvalue⟩ := exists_mem_of_forall₂ hconsumed hitem
    obtain ⟨log, hfound, hlog⟩ := Option.bind_eq_some_iff.mp hitems
    obtain rfl := Json.items?_eq_some.mp hlog
    have hnumbers := Json.convertibleMembers_iff.mp hconvertible _ (mem_of_lookupEntry hfound)
    exact (ConsumedEntry.ofJson_eq_ok hvalue).2 (Json.convertibleItems_iff.mp hnumbers _ hmem)

theorem AuthorityEntry.ofJson_toJson {keyId : String} {entry : AuthorityEntry}
    (h : entry.WellFormed keyId) : AuthorityEntry.ofJson keyId entry.toJson = .ok entry := by
  obtain ⟨rfl, hhighest, hlength, hconsumed, hhistory⟩ := h
  have hitems : (entry.consumed.map ConsumedEntry.toJson).mapM ConsumedEntry.ofJson =
      .ok entry.consumed := by
    rw [mapM_eq_ok, List.forall₂_map_left_iff, List.forall₂_same]
    exact fun item hitem => ConsumedEntry.ofJson_toJson (hconsumed item hitem)
  simp [ofJson, toJson, Json.members?, Json.items?, readStr, lookupEntry, orRaise, refuseIf,
    hhighest, hlength, hitems, hhistory]

theorem wellFormed_entry (entry : AuthorityEntry) : entry.toJson.wellFormed = true := by
  have hconsumed : (Json.arr (entry.consumed.map ConsumedEntry.toJson)).wellFormed = true := by
    rw [Json.wellFormed, Json.wellFormedItems_iff, List.forall_mem_map]
    intro item _
    refine Json.wellFormed_obj
      ["attestation_id", "challenge_nonce", "content_sha256", "sequence"] rfl
      (by decide +kernel) ?_
    simp [Json.wellFormed, Json.wellFormed_ofInt]
  refine Json.wellFormed_obj ["authority_id", "consumed", "highest_sequence", "key_id"] rfl
    (by decide +kernel) ?_
  simp only [List.forall_mem_cons]
  exact ⟨rfl, hconsumed, Json.wellFormed_ofInt _, rfl, by nofun⟩

/-- The highest sequence can be converted if the others can. -/
theorem AuthorityEntry.WellFormed.narrow_highest {keyId : String} {entry : AuthorityEntry}
    (h : entry.WellFormed keyId) (hnarrow : ∀ item ∈ entry.consumed, IsNarrow item.sequence) :
    IsNarrow entry.highestSequence := by
  obtain ⟨-, hlast, hempty⟩ := monotonicHistory_iff.mp h.history
  cases hconsumed : entry.consumed.getLast? with
  | none =>
    rw [hempty (List.getLast?_eq_none_iff.mp hconsumed)]
    exact Nat.pow_pos (by decide)
  | some last =>
    rw [hlast last hconsumed]
    exact hnarrow last (List.mem_of_getLast? hconsumed)

section

variable [TraceabilityPrimitives]

namespace ReplayState

variable {state : ReplayState}

theorem valid_of_ofMembers {value : List (String × Json)} (h : ofMembers value = .ok state) :
    state.Valid ∧ ((Json.obj value).convertible = true → state.Narrow) := by
  simp only [ofMembers, bind_eq_ok, refuseIf_eq_ok, orRaise_eq_ok, pure_eq_ok, not_lt,
    Except.ok.injEq, exists_const, mapM_eq_ok] at h
  obtain ⟨-, -, authorities, hauthorities, hlength, entries, hentries, _, -, -, rfl⟩ := h
  obtain ⟨catalog, hfound, hcatalog⟩ := Option.bind_eq_some_iff.mp hauthorities
  obtain rfl := Json.members?_eq_some.mp hcatalog
  have hread (e : String × AuthorityEntry) (he : e ∈ (SortedMap.ofEntries entries).entries) :
      ∃ member ∈ authorities, member.1 = e.1 ∧ AuthorityEntry.ofJson e.1 member.2 = .ok e.2 := by
    have hlookup := SortedMap.find?_eq_some.mpr he
    rw [SortedMap.find?_ofEntries] at hlookup
    obtain ⟨member, hmember, hread⟩ :=
      exists_mem_of_forall₂ hentries (mem_of_lookupEntry hlookup)
    obtain ⟨entry, hentry, heq⟩ := bind_eq_ok.mp hread
    obtain ⟨hkey, rfl⟩ := Prod.mk.inj (Except.ok.inj heq)
    exact ⟨member, hmember, hkey, hkey ▸ hentry⟩
  refine ⟨⟨?_, ?_⟩, ?_⟩
  · have hsize (list : List (String × AuthorityEntry)) :
        (SortedMap.ofEntries list).size ≤ list.length := by
      induction list with
      | nil => exact Nat.zero_le _
      | cons entry rest ih =>
        exact (SortedMap.size_insert_le _ _ _).trans (Nat.succ_le_succ ih)
    exact (hsize entries).trans (hentries.length_eq ▸ hlength)
  · intro e he
    obtain ⟨member, -, -, hentry⟩ := hread e he
    exact (AuthorityEntry.ofJson_eq_ok hentry).1
  · intro hconvertible e he
    obtain ⟨member, hmember, -, hentry⟩ := hread e he
    have hcatalog := Json.convertibleMembers_iff.mp hconvertible _ (mem_of_lookupEntry hfound)
    exact (AuthorityEntry.ofJson_eq_ok hentry).2
      (Json.convertibleMembers_iff.mp hcatalog _ hmember)

theorem ofMembers_members (h : state.Valid) : ofMembers state.members = .ok state := by
  have hentries : (state.authorities.entries.map (fun e => (e.1, e.2.toJson))).mapM
      readAuthority = .ok state.authorities.entries := by
    rw [mapM_eq_ok, List.forall₂_map_left_iff, List.forall₂_same]
    intro e he
    rw [readAuthority, AuthorityEntry.ofJson_toJson (h.entries e he)]
    rfl
  have hsize : ¬ maxAuthorities < state.authorities.entries.length := not_lt.mpr h.size
  have hsame : SortedMap.ofEntries state.authorities.entries = state.authorities :=
    SortedMap.ext (SortedMap.entries_ofEntries state.authorities.sorted)
  have hfound : lookupEntry "authorities" state.members = some
      (.obj (state.authorities.entries.map (fun e => (e.1, e.2.toJson)))) := by
    simp [members, lookupEntry]
  simp only [ofMembers, hfound, Option.bind_some, Json.members?, orRaise, ok_bind, hentries, hsame,
    List.length_map, refuseIf_neg hsize]
  simp [members, lookupEntry, Json.members?, readStr, refuseIf]

/-- The size of a state that was staged. -/
theorem stage_eq_ok {bytes : ByteArray} (h : state.stage = .ok bytes) :
    bytes = state.material ∧ state.authorities.size ≤ maxAuthorities ∧
      state.material.size ≤ maxJsonBytes := by
  simp only [stage, bind_eq_ok, refuseIf_eq_ok, not_lt, pure_eq_ok, Except.ok.injEq,
    exists_const] at h
  obtain ⟨_, hmembers, hsize, rfl⟩ := h
  refine ⟨rfl, ?_, hsize⟩
  simp only [ofMembers, bind_eq_ok, refuseIf_eq_ok, orRaise_eq_ok, not_lt, exists_const] at hmembers
  obtain ⟨-, -, authorities, hauthorities, hlength, -⟩ := hmembers
  simp only [members, lookupEntry, if_true, Option.bind_some, Json.members?,
    Option.some.injEq] at hauthorities
  rw [← hauthorities, List.length_map] at hlength
  exact hlength

theorem wellFormed_members (state : ReplayState) :
    (Json.obj state.members).wellFormed = true := by
  have hauthorities : (Json.obj (state.authorities.entries.map
      (fun e => (e.1, e.2.toJson)))).wellFormed = true := by
    refine Json.wellFormed_obj (state.authorities.entries.map Prod.fst) List.map_map
      state.authorities.keys_pairwise ?_
    rw [List.forall_mem_map]
    exact fun e _ => wellFormed_entry e.2
  refine Json.wellFormed_obj ["authorities", "integrity", "schema"] rfl (by decide +kernel) ?_
  simp only [members, List.forall_mem_cons]
  exact ⟨hauthorities, Json.wellFormed_obj ["canonical_payload_sha256"] rfl (by decide +kernel)
    (by simp [Json.wellFormed]), rfl, by nofun⟩

theorem convertible_members (h : state.Valid) (hnarrow : state.Narrow) :
    (Json.obj state.members).convertible = true := by
  have hint {n : ℤ} (hn : IsNarrow n) : (Json.ofInt n).convertible = true := by
    refine decide_eq_true ?_
    intro m hm
    obtain rfl := Option.some.inj ((Json.toInt?_ofInt n).symm.trans hm)
    exact hn
  have hentry (e : String × AuthorityEntry) (he : e ∈ state.authorities.entries) :
      e.2.toJson.convertible = true := by
    have hhighest := (h.entries e he).narrow_highest (hnarrow e he)
    have hconsumed : Json.convertibleItems (e.2.consumed.map ConsumedEntry.toJson) = true := by
      rw [Json.convertibleItems_iff, List.forall_mem_map]
      intro item hitem
      simp [ConsumedEntry.toJson, Json.convertible, Json.convertibleMembers,
        hint (hnarrow e he item hitem)]
    simp [AuthorityEntry.toJson, Json.convertible, Json.convertibleMembers, hint hhighest,
      hconsumed]
  have hauthorities : Json.convertibleMembers (state.authorities.entries.map
      (fun e => (e.1, e.2.toJson))) = true := by
    rw [Json.convertibleMembers_iff, List.forall_mem_map]
    exact hentry
  simp [members, Json.convertible, Json.convertibleMembers, hauthorities]

/-- A state that was read is valid. -/
theorem valid_of_parse {bytes : ByteArray} (h : parse bytes = .ok state) :
    state.Valid ∧ state.Narrow := by
  obtain ⟨members, hmembers, hstate⟩ := bind_eq_ok.mp h
  obtain ⟨hvalid, hnarrow⟩ := valid_of_ofMembers hstate
  exact ⟨hvalid, hnarrow (convertible_of_load hmembers)⟩

/-- A state that was written is read back. -/
theorem parse_material (h : state.Valid) (hnarrow : state.Narrow)
    (hsize : state.material.size ≤ maxJsonBytes) : parse state.material = .ok state := by
  have hpos : state.material.size ≠ 0 := (Json.size_indentedFileBytes_pos _).ne'
  have hloaded : Json.loadsBytes state.material = .ok (.obj state.members) :=
    Json.loadsBytes_indentedFileBytes state.wellFormed_members
  have hrefused : ¬ (state.material.size = 0 ∨ maxJsonBytes < state.material.size) := by omega
  simp only [parse, loadStrictJsonBytes, refuseIf_neg hrefused, hloaded, Except.mapError,
    convertible_members h hnarrow, ok_bind, Json.members?, orRaise, ofMembers_members h,
    Bool.true_eq_false, refuseIf_neg not_false]

/-! ## Consuming an attestation -/

/-- One history is longer by an item that every earlier one precedes. -/
structure Extends (state state' : ReplayState) (keyId : String) (item : ConsumedEntry) : Prop where
  history : state'.history keyId = state.history keyId ++ [item]
  others : ∀ other, other ≠ keyId → state'.history other = state.history other
  precedes : ∀ earlier ∈ state.history keyId, earlier.Precedes item

omit [TraceabilityPrimitives] in
theorem Narrow.history (h : state.Narrow) {keyId : String} {item : ConsumedEntry}
    (hitem : item ∈ state.history keyId) : IsNarrow item.sequence := by
  unfold ReplayState.history at hitem
  cases hfound : state.authorities.find? keyId with
  | none =>
    rw [hfound] at hitem
    cases hitem
  | some entry =>
    rw [hfound] at hitem
    exact h _ (SortedMap.find?_eq_some.mp hfound) item hitem

omit [TraceabilityPrimitives] in
/-- The entry of a key, or a new one. -/
theorem wellFormed_getD (h : state.Valid) (keyId authorityId : String) :
    ((state.authorities.find? keyId).getD ⟨authorityId, keyId, 0, []⟩).WellFormed keyId ∧
      state.history keyId =
        ((state.authorities.find? keyId).getD ⟨authorityId, keyId, 0, []⟩).consumed := by
  unfold ReplayState.history
  cases hfound : state.authorities.find? keyId with
  | none =>
    refine ⟨⟨rfl, le_refl _, Nat.zero_le _, by nofun, ?_⟩, rfl⟩
    exact AuthorityEntry.monotonicHistory_iff.mpr ⟨List.Pairwise.nil, by nofun, fun _ => rfl⟩
  | some entry => exact ⟨h.entries _ (SortedMap.find?_eq_some.mp hfound), rfl⟩

omit [TraceabilityPrimitives] in
/-- An entry with one more item. -/
theorem wellFormed_append {keyId : String} {entry : AuthorityEntry} {item : ConsumedEntry}
    (h : entry.WellFormed keyId) (hitem : item.WellFormed)
    (hprecedes : ∀ earlier ∈ entry.consumed, earlier.Precedes item)
    (hlength : entry.consumed.length < maxConsumed) :
    AuthorityEntry.WellFormed keyId
      { entry with
        highestSequence := item.sequence
        consumed := entry.consumed ++ [item] } := by
  refine ⟨h.keyId, hitem.2.le, ?_, ?_, ?_⟩
  · rw [List.length_append]
    exact hlength
  · intro other hother
    rcases List.mem_append.mp hother with hold | hnew
    · exact h.consumed other hold
    · rw [List.mem_singleton.mp hnew]
      exact hitem
  · refine AuthorityEntry.monotonicHistory_iff.mpr ⟨?_, ?_, ?_⟩
    · refine List.pairwise_append.mpr ⟨(AuthorityEntry.monotonicHistory_iff.mp h.history).1,
        List.pairwise_singleton _ _, ?_⟩
      intro earlier hearlier other hother
      rw [List.mem_singleton.mp hother]
      exact hprecedes earlier hearlier
    · intro last hlast
      rw [List.getLast?_append] at hlast
      obtain rfl : item = last := Option.some.inj hlast
      rfl
    · intro hempty
      simp at hempty

theorem consume_eq_ok {state' : ReplayState} {authority : TrustedAttestationAuthority}
    {verified : VerifiedAttestation} (h : state.consume authority verified = .ok state')
    (hvalid : state.Valid) (hverified : verified.consumed.WellFormed) :
    (∀ e ∈ state'.authorities.entries, e.2.WellFormed e.1) ∧
      state.Extends state' authority.keyId verified.consumed ∧
      (state.Narrow → IsNarrow verified.sequence → state'.Narrow) := by
  obtain ⟨hentry, hhistory⟩ := wellFormed_getD hvalid authority.keyId authority.authorityId
  simp only [consume, bind_eq_ok, refuseIf_eq_ok, exists_const, not_exists, not_and, not_le,
    pure_eq_ok, Except.ok.injEq] at h
  generalize (state.authorities.find? authority.keyId).getD _ = entry at hentry hhistory h
  obtain ⟨-, hid, hdigest, hnonce, hsequence, hlength, rfl⟩ := h
  have hprecedes (earlier : ConsumedEntry) (hearlier : earlier ∈ entry.consumed) :
      earlier.Precedes verified.consumed :=
    ⟨hid earlier hearlier, hdigest earlier hearlier, hnonce earlier hearlier,
      (hentry.le_highest hearlier).trans_lt hsequence⟩
  refine ⟨?_, ⟨?_, ?_, ?_⟩, ?_⟩
  · rintro ⟨keyId, other⟩ hmem
    have hfound := SortedMap.find?_eq_some.mpr hmem
    by_cases hkey : authority.keyId = keyId
    · subst hkey
      rw [SortedMap.find?_insert_self] at hfound
      obtain rfl := Option.some.inj hfound
      exact wellFormed_append hentry hverified hprecedes hlength
    · rw [SortedMap.find?_insert_of_ne _ _ hkey] at hfound
      exact hvalid.entries _ (SortedMap.find?_eq_some.mp hfound)
  · rw [hhistory, ReplayState.history, SortedMap.find?_insert_self]
    rfl
  · intro other hother
    rw [ReplayState.history, SortedMap.find?_insert_of_ne _ _ (Ne.symm hother)]
    rfl
  · rw [hhistory]
    exact hprecedes
  · rintro hnarrow hnew ⟨keyId, other⟩ hmem item hitem
    have hfound := SortedMap.find?_eq_some.mpr hmem
    by_cases hkey : authority.keyId = keyId
    · subst hkey
      rw [SortedMap.find?_insert_self] at hfound
      obtain rfl := Option.some.inj hfound
      rcases List.mem_append.mp hitem with hold | hsame
      · exact hnarrow.history (hhistory ▸ hold)
      · rw [List.mem_singleton.mp hsame]
        exact hnew
    · rw [SortedMap.find?_insert_of_ne _ _ hkey] at hfound
      exact hnarrow _ (SortedMap.find?_eq_some.mp hfound) item hitem

end ReplayState

/-- What an attestation that was verified brings with it. -/
theorem consumed_of_verify {material : ByteArray} {authority : TrustedAttestationAuthority}
    {context : AttestationContext} {now : DateTime} {verified : VerifiedAttestation}
    (h : verifyExternalAttestationStateless material authority context now = .ok verified) :
    verified.consumed.WellFormed ∧ IsNarrow verified.sequence ∧
      verified.keyId = authority.keyId := by
  simp only [verifyExternalAttestationStateless, bind_eq_ok, refuseIf_eq_ok, orRaise_eq_ok,
    exists_const, pure_eq_ok, Except.ok.injEq, not_le] at h
  obtain ⟨members, hmembers, _, -, -, -, _, -, sequence, hsequence, hpositive, _, -, -, _, -, _, -,
    _, -, _, -, _, -, _, -, -, -, rfl⟩ := h
  exact ⟨⟨isHexDigest_hexdigest _, hpositive⟩,
    narrow_of_lookup (convertible_of_load hmembers) hsequence, rfl⟩

end

end AegisOt
