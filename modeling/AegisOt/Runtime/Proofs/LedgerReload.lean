import AegisOt.Misc.JsonRoundTrip
import AegisOt.Runtime.ReplayLedger

/-!
# Loading what the ledger wrote

`_persist` writes the sets under no condition; `_load` accepts a text of at most
`MAX_LEDGER_BYTES` with nonempty identifiers. So a `reserve` that is accepted can leave a file that
no ledger loads again, and one whose write fails leaves sets in memory that the file does not
have. Both happen exactly where a call does not fit (`ReserveCall.Fits`).
-/

namespace AegisOt

/-- A text has at least one byte for each character. -/
theorem Json.length_le_size_canonicalBytes (value : Json) :
    (Json.write value).length ≤ (Json.canonicalBytes value).size := by
  have hsize : ∀ cs : List Char, cs.length ≤ (String.ofList cs).utf8ByteSize := by
    intro cs
    induction cs with
    | nil => simp
    | cons c rest ih =>
      have hc := c.utf8Size_pos
      rw [List.length_cons, String.ofList_cons, String.utf8ByteSize_append,
        String.utf8ByteSize_singleton]
      omega
  exact hsize (Json.write value)

theorem Json.length_le_writeItems {item : Json} {items : List Json} (h : item ∈ items) :
    (Json.write item).length ≤ (Json.writeItems items).length := by
  induction items with
  | nil => cases h
  | cons first rest ih =>
    rw [Json.writeItems, List.length_cons, List.length_append]
    rcases List.mem_cons.mp h with rfl | hrest
    · omega
    · have hlater := ih hrest
      omega

theorem Json.length_le_writeString (text : String) :
    text.length ≤ (Json.writeString text).length := by
  have hbody := Json.length_le_flatMap_escapeChar text.toList
  rw [String.length_toList] at hbody
  rw [Json.writeString, List.length_append, List.length_cons]
  omega

/-! ## The text of the sets -/

namespace ReservationSets

/-- The loader's condition on the identifiers. -/
def Nonempty (sets : ReservationSets) : Prop :=
  ∀ values ∈ [sets.requestDigests, sets.permitIds, sets.permitNonces, sets.commandIds],
    "" ∉ values.keys

theorem nonemptyStrings_map_str (texts : List String) :
    nonemptyStrings (texts.map .str) = if "" ∈ texts then none else some texts := by
  induction texts with
  | nil => rfl
  | cons text rest ih =>
    rw [List.map_cons, nonemptyStrings]
    by_cases hempty : text = ""
    · rw [if_pos hempty, if_pos (by simp [hempty])]
    · have hfirst : ("" ∈ text :: rest) ↔ "" ∈ rest := by simp [Ne.symm hempty]
      rw [if_neg hempty, ih]
      by_cases hrest : "" ∈ rest
      · rw [if_pos hrest, if_pos (hfirst.mpr hrest), Option.map_none]
      · rw [if_neg hrest, if_neg (fun h => hrest (hfirst.mp h)), Option.map_some]

theorem nonempty_of_nonemptyStrings {items : List Json} {texts : List String}
    (h : nonemptyStrings items = some texts) : "" ∉ texts := by
  induction items generalizing texts with
  | nil =>
    obtain rfl := Option.some.inj h
    simp
  | cons item rest ih =>
    cases item with
    | str text =>
      rw [nonemptyStrings] at h
      split at h
      · cases h
      · rename_i hnonempty
        obtain ⟨later, hlater, rfl⟩ := Option.map_eq_some_iff.mp h
        simp [Ne.symm hnonempty, ih hlater]
    | null => cases h
    | bool value => cases h
    | num token => cases h
    | arr items => cases h
    | obj members => cases h

/-- Reading one set back. -/
theorem readSet_identifiers {members : List (String × Json)} {key : String}
    {values : IdentifierSet} (hfound : lookupEntry key members = some (identifiers values)) :
    readSet members key = if "" ∈ values.keys then .error invalidSet else .ok values := by
  unfold readSet
  rw [hfound, identifiers]
  dsimp only
  rw [nonemptyStrings_map_str]
  by_cases hempty : "" ∈ values.keys
  · rw [if_pos hempty, if_pos hempty]
    rfl
  · rw [if_neg hempty, if_neg hempty]
    simp [orRaise, SortedMap.ofKeys_keys]

theorem wellFormedItems_map_str (texts : List String) :
    Json.wellFormedItems (texts.map .str) = true := by
  induction texts with
  | nil => rfl
  | cons text rest ih =>
    rw [List.map_cons, Json.wellFormedItems, ih]
    rfl

theorem wellFormed_document (sets : ReservationSets) : sets.document.wellFormed = true := by
  have hkeys : KeysSorted sets.members := by
    simp only [KeysSorted, members, List.pairwise_cons, List.mem_cons, List.not_mem_nil, or_false,
      forall_eq_or_imp, forall_eq, IsEmpty.forall_iff, implies_true, List.Pairwise.nil, and_true]
    decide +kernel
  have hset (values : IdentifierSet) : (identifiers values).wellFormed = true := by
    rw [identifiers, Json.wellFormed]
    exact wellFormedItems_map_str values.keys
  rw [document, Json.wellFormed, Bool.and_eq_true, decide_eq_true_eq]
  refine ⟨hkeys, ?_⟩
  simp [members, Json.wellFormedMembers, hset]

/-- Each field of a written document is read as the set it was written from. -/
theorem readSet_members (sets : ReservationSets) (key : String) (values : IdentifierSet)
    (hfound : lookupEntry key sets.members = some (identifiers values)) (found : IdentifierSet) :
    readSet sets.members key = .ok found ↔ "" ∉ values.keys ∧ found = values := by
  rw [readSet_identifiers hfound]
  by_cases hempty : "" ∈ values.keys
  · simp [hempty]
  · simp [hempty, eq_comm]

/-- When the written text is loaded again, and as what. -/
theorem load_material {sets loaded : ReservationSets} :
    load (some sets.material) = .ok loaded ↔
      sets.material.size ≤ maxLedgerBytes ∧ sets.Nonempty ∧ loaded = sets := by
  have hparsed : Json.loadsBytes sets.material = .ok (.obj sets.members) :=
    Json.loadsBytes_canonicalBytes sets.wellFormed_document
  have hrequest := sets.readSet_members "request_digests" sets.requestDigests
    (by simp [members, lookupEntry])
  have hpermit := sets.readSet_members "permit_ids" sets.permitIds
    (by simp [members, lookupEntry])
  have hnonce := sets.readSet_members "permit_nonces" sets.permitNonces
    (by simp [members, lookupEntry])
  have hcommand := sets.readSet_members "command_ids" sets.commandIds
    (by simp [members, lookupEntry])
  rw [load, bind_unit_eq_ok, refuseIf_eq_ok, not_lt, hparsed]
  refine and_congr_right ?_
  intro _
  simp only [Except.mapError, ok_bind]
  rw [bind_unit_eq_ok, refuseIf_eq_ok]
  simp only [bind_eq_ok, pure_eq_ok, Except.ok.injEq, hrequest, hpermit, hnonce, hcommand]
  rw [not_not]
  constructor
  · rintro ⟨-, _, ⟨hrequests, rfl⟩, _, ⟨hpermits, rfl⟩, _, ⟨hnonces, rfl⟩, _, ⟨hcommands, rfl⟩,
      rfl⟩
    exact ⟨by simp [Nonempty, hrequests, hpermits, hnonces, hcommands], rfl⟩
  · rintro ⟨hnonempty, rfl⟩
    simp only [Nonempty, List.forall_mem_cons, List.not_mem_nil, IsEmpty.forall_iff,
      implies_true, and_true] at hnonempty
    exact ⟨rfl, _, ⟨hnonempty.1, rfl⟩, _, ⟨hnonempty.2.1, rfl⟩, _, ⟨hnonempty.2.2.1, rfl⟩, _,
      ⟨hnonempty.2.2.2, rfl⟩, rfl⟩

theorem Nonempty.of_load {file : Option ByteArray} {sets : ReservationSets}
    (h : load file = .ok sets) : sets.Nonempty := by
  have hset {members : List (String × Json)} {key : String} {found : IdentifierSet}
      (hread : readSet members key = .ok found) : "" ∉ found.keys := by
    unfold readSet at hread
    split at hread
    · obtain ⟨values, hvalues, hrest⟩ := bind_eq_ok.mp hread
      rw [bind_unit_eq_ok, refuseIf_eq_ok, not_not, pure_eq_ok, Except.ok.injEq] at hrest
      obtain ⟨hsame, rfl⟩ := hrest
      rw [← hsame]
      exact nonempty_of_nonemptyStrings (orRaise_eq_ok.mp hvalues)
    · cases hread
  cases file with
  | none => cases h
  | some material =>
    rw [load, bind_unit_eq_ok] at h
    obtain ⟨parsed, -, h⟩ := bind_eq_ok.mp h.2
    split at h
    · rw [bind_unit_eq_ok] at h
      obtain ⟨requests, hrequests, h⟩ := bind_eq_ok.mp h.2
      obtain ⟨permits, hpermits, h⟩ := bind_eq_ok.mp h
      obtain ⟨nonces, hnonces, h⟩ := bind_eq_ok.mp h
      obtain ⟨commands, hcommands, h⟩ := bind_eq_ok.mp h
      obtain rfl := Except.ok.inj h
      simp [Nonempty, hset hrequests, hset hpermits, hset hnonces, hset hcommands]
    · cases h

/-- Adding identifiers to sets the loader accepts. -/
theorem nonempty_add {sets : ReservationSets} (h : sets.Nonempty) (ids : ReservationIds) :
    (sets.add ids).Nonempty ↔ ids.requestDigest ≠ "" ∧ ids.permitId ≠ "" ∧
      ids.permitNonce ≠ "" ∧ ids.commandId ≠ "" := by
  have hinsert (values : IdentifierSet) (id : String) (hold : "" ∉ values.keys) :
      "" ∉ (values.insert id ()).keys ↔ id ≠ "" := by
    rw [SortedMap.mem_keys, SortedMap.find?_insert]
    rw [SortedMap.mem_keys] at hold
    by_cases hempty : id = ""
    · simp [hempty]
    · simpa [hempty] using hold
  simp only [Nonempty, List.forall_mem_cons, List.not_mem_nil, IsEmpty.forall_iff, implies_true,
    and_true] at h
  obtain ⟨hrequests, hpermits, hnonces, hcommands⟩ := h
  simp only [Nonempty, add, List.forall_mem_cons, List.not_mem_nil, IsEmpty.forall_iff,
    implies_true, and_true, hinsert _ _ hrequests, hinsert _ _ hpermits, hinsert _ _ hnonces,
    hinsert _ _ hcommands]

/-- Identifiers that are not replayed are new. -/
theorem add_ne {sets : ReservationSets} {ids : ReservationIds}
    (h : sets.replayReason ids = none) : sets.add ids ≠ sets := by
  intro hsame
  have hfound : (sets.requestDigests.find? ids.requestDigest).isSome := by
    rw [← hsame]
    simp [add]
  unfold replayReason at h
  rw [if_pos hfound] at h
  cases h

/-- The written text holds every identifier. -/
theorem length_le_material {sets : ReservationSets} {id : String}
    (h : id ∈ sets.permitIds.keys) : id.length ≤ sets.material.size := by
  have hset : id.length ≤ (Json.write (identifiers sets.permitIds)).length := by
    have hitems : .str id ∈ sets.permitIds.keys.map Json.str := List.mem_map_of_mem h
    rw [identifiers]
    cases hkeys : sets.permitIds.keys.map Json.str with
    | nil =>
      rw [hkeys] at hitems
      cases hitems
    | cons first rest =>
      rw [hkeys] at hitems
      rw [Json.write, List.length_cons, List.length_append]
      have hid := Json.length_le_writeString id
      rcases List.mem_cons.mp hitems with hfirst | hrest
      · rw [← hfirst, Json.write]
        omega
      · have hlater := Json.length_le_writeItems hrest
        rw [Json.write] at hlater
        omega
  refine le_trans hset (le_trans ?_ (Json.length_le_size_canonicalBytes _))
  simp only [document, members, Json.write, Json.writeMembers, List.length_cons,
    List.length_append]
  omega

end ReservationSets

/-! ## Calls -/

/-- One call of `reserve`, with what the file system does during it. -/
structure ReserveCall where
  ids : ReservationIds
  io : LedgerIo

namespace ReplayLedger

/-- What a call of `reserve` does. -/
theorem call_reserve (ids : ReservationIds) (io : LedgerIo) (ledger : ReplayLedger) :
    Method.call (reserve ids io) ledger =
      match load io ledger.file with
      | .error error => (.error error, ledger)
      | .ok state =>
          match state.replayReason ids with
          | some reason => (.error (.value reason), { ledger with state := state })
          | none =>
              match io.persist with
              | .written => (.ok (), ⟨some (state.add ids).material, state.add ids⟩)
              | .notReplaced error => (.error error, ⟨ledger.file, state.add ids⟩)
              | .replaced error =>
                  (.error error, ⟨some (state.add ids).material, state.add ids⟩) := by
  unfold reserve
  rw [Method.call_self_bind, Method.call_bind, Method.call_check]
  cases load io ledger.file with
  | error error => rfl
  | ok state =>
    simp only [Method.call_assign_bind]
    cases state.replayReason ids with
    | some reason => rfl
    | none =>
      simp only [Method.call_assign_bind, persist]
      cases io.persist <;> rfl

/-- What is claimed of one call: a file it wrote is loaded again by a fresh ledger, as the same
    sets, and nothing changed when it raised. -/
def Keeps (ledger : ReplayLedger) (call : ReserveCall) : Prop :=
  ((Method.call (reserve call.ids call.io) ledger).1 = .ok () →
    create false (Method.call (reserve call.ids call.io) ledger).2.file ⟨none, .written⟩ =
      .ok (Method.call (reserve call.ids call.io) ledger).2) ∧
  ∀ error, (Method.call (reserve call.ids call.io) ledger).1 = .error error →
    (Method.call (reserve call.ids call.io) ledger).2 = ledger

/-- A call that gets to write has nonempty identifiers, leaves room in the file, and its writes
    do not fail. -/
def Fits (ledger : ReplayLedger) (call : ReserveCall) : Prop :=
  ∀ state, load call.io ledger.file = .ok state → state.replayReason call.ids = none →
    (call.ids.requestDigest ≠ "" ∧ call.ids.permitId ≠ "" ∧ call.ids.permitNonce ≠ "" ∧
      call.ids.commandId ≠ "") ∧
    (state.add call.ids).material.size ≤ maxLedgerBytes ∧ call.io.persist = .written

/-- The file holds the sets in memory. -/
def Loaded (ledger : ReplayLedger) : Prop := ReservationSets.load ledger.file = .ok ledger.state

variable {ledger : ReplayLedger}

theorem create_reopen {file : Option ByteArray} :
    create false file ⟨none, .written⟩ = .ok ledger ↔ file = ledger.file ∧ ledger.Loaded := by
  unfold create Loaded
  simp only [Bool.false_eq_true, if_false, load, bind_eq_ok, pure_eq_ok, Except.ok.injEq]
  constructor
  · rintro ⟨state, hload, rfl⟩
    exact ⟨rfl, hload⟩
  · rintro ⟨rfl, hload⟩
    exact ⟨ledger.state, hload, rfl⟩

theorem Loaded.of_create {initializing : Bool} {file : Option ByteArray} {io : LedgerIo}
    (h : create initializing file io = .ok ledger) : ledger.Loaded := by
  have hload {file : Option ByteArray} {state : ReservationSets}
      (hstate : load io file = .ok state) : ReservationSets.load file = .ok state := by
    unfold load at hstate
    split at hstate
    · cases hstate
    · exact hstate
  unfold create at h
  cases initializing with
  | true =>
    simp only [if_true, bind_unit_eq_ok] at h
    obtain ⟨state, hstate, hledger⟩ := bind_eq_ok.mp h.2.2
    obtain rfl := Except.ok.inj hledger
    exact hload hstate
  | false =>
    simp only [Bool.false_eq_true, if_false] at h
    obtain ⟨state, hstate, hledger⟩ := bind_eq_ok.mp h
    obtain rfl := Except.ok.inj hledger
    exact hload hstate

/-- One call keeps what is claimed exactly when it fits. -/
theorem Loaded.keeps_iff (h : ledger.Loaded) (call : ReserveCall) :
    ledger.Keeps call ↔ ledger.Fits call := by
  unfold Keeps Fits
  rw [call_reserve]
  cases hload : load call.io ledger.file with
  | error error => simp
  | ok state =>
    have hstate : state = ledger.state := by
      unfold load at hload
      split at hload
      · cases hload
      · exact Except.ok.inj (hload.symm.trans h)
    subst hstate
    simp only [Except.ok.injEq, forall_eq']
    cases hreplay : ledger.state.replayReason call.ids with
    | some reason => simp
    | none =>
      have hnew := ReservationSets.add_ne hreplay
      have hchanged (file : Option ByteArray) :
          (⟨file, ledger.state.add call.ids⟩ : ReplayLedger) ≠ ledger := by
        intro hsame
        exact hnew (congrArg ReplayLedger.state hsame)
      simp only [forall_const]
      rw [← ReservationSets.nonempty_add (.of_load h) call.ids]
      cases hpersist : call.io.persist with
      | written =>
        simp only [create_reopen, Loaded, ReservationSets.load_material, true_and, and_true,
          reduceCtorEq, false_implies, implies_true, forall_const]
        exact and_comm
      | notReplaced error => simp [hchanged]
      | replaced error => simp [hchanged]

/-- Whether a call fits is a matter of the sets in memory. -/
theorem Loaded.fits (h : ledger.Loaded) {call : ReserveCall} (hio : call.io.load = none)
    (hroom : ledger.state.replayReason call.ids = none →
      (call.ids.requestDigest ≠ "" ∧ call.ids.permitId ≠ "" ∧ call.ids.permitNonce ≠ "" ∧
        call.ids.commandId ≠ "") ∧
      (ledger.state.add call.ids).material.size ≤ maxLedgerBytes ∧ call.io.persist = .written) :
    ledger.Fits call := by
  intro state hload hreplay
  rw [load, hio] at hload
  obtain rfl := Except.ok.inj (hload.symm.trans h)
  exact hroom hreplay

theorem Loaded.after (h : ledger.Loaded) {call : ReserveCall} (hkeeps : ledger.Keeps call) :
    (Method.call (reserve call.ids call.io) ledger).2.Loaded := by
  cases hended : (Method.call (reserve call.ids call.io) ledger).1 with
  | ok _ => exact (create_reopen.mp (hkeeps.1 hended)).2
  | error error =>
    rw [hkeeps.2 error hended]
    exact h

/-- A property of every call in a sequence of calls. -/
def Throughout (holds : ReplayLedger → ReserveCall → Prop) (ledger : ReplayLedger) :
    List ReserveCall → Prop
  | [] => True
  | call :: rest => holds ledger call ∧
      (Method.call (reserve call.ids call.io) ledger).2.Throughout holds rest

theorem Loaded.throughout_iff (h : ledger.Loaded) (calls : List ReserveCall) :
    ledger.Throughout Keeps calls ↔ ledger.Throughout Fits calls := by
  induction calls generalizing ledger with
  | nil => exact Iff.rfl
  | cons call rest ih =>
    rw [Throughout, Throughout, h.keeps_iff call]
    refine and_congr_right ?_
    intro hfits
    exact ih (h.after ((h.keeps_iff call).mpr hfits))

end ReplayLedger

namespace Sample

/-- What an initialized ledger is. -/
def emptyLedger : ReplayLedger := ⟨some ReservationSets.empty.material, .empty⟩

/-- An identifier longer than the ledger may be. -/
def longIdentifier : String := String.ofList (List.replicate (maxLedgerBytes + 1) 'a')

theorem length_longIdentifier : longIdentifier.length = maxLedgerBytes + 1 := by
  rw [longIdentifier, String.length_ofList, List.length_replicate]

/-- Four identifiers of one transaction. -/
def reservation (permitId : String) : ReservationIds :=
  ⟨"request-1", permitId, "permit-nonce-0001", "command-1"⟩

set_option maxRecDepth 10000 in
theorem create_emptyLedger :
    ReplayLedger.create true none ⟨none, .written⟩ = .ok emptyLedger := by decide +kernel

end Sample

end AegisOt
