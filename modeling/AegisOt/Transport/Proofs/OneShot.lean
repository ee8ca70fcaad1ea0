import AegisOt.Misc.JsonRoundTrip
import AegisOt.Transport.ReservationLedger

/-!
# One-shot reservations

The loader is strict: it accepts a file only if it is the canonical document of a storable relation
(`load_eq_ok`). From what one call can do (`ReserveOutcome`) it follows that over any run of opens,
reservations, crashes and power losses the stored relation is one-to-one and a reported reservation
is never lost. The dictionary in memory agrees with the file unless an update fails after
`os.replace`: then `reserve` puts the old dictionary back although the file has the new one.
-/

namespace AegisOt

namespace ReservationLedgerKind

variable (kind : ReservationLedgerKind)

/-! ## The loader -/

/-- What `_nonce` and `_digest` accept. -/
structure Admits (reservation : String × String) : Prop where
  nonce : kind.nonce reservation.1 = .ok ()
  digest : kind.digest reservation.2 = .ok ()

/-- What `_persist` may have written. -/
structure Storable (reservations : Reservations) : Prop where
  admitted : ∀ p ∈ reservations.entries, kind.Admits p
  digests : reservations.values.Nodup
  count : reservations.size ≤ maxReservations
  size : (kind.material reservations).size ≤ maxReservationLedgerBytes

variable {kind}

/-- The relation is one-to-one. -/
theorem Storable.oneToOne {reservations : Reservations} (h : kind.Storable reservations)
    {p q : String × String} (hp : p ∈ reservations.entries) (hq : q ∈ reservations.entries) :
    p.1 = q.1 ↔ p.2 = q.2 := by
  have hkeys : (reservations.entries.map Prod.fst).Nodup :=
    reservations.keys_pairwise.imp (fun hlt => hlt.ne)
  constructor
  · intro hnonce
    exact congrArg Prod.snd (List.inj_on_of_nodup_map hkeys hp hq hnonce)
  · intro hdigest
    exact congrArg Prod.fst (List.inj_on_of_nodup_map h.digests hp hq hdigest)

variable (kind)

theorem readText_eq_ok {check : String → Except String Unit} {error : String}
    {value : Option Json} {text : String} :
    readText check error value = .ok text ↔ value = some (.str text) ∧ check text = .ok () := by
  unfold readText
  split
  · rename_i found
    rw [bind_unit_eq_ok, pure_eq_ok, Except.ok.injEq, Option.some.injEq, Json.str.injEq]
    constructor
    · rintro ⟨hcheck, rfl⟩
      exact ⟨rfl, hcheck⟩
    · rintro ⟨rfl, hcheck⟩
      exact ⟨hcheck, rfl⟩
  · rename_i hother
    constructor
    · nofun
    · rintro ⟨rfl, -⟩
      exact absurd rfl (hother text)

/-- The two members of an entry. -/
theorem lookupEntry_members (nonce digest : Json) :
    lookupEntry "nonce" [("nonce", nonce), ("signed_request_sha256", digest)] = some nonce ∧
      lookupEntry "signed_request_sha256"
        [("nonce", nonce), ("signed_request_sha256", digest)] = some digest := by
  have hdistinct : "nonce" ≠ "signed_request_sha256" := by decide
  refine ⟨if_pos rfl, ?_⟩
  rw [lookupEntry, if_neg hdistinct]
  exact if_pos rfl

/-- An entry is read exactly if it was written. -/
theorem readEntry_eq_ok {item : Json} {p : String × String} :
    kind.readEntry item = .ok p ↔ item = entry p ∧ kind.Admits p := by
  constructor
  · intro h
    unfold readEntry at h
    split at h
    · rename_i members
      rw [bind_unit_eq_ok, refuseIf_eq_ok, not_not] at h
      obtain ⟨hkeys, h⟩ := h
      obtain ⟨nonce, hnonce, h⟩ := bind_eq_ok.mp h
      obtain ⟨digest, hdigest, h⟩ := bind_eq_ok.mp h
      obtain rfl := Except.ok.inj h
      obtain ⟨hnonce, hcheckNonce⟩ := readText_eq_ok.mp hnonce
      obtain ⟨hdigest, hcheckDigest⟩ := readText_eq_ok.mp hdigest
      refine ⟨?_, hcheckNonce, hcheckDigest⟩
      obtain ⟨first, rest, rfl, hfirst, hrest⟩ := List.map_eq_cons_iff.mp hkeys
      obtain ⟨second, rest, rfl, hsecond, hrest⟩ := List.map_eq_cons_iff.mp hrest
      obtain rfl := List.map_eq_nil_iff.mp hrest
      obtain ⟨firstKey, firstValue⟩ := first
      obtain ⟨secondKey, secondValue⟩ := second
      subst hfirst hsecond
      have hnonceFound := (lookupEntry_members firstValue secondValue).1.symm.trans hnonce
      have hdigestFound := (lookupEntry_members firstValue secondValue).2.symm.trans hdigest
      rw [Option.some.inj hnonceFound, Option.some.inj hdigestFound]
      rfl
    · cases h
  · rintro ⟨rfl, hadmits⟩
    have hnonce : readText kind.nonce (kind.nonceLabel ++ " nonce length is invalid")
        (some (.str p.1)) = .ok p.1 := readText_eq_ok.mpr ⟨rfl, hadmits.nonce⟩
    have hdigest : readText kind.digest (kind.label ++ " digest is invalid")
        (some (.str p.2)) = .ok p.2 := readText_eq_ok.mpr ⟨rfl, hadmits.digest⟩
    have hkeys : ¬ ([("nonce", Json.str p.1), ("signed_request_sha256", .str p.2)].map Prod.fst ≠
        ["nonce", "signed_request_sha256"]) := not_not.mpr rfl
    rw [entry, readEntry, refuseIf_neg hkeys, (lookupEntry_members _ _).1,
      (lookupEntry_members _ _).2, hnonce, hdigest]
    rfl

/-- The loop over the entries. The relation read so far has the digests seen, and the prior nonce
    is its last one. -/
theorem readEntries_eq_ok {items : List Json} {read reservations : Reservations}
    {requestDigests : List String} {priorNonce : Option String}
    (hdigests : ∀ digest, digest ∈ requestDigests ↔ digest ∈ read.values)
    (hprior : ∀ nonce, (∃ prior ∈ priorNonce, nonce ≤ prior) ↔
      ∃ p ∈ read.entries, nonce ≤ p.1) :
    kind.readEntries read requestDigests priorNonce items = .ok reservations ↔
      ∃ entries, items = entries.map entry ∧ (∀ p ∈ entries, kind.Admits p) ∧
        reservations.entries = read.entries ++ entries ∧
        (∀ p ∈ entries, p.2 ∉ read.values) ∧ (entries.map Prod.snd).Nodup := by
  induction items generalizing read requestDigests priorNonce with
  | nil =>
    rw [readEntries, pure_eq_ok, Except.ok.injEq]
    constructor
    · rintro rfl
      exact ⟨[], rfl, by simp, by simp, by simp, List.nodup_nil⟩
    · rintro ⟨entries, hnone, -, hentries, -, -⟩
      obtain rfl := List.map_eq_nil_iff.mp hnone.symm
      exact SortedMap.ext (by rw [hentries, List.append_nil])
  | cons item rest ih =>
    rw [readEntries, bind_eq_ok]
    -- the relation with one more entry, which comes behind all others
    have hnext (p : String × String) (hlater : ¬ ∃ q ∈ read.entries, p.1 ≤ q.1) :
        (read.insert p.1 p.2).entries = read.entries ++ [p] := by
      apply SortedMap.entries_insert_append
      intro q hq
      exact not_le.mp (fun hle => hlater ⟨q, hq, hle⟩)
    have hrest (p : String × String) (hlater : ¬ ∃ q ∈ read.entries, p.1 ≤ q.1) :=
      @ih (read.insert p.1 p.2) (p.2 :: requestDigests) (some p.1)
        (by
          intro digest
          simp [SortedMap.values, hnext p hlater, hdigests, or_comm])
        (by
          intro nonce
          rw [hnext p hlater]
          constructor
          · rintro ⟨prior, hprior, hle⟩
            obtain rfl := Option.some.inj hprior
            exact ⟨p, by simp, hle⟩
          · rintro ⟨q, hq, hle⟩
            rcases List.mem_append.mp hq with hold | hnew
            · refine ⟨p.1, rfl, hle.trans ?_⟩
              exact (not_le.mp (fun h => hlater ⟨q, hold, h⟩)).le
            · rw [List.mem_singleton.mp hnew] at hle
              exact ⟨p.1, rfl, hle⟩)
    constructor
    · rintro ⟨p, hentry, h⟩
      rw [bind_unit_eq_ok, refuseIf_eq_ok, bind_unit_eq_ok, refuseIf_eq_ok, hprior, hdigests] at h
      obtain ⟨hlater, hfresh, h⟩ := h
      obtain ⟨rfl, hadmits⟩ := (kind.readEntry_eq_ok).mp hentry
      obtain ⟨entries, rfl, hall, hentries, hnew, hnodup⟩ := (hrest p hlater).mp h
      rw [hnext p hlater, List.append_assoc] at hentries
      refine ⟨p :: entries, rfl, ?_, hentries, ?_, ?_⟩
      · exact List.forall_mem_cons.mpr ⟨hadmits, hall⟩
      · refine List.forall_mem_cons.mpr ⟨hfresh, ?_⟩
        intro q hq hold
        apply hnew q hq
        simp [SortedMap.values, hnext p hlater] at hold ⊢
        exact .inl hold
      · refine List.nodup_cons.mpr ⟨?_, hnodup⟩
        intro hmem
        obtain ⟨q, hq, hsame⟩ := List.mem_map.mp hmem
        apply hnew q hq
        simp [SortedMap.values, hnext p hlater, hsame]
    · rintro ⟨entries, hitems, hall, hentries, hnew, hnodup⟩
      obtain ⟨p, later, rfl, rfl, rfl⟩ := List.map_eq_cons_iff.mp hitems.symm
      obtain ⟨hadmits, hall⟩ := List.forall_mem_cons.mp hall
      obtain ⟨hfresh, hnew⟩ := List.forall_mem_cons.mp hnew
      obtain ⟨hdistinct, hnodup⟩ := List.nodup_cons.mp hnodup
      have hsorted := reservations.sorted
      rw [hentries] at hsorted
      have hlater : ¬ ∃ q ∈ read.entries, p.1 ≤ q.1 := by
        rintro ⟨q, hq, hle⟩
        have hlt := (List.pairwise_append.mp hsorted).2.2 q hq p List.mem_cons_self
        exact absurd hlt (not_lt.mpr hle)
      refine ⟨p, (kind.readEntry_eq_ok).mpr ⟨rfl, hadmits⟩, ?_⟩
      rw [bind_unit_eq_ok, refuseIf_eq_ok, bind_unit_eq_ok, refuseIf_eq_ok, hprior, hdigests]
      refine ⟨hlater, hfresh, (hrest p hlater).mpr ⟨later, rfl, hall, ?_, ?_, hnodup⟩⟩
      · rw [hentries, hnext p hlater, List.append_assoc]
        rfl
      · intro q hq hold
        have hdistinctq : q.2 ≠ p.2 := by
          intro hsame
          exact hdistinct (hsame ▸ List.mem_map_of_mem hq)
        apply hnew q hq
        simp only [SortedMap.values, hnext p hlater, List.map_append, List.map_cons, List.map_nil,
          List.mem_append, List.mem_singleton, hdistinctq, or_false] at hold
        exact hold

/-! ## The document -/

theorem mem_document {reservations : Reservations} {member : String × Json} :
    member ∈ (kind.document reservations).entries ↔
      member = ("reservations", .arr (reservations.entries.map entry)) ∨
      member = ("schema_version", .str kind.schemaVersion) ∨
      ∃ field ∈ kind.identity, member = (field.1, .str field.2) := by
  have hkeys : ((("reservations", Json.arr (reservations.entries.map entry)) ::
      ("schema_version", .str kind.schemaVersion) ::
        kind.identity.map (fun field => (field.1, .str field.2))).map Prod.fst).Nodup := by
    simpa [List.map_map, Function.comp_def] using kind.fieldsDistinct
  rw [document, SortedMap.mem_entries_ofEntries hkeys]
  simp [eq_comm]

theorem lookup_document {reservations : Reservations} {key : String} {value : Json} :
    lookupEntry key (kind.document reservations).entries = some value ↔
      (key, value) ∈ (kind.document reservations).entries :=
  lookupEntry_eq_some (kind.document reservations).sorted

theorem keys_document (reservations : Reservations) :
    (kind.document reservations).entries.map Prod.fst = kind.fields := by
  change (kind.document reservations).keys = _
  rw [document, SortedMap.keys_ofEntries, fields]
  simp [List.map_map, Function.comp_def]

theorem wellFormed_document (reservations : Reservations) :
    (Json.obj (kind.document reservations).entries).wellFormed = true := by
  have hentry (p : String × String) : (entry p).wellFormed = true := by
    have hsorted : KeysSorted
        [("nonce", Json.str p.1), ("signed_request_sha256", Json.str p.2)] := by
      have hlt : "nonce".toList < "signed_request_sha256".toList := by decide
      exact List.pairwise_pair.mpr (String.lt_iff_toList_lt.mpr hlt)
    simp [entry, Json.wellFormed, hsorted, Json.wellFormedMembers]
  rw [Json.wellFormed, Bool.and_eq_true, decide_eq_true_eq, Json.wellFormedMembers_iff]
  refine ⟨(kind.document reservations).sorted, ?_⟩
  intro member hmember
  rcases kind.mem_document.mp hmember with rfl | rfl | ⟨field, -, rfl⟩
  · rw [Json.wellFormed, Json.wellFormedItems_iff]
    intro item hitem
    obtain ⟨p, -, rfl⟩ := List.mem_map.mp hitem
    exact hentry p
  · rfl
  · rfl

/-- The loader accepts exactly the canonical documents of storable relations. -/
theorem load_eq_ok {file : Option ByteArray} {reservations : Reservations} :
    kind.load file = .ok reservations ↔
      file = some (kind.material reservations) ∧ kind.Storable reservations := by
  have hentries {items : List Json} :
      kind.readEntries .empty [] none items = .ok reservations ↔
        ∃ entries, items = entries.map entry ∧ (∀ p ∈ entries, kind.Admits p) ∧
          reservations.entries = entries ∧ (entries.map Prod.snd).Nodup := by
    rw [kind.readEntries_eq_ok (by simp) (by simp [SortedMap.empty])]
    simp only [SortedMap.values_empty, List.not_mem_nil, not_false_eq_true, implies_true,
      true_and]
    rfl
  constructor
  · intro h
    cases file with
    | none => cases h
    | some material =>
      rw [load, bind_unit_eq_ok, refuseIf_eq_ok, not_lt] at h
      obtain ⟨hsize, h⟩ := h
      obtain ⟨parsed, -, h⟩ := bind_eq_ok.mp h
      split at h
      · simp only [bind_unit_eq_ok, refuseIf_eq_ok] at h
        obtain ⟨-, -, -, h⟩ := h
        split at h
        · rw [bind_unit_eq_ok, refuseIf_eq_ok, not_lt] at h
          obtain ⟨hcount, h⟩ := h
          obtain ⟨found, hfound, h⟩ := bind_eq_ok.mp h
          rw [bind_unit_eq_ok, refuseIf_eq_ok, not_not] at h
          obtain ⟨rfl, hreturned⟩ := h
          obtain rfl := Except.ok.inj hreturned
          obtain ⟨entries, rfl, hadmitted, rfl, hnodup⟩ := hentries.mp hfound
          rw [List.length_map] at hcount
          exact ⟨rfl, hadmitted, hnodup, hcount, hsize⟩
        · cases h
      · cases h
  · rintro ⟨rfl, hstorable⟩
    have hparsed : Json.loadsBytes (kind.material reservations) =
        .ok (.obj (kind.document reservations).entries) :=
      Json.loadsBytes_canonicalBytes (kind.wellFormed_document reservations)
    have hreservations : lookupEntry "reservations" (kind.document reservations).entries =
        some (.arr (reservations.entries.map entry)) :=
      kind.lookup_document.mpr (kind.mem_document.mpr (.inl rfl))
    have hschema : lookupEntry "schema_version" (kind.document reservations).entries =
        some (.str kind.schemaVersion) :=
      kind.lookup_document.mpr (kind.mem_document.mpr (.inr (.inl rfl)))
    have hidentity : ¬ ∃ field ∈ kind.identity,
        isText (lookupEntry field.1 (kind.document reservations).entries) field.2 = false := by
      rintro ⟨field, hfield, hdifferent⟩
      have hfound : lookupEntry field.1 (kind.document reservations).entries =
          some (.str field.2) :=
        kind.lookup_document.mpr (kind.mem_document.mpr (.inr (.inr ⟨field, hfield, rfl⟩)))
      rw [hfound] at hdifferent
      simp [isText] at hdifferent
    have hread := hentries.mpr
      ⟨reservations.entries, rfl, hstorable.admitted, rfl, hstorable.digests⟩
    have hcount := hstorable.count
    rw [SortedMap.size] at hcount
    rw [load, refuseIf_neg (not_lt.mpr hstorable.size), hparsed]
    simp only [ok_bind, Except.mapError]
    rw [refuseIf_neg (not_not.mpr (kind.keys_document reservations)), hschema,
      refuseIf_neg (by simp [isText]), refuseIf_neg hidentity, hreservations]
    simp only [ok_bind]
    rw [refuseIf_neg (by rw [List.length_map]; exact not_lt.mpr hcount), hread]
    simp only [ok_bind]
    rw [refuseIf_neg (not_not.mpr rfl)]
    rfl

end ReservationLedgerKind

/-! ## Calls -/

namespace ReservationLedger

variable {kind : ReservationLedgerKind} {nonce digest : String} {io : ReservationIo}
  {file : AtomicFile ByteArray}

/-- A reservation that passes every check up to `os.replace`, over what the file holds. -/
structure Reaches (kind : ReservationLedgerKind) (nonce digest : String) (io : ReservationIo)
    (file : AtomicFile ByteArray) (reservations : Reservations) : Prop where
  admitted : kind.Admits (nonce, digest)
  loaded : load kind io file = .ok reservations
  freshNonce : reservations.find? nonce = none
  freshDigest : digest ∉ reservations.values
  ready : io.ready = none
  count : (reservations.insert nonce digest).size ≤ maxReservations
  size : (kind.material (reservations.insert nonce digest)).size ≤ maxReservationLedgerBytes

theorem load_eq_ok {reservations : Reservations} :
    load kind io file = .ok reservations ↔
      io.read = none ∧ kind.load file.visible = .ok reservations := by
  unfold load
  cases io.read <;> simp

theorem Reaches.storable {reservations : Reservations}
    (h : Reaches kind nonce digest io file reservations) :
    kind.Storable (reservations.insert nonce digest) := by
  obtain ⟨-, hold⟩ := kind.load_eq_ok.mp (load_eq_ok.mp h.loaded).2
  have hperm := SortedMap.perm_entries_insert digest h.freshNonce
  refine ⟨?_, ?_, h.count, h.size⟩
  · intro p hp
    rcases List.mem_cons.mp (hperm.mem_iff.mp hp) with rfl | hp
    · exact h.admitted
    · exact hold.admitted p hp
  · refine (hperm.map Prod.snd).nodup_iff.mpr (List.nodup_cons.mpr ⟨h.freshDigest, ?_⟩)
    exact hold.digests

/-- How a call of `reserve` ends, with the object it leaves. -/
inductive ReserveOutcome (kind : ReservationLedgerKind) (nonce digest : String)
    (io : ReservationIo) (ledger : ReservationLedger) :
    Except String Bool × ReservationLedger → Prop where
  /-- An argument was refused, or the file could not be loaded. -/
  | refused (error : String)
      (hnone : ∀ reservations, ¬ Reaches kind nonce digest io ledger.file reservations) :
      ReserveOutcome kind nonce digest io ledger (.error error, ledger)
  | known {reservations : Reservations} (hload : load kind io ledger.file = .ok reservations)
      (hnone : ∀ reservations, ¬ Reaches kind nonce digest io ledger.file reservations) :
      ReserveOutcome kind nonce digest io ledger (.ok false, ⟨ledger.file, reservations⟩)
  /-- The update failed before `os.replace`, or the ledger is full. -/
  | notReplaced (error : String) {reservations : Reservations}
      (hload : load kind io ledger.file = .ok reservations)
      (hnone : ∀ reservations, Reaches kind nonce digest io ledger.file reservations →
        ∃ error, io.write = .notReplaced error) :
      ReserveOutcome kind nonce digest io ledger (.error error, ⟨ledger.file, reservations⟩)
  /-- The update failed after `os.replace`, and the old dictionary is put back. -/
  | replaced (synced : Bool) (error : String) {reservations : Reservations}
      (hreaches : Reaches kind nonce digest io ledger.file reservations)
      (hwrite : io.write = .replaced synced error) :
      ReserveOutcome kind nonce digest io ledger
        (.error error,
          ⟨if synced then
              (ledger.file.replace (kind.material (reservations.insert nonce digest))).sync
            else ledger.file.replace (kind.material (reservations.insert nonce digest)),
            reservations⟩)
  | fresh {reservations : Reservations}
      (hreaches : Reaches kind nonce digest io ledger.file reservations)
      (hwrite : io.write = .written) :
      ReserveOutcome kind nonce digest io ledger
        (.ok true,
          ⟨(ledger.file.replace (kind.material (reservations.insert nonce digest))).sync,
            reservations.insert nonce digest⟩)

/-- What `_persist` does to an object. -/
theorem call_persist (ledger : ReservationLedger) :
    Method.call (persist kind io) ledger =
      match io.ready with
      | some error => (.error error, ledger)
      | none =>
          if maxReservations < ledger.reservations.size ∨
              maxReservationLedgerBytes < (kind.material ledger.reservations).size then
            (.error (kind.label ++ " ledger is at capacity"), ledger)
          else Method.call (replaceFile (kind.material ledger.reservations) io.write) ledger := by
  unfold persist
  rw [Method.call_self_bind]
  cases io.ready with
  | some error => rfl
  | none =>
    rw [Method.call_bind, Method.call_check]
    by_cases hcount : maxReservations < ledger.reservations.size
    · rw [refuseIf_pos hcount, if_pos (.inl hcount)]
    · rw [refuseIf_neg hcount]
      dsimp only
      rw [Method.call_bind, Method.call_check]
      by_cases hsize : maxReservationLedgerBytes < (kind.material ledger.reservations).size
      · rw [refuseIf_pos hsize, if_pos (.inr hsize)]
      · rw [refuseIf_neg hsize, if_neg (not_or.mpr ⟨hcount, hsize⟩)]

theorem reserve_outcome (kind : ReservationLedgerKind) (nonce digest : String)
    (io : ReservationIo) (ledger : ReservationLedger) :
    ReserveOutcome kind nonce digest io ledger
      (Method.call (reserve kind nonce digest io) ledger) := by
  unfold reserve
  rw [Method.call_bind, Method.call_check]
  cases hnonce : kind.nonce nonce with
  | error error =>
    apply ReserveOutcome.refused
    intro _ h
    exact absurd (hnonce.symm.trans h.admitted.nonce) (by nofun)
  | ok _ =>
  dsimp only
  rw [Method.call_bind, Method.call_check]
  cases hdigest : kind.digest digest with
  | error error =>
    apply ReserveOutcome.refused
    intro _ h
    exact absurd (hdigest.symm.trans h.admitted.digest) (by nofun)
  | ok _ =>
  dsimp only
  rw [Method.call_self_bind, Method.call_bind, Method.call_check]
  cases hload : load kind io ledger.file with
  | error error =>
    apply ReserveOutcome.refused
    intro _ h
    exact absurd (hload.symm.trans h.loaded) (by nofun)
  | ok reservations =>
  have hsame {found : Reservations} (h : Reaches kind nonce digest io ledger.file found) :
      found = reservations := Except.ok.inj (h.loaded.symm.trans hload)
  dsimp only
  rw [Method.call_assign_bind]
  by_cases hknown : (reservations.find? nonce).isSome
  · rw [if_pos hknown]
    apply ReserveOutcome.known hload
    intro found h
    have hnew := h.freshNonce
    rw [hsame h] at hnew
    rw [hnew] at hknown
    cases hknown
  rw [if_neg hknown]
  by_cases hused : digest ∈ reservations.values
  · rw [if_pos hused]
    apply ReserveOutcome.known hload
    intro found h
    have hnew := h.freshDigest
    rw [hsame h] at hnew
    exact hnew hused
  rw [if_neg hused, Method.call_assign_bind, Method.call_bind, Method.call_catching, call_persist]
  cases hready : io.ready with
  | some error =>
    apply ReserveOutcome.notReplaced error hload
    intro _ h
    exact absurd (hready.symm.trans h.ready) (by nofun)
  | none =>
  by_cases hfull : maxReservations < (reservations.insert nonce digest).size ∨
      maxReservationLedgerBytes < (kind.material (reservations.insert nonce digest)).size
  · rw [if_pos hfull]
    apply ReserveOutcome.notReplaced _ hload
    intro _ h
    obtain rfl := hsame h
    rcases hfull with hcount | hsize
    · exact absurd h.count (not_le.mpr hcount)
    · exact absurd h.size (not_le.mpr hsize)
  rw [if_neg hfull]
  obtain ⟨hcount, hsize⟩ := not_or.mp hfull
  have hreaches : Reaches kind nonce digest io ledger.file reservations :=
    ⟨⟨hnonce, hdigest⟩, hload, Option.not_isSome_iff_eq_none.mp hknown, hused, hready,
      not_lt.mp hcount, not_lt.mp hsize⟩
  cases hwrite : io.write with
  | written => exact .fresh hreaches hwrite
  | notReplaced error =>
    apply ReserveOutcome.notReplaced error hload
    intro _ _
    exact ⟨error, hwrite⟩
  | replaced synced error => exact .replaced synced error hreaches hwrite

/-- Reading the file into memory, as `create` and `contains` do. -/
theorem call_loadInto (kind : ReservationLedgerKind) (io : ReservationIo)
    (ledger : ReservationLedger) {α : Type}
    (rest : Reservations → Method ReservationLedger String α)
    (hrest : ∀ reservations s, (Method.call (rest reservations) s).2 = s) :
    let called := Method.call (do
      let reservations ← Method.check (load kind io ledger.file)
      Method.assign fun ledger => { ledger with reservations := reservations }
      rest reservations) ledger
    called.2.file = ledger.file ∧
      (called.2 = ledger ∧ (∃ error, called.1 = .error error) ∨
        kind.load ledger.file.visible = .ok called.2.reservations) := by
  dsimp only
  rw [Method.call_bind, Method.call_check]
  cases hload : load kind io ledger.file with
  | error error => exact ⟨rfl, .inl ⟨rfl, error, rfl⟩⟩
  | ok reservations =>
    dsimp only
    rw [Method.call_assign_bind, hrest]
    exact ⟨rfl, .inr (load_eq_ok.mp hload).2⟩

/-- `contains` never writes. -/
theorem call_contains (kind : ReservationLedgerKind) (nonce : String) (io : ReservationIo)
    (ledger : ReservationLedger) :
    let called := Method.call (contains kind nonce io) ledger
    called.2.file = ledger.file ∧ (called.2 = ledger ∨
      kind.load ledger.file.visible = .ok called.2.reservations) := by
  dsimp only
  unfold contains
  rw [Method.call_bind, Method.call_check]
  cases kind.nonce nonce with
  | error error => exact ⟨rfl, .inl rfl⟩
  | ok _ =>
    dsimp only
    rw [Method.call_self_bind]
    obtain ⟨hfile, hcase⟩ := call_loadInto kind io ledger
      (fun reservations => pure (reservations.find? nonce).isSome) (fun _ _ => rfl)
    exact ⟨hfile, hcase.imp_left And.left⟩

/-- `create` only writes a file that is not there, and the object it returns is loaded from what
    it leaves. -/
theorem call_create (kind : ReservationLedgerKind) (initializing : Bool) (io : ReservationIo)
    (ledger : ReservationLedger) :
    let called := Method.call (create kind initializing io) ledger
    (called.2.file = ledger.file ∨ ledger.file.visible = none) ∧
      (called.1 = .ok () → kind.load called.2.file.visible = .ok called.2.reservations) := by
  have htail (ledger : ReservationLedger) :
      let called := Method.call (do
        let ledger ← Method.self
        let reservations ← Method.check (load kind io ledger.file)
        Method.assign fun ledger => { ledger with reservations := reservations }) ledger
      called.2.file = ledger.file ∧
        (called.1 = .ok () → kind.load called.2.file.visible = .ok called.2.reservations) := by
    dsimp only
    rw [Method.call_self_bind]
    obtain ⟨hfile, hcase⟩ := call_loadInto kind io ledger (fun _ => pure ())
      (fun _ _ => rfl)
    refine ⟨hfile, ?_⟩
    intro hreturned
    rcases hcase with ⟨-, error, herror⟩ | hload
    · exact absurd (hreturned.symm.trans herror) (by nofun)
    · exact (congrArg (fun file => kind.load file.visible) hfile).trans hload
  dsimp only
  unfold create
  cases initializing with
  | false =>
    obtain ⟨hfile, hload⟩ := htail ledger
    exact ⟨.inl hfile, hload⟩
  | true =>
    rw [if_pos rfl, Method.call_self_bind, Method.call_bind, Method.call_check]
    by_cases hexists : ledger.file.visible ≠ none
    · rw [refuseIf_pos hexists]
      exact ⟨.inl rfl, by nofun⟩
    · rw [refuseIf_neg hexists]
      dsimp only
      refine ⟨.inr (not_not.mp hexists), ?_⟩
      rw [Method.call_bind]
      rcases Method.call (persist kind io) ledger with ⟨result, written⟩
      cases result with
      | error error => nofun
      | ok _ => exact (htail written).2

end ReservationLedger

/-! ## Runs -/

namespace ReservationWorld

variable (kind : ReservationLedgerKind)

/-- The content holds the reservation. -/
def Holds (p : String × String) (content : ByteArray) : Prop :=
  ∃ reservations, kind.load (some content) = .ok reservations ∧ p ∈ reservations.entries

/-- No nonce and no digest was reported twice, and no power loss takes a reported one away. -/
structure Kept (w : ReservationWorld) : Prop where
  nonces : (w.reported.map Prod.fst).Nodup
  digests : (w.reported.map Prod.snd).Nodup
  stored : ∀ p ∈ w.reported, w.file.Durably (Holds kind p)

/-- The dictionary in memory is what the file holds. -/
def Agrees (w : ReservationWorld) : Prop :=
  ∀ reservations, w.opened = some reservations → kind.load w.file.visible = .ok reservations

/-- What is claimed of one event. -/
structure OneShot (w : ReservationWorld) (event : ReservationEvent) : Prop where
  /-- The stored relation is one-to-one and has everything that was reported. -/
  oneToOne : ∀ reservations, kind.load (w.step kind event).file.visible = .ok reservations →
    ∀ p ∈ reservations.entries, ∀ q ∈ reservations.entries, p.1 = q.1 ↔ p.2 = q.2
  kept : (w.step kind event).Kept kind
  agrees : (w.step kind event).Agrees kind
  unchanged : ∀ nonce digest io reservations error ledger,
    event = .reserve nonce digest io → w.opened = some reservations →
      Method.call (ReservationLedger.reserve kind nonce digest io) ⟨w.file, reservations⟩ =
        (.error error, ledger) → ledger.file = w.file

/-- No update fails after `os.replace`. -/
def Confirmed (w : ReservationWorld) : ReservationEvent → Prop
  | .reserve nonce digest io => w.opened ≠ none → ∀ reservations,
      ReservationLedger.Reaches kind nonce digest io w.file reservations →
        ∀ synced error, io.write ≠ .replaced synced error
  | _ => True

/-- A property of every event of a run. -/
def Throughout (holds : ReservationWorld → ReservationEvent → Prop) (w : ReservationWorld) :
    List ReservationEvent → Prop
  | [] => True
  | event :: rest => holds w event ∧ (w.step kind event).Throughout holds rest

variable {kind} {w : ReservationWorld}

theorem kept_start (file : AtomicFile ByteArray) : (start file).Kept kind :=
  ⟨List.nodup_nil, List.nodup_nil, by nofun⟩

theorem agrees_start (file : AtomicFile ByteArray) : (start file).Agrees kind := by
  nofun

/-- Only the file matters for what is kept. -/
theorem Kept.of_file (h : w.Kept kind) {file : AtomicFile ByteArray} {opened : Option Reservations}
    (hstored : ∀ p ∈ w.reported, file.Durably (Holds kind p)) :
    Kept kind ⟨file, opened, w.reported⟩ := ⟨h.nonces, h.digests, hstored⟩

theorem Kept.reported_nil (h : w.Kept kind) (hmissing : w.file.visible = none) :
    w.reported = [] := by
  refine List.eq_nil_iff_forall_not_mem.mpr ?_
  intro p hp
  obtain ⟨content, hvisible, -⟩ := (h.stored p hp).visible
  rw [hmissing] at hvisible
  cases hvisible

/-- Everything that was reported is in the relation that is loaded. -/
theorem Kept.mem_loaded (h : w.Kept kind) {reservations : Reservations}
    (hload : kind.load w.file.visible = .ok reservations) {p : String × String}
    (hp : p ∈ w.reported) : p ∈ reservations.entries := by
  obtain ⟨content, hvisible, found, hfound, hmem⟩ := (h.stored p hp).visible
  rw [hvisible, hfound] at hload
  rw [← Except.ok.inj hload]
  exact hmem

/-- The document that `reserve` writes holds the old reservations and the new one. -/
theorem holds_inserted {nonce digest : String} {io : ReservationIo} {file : AtomicFile ByteArray}
    {reservations : Reservations}
    (hreaches : ReservationLedger.Reaches kind nonce digest io file reservations)
    {p : String × String} (hp : p = (nonce, digest) ∨ p ∈ reservations.entries) :
    Holds kind p (kind.material (reservations.insert nonce digest)) := by
  refine ⟨reservations.insert nonce digest, kind.load_eq_ok.mpr ⟨rfl, hreaches.storable⟩, ?_⟩
  exact (SortedMap.perm_entries_insert digest hreaches.freshNonce).mem_iff.mpr
    (List.mem_cons.mpr hp)

/-- Whatever `reserve` does to the file, nothing that was reported is lost. -/
theorem Kept.stored_reserve (h : w.Kept kind) {nonce digest : String} {io : ReservationIo}
    {reservations : Reservations} {called : Except String Bool × ReservationLedger}
    (houtcome : ReservationLedger.ReserveOutcome kind nonce digest io ⟨w.file, reservations⟩
      called) {p : String × String} (hp : p ∈ w.reported) :
    called.2.file.Durably (Holds kind p) := by
  have hold := h.stored p hp
  have hnew {found : Reservations}
      (hreaches : ReservationLedger.Reaches kind nonce digest io w.file found) :
      (w.file.replace (kind.material (found.insert nonce digest))).Durably (Holds kind p) := by
    apply hold.replace
    apply holds_inserted hreaches
    exact .inr (h.mem_loaded (ReservationLedger.load_eq_ok.mp hreaches.loaded).2 hp)
  cases houtcome with
  | refused error hnone => exact hold
  | known hload hnone => exact hold
  | notReplaced error hload hnone => exact hold
  | replaced synced error hreaches hwrite =>
    cases synced with
    | false => exact hnew hreaches
    | true => exact (hnew hreaches).sync
  | fresh hreaches hwrite => exact (hnew hreaches).sync

/-- A reservation is reported only if its nonce and its digest never were. -/
theorem Kept.report (h : w.Kept kind) {nonce digest : String} {io : ReservationIo}
    {reservations : Reservations}
    (hreaches : ReservationLedger.Reaches kind nonce digest io w.file reservations)
    {opened : Option Reservations}
    (hstored : ∀ p ∈ w.reported, (w.file.replace
      (kind.material (reservations.insert nonce digest))).sync.Durably (Holds kind p)) :
    Kept kind ⟨(w.file.replace (kind.material (reservations.insert nonce digest))).sync, opened,
      w.reported ++ [(nonce, digest)]⟩ := by
  have hloaded := (ReservationLedger.load_eq_ok.mp hreaches.loaded).2
  have hlast {values : List String} {value : String} (hnodup : values.Nodup)
      (hfresh : value ∉ values) : (values ++ [value]).Nodup := by
    refine List.nodup_append.mpr ⟨hnodup, List.nodup_singleton _, ?_⟩
    intro old hold new hnew hsame
    rw [hsame, List.mem_singleton.mp hnew] at hold
    exact hfresh hold
  constructor
  · rw [List.map_append]
    apply hlast h.nonces
    intro hmem
    obtain ⟨p, hp, rfl⟩ := List.mem_map.mp hmem
    have hfound := SortedMap.find?_eq_some.mpr (h.mem_loaded hloaded hp)
    rw [hreaches.freshNonce] at hfound
    cases hfound
  · rw [List.map_append]
    apply hlast h.digests
    intro hmem
    obtain ⟨p, hp, rfl⟩ := List.mem_map.mp hmem
    exact hreaches.freshDigest (List.mem_map_of_mem (h.mem_loaded hloaded hp))
  · intro p hp
    rcases List.mem_append.mp hp with hold | hnew
    · exact hstored p hold
    · rw [List.mem_singleton.mp hnew]
      exact AtomicFile.durably_sync (AtomicFile.visible_replace _ _)
        (holds_inserted hreaches (.inl rfl))

/-- Every event keeps what was reported. -/
theorem Kept.step (h : w.Kept kind) (event : ReservationEvent) : (w.step kind event).Kept kind := by
  cases event with
  | create initializing io =>
    unfold ReservationWorld.step
    dsimp only
    split
    · exact h
    · have hcreated := (ReservationLedger.call_create kind initializing io
        ⟨w.file, .empty⟩).1
      have hstored (p : String × String) (hp : p ∈ w.reported) :
          (Method.call (ReservationLedger.create kind initializing io)
            ⟨w.file, .empty⟩).2.file.Durably (Holds kind p) := by
        rcases hcreated with hsame | hmissing
        · rw [hsame]
          exact h.stored p hp
        · rw [h.reported_nil hmissing] at hp
          cases hp
      split <;> rename_i hcall <;> rw [hcall] at hstored <;> exact h.of_file hstored
  | reserve nonce digest io =>
    unfold ReservationWorld.step
    dsimp only
    split
    · exact h
    · rename_i reservations hopened
      have houtcome := ReservationLedger.reserve_outcome kind nonce digest io
        ⟨w.file, reservations⟩
      have hstored (p : String × String) (hp : p ∈ w.reported) := h.stored_reserve houtcome hp
      generalize Method.call (ReservationLedger.reserve kind nonce digest io)
        ⟨w.file, reservations⟩ = called at houtcome hstored
      cases houtcome with
      | fresh hreaches hwrite => exact h.report hreaches hstored
      | refused error hnone => exact h.of_file hstored
      | known hload hnone => exact h.of_file hstored
      | notReplaced error hload hnone => exact h.of_file hstored
      | replaced synced error hreaches hwrite => exact h.of_file hstored
  | contains nonce io =>
    unfold ReservationWorld.step
    dsimp only
    split
    · exact h
    · rename_i reservations hopened
      apply h.of_file
      rw [(ReservationLedger.call_contains _ nonce io ⟨w.file, reservations⟩).1]
      exact h.stored
  | close => exact h.of_file h.stored
  | killed nonce digest io =>
    unfold ReservationWorld.step
    dsimp only
    split
    · exact h
    · rename_i reservations hopened
      apply h.of_file
      intro p hp
      exact h.stored_reserve (ReservationLedger.reserve_outcome kind nonce digest io _) hp
  | writeback count => exact h.of_file fun p hp => (h.stored p hp).writeback count
  | powerLoss count => exact h.of_file fun p hp => (h.stored p hp).powerLoss count

/-- The dictionary agrees with the file after every event but an update that fails after
    `os.replace`. -/
theorem Agrees.step (h : w.Agrees kind) {event : ReservationEvent}
    (hconfirmed : w.Confirmed kind event) : (w.step kind event).Agrees kind := by
  cases event with
  | create initializing io =>
    unfold ReservationWorld.step
    dsimp only
    split
    · exact h
    · rename_i hclosed
      have hcreated := (ReservationLedger.call_create kind initializing io
        ⟨w.file, .empty⟩).2
      split <;> rename_i hcall <;> rw [hcall] at hcreated
      · intro reservations hopened
        rw [← Option.some.inj hopened]
        exact hcreated rfl
      · intro reservations hopened
        rw [hclosed] at hopened
        cases hopened
  | reserve nonce digest io =>
    unfold ReservationWorld.step
    dsimp only
    split
    · exact h
    · rename_i memory hopened
      have houtcome := ReservationLedger.reserve_outcome kind nonce digest io ⟨w.file, memory⟩
      have hmemory := h memory hopened
      have hreach := hconfirmed (by rw [hopened]; intro hnone; cases hnone)
      generalize Method.call (ReservationLedger.reserve kind nonce digest io)
        ⟨w.file, memory⟩ = called at houtcome
      intro reservations hafter
      cases houtcome with
      | refused error hnone =>
        rw [← Option.some.inj hafter]
        exact hmemory
      | known hload hnone =>
        rw [← Option.some.inj hafter]
        exact (ReservationLedger.load_eq_ok.mp hload).2
      | notReplaced error hload hnone =>
        rw [← Option.some.inj hafter]
        exact (ReservationLedger.load_eq_ok.mp hload).2
      | replaced synced error hreaches hwrite => exact absurd hwrite (hreach _ hreaches _ _)
      | fresh hreaches hwrite =>
        rw [← Option.some.inj hafter]
        refine kind.load_eq_ok.mpr ⟨?_, hreaches.storable⟩
        rw [AtomicFile.visible_sync, AtomicFile.visible_replace]
  | contains nonce io =>
    unfold ReservationWorld.step
    dsimp only
    split
    · exact h
    · rename_i memory hopened
      obtain ⟨hfile, hcase⟩ := ReservationLedger.call_contains kind nonce io
        ⟨w.file, memory⟩
      intro reservations hafter
      rw [← Option.some.inj hafter, hfile]
      rcases hcase with hsame | hload
      · rw [hsame]
        exact h memory hopened
      · exact hload
  | close =>
    intro reservations hopened
    cases hopened
  | killed nonce digest io =>
    unfold ReservationWorld.step
    dsimp only
    split
    · exact h
    · intro reservations hopened
      cases hopened
  | writeback count =>
    intro reservations hopened
    have hvisible : (w.file.writeback count).visible = w.file.visible := by
      rw [AtomicFile.visible, AtomicFile.contents_writeback, AtomicFile.visible]
    exact (congrArg kind.load hvisible).trans (h reservations hopened)
  | powerLoss count =>
    intro reservations hopened
    cases hopened

/-- An event is one-shot exactly when it is confirmed. -/
theorem Kept.oneShot_iff (hkept : w.Kept kind) (hagrees : w.Agrees kind)
    (event : ReservationEvent) : w.OneShot kind event ↔ w.Confirmed kind event := by
  constructor
  · intro h
    cases event with
    | reserve nonce digest io =>
      intro hopen reservations hreaches synced error hwrite
      obtain ⟨memory, hopened⟩ := Option.ne_none_iff_exists'.mp hopen
      have houtcome := ReservationLedger.reserve_outcome kind nonce digest io ⟨w.file, memory⟩
      have hunchanged := h.unchanged nonce digest io memory
      generalize hcall : Method.call (ReservationLedger.reserve kind nonce digest io)
        ⟨w.file, memory⟩ = called at houtcome
      have hsame {raised : String} {ledger : ReservationLedger}
          (hended : called = (.error raised, ledger)) : ledger.file = w.file :=
        hunchanged raised ledger rfl hopened (hcall.trans hended)
      cases houtcome with
      | refused error hnone => exact hnone _ hreaches
      | known hload hnone => exact hnone _ hreaches
      | notReplaced error hload hnone =>
        obtain ⟨raised, hraised⟩ := hnone _ hreaches
        exact absurd (hraised.symm.trans hwrite) (by nofun)
      | replaced synced error hfound hwrite =>
        have hfile := hsame rfl
        cases synced with
        | false => exact AtomicFile.replace_ne _ _ hfile
        | true => exact AtomicFile.sync_replace_ne _ _ hfile
      | fresh hfound hwritten => exact absurd (hwritten.symm.trans hwrite) (by nofun)
    | create initializing io => trivial
    | contains nonce io => trivial
    | close => trivial
    | killed nonce digest io => trivial
    | writeback count => trivial
    | powerLoss count => trivial
  · intro h
    refine ⟨?_, hkept.step event, hagrees.step h, ?_⟩
    · intro reservations hload p hp q hq
      exact (kind.load_eq_ok.mp hload).2.oneToOne hp hq
    · rintro nonce digest io memory error ledger rfl hopened hcall
      have houtcome := ReservationLedger.reserve_outcome kind nonce digest io ⟨w.file, memory⟩
      rw [hcall] at houtcome
      cases houtcome with
      | refused error hnone => rfl
      | notReplaced error hload hnone => rfl
      | replaced synced error hreaches hwrite =>
        exact absurd hwrite (h (by rw [hopened]; nofun) _ hreaches _ _)

theorem Kept.throughout_iff (hkept : w.Kept kind) (hagrees : w.Agrees kind)
    (events : List ReservationEvent) :
    w.Throughout kind (OneShot kind) events ↔ w.Throughout kind (Confirmed kind) events := by
  induction events generalizing w with
  | nil => exact Iff.rfl
  | cons event rest ih =>
    rw [Throughout, Throughout, hkept.oneShot_iff hagrees event]
    refine and_congr_right ?_
    intro hconfirmed
    exact ih (hkept.step event) (hagrees.step hconfirmed)

/-- In every run of both ledgers over any file, however its updates fail, no nonce and no digest is
    reported twice and nothing that was reported is lost. -/
theorem kept_run (file : AtomicFile ByteArray) (events : List ReservationEvent) :
    (events.foldl (step kind) (start file)).Kept kind := by
  have hrun (w : ReservationWorld) (h : w.Kept kind) : (events.foldl (step kind) w).Kept kind := by
    induction events generalizing w with
    | nil => exact h
    | cons event rest ih => exact ih _ (h.step event)
  exact hrun _ (kept_start file)

end ReservationWorld

namespace Sample

/-- 64 hexadecimal digits. -/
def requestSha256 : String :=
  "5f16f4c7f149ac4f9510d9cf8cf384038ad348b3bcdc01915f95de12df9d1b02"

/-- The file system does what it is asked to. -/
def quietIo : ReservationIo := ⟨none, none, .written⟩

/-- The directory cannot be opened after `os.replace`. -/
def unsyncedIo : ReservationIo :=
  ⟨none, none, .replaced false "transport replay ledger update failed"⟩

/-- A new ledger with one reservation whose directory is not synced. -/
def unsyncedRun : List ReservationEvent :=
  [.create true quietIo, .reserve "transport-nonce-0001" requestSha256 unsyncedIo]

/-- A new ledger has few enough characters for its limit, also with one reservation. -/
theorem unsyncedRun_not_oneShot {kind : ReservationLedgerKind}
    (hroom : ∀ reservations ∈ [SortedMap.empty,
      SortedMap.empty.insert "transport-nonce-0001" requestSha256],
        (Json.write (.obj (kind.document reservations).entries)).length ≤ 1000) :
    ¬ (ReservationWorld.start .missing).Throughout kind (ReservationWorld.OneShot kind)
      unsyncedRun := by
  have hsize (reservations : Reservations) (hmem : reservations ∈ [SortedMap.empty,
      SortedMap.empty.insert "transport-nonce-0001" requestSha256]) :
      (kind.material reservations).size ≤ maxReservationLedgerBytes := by
    have hbytes := Json.size_canonicalBytes_le (.obj (kind.document reservations).entries)
    have hlength := hroom reservations hmem
    rw [ReservationLedgerKind.material, maxReservationLedgerBytes]
    omega
  have hempty : kind.Storable .empty :=
    ⟨by simp [SortedMap.empty], List.nodup_nil, by decide, hsize _ (by simp)⟩
  have hload : kind.load (some (kind.material .empty)) = .ok .empty :=
    kind.load_eq_ok.mpr ⟨rfl, hempty⟩
  have hroomEmpty : ¬ (maxReservations < (SortedMap.empty : Reservations).size ∨
      maxReservationLedgerBytes < (kind.material .empty).size) :=
    not_or.mpr ⟨not_lt.mpr hempty.count, not_lt.mpr hempty.size⟩
  have hpersisted : Method.call (ReservationLedger.persist kind quietIo) ⟨.missing, .empty⟩ =
      (.ok (), ⟨⟨[kind.material .empty], []⟩, .empty⟩) := by
    rw [ReservationLedger.call_persist]
    exact if_neg hroomEmpty
  have hmissing : ¬ ((AtomicFile.missing : AtomicFile ByteArray).visible ≠ none) :=
    not_not.mpr rfl
  have hcreated : Method.call (ReservationLedger.create kind true quietIo) ⟨.missing, .empty⟩ =
      (.ok (), ⟨⟨[kind.material .empty], []⟩, .empty⟩) := by
    rw [ReservationLedger.create, if_pos rfl, Method.call_self_bind, Method.call_bind,
      Method.call_check, refuseIf_neg hmissing]
    dsimp only
    rw [Method.call_bind, hpersisted]
    dsimp only
    rw [Method.call_self_bind, Method.call_bind, Method.call_check,
      ReservationLedger.load_eq_ok.mpr ⟨rfl, hload⟩]
    rfl
  have hopened : (ReservationWorld.start .missing).step kind (.create true quietIo) =
      ⟨⟨[kind.material .empty], []⟩, some .empty, []⟩ := by
    simp only [ReservationWorld.start, ReservationWorld.step, hcreated]
  intro h
  obtain ⟨-, hconfirmed, -⟩ := (ReservationWorld.kept_start .missing).throughout_iff
    (ReservationWorld.agrees_start .missing) unsyncedRun |>.mp h
  rw [hopened] at hconfirmed
  have hadmits : kind.Admits ("transport-nonce-0001", requestSha256) :=
    ⟨refuseIf_neg (by decide), refuseIf_neg (by decide +kernel)⟩
  refine hconfirmed (fun hnone => by cases hnone) .empty ?_ _ _ rfl
  exact ⟨hadmits, ReservationLedger.load_eq_ok.mpr ⟨rfl, hload⟩, rfl, by simp, rfl, by decide,
    hsize _ (by simp)⟩

end Sample

end AegisOt
