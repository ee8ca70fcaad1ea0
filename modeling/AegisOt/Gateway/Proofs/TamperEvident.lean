import AegisOt.Gateway.Sample

/-!
# Tamper evidence

A chain verifies exactly if every record carries the digest of its content and names the hash of
the record before it, which makes it a hash chain in the sense of `HashChain`. The canonical text
determines every field of the content but the payload, so the last hash of a verified chain commits
to all of it as soon as SHA-256 tells the texts apart and the JSON of a payload determines the
payload.
-/

namespace AegisOt

section

variable {P : Type} [EvidencePayload P] [EvidencePrimitives]

/-! ## The canonical text -/

namespace EvidenceMaterial

theorem wellFormed_members {m : EvidenceMaterial P}
    (h : (EvidencePayload.json m.payload).wellFormed = true) :
    (Json.obj m.members).wellFormed = true := by
  have hkeys : KeysSorted m.members := by
    simp only [KeysSorted, members, List.pairwise_cons, List.mem_cons, List.not_mem_nil, or_false,
      forall_eq_or_imp, forall_eq, IsEmpty.forall_iff, implies_true, List.Pairwise.nil, and_true]
    decide +kernel
  rw [Json.wellFormed, Bool.and_eq_true, decide_eq_true_eq]
  refine ⟨hkeys, ?_⟩
  simp [members, Json.wellFormedMembers, Json.wellFormed, Json.wellFormed_ofInt, h]

/-- Contents with the same text agree in the dictionary. -/
theorem members_eq {m m' : EvidenceMaterial P}
    (h : (EvidencePayload.json m.payload).wellFormed = true)
    (h' : (EvidencePayload.json m'.payload).wellFormed = true)
    (htext : m.canonical = m'.canonical) : m.members = m'.members := by
  have hread := Json.loadsBytes_canonicalBytes (wellFormed_members h)
  have hread' := Json.loadsBytes_canonicalBytes (wellFormed_members h')
  change Json.loadsBytes m.canonical = _ at hread
  rw [htext] at hread
  have hsame := Except.ok.inj (hread.symm.trans hread')
  exact Json.obj.inj hsame

end EvidenceMaterial

/-- The hash of the canonical encoding tells the records of two lists apart: `json.dumps` the
    payloads, `isoformat` the times, SHA-256 the texts, and no text is hashed to the genesis. -/
structure EncodingSeparates (left right : List (EvidenceRecord P)) : Prop where
  wellFormed : ∀ a ∈ left ++ right, (EvidencePayload.json a.payload).wellFormed = true
  payload : ∀ a ∈ left, ∀ b ∈ right,
    EvidencePayload.json a.payload = EvidencePayload.json b.payload → a.payload = b.payload
  isoformat : ∀ a ∈ left, ∀ b ∈ right,
    EvidencePrimitives.isoformat a.recordedAt = EvidencePrimitives.isoformat b.recordedAt →
      a.recordedAt = b.recordedAt
  sha256 : ∀ a ∈ left, ∀ b ∈ right, a.digest = b.digest → a.canonical = b.canonical
  ne_genesis : ∀ a ∈ left ++ right, a.digest ≠ genesisHash

/-- Then the digest determines the content. -/
theorem EncodingSeparates.material_eq {left right : List (EvidenceRecord P)}
    (hsep : EncodingSeparates left right) {a b : EvidenceRecord P} (ha : a ∈ left) (hb : b ∈ right)
    (h : a.digest = b.digest) : a.toEvidenceMaterial = b.toEvidenceMaterial := by
  have hmembers : a.members = b.members := by
    apply EvidenceMaterial.members_eq
    · exact hsep.wellFormed a (List.mem_append_left right ha)
    · exact hsep.wellFormed b (List.mem_append_right left hb)
    · exact hsep.sha256 a ha b hb h
  simp only [EvidenceMaterial.members, List.cons.injEq, Prod.mk.injEq, true_and, Json.str.injEq,
    Json.ofInt_inj, and_true] at hmembers
  obtain ⟨hdecision, hjson, hprevious, hproposal, htime, hsequence⟩ := hmembers
  have hpayload := hsep.payload a ha b hb hjson
  have hrecorded := hsep.isoformat a ha b hb htime
  cases ha' : a.toEvidenceMaterial
  cases hb' : b.toEvidenceMaterial
  simp_all

/-- JSON objects are their own encoding. -/
theorem EncodingSeparates.of_jsonObject {left right : List (EvidenceRecord JsonObject)}
    (hisoformat : Function.Injective EvidencePrimitives.isoformat)
    (hsha256 : ∀ a ∈ left, ∀ b ∈ right, a.digest = b.digest → a.canonical = b.canonical)
    (hgenesis : ∀ a ∈ left ++ right, a.digest ≠ genesisHash) : EncodingSeparates left right where
  wellFormed a _ := a.payload.wellFormed
  payload a _ b _ h := by
    cases ha : a.payload
    cases hb : b.payload
    simp only [EvidencePayload.json, ha, hb, Json.obj.injEq] at h
    simp [h]
  isoformat a _ b _ h := hisoformat h
  sha256 := hsha256
  ne_genesis := hgenesis

/-! ## Verified chains -/

namespace EvidenceRecord

/-- The record carries the digest of its content. -/
def Sealed (record : EvidenceRecord P) : Prop :=
  record.recordHash = record.toEvidenceMaterial.digest

theorem Sealed.eq {a b : EvidenceRecord P} (ha : a.Sealed) (hb : b.Sealed)
    (h : a.toEvidenceMaterial = b.toEvidenceMaterial) : a = b := by
  obtain ⟨material, hash⟩ := a
  obtain ⟨material', hash'⟩ := b
  obtain rfl : material = material' := h
  have hhash : hash = hash' := Eq.trans ha hb.symm
  rw [hhash]

end EvidenceRecord

namespace EvidenceChain

omit [EvidencePayload P] [EvidencePrimitives] in
/-- Every record names the hash of the one before it. -/
def Linked (previousHash : String) (records : List (EvidenceRecord P)) : Prop :=
  HashChain.Linked (fun record => record.previousHash) EvidenceRecord.recordHash previousHash
    records

theorem verifyFrom_eq_true {previousHash : String} {records : List (EvidenceRecord P)} :
    verifyFrom previousHash records = true ↔
      (∀ record ∈ records, record.Sealed) ∧ Linked previousHash records := by
  induction records generalizing previousHash with
  | nil => simp [verifyFrom, Linked, HashChain.Linked]
  | cons record rest ih =>
    simp only [verifyFrom, Linked, HashChain.Linked, List.mem_cons, forall_eq_or_imp]
    by_cases hprevious : record.previousHash = previousHash
    · by_cases hsealed : record.recordHash = record.toEvidenceMaterial.digest
      · simp [hprevious, hsealed, ih, EvidenceRecord.Sealed, Linked]
      · simp [hsealed, EvidenceRecord.Sealed]
    · simp [hprevious]

omit [EvidencePayload P] [EvidencePrimitives] in
theorem lastHash_eq (start : String) (records : List (EvidenceRecord P)) :
    HashChain.lastHash EvidenceRecord.recordHash start records =
      ((EvidenceChain.mk records).lastRecordHash).getD start := by
  rcases List.eq_nil_or_concat' records with rfl | ⟨init, record, rfl⟩
  · rfl
  · simp [lastRecordHash]

/-! ## Appending -/

/-- One `append` keeps a chain verified. -/
theorem verify_append {chain : EvidenceChain P} (h : chain.verify = true) (now : Time)
    (proposalId decisionId : String) (payload : P) :
    (chain.append now proposalId decisionId payload).2.verify = true := by
  unfold verify at h
  obtain ⟨hsealed, hlinked⟩ := verifyFrom_eq_true.mp h
  apply verifyFrom_eq_true.mpr
  constructor
  · intro record hrecord
    rcases List.mem_append.mp hrecord with hold | hnew
    · exact hsealed record hold
    · rw [List.mem_singleton.mp hnew]
      rfl
  · apply (HashChain.linked_append_singleton _ _).mpr
    refine ⟨hlinked, ?_⟩
    rw [lastHash_eq]
    rfl

theorem verify_afterAppends {chain : EvidenceChain P} (h : chain.verify = true)
    (entries : List (EvidenceEntry P)) : (chain.afterAppends entries).verify = true := by
  induction entries generalizing chain with
  | nil => exact h
  | cons entry rest ih =>
    apply ih
    exact verify_append h entry.now entry.proposalId entry.decisionId entry.payload

/-! ## Commitment -/

/-- Verified chains with the same last hash are equal record for record. -/
theorem eq_of_lastRecordHash {left right : EvidenceChain P}
    (hsep : EncodingSeparates left.records right.records) (hleft : left.verify = true)
    (hright : right.verify = true) (hlast : left.lastRecordHash = right.lastRecordHash) :
    left.records = right.records := by
  obtain ⟨hsealed, hlinked⟩ := verifyFrom_eq_true.mp hleft
  obtain ⟨hsealed', hlinked'⟩ := verifyFrom_eq_true.mp hright
  have hchain : HashChain.Separates EvidenceRecord.recordHash genesisHash left.records
      right.records := by
    constructor
    · intro a ha b hb hhash
      rw [hsealed a ha, hsealed' b hb] at hhash
      exact (hsealed a ha).eq (hsealed' b hb) (hsep.material_eq ha hb hhash)
    · intro a ha
      have hhash : a.Sealed := (List.mem_append.mp ha).elim (hsealed a) (hsealed' a)
      rw [hhash]
      exact hsep.ne_genesis a ha
  apply hlinked.eq_of_lastHash hchain hlinked'
  rw [lastHash_eq, lastHash_eq, hlast]

/-- The chains that `append` builds verify, verified chains with equal last hashes are equal, and
    so records that were edited, deleted, inserted or reordered under the same last hash do not
    verify. -/
theorem tamper_evident :
    (∀ entries : List (EvidenceEntry P),
      ((EvidenceChain.empty : EvidenceChain P).afterAppends entries).verify = true) ∧
    (∀ left right : EvidenceChain P, EncodingSeparates left.records right.records →
      left.verify = true → right.verify = true →
        left.lastRecordHash = right.lastRecordHash → left.records = right.records) ∧
    ∀ chain edited : EvidenceChain P, EncodingSeparates chain.records edited.records →
      chain.verify = true → edited.lastRecordHash = chain.lastRecordHash →
        edited.records ≠ chain.records → edited.verify = false := by
  refine ⟨?_, ?_, ?_⟩
  · intro entries
    exact verify_afterAppends rfl entries
  · intro left right hsep hleft hright hlast
    exact eq_of_lastRecordHash hsep hleft hright hlast
  · intro chain edited hsep hchain hlast hne
    apply Bool.eq_false_of_not_eq_true
    intro hedited
    exact hne (eq_of_lastRecordHash hsep hchain hedited hlast.symm).symm

end EvidenceChain

end

namespace Sample

theorem timeText_injective : Function.Injective timeText := by
  have hwellFormed (time : Timestamp) : (timeJson time).wellFormed = true := by
    cases hoffset : time.utcOffset <;>
      simp [timeJson, hoffset, Json.wellFormed, Json.wellFormedItems, Json.wellFormed_ofInt]
  intro a b h
  have hread := Json.loads_write (hwellFormed a)
  rw [String.ofList_injective h, Json.loads_write (hwellFormed b), Except.ok.injEq, timeJson,
    timeJson, Json.arr.injEq, List.cons.injEq, Json.ofInt_inj, List.cons.injEq] at hread
  obtain ⟨hwall, hoffset, -⟩ := hread
  obtain ⟨wall, offset⟩ := a
  obtain ⟨wall', offset'⟩ := b
  obtain rfl : wall' = wall := hwall
  cases offset with
  | none =>
    cases offset' with
    | none => rfl
    | some offset' => cases hoffset
  | some offset =>
    cases offset' with
    | none => cases hoffset
    | some offset' =>
      obtain rfl : offset' = offset := Json.ofInt_inj.mp hoffset
      rfl

theorem digest_eq (m : EvidenceMaterial JsonObject) :
    m.digest = hexdigest (Fin.ofNat (2 ^ 256) m.proposalId.length) := by
  have hread : Json.loadsBytes m.canonical = .ok (.obj m.members) :=
    Json.loadsBytes_canonicalBytes (EvidenceMaterial.wellFormed_members m.payload.wellFormed)
  rw [EvidenceMaterial.digest, EvidenceMaterial.sha256]
  simp only [EvidencePrimitives.sha256]
  rw [proposalLength, hread]
  simp [EvidenceMaterial.members, lookupEntry]

/-- One decision. -/
def evidenceChain : EvidenceChain JsonObject :=
  EvidenceChain.empty.afterAppends [⟨1000000, "proposal-1", "decision-1", ⟨[], rfl⟩⟩]

/-- The same record hash over another proposal. -/
def editedChain : EvidenceChain JsonObject :=
  ⟨evidenceChain.records.map (fun record => { record with proposalId := "proposal-10" })⟩

end Sample

open Sample in
/-- The edit of a record is detected. -/
theorem tamper_evident_edited : editedChain.verify = false := by
  apply EvidenceChain.tamper_evident.2.2 evidenceChain editedChain
  · apply EncodingSeparates.of_jsonObject timeText_injective
    · intro a ha b hb h
      rw [digest_eq, digest_eq, List.mem_singleton.mp ha, List.mem_singleton.mp hb] at h
      exact absurd (String.ofList_injective h) (by decide)
    · intro a ha h
      rw [digest_eq] at h
      rcases List.mem_cons.mp ha with hold | hnew
      · rw [hold] at h
        exact absurd (String.ofList_injective h) (by decide)
      · rw [List.mem_singleton.mp hnew] at h
        exact absurd (String.ofList_injective h) (by decide)
  · exact EvidenceChain.tamper_evident.1 _
  · rfl
  · intro h
    have hproposal := congrArg (List.map (fun record => record.proposalId)) h
    exact absurd hproposal (by decide)

end AegisOt
