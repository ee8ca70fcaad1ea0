import AegisOt.Coordination.Proofs.RecordHistory

/-!
# What an operation may do to a record

Every operation that rewrites a record only adds to it: transitions are appended, attempts are
appended or completed in place, and nothing that was retained is lost. `Extends` says so, with
the two facts that matter once a record is terminal: a new outcome has the disposition of the
state, and no commit attempt appears. It is a preorder, each of the four ways to rewrite a
record (`appendAttempt`, `replaceAttempt`, `transition`, and their compositions) is an
instance, and `Update` states the result for a whole plan.
-/

namespace AegisOt

/-- The request of an attempt with its kind. -/
inductive ProtocolRequest where
  | prepare (request : SignedEffectPrepareRequest)
  | commit (request : SignedEffectCommitRequest)
  | query (request : SignedEffectQueryRequest)

def CoordinationAttempt.request : CoordinationAttempt → ProtocolRequest
  | .prepare a => .prepare a.request
  | .commit a => .commit a.request
  | .query a => .query a.request

/-- `b` is `a` with possibly more retained evidence. -/
structure CoordinationAttempt.Extends (a b : CoordinationAttempt) : Prop where
  request : b.request = a.request
  requestSha256 : b.base.requestSha256 = a.base.requestSha256
  sequence : b.base.sequence = a.base.sequence
  receipt : ∀ receipt ∈ a.receipt?, b.receipt? = some receipt
  acceptance : ∀ acceptance ∈ a.acceptance?, b.acceptance? = some acceptance
  outcome : ∀ o ∈ a.outcome, b.outcome = some o

namespace CoordinationAttempt.Extends

theorem refl (a : CoordinationAttempt) : a.Extends a :=
  ⟨rfl, rfl, rfl, fun _ h => h, fun _ h => h, fun _ h => h⟩

theorem trans {a b c : CoordinationAttempt} (hab : a.Extends b) (hbc : b.Extends c) :
    a.Extends c :=
  ⟨hbc.request.trans hab.request, hbc.requestSha256.trans hab.requestSha256,
    hbc.sequence.trans hab.sequence,
    fun x hx => hbc.receipt x (hab.receipt x hx),
    fun x hx => hbc.acceptance x (hab.acceptance x hx),
    fun x hx => hbc.outcome x (hab.outcome x hx)⟩

theorem isCommit {a b : CoordinationAttempt} (h : a.Extends b) : b.isCommit = a.isCommit := by
  have hrequest := h.request
  cases a <;> cases b <;> first | cases hrequest | rfl

/-- A commit attempt stays a commit attempt of the same request. -/
theorem exists_commit {a : EffectCommitAttempt} {b : CoordinationAttempt}
    (h : (CoordinationAttempt.commit a).Extends b) :
    ∃ b', b = .commit b' ∧ b'.request = a.request := by
  have hrequest := h.request
  cases b with
  | commit b => exact ⟨b, rfl, by simpa [CoordinationAttempt.request] using hrequest⟩
  | prepare b => cases hrequest
  | query b => cases hrequest

theorem eq_commit {a : CoordinationAttempt} {b : EffectCommitAttempt}
    (h : a.Extends (.commit b)) : ∃ a', a = .commit a' := by
  have hcommit := h.isCommit
  cases a with
  | commit a => exact ⟨a, rfl⟩
  | prepare a => cases hcommit
  | query a => cases hcommit

theorem exists_query {a : EffectQueryAttempt} {b : CoordinationAttempt}
    (h : (CoordinationAttempt.query a).Extends b) :
    ∃ b', b = .query b' ∧ b'.request = a.request := by
  have hrequest := h.request
  cases b with
  | query b => exact ⟨b, rfl, by simpa [CoordinationAttempt.request] using hrequest⟩
  | prepare b => cases hrequest
  | commit b => cases hrequest

end CoordinationAttempt.Extends

namespace CoordinationJournalRecord

/-- What an operation may bring into a record: outcomes, and a local close of a record that
    does or does not retain a commit attempt; and the effects it may create a record for. -/
structure Changes where
  outcome : SignedEffectOutcome → Prop
  localClose : Bool → Prop
  create : EffectId → Prop

def Changes.none : Changes := ⟨fun _ => False, fun _ => False, fun _ => False⟩

/-- Only a record of this effect may be created. -/
def Changes.creating (effectId : EffectId) : Changes :=
  ⟨fun _ => False, fun _ => False, fun k => k = effectId⟩

/-- Only outcomes come in. -/
def Changes.answering (outcome : SignedEffectOutcome → Prop) : Changes :=
  ⟨outcome, fun _ => False, fun _ => False⟩

def Changes.any : Changes := ⟨fun _ => True, fun _ => True, fun _ => True⟩

def Changes.Within (c c' : Changes) : Prop :=
  (∀ o, c.outcome o → c'.outcome o) ∧
    (∀ committed, c.localClose committed → c'.localClose committed) ∧
    ∀ k, c.create k → c'.create k

theorem Changes.within_any (c : Changes) : c.Within .any :=
  ⟨fun _ _ => trivial, fun _ _ => trivial, fun _ _ => trivial⟩

theorem Changes.answering_within {outcome outcome' : SignedEffectOutcome → Prop}
    (h : ∀ o, outcome o → outcome' o) : (answering outcome).Within (answering outcome') :=
  ⟨h, fun _ hclose => hclose, fun _ hcreate => hcreate⟩

/-- A query of the record was answered NOT_DISPATCHED. -/
def RetainsNotDispatched (r : CoordinationJournalRecord) : Prop :=
  ∃ q o, .query q ∈ r.attempts ∧ q.outcome = some o ∧ o.disposition = .notDispatched

/-- The transitions are numbered and follow the table from RECEIVED. -/
structure LegalHistory (r : CoordinationJournalRecord) : Prop where
  path : LegalPath (r.transitions.map (fun t => t.state))
  received : (r.transitions.map (fun t => t.state)).head? = some .received
  sequence : ∀ i t, r.transitions[i]? = some t → t.sequence = i + 1

theorem LegalHistory.length_le_five {r : CoordinationJournalRecord} (h : r.LegalHistory) :
    r.transitions.length ≤ 5 := by
  simpa using h.path.length_le_five

theorem ValidHistory.legalHistory [Primitives] {r : CoordinationJournalRecord}
    (h : r.ValidHistory) : r.LegalHistory :=
  ⟨h.legalPath, h.head_received, h.transitionSequence⟩

/-- `r'` is `r` with more history, within the given changes. -/
structure Extends (changes : Changes) (r r' : CoordinationJournalRecord) :
    Prop where
  effect : r'.effect = r.effect
  transitions : r.transitions <+: r'.transitions
  terminal : r.state.terminal = true → r'.transitions = r.transitions
  legal : r.LegalHistory → r'.LegalHistory
  attempts : ∀ (i : Nat) a, r.attempts[i]? = some a → ∃ b, r'.attempts[i]? = some b ∧ a.Extends b
  newOutcome : ∀ (i : Nat) b o, r'.attempts[i]? = some b → b.outcome = some o →
    (∃ a, r.attempts[i]? = some a ∧ a.outcome = some o) ∨
    (changes.outcome o ∧ (r.state.terminal = true → o.disposition.state = r.state))
  newCommit : r.state.terminal = true → r'.hasCommit = true → r.hasCommit = true
  newNotDispatched : r'.state = .notDispatched →
    r.state = .notDispatched ∨ changes.localClose r'.hasCommit ∨ r'.RetainsNotDispatched

/-- Attempts carry their positions. -/
def Numbered (r : CoordinationJournalRecord) : Prop :=
  ∀ (i : Nat) a, r.attempts[i]? = some a → a.base.sequence = i + 1

theorem ValidHistory.numbered [Primitives] {r : CoordinationJournalRecord}
    (h : r.ValidHistory) : r.Numbered :=
  fun _ _ ha => h.attempt_sequence ha

theorem state_congr {r r' : CoordinationJournalRecord} (h : r'.transitions = r.transitions) :
    r'.state = r.state := by
  simp [state, h]

@[simp] theorem state_appendAttempt (r : CoordinationJournalRecord) (a : CoordinationAttempt) :
    (r.appendAttempt a).state = r.state := rfl

@[simp] theorem state_replaceAttempt (r : CoordinationJournalRecord) (a : CoordinationAttempt) :
    (r.replaceAttempt a).state = r.state := rfl

variable {changes : Changes} {r r' r'' : CoordinationJournalRecord}

namespace Extends

theorem refl (r : CoordinationJournalRecord) : r.Extends changes r :=
  { effect := rfl
    transitions := List.prefix_rfl
    terminal := fun _ => rfl
    legal := id
    attempts := fun _ a ha => ⟨a, ha, .refl a⟩
    newOutcome := fun _ b _ hb ho => Or.inl ⟨b, hb, ho⟩
    newCommit := fun _ h => h
    newNotDispatched := Or.inl }

theorem state_eq (h : r.Extends changes r') (hterminal : r.state.terminal = true) :
    r'.state = r.state :=
  state_congr (h.terminal hterminal)

theorem retainsNotDispatched (h : r.Extends changes r') (hr : r.RetainsNotDispatched) :
    r'.RetainsNotDispatched := by
  obtain ⟨q, o, hq, ho, hnd⟩ := hr
  obtain ⟨i, hi⟩ := List.getElem?_of_mem hq
  obtain ⟨b, hb, hext⟩ := h.attempts i _ hi
  obtain ⟨b, rfl, -⟩ := hext.exists_query
  exact ⟨b, o, List.mem_of_getElem? hb, hext.outcome o ho, hnd⟩

/-- A retained commit attempt is never lost. -/
theorem commit_mem (h : r.Extends changes r') {a : EffectCommitAttempt}
    (ha : .commit a ∈ r.attempts) :
    ∃ b, .commit b ∈ r'.attempts ∧ b.request = a.request ∧
      (∀ acceptance ∈ a.acceptance, b.acceptance = some acceptance) ∧
      ∀ o ∈ a.outcome, b.outcome = some o := by
  obtain ⟨i, hi⟩ := List.getElem?_of_mem ha
  obtain ⟨b, hb, hext⟩ := h.attempts i _ hi
  obtain ⟨b, rfl, hrequest⟩ := hext.exists_commit
  exact ⟨b, List.mem_of_getElem? hb, hrequest, hext.acceptance, hext.outcome⟩

theorem hasCommit (h : r.Extends changes r') (hc : r.hasCommit = true) : r'.hasCommit = true := by
  obtain ⟨a, ha, hcommit⟩ := List.any_eq_true.mp hc
  cases a with
  | commit a =>
    obtain ⟨b, hb, -⟩ := h.commit_mem ha
    exact List.any_eq_true.mpr ⟨_, hb, rfl⟩
  | prepare a => cases hcommit
  | query a => cases hcommit

/-- After a terminal state nothing changes whether there is a commit attempt. -/
theorem hasCommit_eq (h : r.Extends changes r') (hterminal : r.state.terminal = true) :
    r'.hasCommit = r.hasCommit := by
  rw [Bool.eq_iff_iff]
  exact ⟨h.newCommit hterminal, h.hasCommit⟩

theorem trans (h : r.Extends changes r') (h' : r'.Extends changes r'') : r.Extends changes r'' :=
  { effect := h'.effect.trans h.effect
    transitions := h.transitions.trans h'.transitions
    terminal := fun ht =>
      (h'.terminal ((h.state_eq ht).symm ▸ ht)).trans (h.terminal ht)
    legal := h'.legal ∘ h.legal
    attempts := fun i a ha => by
      obtain ⟨b, hb, hab⟩ := h.attempts i a ha
      obtain ⟨c, hc, hbc⟩ := h'.attempts i b hb
      exact ⟨c, hc, hab.trans hbc⟩
    newOutcome := fun i c o hc ho => by
      rcases h'.newOutcome i c o hc ho with ⟨b, hb, hbo⟩ | ⟨hfresh, hstate⟩
      · exact h.newOutcome i b o hb hbo
      · refine Or.inr ⟨hfresh, fun ht => ?_⟩
        rw [← h.state_eq ht]
        exact hstate ((h.state_eq ht).symm ▸ ht)
    newCommit := fun ht hc =>
      h.newCommit ht (h'.newCommit ((h.state_eq ht).symm ▸ ht) hc)
    newNotDispatched := fun hnd => by
      rcases h'.newNotDispatched hnd with hmiddle | hclose | hretains
      · rcases h.newNotDispatched hmiddle with hstart | hclose | hretains
        · exact Or.inl hstart
        · have hsame := h'.hasCommit_eq (by rw [hmiddle]; rfl)
          exact Or.inr (Or.inl (hsame ▸ hclose))
        · exact Or.inr (Or.inr (h'.retainsNotDispatched hretains))
      · exact Or.inr (Or.inl hclose)
      · exact Or.inr (Or.inr hretains) }

/-- A retained outcome stays where it is. -/
theorem outcome_mem (h : r.Extends changes r') {a : CoordinationAttempt} {o : SignedEffectOutcome}
    (ha : a ∈ r.attempts) (ho : a.outcome = some o) :
    ∃ b ∈ r'.attempts, b.outcome = some o ∧ b.request = a.request := by
  obtain ⟨i, hi⟩ := List.getElem?_of_mem ha
  obtain ⟨b, hb, hext⟩ := h.attempts i _ hi
  exact ⟨b, List.mem_of_getElem? hb, hext.outcome o ho, hext.request⟩

theorem weaken {changes' : Changes} (hsub : changes.Within changes')
    (h : r.Extends changes r') : r.Extends changes' r' :=
  { effect := h.effect
    transitions := h.transitions
    terminal := h.terminal
    legal := h.legal
    attempts := h.attempts
    newOutcome := fun i b o hb ho =>
      (h.newOutcome i b o hb ho).imp id (And.imp_left (hsub.1 o))
    newCommit := h.newCommit
    newNotDispatched := fun hnd => (h.newNotDispatched hnd).imp id (Or.imp_left (hsub.2.1 _)) }

end Extends

/-- Appending an attempt without an outcome; a commit attempt only to a nonterminal record. -/
theorem extends_appendAttempt (a : CoordinationAttempt) (houtcome : a.outcome = none)
    (hcommit : a.isCommit = true → r.state.terminal = false) :
    r.Extends changes (r.appendAttempt a) :=
  { effect := rfl
    transitions := List.prefix_rfl
    terminal := fun _ => rfl
    legal := fun h => ⟨h.path, h.received, h.sequence⟩
    attempts := fun i b hb => by
      refine ⟨b, ?_, .refl b⟩
      have hlt := (List.getElem?_eq_some_iff.mp hb).1
      simpa [appendAttempt, List.getElem?_append_left hlt] using hb
    newOutcome := fun i b o hb ho => by
      rw [appendAttempt, List.getElem?_append] at hb
      split at hb
      · exact Or.inl ⟨b, hb, ho⟩
      · have hmem : b ∈ [a] := List.mem_of_getElem? hb
        rw [List.mem_singleton.mp hmem, houtcome] at ho
        cases ho
    newCommit := fun ht hc => by
      rw [CoordinationJournalRecord.hasCommit, appendAttempt, List.any_append,
        Bool.or_eq_true] at hc
      rcases hc with hc | hc
      · exact hc
      · simp only [List.any_cons, List.any_nil, Bool.or_false] at hc
        rw [hcommit hc] at ht
        cases ht
    newNotDispatched := Or.inl }

theorem getElem?_replaceAttempt (r : CoordinationJournalRecord) (x : CoordinationAttempt)
    (i : Nat) :
    (r.replaceAttempt x).attempts[i]? =
      r.attempts[i]?.map
        (fun item => if item.base.sequence = x.base.sequence then x else item) := by
  simp [replaceAttempt]

/-- Completing one attempt in place. -/
theorem extends_replaceAttempt (hnumbered : r.Numbered) {a x : CoordinationAttempt}
    (ha : a ∈ r.attempts) (hext : a.Extends x)
    (houtcome : ∀ o ∈ x.outcome, a.outcome = some o ∨
      (changes.outcome o ∧ (r.state.terminal = true → o.disposition.state = r.state))) :
    r.Extends changes (r.replaceAttempt x) := by
  obtain ⟨k, hk⟩ := List.getElem?_of_mem ha
  -- Sequence numbers are positions, so only the attempt `a` itself is replaced.
  have honly (i : Nat) (b : CoordinationAttempt) (hb : r.attempts[i]? = some b)
      (hseq : b.base.sequence = x.base.sequence) : b = a := by
    have hi := hnumbered i b hb
    have hk' := hnumbered k a hk
    rw [hseq, hext.sequence, hk'] at hi
    obtain rfl : k = i := by omega
    exact Option.some.inj (hb.symm.trans hk)
  refine ⟨rfl, List.prefix_rfl, fun _ => rfl, fun h => ⟨h.path, h.received, h.sequence⟩, ?_,
    ?_, ?_, Or.inl⟩
  · intro i b hb
    rw [getElem?_replaceAttempt, hb]
    by_cases hseq : b.base.sequence = x.base.sequence
    · exact ⟨x, by simp [hseq], honly i b hb hseq ▸ hext⟩
    · exact ⟨b, by simp [hseq], .refl b⟩
  · intro i b o hb ho
    rw [getElem?_replaceAttempt, Option.map_eq_some_iff] at hb
    obtain ⟨c, hc, hcb⟩ := hb
    by_cases hseq : c.base.sequence = x.base.sequence
    · rw [if_pos hseq] at hcb
      subst hcb
      rcases houtcome o ho with ho | ho
      · exact Or.inl ⟨c, hc, honly i c hc hseq ▸ ho⟩
      · exact Or.inr ho
    · rw [if_neg hseq] at hcb
      exact Or.inl ⟨c, hc, hcb ▸ ho⟩
  · intro _ hc
    obtain ⟨b, hb, hcommit⟩ := List.any_eq_true.mp hc
    obtain ⟨c, hcmem, hcb⟩ := List.mem_map.mp hb
    by_cases hseq : c.base.sequence = x.base.sequence
    · rw [if_pos hseq] at hcb
      subst hcb
      exact List.any_eq_true.mpr ⟨a, ha, hext.isCommit ▸ hcommit⟩
    · rw [if_neg hseq] at hcb
      exact List.any_eq_true.mpr ⟨c, hcmem, hcb ▸ hcommit⟩

/-- Nothing is appended when an attempt is completed in place. -/
theorem length_replaceAttempt (r : CoordinationJournalRecord) (x : CoordinationAttempt) :
    (r.replaceAttempt x).attempts.length = r.attempts.length := by
  simp [replaceAttempt]

theorem numbered_replaceAttempt (hnumbered : r.Numbered) (x : CoordinationAttempt) :
    (r.replaceAttempt x).Numbered := by
  intro i b hb
  rw [getElem?_replaceAttempt, Option.map_eq_some_iff] at hb
  obtain ⟨c, hc, hcb⟩ := hb
  split at hcb
  · rename_i hseq
    rw [← hcb, ← hseq]
    exact hnumbered i c hc
  · rw [← hcb]
    exact hnumbered i c hc

theorem transition_eq_ok {target : CoordinationState} {evidence : Option Sha256}
    {reason : String} {time : Time} :
    r.transition target evidence reason time = .ok r' ↔
      r.state.terminal = false ∧ r.state.canTransitionTo target = true ∧
      (r.nextTransition target evidence reason time).validate = .ok () ∧
      { r with transitions :=
          r.transitions ++ [r.nextTransition target evidence reason time] } = r' := by
  simp [transition]

theorem state_transition {target : CoordinationState} {evidence : Option Sha256}
    {reason : String} {time : Time} (h : r.transition target evidence reason time = .ok r') :
    r'.state = target := by
  obtain ⟨-, -, -, rfl⟩ := transition_eq_ok.mp h
  simp [state, nextTransition]

theorem legalHistory_transition (hlegal : r.LegalHistory) {target : CoordinationState}
    {evidence : Option Sha256} {reason : String} {time : Time}
    (h : r.transition target evidence reason time = .ok r') : r'.LegalHistory := by
  obtain ⟨-, hlegalStep, -, rfl⟩ := transition_eq_ok.mp h
  refine ⟨?_, ?_, ?_⟩
  · rw [LegalPath, List.map_append, List.isChain_append]
    refine ⟨hlegal.path, by simp, ?_⟩
    intro s hs t ht
    rw [List.getLast?_map, Option.mem_def, Option.map_eq_some_iff] at hs
    obtain ⟨last, hlast, rfl⟩ := hs
    obtain rfl : target = t := by simpa [nextTransition] using ht
    rwa [← ValidHistory.state_eq hlast]
  · rw [List.map_append, List.head?_append, hlegal.received]
    rfl
  · intro i t ht
    rw [List.getElem?_append] at ht
    split at ht
    · exact hlegal.sequence i t ht
    · rename_i hi
      obtain ⟨hlt, rfl⟩ := List.getElem?_eq_some_iff.mp ht
      simp only [List.length_singleton] at hlt
      simp only [List.getElem_singleton, nextTransition]
      omega

theorem extends_transition {target : CoordinationState} {evidence : Option Sha256}
    {reason : String} {time : Time} (h : r.transition target evidence reason time = .ok r')
    (hnd : target = .notDispatched →
      changes.localClose r.hasCommit ∨ r.RetainsNotDispatched) :
    r.Extends changes r' := by
  have hstate := state_transition h
  have hlegal := fun hr => legalHistory_transition hr h
  obtain ⟨hnonterminal, -, -, rfl⟩ := transition_eq_ok.mp h
  exact
    { effect := rfl
      transitions := List.prefix_append _ _
      terminal := fun ht => by simp [hnonterminal] at ht
      legal := hlegal
      attempts := fun _ a ha => ⟨a, ha, .refl a⟩
      newOutcome := fun _ b _ hb ho => Or.inl ⟨b, hb, ho⟩
      newCommit := fun _ hc => hc
      newNotDispatched := fun hr => Or.inr (hnd (hstate.symm.trans hr)) }

theorem attempts_transition {target : CoordinationState} {evidence : Option Sha256}
    {reason : String} {time : Time} (h : r.transition target evidence reason time = .ok r') :
    r'.attempts = r.attempts := by
  obtain ⟨-, -, -, rfl⟩ := transition_eq_ok.mp h
  rfl

variable [Primitives]

omit [Primitives] in
/-- `next((item for item in items if isinstance(item, K) and matches(item)), None)`. -/
theorem exists_of_findSome?_filter {α β : Type} {items : List α} {kind : α → Option β}
    {matching : β → Bool} {b : β}
    (h : items.findSome? (fun item => (kind item).filter matching) = some b) :
    (∃ item ∈ items, kind item = some b) ∧ matching b = true := by
  obtain ⟨item, hmem, hfound⟩ := List.exists_of_findSome?_eq_some h
  obtain ⟨hkind, hmatching⟩ := Option.filter_eq_some_iff.mp hfound
  exact ⟨⟨item, hmem, hkind⟩, hmatching⟩

theorem mem_of_prepareAttempt {request : SignedEffectPrepareRequest} {a : EffectPrepareAttempt}
    (h : r.prepareAttempt request = some a) :
    .prepare a ∈ r.attempts ∧ a.requestSha256 = request.digest := by
  simpa using exists_of_findSome?_filter h

theorem mem_of_commitAttempt {request : SignedEffectCommitRequest} {a : EffectCommitAttempt}
    (h : r.commitAttempt request = some a) :
    .commit a ∈ r.attempts ∧ a.requestSha256 = request.digest := by
  simpa using exists_of_findSome?_filter h

theorem mem_of_queryAttempt {request : SignedEffectQueryRequest} {a : EffectQueryAttempt}
    (h : r.queryAttempt request = some a) :
    .query a ∈ r.attempts ∧ a.requestSha256 = request.digest := by
  simpa using exists_of_findSome?_filter h

/-- The one commit attempt of a record is found under its request. -/
theorem ValidHistory.commitAttempt_eq (h : r.ValidHistory) {a : EffectCommitAttempt}
    (ha : .commit a ∈ r.attempts) : r.commitAttempt a.request = some a := by
  have hexact := CoordinationAttempt.commit_exact (h.attemptsValid _ ha)
  cases hfound : r.commitAttempt a.request with
  | none =>
    have := List.findSome?_eq_none_iff.mp hfound (.commit a) ha
    simp [CoordinationAttempt.commit?, EffectCommitAttempt.requestSha256_eq hexact] at this
  | some b => rw [h.commit_unique ha (mem_of_commitAttempt hfound).1]

end CoordinationJournalRecord

/-! ## Rewriting helpers -/

section Helpers

variable [Primitives] {changes : Changes} {r r' : CoordinationJournalRecord}

open CoordinationJournalRecord

theorem extends_committedRecord {request : SignedEffectCommitRequest}
    {acceptance : Option DurableCommitAcceptance} {time : Time}
    (h : committedRecord r request acceptance time = .ok r')
    (hnonterminal : r.state.terminal = false) : r.Extends changes r' := by
  simp only [committedRecord, bind_unit_eq_ok] at h
  obtain ⟨-, h⟩ := h
  cases acceptance with
  | none =>
    obtain rfl := Except.ok.inj h
    exact extends_appendAttempt _ rfl (fun _ => hnonterminal)
  | some acceptance =>
    exact (extends_appendAttempt _ rfl (fun _ => hnonterminal)).trans
      (extends_transition h (fun hnd => by cases hnd))

omit [Primitives] in
theorem extends_becomeUnknown {evidence : Sha256} {reason : String} {time : Time}
    {otherwise : PyError} (h : becomeUnknown r evidence reason time otherwise = .ok r') :
    r.Extends changes r' := by
  unfold becomeUnknown at h
  split at h
  · exact extends_transition h (fun hnd => by cases hnd)
  · simp only [bind_unit_eq_ok, pure_eq_ok, Except.ok.injEq] at h
    exact h.2 ▸ .refl r

theorem extends_settle {outcome : SignedEffectOutcome} {reason : String} {time : Time}
    (h : settle r outcome reason time = .ok r')
    (hnd : outcome.disposition = .notDispatched → r.RetainsNotDispatched) :
    r.Extends changes r' := by
  unfold settle at h
  split at h
  · exact Except.ok.inj h ▸ .refl r
  · refine extends_transition h (fun hstate => Or.inr (hnd ?_))
    cases hdisposition : outcome.disposition <;>
      simp_all [EffectDisposition.state]

theorem state_settle {outcome : SignedEffectOutcome} {reason : String} {time : Time}
    (h : settle r outcome reason time = .ok r') : r'.state = outcome.disposition.state := by
  unfold settle at h
  split at h
  · rename_i hstate
    exact Except.ok.inj h ▸ hstate
  · exact state_transition h

theorem attempts_settle {outcome : SignedEffectOutcome} {reason : String} {time : Time}
    (h : settle r outcome reason time = .ok r') : r'.attempts = r.attempts := by
  unfold settle at h
  split at h
  · exact Except.ok.inj h ▸ rfl
  · exact attempts_transition h

theorem extends_acceptCommit {acceptance : DurableCommitAcceptance} {time : Time}
    (h : acceptCommit r acceptance time = .ok r') : r.Extends changes r' := by
  unfold acceptCommit at h
  split at h
  · exact extends_transition h (fun hnd => by cases hnd)
  · simp only [bind_unit_eq_ok, pure_eq_ok, Except.ok.injEq] at h
    exact h.2 ▸ .refl r

theorem attempts_acceptCommit {acceptance : DurableCommitAcceptance} {time : Time}
    (h : acceptCommit r acceptance time = .ok r') : r'.attempts = r.attempts := by
  unfold acceptCommit at h
  split at h
  · exact attempts_transition h
  · simp only [bind_unit_eq_ok, pure_eq_ok, Except.ok.injEq] at h
    exact h.2 ▸ rfl

omit [Primitives] in
theorem extends_retainAcceptance (hnumbered : r.Numbered) {attempt : EffectCommitAttempt}
    (hattempt : .commit attempt ∈ r.attempts) (acceptance : DurableCommitAcceptance)
    (time : Time) : r.Extends changes (retainAcceptance r attempt acceptance time) := by
  unfold retainAcceptance
  split
  · rename_i hnone
    refine extends_replaceAttempt hnumbered hattempt ?_ (fun o ho => Or.inl ho)
    exact ⟨rfl, rfl, rfl, fun _ h => h,
      fun _ h => by simp [CoordinationAttempt.acceptance?, hnone] at h, fun _ h => h⟩
  · exact .refl r

omit [Primitives] in
theorem numbered_retainAcceptance (hnumbered : r.Numbered) (attempt : EffectCommitAttempt)
    (acceptance : DurableCommitAcceptance) (time : Time) :
    (retainAcceptance r attempt acceptance time).Numbered := by
  unfold retainAcceptance
  split
  · exact numbered_replaceAttempt hnumbered _
  · exact hnumbered

/-- `_bind_outcome_acceptance` read backwards. -/
theorem bindOutcomeAcceptance_eq_ok {outcome : SignedEffectOutcome} {time : Time} :
    bindOutcomeAcceptance r outcome time = .ok r' ↔
      (outcome.disposition = .notDispatched → outcome.acceptance = none ∧
        r.latestAcceptance = none ∧ r = r') ∧
      (outcome.disposition ≠ .notDispatched → ∃ acceptance attempt,
        outcome.acceptance = some acceptance ∧
        r.commitAttempt acceptance.commitRequest = some attempt ∧
        validateAcceptance attempt.request acceptance none = .ok () ∧
        acceptance.acceptedAt ≤ time ∧
        (∀ retained ∈ attempt.acceptance, retained = acceptance) ∧
        acceptCommit (retainAcceptance r attempt acceptance time) acceptance time = .ok r') := by
  unfold bindOutcomeAcceptance
  by_cases hnd : outcome.disposition = .notDispatched
  · simp [hnd, and_assoc]
  · simp only [hnd, if_false, bind_eq_ok, orRaise_eq_ok, refuseIf_eq_ok, exists_const,
      false_implies, true_and, ne_eq, not_false_eq_true, true_implies, not_lt, not_exists,
      not_and, not_not]
    constructor
    · rintro ⟨acceptance, hacceptance, attempt, hattempt, ⟨⟩, hvalid, htime, hsame, hbound⟩
      exact ⟨acceptance, attempt, hacceptance, hattempt, hvalid, htime, hsame, hbound⟩
    · rintro ⟨acceptance, attempt, hacceptance, hattempt, hvalid, htime, hsame, hbound⟩
      exact ⟨acceptance, hacceptance, attempt, hattempt, (), hvalid, htime, hsame, hbound⟩

/-- Binding an acceptance completes the commit attempt it names and may move the record on. -/
theorem extends_bindOutcomeAcceptance (changes : Changes)
    (hnumbered : r.Numbered) {outcome : SignedEffectOutcome} {time : Time}
    (h : bindOutcomeAcceptance r outcome time = .ok r') :
    r.Extends changes r' ∧ r'.Numbered := by
  obtain ⟨hnd, hdispatched⟩ := bindOutcomeAcceptance_eq_ok.mp h
  by_cases hdisposition : outcome.disposition = .notDispatched
  · obtain ⟨-, -, rfl⟩ := hnd hdisposition
    exact ⟨.refl r, hnumbered⟩
  · obtain ⟨acceptance, attempt, -, hattempt, -, -, -, hbound⟩ := hdispatched hdisposition
    refine ⟨(extends_retainAcceptance hnumbered (mem_of_commitAttempt hattempt).1 acceptance
      time).trans (extends_acceptCommit hbound), ?_⟩
    rw [Numbered, attempts_acceptCommit hbound]
    exact numbered_retainAcceptance hnumbered attempt acceptance time

theorem extends_appendPreparation {request : SignedEffectPrepareRequest}
    {receipt : Option CoordinationReceipt} {time : Time}
    (h : appendPreparation r request receipt time = .ok r') : r.Extends changes r' := by
  simp only [appendPreparation, bind_unit_eq_ok, pure_eq_ok, Except.ok.injEq] at h
  obtain ⟨-, rfl⟩ := h
  exact extends_appendAttempt _ rfl (fun hcommit => by cases hcommit)

theorem extends_retainReceipt (hnumbered : r.Numbered) {attempt : EffectPrepareAttempt}
    (hattempt : .prepare attempt ∈ r.attempts) (hnone : attempt.receipt = none)
    {receipt : CoordinationReceipt} {time : Time}
    (h : retainReceipt r attempt receipt time = .ok r') : r.Extends changes r' := by
  simp only [retainReceipt, bind_unit_eq_ok] at h
  obtain ⟨-, h⟩ := h
  have hreplace : r.Extends changes (r.replaceAttempt (.prepare { attempt with
      status := .responseRetained, receipt := some receipt, updatedAt := time })) := by
    refine extends_replaceAttempt hnumbered hattempt ?_ (fun o ho => by cases ho)
    exact ⟨rfl, rfl, rfl, fun _ hr => by simp [CoordinationAttempt.receipt?, hnone] at hr,
      fun _ hr => hr, fun _ hr => hr⟩
  split at h
  · exact hreplace.trans (extends_transition h (fun hnd => by cases hnd))
  · exact Except.ok.inj h ▸ hreplace

end Helpers

/-! ## Plans -/

section Plans

variable [Primitives] {role : JournalRole} {changes : Changes}

open CoordinationJournalRecord

/-- A record an operation may store: the first of a new effect, or an extension of the entry
    the journal holds. -/
inductive Journal.Update (j : Journal role) (changes : Changes) :
    CoordinationJournalRecord → Prop where
  | create (request : SignedEffectPrepareRequest) (receipt : Option CoordinationReceipt)
      (time : Time) (hcreate : changes.create request.effect.effectId)
      (hnew : j.records.find? request.effect.effectId = none) :
      Update j changes (newRecord request receipt time)
  | extend (entry : JournalEntry role) (record : CoordinationJournalRecord)
      (hfound : j.records.find? entry.record.effect.effectId = some entry)
      (hext : entry.record.Extends changes record) : Update j changes record

variable {j : Journal role}

theorem Journal.lookup_eq_some {effect : EffectIdentity} {entry : JournalEntry role} :
    j.lookup effect = .ok (some entry) ↔
      j.records.find? effect.effectId = some entry ∧ entry.record.effect = effect := by
  simp only [Journal.lookup, bind_unit_eq_ok, refuseIf_eq_ok, pure_eq_ok, Except.ok.injEq]
  constructor
  · rintro ⟨hsame, hfound⟩
    refine ⟨hfound, ?_⟩
    by_contra hne
    exact hsame ⟨entry, hfound, hne⟩
  · rintro ⟨hfound, heffect⟩
    refine ⟨?_, hfound⟩
    rintro ⟨e, he, hne⟩
    rw [show j.records.find? effect.effectId = some e from he, Option.some.injEq] at hfound
    exact hne (hfound ▸ heffect)

theorem Journal.lookup_eq_none {effect : EffectIdentity} :
    j.lookup effect = .ok none ↔ j.records.find? effect.effectId = none := by
  simp only [Journal.lookup, bind_unit_eq_ok, refuseIf_eq_ok, pure_eq_ok, Except.ok.injEq]
  constructor
  · rintro ⟨-, hfound⟩
    exact hfound
  · intro hfound
    refine ⟨?_, hfound⟩
    rintro ⟨e, he, -⟩
    rw [hfound] at he
    cases he

/-- The entry `_lookup` returned is the one under its own effect. -/
theorem Journal.found_of_lookup {effect : EffectIdentity} {entry : JournalEntry role}
    (h : j.lookup effect = .ok (some entry)) :
    j.records.find? entry.record.effect.effectId = some entry := by
  obtain ⟨hfound, heffect⟩ := Journal.lookup_eq_some.mp h
  rw [heffect]
  exact hfound

variable {r' : CoordinationJournalRecord}

theorem update_beginCommitRecord {request : SignedEffectCommitRequest}
    {issue : Option CommitAcceptanceIssuer} {recordedAt : Option RecordedAt} {now : Time}
    {k : JournalEntry role → JournalEntry role × Bool}
    (h : j.beginCommitRecord request issue recordedAt now = .ok (.store r' k)) :
    j.Update changes r' := by
  simp only [Journal.beginCommitRecord, bind_eq_ok, orRaise_eq_ok] at h
  obtain ⟨found, hlookup, entry, rfl, h⟩ := h
  split at h
  · cases h
  · simp only [bind_eq_ok, refuseIf_eq_ok, exists_const] at h
    obtain ⟨-, hterminal, -, -, -, -, time, -, acceptance, -, updated, hupdated, hplan⟩ := h
    obtain ⟨rfl, -⟩ := Plan.store.inj (Except.ok.inj hplan)
    exact .extend entry _ (Journal.found_of_lookup hlookup)
      (extends_committedRecord hupdated (by simpa using hterminal))

/-- A commit attempt of an entry without a retained response has no outcome. -/
theorem JournalEntry.commit_outcome_none (entry : JournalEntry role) {a : EffectCommitAttempt}
    (ha : .commit a ∈ entry.record.attempts) (hstatus : a.status ≠ .responseRetained) :
    a.outcome = none := by
  cases houtcome : a.outcome with
  | none => rfl
  | some o =>
    have hexact := CoordinationAttempt.commit_exact (entry.history.attemptsValid _ ha)
    exact absurd (EffectCommitAttempt.outcome_spec hexact houtcome).1 hstatus

theorem JournalEntry.query_outcome_none (entry : JournalEntry role) {a : EffectQueryAttempt}
    (ha : .query a ∈ entry.record.attempts) (hstatus : a.status ≠ .responseRetained) :
    a.outcome = none := by
  cases houtcome : a.outcome with
  | none => rfl
  | some o =>
    have hexact := CoordinationAttempt.query_exact (entry.history.attemptsValid _ ha)
    exact absurd (EffectQueryAttempt.outcome_spec hexact houtcome).1 hstatus

theorem update_markCommitUnknownRecord {request : SignedEffectCommitRequest} {reason : String}
    {evidence : Option Sha256} {recordedAt : Option RecordedAt} {now : Time}
    {k : JournalEntry role → JournalEntry role}
    (h : j.markCommitUnknownRecord request reason evidence recordedAt now =
      .ok (.store r' k)) : j.Update changes r' := by
  simp only [Journal.markCommitUnknownRecord, bind_eq_ok, orRaise_eq_ok] at h
  obtain ⟨found, hlookup, entry, rfl, attempt, hattempt, ⟨⟩, -, h⟩ := h
  have hmem := (mem_of_commitAttempt hattempt).1
  split at h
  · cases h
  · simp at h
  · rename_i hstatus
    simp only [bind_eq_ok] at h
    obtain ⟨time, -, ⟨⟩, -, updated, hupdated, hplan⟩ := h
    obtain ⟨rfl, -⟩ := Plan.store.inj (Except.ok.inj hplan)
    refine .extend entry _ (Journal.found_of_lookup hlookup) ?_
    refine (extends_replaceAttempt entry.history.numbered hmem ?_
      (fun o ho => by cases ho)).trans (extends_becomeUnknown hupdated)
    refine ⟨rfl, rfl, rfl, fun _ hr => hr, fun _ hr => hr, fun o ho => ?_⟩
    rw [CoordinationAttempt.outcome, entry.commit_outcome_none hmem (by simp [hstatus])] at ho
    cases ho

theorem length_bindOutcomeAcceptance {r bound : CoordinationJournalRecord}
    {outcome : SignedEffectOutcome} {time : Time}
    (h : bindOutcomeAcceptance r outcome time = .ok bound) :
    bound.attempts.length = r.attempts.length := by
  obtain ⟨hnd, hdispatched⟩ := bindOutcomeAcceptance_eq_ok.mp h
  by_cases hdisposition : outcome.disposition = .notDispatched
  · obtain ⟨-, -, rfl⟩ := hnd hdisposition
    rfl
  · obtain ⟨acceptance, attempt, -, -, -, -, -, hbound⟩ := hdispatched hdisposition
    rw [attempts_acceptCommit hbound, retainAcceptance]
    split
    · exact length_replaceAttempt r _
    · rfl

omit [Primitives] in
/-- Without new attempts every attempt extends the one at its position. -/
theorem CoordinationJournalRecord.Extends.of_getElem? {r r' : CoordinationJournalRecord}
    (h : r.Extends changes r') (hlength : r'.attempts.length = r.attempts.length) {i : Nat}
    {b : CoordinationAttempt}
    (hb : r'.attempts[i]? = some b) : ∃ a, r.attempts[i]? = some a ∧ a.Extends b := by
  obtain ⟨hlt, -⟩ := List.getElem?_eq_some_iff.mp hb
  obtain ⟨a, ha⟩ : ∃ a, r.attempts[i]? = some a :=
    ⟨_, List.getElem?_eq_getElem (hlength ▸ hlt)⟩
  obtain ⟨b', hb', hext⟩ := h.attempts i a ha
  obtain rfl : b' = b := Option.some.inj (hb'.symm.trans hb)
  exact ⟨a, ha, hext⟩

theorem state_bindOutcomeAcceptance {r bound : CoordinationJournalRecord}
    {outcome : SignedEffectOutcome} {time : Time}
    (h : bindOutcomeAcceptance r outcome time = .ok bound)
    (hterminal : bound.state.terminal = true) : bound.state = r.state := by
  obtain ⟨hnd, hdispatched⟩ := bindOutcomeAcceptance_eq_ok.mp h
  by_cases hdisposition : outcome.disposition = .notDispatched
  · obtain ⟨-, -, rfl⟩ := hnd hdisposition
    rfl
  · obtain ⟨acceptance, attempt, -, -, -, -, -, hbound⟩ := hdispatched hdisposition
    have hsame : (retainAcceptance r attempt acceptance time).state = r.state := by
      unfold retainAcceptance
      split <;> rfl
    unfold acceptCommit at hbound
    split at hbound
    · rw [state_transition hbound] at hterminal
      cases hterminal
    · simp only [bind_unit_eq_ok, pure_eq_ok, Except.ok.injEq] at hbound
      rw [← hbound.2, hsame]

/-- Retaining an outcome in an attempt that has none, after its acceptance was bound. -/
theorem extends_retainOutcome {r bound : CoordinationJournalRecord} {outcome : SignedEffectOutcome}
    {time : Time} (hnumbered : r.Numbered)
    (hbound : bindOutcomeAcceptance r outcome time = .ok bound)
    (htarget : r.state.terminal = true → outcome.disposition.state = r.state)
    {a b x : CoordinationAttempt} {i : Nat} (ha : r.attempts[i]? = some a)
    (hb : bound.attempts[i]? = some b) (hnone : a.outcome = none) (hfresh : changes.outcome outcome)
    (hrequest : x.request = b.request) (hsha : x.base.requestSha256 = b.base.requestSha256)
    (hsequence : x.base.sequence = b.base.sequence) (hreceipt : x.receipt? = b.receipt?)
    (hacceptance : x.acceptance? = b.acceptance?) (houtcome : x.outcome = some outcome) :
    r.Extends changes (bound.replaceAttempt x) := by
  have hextends := (extends_bindOutcomeAcceptance changes hnumbered hbound).1
  have hnothing := (extends_bindOutcomeAcceptance Changes.none hnumbered hbound).1
  have hboundNumbered := (extends_bindOutcomeAcceptance changes hnumbered hbound).2
  refine hextends.trans (extends_replaceAttempt hboundNumbered (List.mem_of_getElem? hb) ?_ ?_)
  · refine ⟨hrequest, hsha, hsequence, fun _ hr => hreceipt ▸ hr, fun _ hr => hacceptance ▸ hr,
      fun o ho => ?_⟩
    rcases hnothing.newOutcome i b o hb ho with ⟨c, hc, hco⟩ | ⟨hfalse, -⟩
    · rw [ha, Option.some.injEq] at hc
      rw [← hc, hnone] at hco
      cases hco
    · exact hfalse.elim
  · intro o ho
    obtain rfl : outcome = o := Option.some.inj (houtcome.symm.trans ho)
    refine Or.inr ⟨hfresh, fun hterminal => ?_⟩
    have hstate := state_bindOutcomeAcceptance hbound hterminal
    rw [hstate]
    exact htarget (hstate ▸ hterminal)

theorem update_finishCommitRecord {request : SignedEffectCommitRequest}
    {outcome : SignedEffectOutcome} {recordedAt : Option RecordedAt} {now : Time}
    {k : JournalEntry role → JournalEntry role} (hfresh : changes.outcome outcome)
    (h : j.finishCommitRecord request outcome recordedAt now = .ok (.store r' k)) :
    j.Update changes r' := by
  simp only [Journal.finishCommitRecord, bind_eq_ok, orRaise_eq_ok] at h
  obtain ⟨⟨⟩, hvalidated, found, hlookup, entry, rfl, attempt, hattempt, h⟩ := h
  have hdispatched : outcome.disposition ≠ .notDispatched := by
    simp only [validateOutcome, bind_unit_eq_ok, refuseIf_eq_ok] at hvalidated
    exact fun hnd => hvalidated.2 ⟨rfl, hnd⟩
  have hmem := (mem_of_commitAttempt hattempt).1
  split at h
  · simp at h
  · rename_i hstatus
    simp only [bind_eq_ok, refuseIf_eq_ok, exists_const, orRaise_eq_ok] at h
    obtain ⟨hterminal, time, -, bound, hbound, boundAttempt, hboundAttempt, -, ⟨⟩, -, updated,
      hupdated, hplan⟩ := h
    obtain ⟨rfl, -⟩ := Plan.store.inj (Except.ok.inj hplan)
    refine .extend entry _ (Journal.found_of_lookup hlookup)
      (Extends.trans ?_ (extends_settle hupdated (fun hnd => absurd hnd hdispatched)))
    -- The bound commit attempt sits where the retained one did.
    obtain ⟨i, hi⟩ := List.getElem?_of_mem (mem_of_commitAttempt hboundAttempt).1
    obtain ⟨a, ha, hext⟩ := (extends_bindOutcomeAcceptance changes
      entry.history.numbered hbound).1.of_getElem? (length_bindOutcomeAcceptance hbound) hi
    obtain ⟨a, rfl⟩ := hext.eq_commit
    obtain rfl := entry.history.commit_unique hmem (List.mem_of_getElem? ha)
    exact extends_retainOutcome entry.history.numbered hbound
      (fun ht => absurd ht hterminal) ha hi (entry.commit_outcome_none hmem hstatus) hfresh
      rfl rfl rfl rfl rfl rfl

theorem update_beginQueryRecord {request : SignedEffectQueryRequest}
    {recordedAt : Option RecordedAt} {now : Time} {allowTerminal : Bool}
    {k : JournalEntry role → JournalEntry role × EffectQueryAttempt}
    (h : j.beginQueryRecord request recordedAt now allowTerminal = .ok (.store r' k)) :
    j.Update changes r' := by
  simp only [Journal.beginQueryRecord, bind_eq_ok, orRaise_eq_ok] at h
  obtain ⟨found, hlookup, entry, rfl, h⟩ := h
  split at h
  · cases h
  · simp only [bind_eq_ok] at h
    obtain ⟨⟨⟩, -, ⟨⟩, -, time, -, ⟨⟩, -, hplan⟩ := h
    obtain ⟨rfl, -⟩ := Plan.store.inj (Except.ok.inj hplan)
    exact .extend entry _ (Journal.found_of_lookup hlookup)
      (extends_appendAttempt _ rfl (fun hcommit => by cases hcommit))

theorem extends_settleQuery {r r' : CoordinationJournalRecord} {outcome : SignedEffectOutcome}
    {time : Time} (h : settleQuery r outcome time = .ok r')
    (hnd : outcome.disposition = .notDispatched → r.RetainsNotDispatched) :
    r.Extends changes r' := by
  unfold settleQuery at h
  split at h
  · exact Except.ok.inj h ▸ .refl r
  · exact extends_settle h hnd

theorem attempts_settleQuery {r r' : CoordinationJournalRecord} {outcome : SignedEffectOutcome}
    {time : Time} (h : settleQuery r outcome time = .ok r') : r'.attempts = r.attempts := by
  unfold settleQuery at h
  split at h
  · exact Except.ok.inj h ▸ rfl
  · exact attempts_settle h

theorem update_completeRetainedQuery {entry : JournalEntry role} {attempt : EffectQueryAttempt}
    {outcome : SignedEffectOutcome} {time : Time}
    {k : JournalEntry role → JournalEntry role} (hfresh : changes.outcome outcome)
    (hfound : j.records.find? entry.record.effect.effectId = some entry)
    (hattempt : .query attempt ∈ entry.record.attempts)
    (h : completeRetainedQuery entry attempt outcome time = .ok (.store r' k)) :
    j.Update changes r' := by
  unfold completeRetainedQuery at h
  split at h
  · simp at h
  · cases h
  · rename_i hstatus
    simp only [bind_eq_ok, refuseIf_eq_ok, exists_const] at h
    obtain ⟨htarget, bound, hbound, -, ⟨⟩, -, updated, hupdated, hplan⟩ := h
    obtain ⟨rfl, -⟩ := Plan.store.inj (Except.ok.inj hplan)
    obtain ⟨i, hi⟩ := List.getElem?_of_mem hattempt
    obtain ⟨b, hb, hext⟩ := (extends_bindOutcomeAcceptance changes
      entry.history.numbered hbound).1.attempts i _ hi
    obtain ⟨b, rfl, hrequest⟩ := hext.exists_query
    refine .extend entry _ hfound (Extends.trans ?_ (extends_settleQuery hupdated ?_))
    rotate_left
    · intro hnd
      have hmem : .query b ∈ bound.attempts := List.mem_of_getElem? hb
      exact ⟨_, outcome, List.mem_map.mpr ⟨.query b, hmem, if_pos hext.sequence⟩, rfl, hnd⟩
    refine extends_retainOutcome entry.history.numbered hbound ?_ hi hb
      (entry.query_outcome_none hattempt (by simp [hstatus])) hfresh
      (by simp [CoordinationAttempt.request, hrequest]) hext.requestSha256.symm
      hext.sequence.symm rfl rfl rfl
    intro hterminal
    by_contra hne
    exact htarget ⟨hterminal, hne⟩

theorem update_failQueryRecord {request : SignedEffectQueryRequest} {reason : String}
    {evidence : Option Sha256} {recordedAt : Option RecordedAt} {now : Time}
    {k : JournalEntry role → JournalEntry role}
    (h : j.failQueryRecord request reason evidence recordedAt now = .ok (.store r' k)) :
    j.Update changes r' := by
  simp only [Journal.failQueryRecord, bind_eq_ok, orRaise_eq_ok] at h
  obtain ⟨found, hlookup, entry, rfl, attempt, hattempt, ⟨⟩, -, h⟩ := h
  have hmem := (mem_of_queryAttempt hattempt).1
  split at h
  · cases h
  · simp at h
  · rename_i hstatus
    simp only [bind_eq_ok] at h
    obtain ⟨time, -, ⟨⟩, -, updated, hupdated, hplan⟩ := h
    obtain ⟨rfl, -⟩ := Plan.store.inj (Except.ok.inj hplan)
    refine .extend entry _ (Journal.found_of_lookup hlookup) ?_
    refine (extends_replaceAttempt entry.history.numbered hmem ?_
      (fun o ho => by cases ho)).trans (extends_becomeUnknown hupdated)
    refine ⟨rfl, rfl, rfl, fun _ hr => hr, fun _ hr => hr, fun o ho => ?_⟩
    rw [CoordinationAttempt.outcome, entry.query_outcome_none hmem (by simp [hstatus])] at ho
    cases ho

theorem eq_newRecord_of_createRecord {request : SignedEffectPrepareRequest}
    {receipt : Option CoordinationReceipt} {time : Time}
    (h : createRecord request receipt time = .ok r') : newRecord request receipt time = r' := by
  simp only [createRecord, bind_unit_eq_ok, pure_eq_ok, Except.ok.injEq] at h
  exact h.2.2

theorem update_begin {j : Journal .gateway} {request : SignedEffectPrepareRequest}
    {recordedAt : Option RecordedAt} {now : Time}
    {k : JournalEntry .gateway → JournalEntry .gateway}
    (hcreate : changes.create request.effect.effectId)
    (h : j.begin request recordedAt now = .ok (.store r' k)) : j.Update changes r' := by
  simp only [Journal.begin, bind_eq_ok] at h
  obtain ⟨found, hlookup, h⟩ := h
  split at h
  · rename_i entry
    split at h
    · cases h
    · simp only [bind_eq_ok] at h
      obtain ⟨⟨⟩, -, ⟨⟩, -, time, -, updated, hupdated, hplan⟩ := h
      obtain ⟨rfl, -⟩ := Plan.store.inj (Except.ok.inj hplan)
      exact .extend entry _ (Journal.found_of_lookup hlookup)
        (extends_appendPreparation hupdated)
  · simp only [bind_eq_ok] at h
    obtain ⟨⟨⟩, -, time, -, record, hrecord, hplan⟩ := h
    obtain ⟨rfl, -⟩ := Plan.store.inj (Except.ok.inj hplan)
    obtain rfl := eq_newRecord_of_createRecord hrecord
    exact .create request none time hcreate (Journal.lookup_eq_none.mp hlookup)

theorem update_retainPreparation {j : Journal .gateway} {request : SignedEffectPrepareRequest}
    {receipt : CoordinationReceipt} {recordedAt : Option RecordedAt} {now : Time}
    {k : JournalEntry .gateway → JournalEntry .gateway}
    (h : j.retainPreparation request receipt recordedAt now = .ok (.store r' k)) :
    j.Update changes r' := by
  simp only [Journal.retainPreparation, bind_eq_ok, orRaise_eq_ok] at h
  obtain ⟨⟨⟩, -, found, hlookup, entry, rfl, attempt, hattempt, h⟩ := h
  split at h
  · simp at h
  · rename_i hnone
    simp only [bind_eq_ok] at h
    obtain ⟨⟨⟩, -, time, -, updated, hupdated, hplan⟩ := h
    obtain ⟨rfl, -⟩ := Plan.store.inj (Except.ok.inj hplan)
    exact .extend entry _ (Journal.found_of_lookup hlookup)
      (extends_retainReceipt entry.history.numbered (mem_of_prepareAttempt hattempt).1 hnone
        hupdated)

theorem update_closeNotDispatched {j : Journal .gateway} {effect : EffectIdentity}
    {reason : String} {evidence : Option Sha256} {recordedAt : Option RecordedAt} {now : Time}
    {k : JournalEntry .gateway → JournalEntry .gateway}
    (hclose : ∀ entry, j.records.find? effect.effectId = some entry →
      entry.record.state.canTransitionTo .notDispatched = true →
      changes.localClose entry.record.hasCommit)
    (h : j.closeNotDispatched effect reason evidence recordedAt now = .ok (.store r' k)) :
    j.Update changes r' := by
  simp only [Journal.closeNotDispatched, bind_eq_ok, orRaise_eq_ok] at h
  obtain ⟨found, hlookup, entry, rfl, h⟩ := h
  split at h
  · simp at h
  · simp only [bind_eq_ok] at h
    obtain ⟨time, -, updated, hupdated, hplan⟩ := h
    obtain ⟨rfl, -⟩ := Plan.store.inj (Except.ok.inj hplan)
    exact .extend entry _ (Journal.found_of_lookup hlookup)
      (extends_transition hupdated (fun _ => Or.inl
        (hclose entry (Journal.lookup_eq_some.mp hlookup).1 (transition_eq_ok.mp hupdated).2.1)))

theorem update_prepareEffect {j : Journal .effectCoordinator}
    {request : SignedEffectPrepareRequest} {issue : ReceiptIssuer}
    {recordedAt : Option RecordedAt} {now : Time}
    {k : JournalEntry .effectCoordinator → CoordinationReceipt}
    (hcreate : changes.create request.effect.effectId)
    (h : j.prepareEffect request issue recordedAt now = .ok (.store r' k)) :
    j.Update changes r' := by
  simp only [Journal.prepareEffect, bind_eq_ok] at h
  obtain ⟨found, hlookup, h⟩ := h
  split at h
  · cases h
  · rename_i hnone
    simp only [bind_eq_ok] at h
    obtain ⟨⟨⟩, -, time, -, receipt, -, ⟨⟩, -, record, hrecord, hplan⟩ := h
    obtain ⟨rfl, -⟩ := Plan.store.inj (Except.ok.inj hplan)
    unfold Journal.preparedRecord at hrecord
    split at hrecord
    · obtain rfl := eq_newRecord_of_createRecord hrecord
      exact .create request _ time hcreate (Journal.lookup_eq_none.mp hlookup)
    · rename_i entry attempt hexisting
      have hattempt : entry.record.prepareAttempt request = some attempt := by
        simpa using hexisting
      exact .extend entry _ (Journal.found_of_lookup hlookup)
        (extends_retainReceipt entry.history.numbered (mem_of_prepareAttempt hattempt).1
          (by simpa [hattempt] using hnone) hrecord)
    · exact .extend _ _ (Journal.found_of_lookup hlookup) (extends_appendPreparation hrecord)

end Plans

end AegisOt
