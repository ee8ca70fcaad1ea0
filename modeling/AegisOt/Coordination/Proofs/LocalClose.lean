import AegisOt.Coordination.Proofs.Steps

/-!
# Local closes of a gateway record

`DurableGatewayCoordinationJournal.close_not_dispatched` consults the state table only. A
gateway record stays DISPATCH_ARMED when its commit intent is retained, so the table alone
lets a record that already has a commit attempt be closed without any signed evidence. The
callers in `segmented_capability_transport.py` test for a commit attempt first; in runs where
every close does, a committed record is closed only by a signed NOT_DISPATCHED answer.
-/

namespace AegisOt

open CoordinationJournalRecord

section

variable [Primitives] [RecordCodec]

/-- A record with a commit attempt is NOT_DISPATCHED only through a signed query outcome, and
    that outcome is the evidence of its last transition. -/
def CoordinationJournalRecord.ClosedBySignedOutcome (r : CoordinationJournalRecord) : Prop :=
  r.hasCommit = true → r.state = .notDispatched →
    ∃ q o, .query q ∈ r.attempts ∧ q.outcome = some o ∧ o.disposition = .notDispatched ∧
      r.latestEvidenceSha256 = some o.digest

/-- A local close finds no commit attempt in a record the table lets it close. -/
def GatewayOp.closesUncommitted (j : Journal .gateway) : GatewayOp → Prop
  | .closeNotDispatched effect .. => ∀ e, j.records.find? effect.effectId = some e →
      e.record.state.canTransitionTo .notDispatched = true → e.record.hasCommit = false
  | .begin .. | .retainPreparation .. | .beginCommit .. | .markCommitUnknown ..
  | .retainCommitOutcome .. | .beginQuery .. | .completeQuery .. | .failQuery .. => True

/-- A step of a gateway journal whose local closes test for a commit attempt. -/
inductive CheckedCloseStep : Journal .gateway → Journal .gateway → Prop where
  | op (j : Journal .gateway) (op : GatewayOp) (env : OpEnv) (hclose : op.closesUncommitted j) :
      CheckedCloseStep j (op.run j env).2
  | close (j : Journal .gateway) : CheckedCloseStep j j.close
  | restart (j : Journal .gateway) : CheckedCloseStep j j.restart

/-- What such steps may bring into a record. -/
def uncommittedCloses : Changes :=
  ⟨fun _ => True, fun committed => committed = false, fun _ => True⟩

omit [RecordCodec] in
theorem GatewayOp.changes_within {op : GatewayOp} {j : Journal .gateway}
    (h : op.closesUncommitted j) : (op.changes j).Within uncommittedCloses := by
  refine ⟨fun _ _ => trivial, fun committed hcommitted => ?_, fun _ _ => trivial⟩
  cases op with
  | closeNotDispatched effect reason evidence recordedAt =>
    obtain ⟨e, hfound, hlegal, rfl⟩ := hcommitted
    exact h e hfound hlegal
  | _ => exact hcommitted.elim

theorem CheckedCloseStep.stepped {j j' : Journal .gateway} (h : CheckedCloseStep j j')
    (hconsistent : j.Consistent) : j.Stepped .any j' := by
  cases h with
  | op op env _ => exact JournalStep.stepped (.op j (.gateway op) env) hconsistent
  | close => exact JournalStep.stepped (.close j) hconsistent
  | restart => exact JournalStep.stepped (.restart j) hconsistent

/-- The part of the property that extensions keep; the record validator supplies the rest. -/
def CoordinationJournalRecord.CommittedCloseRetains (r : CoordinationJournalRecord) : Prop :=
  r.hasCommit = true → r.state = .notDispatched → r.RetainsNotDispatched

omit [Primitives] [RecordCodec] in
theorem committedCloseRetains_extends {r r' : CoordinationJournalRecord}
    (hext : r.Extends uncommittedCloses r') (h : r.CommittedCloseRetains) :
    r'.CommittedCloseRetains := by
  intro hcommit hstate
  rcases hext.newNotDispatched hstate with hold | hclose | hretains
  · have hterminal : r.state.terminal = true := by rw [hold]; rfl
    exact hext.retainsNotDispatched (h (hext.newCommit hterminal hcommit) hold)
  · rw [show r'.hasCommit = false from hclose] at hcommit
    cases hcommit
  · exact hretains

omit [RecordCodec] in
theorem committedCloseRetains_newRecord (request : SignedEffectPrepareRequest)
    (receipt : Option CoordinationReceipt) (time : Time) :
    (newRecord request receipt time).CommittedCloseRetains := by
  intro hcommit
  cases hcommit

theorem CheckedCloseStep.committedCloseRetains {j j' : Journal .gateway}
    (h : CheckedCloseStep j j') (hconsistent : j.Consistent)
    (hall : j.Everywhere CommittedCloseRetains) : j'.Everywhere CommittedCloseRetains := by
  cases h with
  | op op env hclose =>
    exact ((op.run_stepped env hconsistent).weaken (op.changes_within hclose)).everywhere
      (fun _ _ => committedCloseRetains_extends) committedCloseRetains_newRecord hall
  | close => exact hall
  | restart => exact ⟨hall.2, hall.2⟩

theorem CheckedCloseStep.run_committedCloseRetains {j j' : Journal .gateway}
    (h : Relation.ReflTransGen CheckedCloseStep j j') (hconsistent : j.Consistent)
    (hall : j.Everywhere CommittedCloseRetains) :
    j'.Consistent ∧ j'.Everywhere CommittedCloseRetains := by
  induction h with
  | refl => exact ⟨hconsistent, hall⟩
  | tail _ hstep ih =>
    exact ⟨(hstep.stepped ih.1).consistent, hstep.committedCloseRetains ih.1 ih.2⟩

/-- In every run whose local closes find no commit attempt, a committed record is
    NOT_DISPATCHED only by a signed outcome. -/
theorem closed_by_signed_outcome {ownerSubject : String} {write : WriteResult}
    {j₀ j : Journal .gateway} (hinit : Journal.initialized ownerSubject write = .ok j₀)
    (hrun : Relation.ReflTransGen CheckedCloseStep j₀ j) :
    ∀ k e, j.records.find? k = some e → e.record.ClosedBySignedOutcome := by
  intro k e hfound hcommit hstate
  have hall := (CheckedCloseStep.run_committedCloseRetains hrun
    (Journal.consistent_initialized hinit).1 (Journal.everywhere_initialized hinit)).2
  obtain ⟨q, o, hq, ho, hnd⟩ := hall.1 k e hfound hcommit hstate
  obtain ⟨-, q', hq', o', ho', hnd', hevidence⟩ := e.history.notDispatched_of_query hq ho hnd
  exact ⟨q', o', hq', ho', hnd', hevidence⟩

end

section

open Sample

/-- The journal that received the sample effect. -/
def Sample.received : Journal .gateway :=
  (GatewayOp.run (.begin samplePrepare none) gatewayJournal (calm 1)).2

/-- The same journal after a local close. -/
def Sample.receivedClosed : Journal .gateway :=
  (GatewayOp.run (.closeNotDispatched samplePrepare.effect "local" none none) received
    (calm 2)).2

set_option maxRecDepth 10000 in
theorem closed_by_signed_outcome_received :
    ∃ e, receivedClosed.records.find? samplePrepare.effect.effectId = some e ∧
      e.record.state = .notDispatched ∧ e.record.ClosedBySignedOutcome := by
  have hclear : (received.records.find? samplePrepare.effect.effectId).all
      (fun e => !e.record.hasCommit) = true := by decide +kernel
  have hclose : GatewayOp.closesUncommitted received
      (.closeNotDispatched samplePrepare.effect "local" none none) := by
    intro e hfound _
    rw [hfound] at hclear
    simpa using hclear
  have hinit : Journal.initialized "gateway" .written = .ok gatewayJournal := by decide +kernel
  have hrun : Relation.ReflTransGen CheckedCloseStep gatewayJournal receivedClosed :=
    .head (.op gatewayJournal (.begin samplePrepare none) (calm 1) trivial)
      (.single (.op received _ (calm 2) hclose))
  obtain ⟨e, hfound, hstate⟩ := receivedClosed.exists_entry samplePrepare.effect.effectId
    (fun e => decide (e.record.state = .notDispatched)) (by decide +kernel)
  exact ⟨e, hfound, of_decide_eq_true hstate, closed_by_signed_outcome
    hinit hrun _ e hfound⟩

/-- Prepare, retain a commit intent, close locally. -/
def Sample.closingCommitted : List (JournalOp .gateway × OpEnv) :=
  preparing ++ [(.gateway (.beginCommit sampleCommit none), calm 3),
    (.gateway (.closeNotDispatched samplePrepare.effect "local" none none), calm 4)]

set_option maxRecDepth 10000 in
/-- Without the test a committed record is closed with no evidence at all. -/
theorem committed_record_closed_locally :
    ¬ ∀ j : Journal .gateway, j.Reachable →
      ∀ k e, j.records.find? k = some e → e.record.ClosedBySignedOutcome := by
  intro h
  obtain ⟨e, hfound, hfacts⟩ := (gatewayJournal.runOps closingCommitted).exists_entry
    samplePrepare.effect.effectId
    (fun e => e.record.hasCommit && decide (e.record.state = .notDispatched) &&
      decide (e.record.latestEvidenceSha256 = none)) (by decide +kernel)
  simp only [Bool.and_eq_true, decide_eq_true_eq] at hfacts
  obtain ⟨q, o, -, -, -, hevidence⟩ :=
    h _ (reachable_runOps closingCommitted) _ e hfound hfacts.1.1 hfacts.1.2
  rw [hfacts.2] at hevidence
  cases hevidence

end

end AegisOt
