import AegisOt.Misc.Interleaving
import AegisOt.Trust.Directory
import Mathlib.Algebra.Order.Ring.Int
import Mathlib.Data.Nat.Cast.Order.Basic

/-!
# The first bundle

A verification of a bundle whose verifier has an unused directory to itself: where every operation
that can succeed does, its bundle becomes the checkpoint and is admitted.
-/

namespace AegisOt

open FileWorkloadTrustSequenceStateStore Interleaving

namespace TrustDirectory

section

variable {ι : Type} [DecidableEq ι]

/-- Every operation that can succeed does. -/
def answer (i : ι) (d : TrustDirectory ι) : (action : TrustAct) → action.Reply × TrustDirectory ι
  | .operate (.openLock true) =>
      if d.lockPresent = false then (.ok (), { d with lockPresent := true })
      else (.error (.state "workload trust-sequence stable lock is unavailable"), d)
  | .operate (.openLock false) =>
      if d.lockPresent = true then (.ok (), d)
      else (.error (.state "workload trust-sequence stable lock is unavailable"), d)
  | .operate .acquireLock =>
      if d.holder = none then (.ok (), { d with holder := some i })
      else (.error (.state "workload trust-sequence stable lock acquisition timed out"), d)
  | .operate .createTemporary => (.ok (), { d with temporaries := d.temporaries + 1 })
  | .operate (.replaceCheckpoint material) =>
      (.ok (), { d with checkpoint := some material, temporaries := d.temporaries - 1 })
  | .operate .unlinkTemporary => (.ok (), { d with temporaries := d.temporaries - 1 })
  | .operate .closeLock => (.ok (), d.released i)
  | .operate _ => (.ok (), d)
  | .listEntries => (.ok d.entries, d)
  | .readCheckpoint =>
      match d.checkpoint with
      | some bytes => (.ok bytes, d)
      | none => (.error (.os "checkpoint"), d)
  | .unlock => (true, d.released i)
  | .recollect => (d.memory i, d)
  | .remember memory => ((), { d with memory := Function.update d.memory i memory })
  | .admitBundle sequence bundleSha256 =>
      ((), { d with admitted := d.admitted ++ [(sequence, bundleSha256)] })

/-- This is one way to answer. -/
theorem perform_answer (i : ι) (d : TrustDirectory ι) (action : TrustAct) :
    d.Perform i action (d.answer i action).1 (d.answer i action).2 := by
  cases action with
  | operate operation =>
    cases operation with
    | openLock bootstrap =>
      cases bootstrap with
      | true =>
        by_cases h : d.lockPresent = false
        · simp [answer, Perform, Operate, h]
        · simp [answer, Perform, Operate, h]
      | false =>
        by_cases h : d.lockPresent = true
        · simp [answer, Perform, Operate, h]
        · simp [answer, Perform, Operate, h]
    | acquireLock =>
      by_cases h : d.holder = none
      · simp [answer, Perform, Operate, h]
      · simp [answer, Perform, Operate, h]
    | unlinkTemporary => exact .inl rfl
    | _ => rfl
  | listEntries => exact ⟨rfl, fun _ h => (Except.ok.inj h).symm⟩
  | readCheckpoint =>
    cases hcheckpoint : d.checkpoint with
    | none => simp [answer, Perform, hcheckpoint]
    | some bytes =>
      simp only [answer, Perform, hcheckpoint, true_and]
      intro bytes' h
      rw [Except.ok.inj h]
  | recollect => exact ⟨rfl, rfl⟩
  | unlock => rfl
  | remember memory => rfl
  | admitBundle sequence bundleSha256 => rfl

variable {i : ι} {d : TrustDirectory ι}

theorem exec_operate (operation : DirectoryOperation) :
    exec (answer i) (operate operation) d = d.answer i (.operate operation) := rfl

theorem exec_listEntries : exec (answer i) listEntries d = (.ok d.entries, d) := rfl

theorem exec_recollect : exec (answer i) recollect d = (.ok (d.memory i), d) := rfl

theorem exec_remember (memory : VerifierMemory) : exec (answer i) (remember memory) d =
    (.ok (), { d with memory := Function.update d.memory i memory }) := rfl

theorem exec_admitBundle (sequence : ℤ) (bundleSha256 : String) :
    exec (answer i) (admitBundle sequence bundleSha256) d =
      (.ok (), { d with admitted := d.admitted ++ [(sequence, bundleSha256)] }) := rfl

theorem exec_readCheckpoint {bytes : ByteArray} (h : d.checkpoint = some bytes) :
    exec (answer i) readCheckpoint d = (.ok bytes, d) := by
  have hanswer : d.answer i .readCheckpoint = (.ok bytes, d) := by simp only [answer, h]
  change exec (answer i) (Program.result (d.answer i .readCheckpoint).1)
    (d.answer i .readCheckpoint).2 = _
  rw [hanswer]
  rfl

theorem exec_releaseLock (h : d.holder = some i) :
    exec (answer i) releaseLock d = (.ok (), { d with holder := none }) := by
  have hreleased : d.released i = { d with holder := none } := if_pos h
  have hfree : ({ d with holder := none } : TrustDirectory ι).released i =
      { d with holder := none } := if_neg nofun
  change exec (answer i) (do
    operate .closeLock
    operate .closeParent) (d.released i) = _
  simp only [hreleased, exec_bind, exec_operate, answer, hfree]
  rfl

variable [TrustStatePrimitives] {store : FileWorkloadTrustSequenceStateStore}
  {state : WorkloadTrustSequenceState}

/-- A checkpoint of the configured trust is loaded. -/
theorem exec_loadLocked (hparse : WorkloadTrustSequenceState.parse state.material = .ok state)
    (htrust : state.trustDomain = store.trustDomain ∧ state.authorityKeyId = store.authorityKeyId ∧
      state.authorityPublicKeySha256 = store.authorityPublicKeySha256)
    (h : d.checkpoint = some state.material) :
    exec (answer i) store.loadLocked d = (.ok state, d) := by
  have hmatches : ¬ (state.trustDomain ≠ store.trustDomain ∨
      state.authorityKeyId ≠ store.authorityKeyId ∨
      state.authorityPublicKeySha256 ≠ store.authorityPublicKeySha256) := by
    simp [htrust]
  simp only [loadLocked, exec_bind, exec_readCheckpoint h, exec_result, hparse, Except.mapError,
    exec_require, if_neg hmatches, exec_pure]

/-- A state of the configured trust becomes the checkpoint. -/
theorem exec_writeLocked (hvalid : state.Valid) (hsize : state.material.size ≤ maxStateBytes)
    (htrust : state.trustDomain = store.trustDomain ∧ state.authorityKeyId = store.authorityKeyId ∧
      state.authorityPublicKeySha256 = store.authorityPublicKeySha256) :
    exec (answer i) (store.writeLocked state) d =
      (.ok (), { d with checkpoint := some state.material }) := by
  have hparse := WorkloadTrustSequenceState.parse_eq_ok.mpr ⟨rfl, hvalid, hsize⟩
  have hread : ¬ state ≠ state := fun h => h rfl
  simp only [writeLocked, replaceState, exec_bind, exec_require, if_neg (not_lt.mpr hsize),
    exec_attempt, exec_operate, answer, exec_catching, exec_loadLocked hparse htrust,
    if_neg hread, Nat.add_sub_cancel]

/-- The state that a verifier stores for a bundle. -/
def stateOf [TrustBundlePrimitives] (v : WorkloadTrustVerifier)
    (bundle : SignedWorkloadTrustBundle) : WorkloadTrustSequenceState :=
  .create v.store.trustDomain v.store.authorityKeyId v.store.authorityPublicKeySha256
    bundle.sequence bundle.sha256

/-- The first bundle is admitted, whatever comes of the credential. -/
theorem exec_first [TrustBundlePrimitives] {v : WorkloadTrustVerifier} {now : Time}
    {bundle : SignedWorkloadTrustBundle} {α : Type}
    (body : SignedWorkloadTrustBundle → Except TrustError α)
    (htrusted : v.trustedBundle now (.ok bundle) = .ok bundle) (hsequence : 1 ≤ bundle.sequence)
    (hsize : (stateOf v bundle).material.size ≤ maxStateBytes) :
    exec (answer i) (v.trustedBundleTransaction now (.ok bundle)
        (fun bundle => Program.result (body bundle))) (found none false 0) =
      ((body bundle).mapError WorkloadTrustVerifier.stateUnavailable,
        { (found (some (stateOf v bundle).material) true 0 : TrustDirectory ι) with
          memory := Function.update (fun _ => .initial) i
            ⟨bundle.sequence, bundle.sha256, bundle.sequence, bundle.sha256, false⟩
          admitted := [((bundle.sequence : ℤ), bundle.sha256)] }) := by
  have hdigest : isHexDigest bundle.sha256 = true := isHexDigest_hexdigest _
  have hpositive : ¬ (bundle.sequence : ℤ) < 1 := by omega
  have hvalid := WorkloadTrustSequenceState.valid_create v.store.trustDomainValid
    v.store.authorityKeyIdValid v.store.authorityPublicKeyValid (not_lt.mp hpositive) hdigest
  have hwrite (d : TrustDirectory ι) : exec (answer i) (v.store.writeLocked
      (.create v.store.trustDomain v.store.authorityKeyId v.store.authorityPublicKeySha256
        bundle.sequence bundle.sha256)) d =
      (.ok (), { d with checkpoint := some (stateOf v bundle).material }) :=
    exec_writeLocked hvalid hsize ⟨rfl, rfl, rfl⟩
  have hinitial : ¬ (bundle.sequence : ℤ) < 0 := by omega
  have hnonzero : bundle.sequence ≠ 0 := by omega
  simp [WorkloadTrustVerifier.trustedBundleTransaction, transaction, underLock, Program.ensuring,
    classifyLayout, currentState, requireEntries, checkSequence, refuseIf, Program.runIf, found,
    VerifierMemory.initial, entries, answer, exec_bind, exec_catching, exec_attempt, exec_result,
    exec_require, exec_pure, exec_recollect, exec_remember, exec_operate, exec_listEntries,
    exec_admitBundle, exec_releaseLock, Except.mapError, htrusted, hdigest, hnonzero, hinitial,
    hwrite]
  cases body bundle with
  | ok a => rfl
  | error error => rfl

end

end TrustDirectory

end AegisOt
