import AegisOt.Runtime.PlcProgram
import AegisOt.Runtime.Proofs.PlcAdmission

/-!
# Each authorization is applied once

Four values of a transaction are single-use, each on its own. The ledger file holds those of every
transaction that reached the plant (`PlcState.Sound`), and a call reaches the plant only after it
found none of its own in the file and wrote them there. Neither a restart nor a failed write takes
values out of the file.
-/

namespace AegisOt

open Program (Contract Returns)

section

variable {P : Type}

/-! ## Keys -/

/-- All four values are in the ledger. -/
structure ReplayKey.Held (key : ReplayKey) (file : ReplayReservations) : Prop where
  request : key.requestDigest ∈ file.requestDigests
  permit : key.permitId ∈ file.permitIds
  nonce : key.permitNonce ∈ file.permitNonces
  command : key.commandId ∈ file.commandIds

/-- None of the four values was used by these transactions. -/
structure ReplayKey.Unused (key : ReplayKey) (dispatched : List ReplayKey) : Prop where
  request : key.requestDigest ∉ dispatched.map (fun k => k.requestDigest)
  permit : key.permitId ∉ dispatched.map (fun k => k.permitId)
  nonce : key.permitNonce ∉ dispatched.map (fun k => k.permitNonce)
  command : key.commandId ∉ dispatched.map (fun k => k.commandId)

/-- Every value of these transactions is used once. -/
structure SingleUse (dispatched : List ReplayKey) : Prop where
  requests : (dispatched.map (fun k => k.requestDigest)).Nodup
  permits : (dispatched.map (fun k => k.permitId)).Nodup
  nonces : (dispatched.map (fun k => k.permitNonce)).Nodup
  commands : (dispatched.map (fun k => k.commandId)).Nodup

theorem SingleUse.cons {key : ReplayKey} {dispatched : List ReplayKey} (h : SingleUse dispatched)
    (hkey : key.Unused dispatched) : SingleUse (key :: dispatched) :=
  ⟨List.nodup_cons.mpr ⟨hkey.request, h.requests⟩, List.nodup_cons.mpr ⟨hkey.permit, h.permits⟩,
    List.nodup_cons.mpr ⟨hkey.nonce, h.nonces⟩, List.nodup_cons.mpr ⟨hkey.command, h.commands⟩⟩

namespace ReplayReservations

variable {file : ReplayReservations} {key : ReplayKey}

theorem held_add (file : ReplayReservations) (key : ReplayKey) : key.Held (file.add key) :=
  ⟨List.mem_insert_self, List.mem_insert_self, List.mem_insert_self, List.mem_insert_self⟩

theorem held_add_of_held {other : ReplayKey} (h : other.Held file) (key : ReplayKey) :
    other.Held (file.add key) :=
  ⟨List.mem_insert_of_mem h.request, List.mem_insert_of_mem h.permit,
    List.mem_insert_of_mem h.nonce, List.mem_insert_of_mem h.command⟩

/-- A key that is not replayed shares nothing with the transactions the file holds. -/
theorem unused_of_replayReason (h : file.replayReason key = none) {dispatched : List ReplayKey}
    (hheld : ∀ k ∈ dispatched, k.Held file) : key.Unused dispatched := by
  unfold replayReason at h
  split_ifs at h with hrequest hpermit hnonce hcommand
  refine ⟨?_, ?_, ?_, ?_⟩
  · intro hused
    obtain ⟨k, hk, hsame⟩ := List.mem_map.mp hused
    exact hrequest (hsame ▸ (hheld k hk).request)
  · intro hused
    obtain ⟨k, hk, hsame⟩ := List.mem_map.mp hused
    exact hpermit (hsame ▸ (hheld k hk).permit)
  · intro hused
    obtain ⟨k, hk, hsame⟩ := List.mem_map.mp hused
    exact hnonce (hsame ▸ (hheld k hk).nonce)
  · intro hused
    obtain ⟨k, hk, hsame⟩ := List.mem_map.mp hused
    exact hcommand (hsame ▸ (hheld k hk).command)

end ReplayReservations

/-! ## The contract of a call -/

/-- The file holds what was dispatched, and nothing was dispatched twice. -/
structure PlcState.Sound (s : PlcState P) : Prop where
  held : ∀ k ∈ s.dispatched, k.Held s.file
  singleUse : SingleUse s.dispatched

/-- The running call has not changed the plant. -/
def PlcState.Unchanged (s : PlcState P) : Prop := ∀ effect ∈ s.effects, effect.2 = effect.1

/-- A call writes more into the ledger, never less, and reaches the plant with its own values
    reserved and unused. Others only move the plant. -/
def plcContract (key : ReplayKey) : Contract (PlcState P) PlcAct PlcAct.Reply where
  invariant := PlcState.Sound
  rely s s' := ∃ plant, s' = { s with plant := plant }
  perform := PlcState.perform key
  allowed s
    | .persistLedger reservations => ∀ k : ReplayKey, k.Held s.file → k.Held reservations
    | .applyAuthorizedCommand _ => key.Held s.file ∧ key.Unused s.dispatched
    | _ => True

variable {key : ReplayKey} {s s' : PlcState P}

/-- What a call may do keeps the state sound. -/
theorem PlcState.sound_perform {action : PlcAct} {reply : action.Reply} (h : s.Sound)
    (hallowed : (plcContract key).allowed s action) (hperform : s.perform key action reply s') :
    s'.Sound := by
  cases action with
  | clock => exact hperform ▸ h
  | readState => exact hperform ▸ h
  | loadLedger => exact hperform.1 ▸ h
  | persistLedger reservations =>
    rcases hperform with rfl | ⟨rfl, -⟩
    · exact ⟨fun k hk => hallowed k (h.held k hk), h.singleUse⟩
    · exact h
  | simulateCandidate command => exact hperform ▸ h
  | applyAuthorizedCommand command =>
    obtain ⟨after, rfl, -⟩ := hperform
    refine ⟨?_, h.singleUse.cons hallowed.2⟩
    intro k hk
    rcases List.mem_cons.mp hk with rfl | hk
    · exact hallowed.1
    · exact h.held k hk
  | uuid => exact hperform ▸ h

/-- Actions that change nothing. -/
def PlcAct.Quiet : PlcAct → Prop
  | .persistLedger _ => False
  | .applyAuthorizedCommand _ => False
  | _ => True

theorem PlcAct.Quiet.same {action : PlcAct} (h : action.Quiet) {reply : action.Reply}
    (hperform : s.perform key action reply s') : s' = s := by
  cases action with
  | clock => exact hperform
  | readState => exact hperform
  | loadLedger => exact hperform.1
  | persistLedger reservations => exact h.elim
  | simulateCandidate command => exact hperform
  | applyAuthorizedCommand command => exact h.elim
  | uuid => exact hperform

/-- A predicate that does not look at the plant. -/
def Steady (Q : PlcState P → Prop) : Prop := ∀ s plant, Q s → Q { s with plant := plant }

/-- The rule of sequence behind an action that changes nothing. -/
theorem guarded_quiet_bind {α : Type} {action : PlcAct} {f : action.Reply → PlcProgram α}
    {Q : PlcState P → Prop} {R : α → PlcState P → Prop} (haction : action.Quiet)
    (hsteady : Steady Q) (hs : Q s)
    (hf : ∀ reply s', Q s' → (f reply).Guarded (plcContract key) (Returns R) s') :
    (PlcProgram.perform action >>= f).Guarded (plcContract key) (Returns R) s := by
  rintro s₁ ⟨plant, rfl⟩ -
  refine ⟨?_, ?_⟩
  · cases action <;> trivial
  · intro reply s' hperform _
    rw [haction.same hperform]
    exact hf reply _ (hsteady s plant hs)

/-! ## The call -/

variable [Primitives] {dispatch : SegmentedCapabilityDispatch} {plc : CapabilityVirtualPlc}
  {current : PhysicalStateSnapshot} {carriesDeadline : Bool}

/-- A rejection was answered without a change of the plant. -/
def RejectsUnchanged (a : PlcCommandAcknowledgment) (s : PlcState P) : Prop :=
  a.status = .rejected → s.Unchanged

omit [Primitives] in
theorem steady_unchanged : Steady (PlcState.Unchanged (P := P)) := fun _ _ h => h

omit [Primitives] in
theorem steady_effects : Steady (fun s : PlcState P => s.effects = []) := fun _ _ h => h

omit [Primitives] in
theorem unchanged_of_effects (h : s.effects = []) : s.Unchanged := by
  intro effect heffect
  rw [h] at heffect
  cases heffect

namespace PlcProgram

theorem acknowledge_guarded {d : CapabilityVirtualPlc.Disposition}
    (h : d.status = .rejected → s.Unchanged) :
    (acknowledge plc dispatch d).Guarded (plcContract key) (Returns RejectsUnchanged) s := by
  refine guarded_quiet_bind (Q := fun s => d.status = .rejected → s.Unchanged) trivial
    (fun _ _ hs => hs) h ?_
  intro acknowledgmentId s' hs'
  rw [Program.guarded_result]
  cases ha : plc.acknowledge acknowledgmentId dispatch d with
  | error error => trivial
  | ok a =>
    intro hrejected
    simp only [CapabilityVirtualPlc.acknowledge, bind_unit_eq_ok, pure_eq_ok,
      Except.ok.injEq] at ha
    obtain ⟨-, rfl⟩ := ha
    exact hs' hrejected

/-- A clock reading before an acknowledgment. -/
theorem clock_acknowledge_guarded {d : Time → CapabilityVirtualPlc.Disposition}
    (h : ∀ time, (d time).status = .rejected → s.Unchanged) :
    (perform .clock >>= fun time => acknowledge plc dispatch (d time)).Guarded (plcContract key)
      (Returns RejectsUnchanged) s := by
  refine guarded_quiet_bind (Q := fun s => ∀ time, (d time).status = .rejected → s.Unchanged)
    trivial (fun _ _ hs => hs) h ?_
  intro time s' hs'
  exact acknowledge_guarded (hs' time)

theorem acknowledgeRefusal_guarded {reason : String} (h : s.Unchanged) :
    (acknowledgeRefusal plc dispatch current reason).Guarded (plcContract key)
      (Returns RejectsUnchanged) s := by
  unfold acknowledgeRefusal
  split_ifs with hcas
  · refine guarded_quiet_bind trivial steady_unchanged h ?_
    intro state s' hs'
    refine Program.guarded_result_bind ?_
    intro preState _
    exact clock_acknowledge_guarded (fun _ _ => hs')
  · exact clock_acknowledge_guarded (fun _ _ => h)

theorem applyCommand_guarded (heffects : s.effects = []) (hheld : key.Held s.file)
    (hunused : key.Unused s.dispatched) :
    (applyCommand plc carriesDeadline dispatch current).Guarded (plcContract key)
      (Returns RejectsUnchanged) s := by
  rintro s₁ ⟨plant, rfl⟩ -
  refine ⟨⟨hheld, hunused⟩, ?_⟩
  rintro reply s' ⟨after, rfl, hunchanged⟩ -
  rcases reply with (reason | description) | postState
  · refine acknowledgeRefusal_guarded ?_
    intro effect heffect
    rw [heffects] at heffect
    obtain rfl := List.mem_singleton.mp heffect
    exact hunchanged reason rfl
  · exact clock_acknowledge_guarded (fun _ hstatus => by cases hstatus)
  · refine guarded_quiet_bind (Q := fun _ => True) trivial (fun _ _ _ => trivial) trivial ?_
    intro acknowledgedAt s' _
    split
    · exact acknowledge_guarded (fun hstatus => by cases hstatus)
    · exact acknowledge_guarded (fun hstatus => by cases hstatus)

/-- What `reserve` leaves. -/
def Reserved (key : ReplayKey) (refused : Option String) (s : PlcState P) : Prop :=
  s.effects = [] ∧ (refused = none → key.Held s.file ∧ key.Unused s.dispatched)

omit [Primitives] in
theorem reserveIn_guarded (heffects : s.effects = []) (hsound : s.Sound) :
    (reserveIn key s.file).Guarded (plcContract key) (Returns (Reserved key)) s := by
  unfold reserveIn
  cases hreplay : s.file.replayReason key with
  | some reason => exact ⟨heffects, nofun⟩
  | none =>
    have hunused : key.Unused s.dispatched :=
      ReplayReservations.unused_of_replayReason hreplay hsound.held
    rintro s₁ ⟨plant, rfl⟩ -
    refine ⟨fun k hk => ReplayReservations.held_add_of_held hk key, ?_⟩
    intro reply s' hperform _
    have hkept : s'.effects = [] := by
      rcases hperform with rfl | ⟨rfl, -⟩
      · exact heffects
      · exact heffects
    rcases reply with (reason | description) | ⟨⟩
    · exact ⟨hkept, nofun⟩
    · trivial
    · rcases hperform with rfl | ⟨-, hraised⟩
      · exact ⟨hkept, fun _ => ⟨s.file.held_add key, hunused⟩⟩
      · exact absurd rfl hraised

omit [Primitives] in
/-- A reservation that raised nothing is in the file and was unused. -/
theorem reserve_guarded (heffects : s.effects = []) :
    (reserve key).Guarded (plcContract key) (Returns (Reserved key)) s := by
  rintro s₁ ⟨plant, rfl⟩ -
  refine ⟨trivial, ?_⟩
  rintro reply s' ⟨rfl, hloaded⟩ hsound
  rcases reply with (reason | description) | state
  · exact ⟨heffects, nofun⟩
  · trivial
  · obtain rfl := hloaded state rfl
    exact reserveIn_guarded heffects hsound

theorem reserveAndApply_guarded (hkey : key = CapabilityVirtualPlc.replayKey dispatch)
    (heffects : s.effects = []) :
    (reserveAndApply plc carriesDeadline dispatch current).Guarded (plcContract key)
      (Returns RejectsUnchanged) s := by
  subst hkey
  refine Program.guarded_returns_bind (reserve_guarded heffects) ?_
  rintro refused s' ⟨heffects', hreserved⟩
  cases refused with
  | some reason =>
    exact clock_acknowledge_guarded (fun _ _ => unchanged_of_effects heffects')
  | none =>
    obtain ⟨hheld, hunused⟩ := hreserved rfl
    refine guarded_quiet_bind (Q := fun s => s.effects = [] ∧
      (CapabilityVirtualPlc.replayKey dispatch).Held s.file ∧
      (CapabilityVirtualPlc.replayKey dispatch).Unused s.dispatched) trivial (fun _ _ hs => hs)
      ⟨heffects', hheld, hunused⟩ ?_
    rintro finalDispatchTime s₂ ⟨heffects₂, hheld₂, hunused₂⟩
    split_ifs
    · exact acknowledge_guarded (fun _ => unchanged_of_effects heffects₂)
    · exact applyCommand_guarded heffects₂ hheld₂ hunused₂

theorem dispatchCandidate_guarded (hkey : key = CapabilityVirtualPlc.replayKey dispatch)
    (heffects : s.effects = []) :
    (dispatchCandidate plc carriesDeadline dispatch current).Guarded (plcContract key)
      (Returns RejectsUnchanged) s := by
  refine guarded_quiet_bind trivial steady_effects heffects ?_
  intro assessment s₁ hs₁
  refine Program.guarded_result_bind ?_
  intro fresh _
  refine guarded_quiet_bind trivial steady_effects hs₁ ?_
  intro commitTime s₂ hs₂
  split_ifs
  · exact acknowledge_guarded (fun _ => unchanged_of_effects hs₂)
  · exact acknowledge_guarded (fun _ => unchanged_of_effects hs₂)
  · exact reserveAndApply_guarded hkey hs₂

theorem executeLocked_guarded (hkey : key = CapabilityVirtualPlc.replayKey dispatch)
    (heffects : s.effects = []) :
    (executeLocked plc carriesDeadline dispatch).Guarded (plcContract key)
      (Returns RejectsUnchanged) s := by
  refine guarded_quiet_bind trivial steady_effects heffects ?_
  intro evaluatedAt s₁ hs₁
  refine guarded_quiet_bind trivial steady_effects hs₁ ?_
  intro state s₂ hs₂
  refine Program.guarded_result_bind ?_
  intro current _
  refine guarded_quiet_bind trivial steady_effects hs₂ ?_
  intro loaded s₃ hs₃
  refine Program.guarded_result_bind ?_
  intro ledger _
  split
  · exact acknowledge_guarded (fun _ => unchanged_of_effects hs₃)
  · split
    · exact acknowledge_guarded (fun _ => unchanged_of_effects hs₃)
    · exact dispatchCandidate_guarded hkey hs₃

end PlcProgram

/-! ## Runs -/

/-- The invariant of a PLC process: the state is sound, the running call will keep it so, and no
    rejection that was answered changed the plant. -/
structure PlcSystem.Safe (sys : PlcSystem P) : Prop where
  sound : sys.state.Sound
  running : ∀ key p, sys.running = some (key, p) →
    p.Guarded (plcContract key) (Returns RejectsUnchanged) sys.state
  answered : ∀ answer ∈ sys.answered, ∀ a, answer.result = .ok a → a.status = .rejected →
    ∀ effect ∈ answer.effects, effect.2 = effect.1

omit [Primitives] in
theorem PlcSystem.Initial.safe {sys : PlcSystem P} (h : sys.Initial) : sys.Safe := by
  obtain ⟨hdispatched, hrunning, hanswered⟩ := h
  refine ⟨⟨?_, ?_⟩, ?_, ?_⟩
  · simp [hdispatched]
  · rw [hdispatched]
    exact ⟨.nil, .nil, .nil, .nil⟩
  · simp [hrunning]
  · simp [hanswered]

theorem PlcStep.safe {sys sys' : PlcSystem P} (h : PlcStep sys sys') (hsafe : sys.Safe) :
    sys'.Safe := by
  cases h with
  | start plc s answered carriesDeadline dispatch =>
    refine ⟨⟨hsafe.sound.held, hsafe.sound.singleUse⟩, ?_, hsafe.answered⟩
    rintro key p ⟨⟩
    exact PlcProgram.executeLocked_guarded rfl rfl
  | act plc s s' answered key action next reply hperform =>
    have hguarded := hsafe.running key _ rfl
    obtain ⟨hallowed, hnext⟩ := hguarded s ⟨s.plant, rfl⟩ hsafe.sound
    have hsound : s'.Sound := PlcState.sound_perform hsafe.sound hallowed hperform
    refine ⟨hsound, ?_, hsafe.answered⟩
    rintro _ p ⟨⟩
    exact hnext reply s' hperform hsound
  | finish plc s answered key result =>
    have hguarded := hsafe.running key _ rfl
    refine ⟨hsafe.sound, nofun, ?_⟩
    intro answer hanswer a ha hrejected
    rcases List.mem_cons.mp hanswer with rfl | hanswer
    · obtain rfl : result = .ok a := ha
      exact hguarded hrejected
    · exact hsafe.answered answer hanswer a ha hrejected
  | restart plc => exact ⟨hsafe.sound, nofun, hsafe.answered⟩
  | plantMoves plant =>
    refine ⟨⟨hsafe.sound.held, hsafe.sound.singleUse⟩, ?_, hsafe.answered⟩
    intro key p hrunning
    refine Program.guarded_of_rely ?_ ?_ (hsafe.running key p hrunning)
    · rintro s₂ ⟨moved, rfl⟩
      exact ⟨moved, rfl⟩
    · intro result hresult
      cases result with
      | ok a => exact hresult
      | error error => trivial

theorem PlcRun.safe {sys sys' : PlcSystem P} (h : PlcRun sys sys') (hsafe : sys.Safe) :
    sys'.Safe := by
  induction h with
  | refl => exact hsafe
  | tail _ hstep ih => exact hstep.safe ih

/-- Over any sequence of calls and restarts the plant is told to apply a command at most once for
    each request digest, permit, permit nonce and command, and a call that was answered with a
    rejection did not change the plant. -/
theorem PlcRun.applies_once {sys sys' : PlcSystem P} (hinitial : sys.Initial)
    (hrun : PlcRun sys sys') :
    (sys'.state.dispatched.map (fun k => k.requestDigest)).Nodup ∧
      (sys'.state.dispatched.map (fun k => k.permitId)).Nodup ∧
      (sys'.state.dispatched.map (fun k => k.permitNonce)).Nodup ∧
      (sys'.state.dispatched.map (fun k => k.commandId)).Nodup ∧
      ∀ answer ∈ sys'.answered, ∀ a, answer.result = .ok a → a.status = .rejected →
        ∀ effect ∈ answer.effects, effect.2 = effect.1 := by
  have hsafe := hrun.safe hinitial.safe
  obtain ⟨hrequests, hpermits, hnonces, hcommands⟩ := hsafe.sound.singleUse
  exact ⟨hrequests, hpermits, hnonces, hcommands, hsafe.answered⟩

/-! ## A scripted environment -/

/-- Run a program against an environment that answers by the state alone. -/
def PlcProgram.drive {α : Type} (answer : (action : PlcAct) → PlcState P →
      action.Reply × PlcState P) :
    PlcProgram α → PlcState P → Except PlcError α × PlcState P
  | .done result, s => (result, s)
  | .act action next, s => drive answer (next (answer action s).1) (answer action s).2

/-- A scripted call is a run. -/
theorem PlcRun.of_drive {answer : (action : PlcAct) → PlcState P →
      action.Reply × PlcState P}
    (hanswer : ∀ action (s : PlcState P),
      s.perform key action (answer action s).1 (answer action s).2)
    (plc : CapabilityVirtualPlc) (answered : List (PlcAnswer P))
    (p : PlcProgram PlcCommandAcknowledgment) (s : PlcState P) :
    PlcRun ⟨plc, s, some (key, p), answered⟩
      ⟨plc, (p.drive answer s).2, none,
        ⟨key, (p.drive answer s).1, (p.drive answer s).2.effects⟩ :: answered⟩ := by
  induction p generalizing s with
  | done result => exact .single (.finish plc s answered key result)
  | act action next ih =>
    refine .head (.act plc s _ answered key action next _ (hanswer action s)) ?_
    exact ih (answer action s).1 (answer action s).2

end

namespace Sample

/-- A plant that counts its commands, and a ledger file that can be read and written. -/
def plcAnswer (key : ReplayKey) : (action : PlcAct) → PlcState Nat → action.Reply × PlcState Nat
  | .clock, s => ((3 : Time), s)
  | .readState, s => (.ok (snapshot 0), s)
  | .loadLedger, s => (.ok s.file, s)
  | .persistLedger reservations, s => (.ok (), { s with file := reservations })
  | .simulateCandidate _, s => (.ok assessment, s)
  | .applyAuthorizedCommand _, s =>
      (.ok (snapshot 1), { s with
        plant := s.plant + 1
        dispatched := key :: s.dispatched
        effects := (s.plant, s.plant + 1) :: s.effects })
  | .uuid, s => ("acknowledgment-1", s)

theorem perform_plcAnswer (key : ReplayKey) (action : PlcAct) (s : PlcState Nat) :
    s.perform key action (plcAnswer key action s).1 (plcAnswer key action s).2 := by
  cases action with
  | clock => rfl
  | readState => rfl
  | loadLedger => exact ⟨rfl, fun loaded h => (Except.ok.inj h).symm⟩
  | persistLedger reservations => exact .inl rfl
  | simulateCandidate command => rfl
  | applyAuthorizedCommand command => exact ⟨s.plant + 1, rfl, nofun⟩
  | uuid => rfl

/-- The PLC after one scripted call. -/
def afterCall (sys : PlcSystem Nat) (dispatch : SegmentedCapabilityDispatch) : PlcSystem Nat :=
  let plc := { sys.plc with
    executeRequests := sys.plc.executeRequests + 1, scanCounter := sys.plc.scanCounter + 1 }
  let key := CapabilityVirtualPlc.replayKey dispatch
  let ended := (PlcProgram.executeLocked plc false dispatch).drive (plcAnswer key)
    { sys.state with effects := [] }
  ⟨plc, ended.2, none, ⟨key, ended.1, ended.2.effects⟩ :: sys.answered⟩

theorem run_afterCall {sys : PlcSystem Nat} (h : sys.running = none)
    (dispatch : SegmentedCapabilityDispatch) : PlcRun sys (afterCall sys dispatch) := by
  obtain ⟨plc, s, running, answered⟩ := sys
  obtain rfl : running = none := h
  refine .head (.start plc s answered false dispatch) ?_
  exact PlcRun.of_drive (perform_plcAnswer _) _ answered _ _

/-- A PLC with an empty ledger. -/
def plcSystem : PlcSystem Nat := ⟨virtualPlc, ⟨⟨[], [], [], []⟩, 0, [], []⟩, none, []⟩

end Sample

open Sample in
set_option maxRecDepth 10000 in
/-- A dispatch is applied; after a restart it is replayed and rejected. -/
theorem PlcRun.applies_once_replayed :
    let first := afterCall plcSystem (dispatch "action-1")
    let last := afterCall { first with plc := virtualPlc } (dispatch "action-1")
    last.state.plant = 1 ∧ last.answered.map (fun answer => answer.result.toOption.map
      (fun a => (a.status, a.reason))) =
        [some (.rejected, "transaction_replayed"),
          some (.applied, "command_applied_and_plc_read_back")] ∧
    (last.state.dispatched.map (fun k => k.permitId)).Nodup := by
  intro first last
  have hrun : PlcRun plcSystem last :=
    ((run_afterCall rfl (dispatch "action-1")).tail (.restart first virtualPlc)).trans
      (run_afterCall rfl (dispatch "action-1"))
  exact ⟨by decide +kernel, by decide +kernel,
    (PlcRun.applies_once ⟨rfl, rfl, rfl⟩ hrun).2.1⟩

end AegisOt
