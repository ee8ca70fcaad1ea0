import AegisOt.Runtime.Driver
import AegisOt.Transport.CoordinationSystem
import AegisOt.Transport.Driver

/-!
# A scripted environment for both processes

One call of the gateway evaluated to its end, with an OT runtime that serves each request the
network delivers. It is a run of the two processes, whatever the scripts say.
-/

namespace AegisOt

open Program

variable [Primitives] [RecordCodec]

/-- The environments of the two processes; the gateway's reads no nonce and no response. -/
structure CoordinationEnvironment where
  port : PortEnvironment
  ot : OtEnvironment
  delivers : PortRequest → Bool

/-- A nonce for each position in the log. -/
def freshNonce (n : Nat) : String := String.ofList (List.replicate (16 + n) 'n')

/-- The request as the OT runtime receives it. -/
def PortRequest.toOt : PortRequest → OtRequest
  | .prepare request => .prepare request
  | .commit request => .commit request
  | .query request => .query request

/-- What the gateway receives from a handler that ended. -/
def otResponse : Except RuntimeError OtReply → ExchangeResult
  | .ok (.receipt receipt) => .response ⟨200, 1024, receipt.digest, none, some receipt, none⟩
  | .ok (.outcome outcome) => .response ⟨200, 1024, outcome.digest, none, none, some outcome⟩
  | .error _ => .unavailable

namespace CoordinationSystem

/-- Handle one request to its end. -/
def serve (env : OtEnvironment) (ot : OtSystem) (request : OtRequest) :
    ExchangeResult × OtSystem :=
  let result := OtProgram.runWith env (request.handle ot.config) 0 ot.state
  (otResponse result.1, ⟨ot.config, result.2.answer result.1, none⟩)

/-- Exchange one request with the OT runtime; a request that is lost ends in a timeout. -/
def exchange (env : CoordinationEnvironment) (ot : OtSystem) (request : PortRequest) :
    ExchangeResult × OtSystem :=
  if env.delivers request then serve env.ot ot request.toOt else (.unavailable, ot)

/-- Run a program of the gateway to its end. -/
def runWith (env : CoordinationEnvironment) (port : CoordinatedPort) :
    PortProgram PortReply → GatewayState → OtSystem →
      Except PortError PortReply × GatewayState × OtSystem
  | .done result, s, ot => (result, s, ot)
  | .act .nonce next, s, ot =>
      let value := freshNonce s.nonces.length
      runWith env port (next value) { s with nonces := value :: s.nonces } ot
  | .act (.exchange request) next, s, ot =>
      let exchanged := exchange env ot request
      runWith env port (next exchanged.1) ((s.handOver request).receive port exchanged.1)
        exchanged.2
  | .act action next, s, ot =>
      let reaction := s.toPortState.react env.port action
      runWith env port (next reaction.1) { s with toPortState := reaction.2 } ot

/-- The nonces drawn so far are those of their positions. -/
def Drawn (s : GatewayState) : Prop := ∀ value ∈ s.nonces, value.length < 16 + s.nonces.length

omit [Primitives] [RecordCodec] in
theorem length_freshNonce (n : Nat) : (freshNonce n).length = 16 + n := by
  simp [freshNonce]

omit [RecordCodec] in
theorem outcome_of_response {result : Except RuntimeError OtReply} {o : SignedEffectOutcome}
    (h : (otResponse result).outcome? = some o) : result = .ok (.outcome o) := by
  rcases result with error | receipt | outcome
  · simp [otResponse, ExchangeResult.outcome?] at h
  · simp [otResponse, ExchangeResult.outcome?] at h
  · obtain rfl : outcome = o := by simpa [otResponse, ExchangeResult.outcome?] using h
    rfl

/-- The OT runtime goes on to the end of its handler. -/
theorem run_otRunWith (env : OtEnvironment) (g : GatewaySystem) (config : OtConfig)
    (p : OtProgram OtReply) (n : Nat) (s : OtState) :
    CoordinationRun ⟨g, ⟨config, s, some p⟩⟩
      ⟨g, ⟨config, (OtProgram.runWith env p n s).2,
        some (.done (OtProgram.runWith env p n s).1)⟩⟩ := by
  induction p generalizing n s with
  | done result => exact .refl
  | act action next ih =>
    have hstep := OtStep.act config s _ action next _ (s.perform_react env n action)
    exact .head (.ot g _ _ hstep (fun h => by cases h)) (ih _ _ _)

/-- A request that is delivered and handled to its end. -/
theorem run_serve (env : OtEnvironment) {sys : CoordinationSystem} (request : OtRequest)
    (hidle : sys.ot.running = none)
    (hauthentic : ∀ m, request = .commit m → sys.ot.config.Admits m →
      m ∈ sys.gateway.state.commits) :
    CoordinationRun sys ⟨sys.gateway, (serve env sys.ot request).2⟩ := by
  obtain ⟨g, config, s, running⟩ := sys
  obtain rfl : running = none := hidle
  refine .head (.deliver g config s request hauthentic) ?_
  refine .tail (run_otRunWith env g config _ 0 s) (.ot g _ _ (.finish config _ _) ?_)
  exact fun h => by cases h

theorem running_exchange (env : CoordinationEnvironment) {ot : OtSystem} (request : PortRequest)
    (hidle : ot.running = none) : (exchange env ot request).2.running = none := by
  unfold exchange
  split
  · rfl
  · exact hidle

theorem answered_exchange (env : CoordinationEnvironment) (ot : OtSystem) (request : PortRequest)
    {o : SignedEffectOutcome} (ho : (exchange env ot request).1.outcome? = some o) :
    o ∈ (exchange env ot request).2.state.answered := by
  unfold exchange at ho ⊢
  split at ho
  · rename_i hdelivers
    have hresult := outcome_of_response ho
    rw [if_pos hdelivers]
    unfold serve
    dsimp only
    rw [hresult]
    exact List.mem_cons_self
  · cases ho

omit [RecordCodec] in
/-- A commit request was handed over before it arrives. -/
theorem mem_commits_of_sent {s : GatewayState} {request : PortRequest}
    {m : SignedEffectCommitRequest} (hsent : request ∈ s.sent) (hm : request.toOt = .commit m) :
    m ∈ s.commits := by
  cases request with
  | commit request =>
    obtain rfl := OtRequest.commit.inj hm
    exact List.mem_filterMap.mpr ⟨_, hsent, rfl⟩
  | prepare request => cases hm
  | query request => cases hm

/-- The gateway sends a request and receives the response. -/
theorem run_exchange (env : CoordinationEnvironment) (port : CoordinatedPort) (s : GatewayState)
    {ot : OtSystem} (request : PortRequest) (next : ExchangeResult → PortProgram PortReply)
    (hidle : ot.running = none) :
    CoordinationRun ⟨⟨port, s, some (.act (.exchange request) next), false⟩, ot⟩
      ⟨⟨port, (s.handOver request).receive port (exchange env ot request).1,
        some (next (exchange env ot request).1), false⟩, (exchange env ot request).2⟩ := by
  have hsent : CoordinationStep ⟨⟨port, s, some (.act (.exchange request) next), false⟩, ot⟩
      ⟨⟨port, s.handOver request, some (.act (.exchange request) next), true⟩, ot⟩ :=
    .gateway _ _ ot (.handOver port s request next) (fun _ _ => .inl)
  refine .head hsent ?_
  have hserved : CoordinationRun
      ⟨⟨port, s.handOver request, some (.act (.exchange request) next), true⟩, ot⟩
      ⟨⟨port, s.handOver request, some (.act (.exchange request) next), true⟩,
        (exchange env ot request).2⟩ := by
    by_cases hdelivers : env.delivers request = true
    · rw [exchange, if_pos hdelivers]
      refine @run_serve _ _ env.ot ⟨_, ot⟩ request.toOt hidle ?_
      intro m hm _
      exact mem_commits_of_sent List.mem_cons_self hm
    · rw [exchange, if_neg hdelivers]
  refine hserved.tail (.gateway _ _ _ (.respond port (s.handOver request) request next _) ?_)
  intro port' o hreceived
  rcases List.mem_append.mp hreceived with hnew | hold
  · obtain ⟨o', ho', hsame⟩ := Option.mem_map.mp (Option.mem_toList.mp hnew)
    obtain rfl := (Prod.mk.inj hsame).2
    exact .inr (fun _ => answered_exchange env ot request ho')
  · exact .inl hold

/-- The gateway's program runs to its end. -/
theorem run_runWith (env : CoordinationEnvironment) (port : CoordinatedPort)
    (p : PortProgram PortReply) {s : GatewayState} {ot : OtSystem} (hdrawn : Drawn s)
    (hidle : ot.running = none) :
    CoordinationRun ⟨⟨port, s, some p, false⟩, ot⟩
        ⟨⟨port, (runWith env port p s ot).2.1, some (.done (runWith env port p s ot).1), false⟩,
          (runWith env port p s ot).2.2⟩ ∧
      Drawn (runWith env port p s ot).2.1 ∧ (runWith env port p s ot).2.2.running = none := by
  induction p generalizing s ot with
  | done result => exact ⟨.refl, hdrawn, hidle⟩
  | act action next ih =>
    -- An action that stays in the process is one step of the gateway.
    have hlocal (reply : action.Reply) {s' : GatewayState}
        (hnone : ∀ request, action ≠ .exchange request) (hperform : s.perform port action reply s')
        (hsame : s'.received = s.received) :
        CoordinationStep ⟨⟨port, s, some (.act action next), false⟩, ot⟩
          ⟨⟨port, s', some (next reply), false⟩, ot⟩ :=
      .gateway _ _ ot (.act port s s' action next reply hnone hperform)
        (fun _ _ h => .inl (hsame ▸ h))
    have hreact (hnone : ∀ request, action ≠ .exchange request) (hnonce : action ≠ .nonce) :
        CoordinationStep ⟨⟨port, s, some (.act action next), false⟩, ot⟩
          ⟨⟨port, { s with toPortState := (s.toPortState.react env.port action).2 },
            some (next (s.toPortState.react env.port action).1), false⟩, ot⟩ := by
      refine hlocal _ hnone ?_ rfl
      have hperform := s.toPortState.perform_react env.port action
      cases action with
      | exchange request => exact absurd rfl (hnone request)
      | nonce => exact absurd rfl hnonce
      | _ => exact ⟨_, hperform, rfl⟩
    cases action with
    | nonce =>
      have hfresh : freshNonce s.nonces.length ∉ s.nonces := by
        intro hmem
        have hlt := hdrawn _ hmem
        rw [length_freshNonce] at hlt
        exact absurd hlt (lt_irrefl _)
      have hnext : Drawn { s with nonces := freshNonce s.nonces.length :: s.nonces } := by
        intro value hvalue
        rw [List.length_cons]
        rcases List.mem_cons.mp hvalue with rfl | hold
        · rw [length_freshNonce]
          omega
        · have hlt := hdrawn value hold
          omega
      have hstep := hlocal (freshNonce s.nonces.length) (fun _ h => by cases h)
        ⟨hfresh, rfl⟩ rfl
      obtain ⟨hrun, hrest⟩ := ih (freshNonce s.nonces.length) hnext hidle
      exact ⟨.head hstep hrun, hrest⟩
    | exchange request =>
      have hfirst := run_exchange env port s request next hidle
      obtain ⟨hrun, hrest⟩ := ih (exchange env ot request).1
        (s := (s.handOver request).receive port (exchange env ot request).1) hdrawn
        (running_exchange env request hidle)
      exact ⟨hfirst.trans hrun, hrest⟩
    | _ =>
      obtain ⟨hrun, hrest⟩ := ih (s.toPortState.react env.port _).1
        (s := { s with toPortState := (s.toPortState.react env.port _).2 }) hdrawn hidle
      exact ⟨.head (hreact (fun _ h => by cases h) (fun h => by cases h)) hrun, hrest⟩

/-- Serve one call of the gateway to its end. -/
def call (env : CoordinationEnvironment) (sys : CoordinationSystem) (request : PortCall) :
    CoordinationSystem :=
  let result := runWith env sys.gateway.port (request.handle sys.gateway.port) sys.gateway.state
    sys.ot
  ⟨⟨sys.gateway.port, result.2.1, none, false⟩, result.2.2⟩

/-- Both processes wait for a call. -/
structure Idle (sys : CoordinationSystem) : Prop where
  gateway : sys.gateway.running = none
  waiting : sys.gateway.waiting = false
  drawn : Drawn sys.gateway.state
  ot : sys.ot.running = none

theorem run_call (env : CoordinationEnvironment) {sys : CoordinationSystem} (request : PortCall)
    (hidle : sys.Idle) :
    CoordinationRun sys (sys.call env request) ∧ (sys.call env request).Idle := by
  obtain ⟨⟨port, s, running, waiting⟩, ot⟩ := sys
  obtain ⟨hgateway, hwaiting, hdrawn, hot⟩ := hidle
  obtain rfl : running = none := hgateway
  obtain rfl : waiting = false := hwaiting
  obtain ⟨hrun, hdrawn', hot'⟩ := run_runWith env port (request.handle port) hdrawn hot
  refine ⟨?_, rfl, rfl, hdrawn', hot'⟩
  refine .head (.gateway _ _ ot (.start port s request) (fun _ _ => .inl)) ?_
  exact hrun.tail (.gateway _ _ _ (.finish port _ _) (fun _ _ => .inl))

/-- Serve calls one after the other. -/
def callAll (sys : CoordinationSystem) : List (CoordinationEnvironment × PortCall) →
    CoordinationSystem
  | [] => sys
  | (env, request) :: rest => (sys.call env request).callAll rest

theorem run_callAll {sys : CoordinationSystem}
    (requests : List (CoordinationEnvironment × PortCall)) (hidle : sys.Idle) :
    CoordinationRun sys (sys.callAll requests) ∧ (sys.callAll requests).Idle := by
  induction requests generalizing sys with
  | nil => exact ⟨.refl, hidle⟩
  | cons head rest ih =>
    obtain ⟨hfirst, hnext⟩ := run_call head.1 head.2 hidle
    obtain ⟨hrest, hend⟩ := ih hnext
    exact ⟨hfirst.trans hrest, hend⟩

end CoordinationSystem

/-- The gateway's side of a run. -/
theorem CoordinationRun.gateway {sys sys' : CoordinationSystem} (h : CoordinationRun sys sys') :
    GatewayRun sys.gateway sys'.gateway := by
  induction h with
  | refl => exact .refl
  | tail _ hstep ih =>
    cases hstep with
    | gateway g g' ot hstep hauthentic => exact ih.tail hstep
    | deliver g config s request hauthentic => exact ih
    | ot g ot ot' hstep hworking => exact ih

end AegisOt

namespace AegisOt.CoordinationSample

open Sample

/-! ## The sample processes -/

theorem wellFormed_empty : (Json.obj []).wellFormed = true := rfl

/-- A record takes no room; the files of a run without crashes are never read. -/
scoped instance (priority := 2000) briefCodec : RecordCodec where
  dump _ := ⟨[], wellFormed_empty⟩
  parse _ := none

/-- Two processes that were just initialized. -/
def coordinationSystem : CoordinationSystem :=
  ⟨⟨port, ⟨⟨gatewayJournal, 0⟩, [], [], []⟩, none, false⟩, otSystem⟩

theorem initial_coordinationSystem : coordinationSystem.Initial :=
  ⟨⟨⟨"gateway", .written, by decide +kernel⟩, rfl, rfl, rfl, rfl, rfl⟩,
    ⟨⟨"coordinator", .written, by decide +kernel⟩, rfl, rfl, rfl, rfl⟩⟩

theorem idle_coordinationSystem : coordinationSystem.Idle :=
  { gateway := rfl
    waiting := rfl
    drawn := List.forall_mem_nil _
    ot := rfl }

/-- Both clocks read one time and the device gives no acknowledgment. -/
def coordinatedAt (now : Time) (delivers : PortRequest → Bool) : CoordinationEnvironment :=
  { port := callAt now now ""
    ot := calmAt now none
    delivers := delivers }

/-- The device, which is the ninth action of a commit, applies the command. -/
def appliedAt (now : Time) : CoordinationEnvironment :=
  { coordinatedAt now (fun _ => true) with
    ot :=
      { calmAt now (some (appliedAcknowledgment "action-1" "acknowledgment-1" now)) with
        plant := fun n => some (plantAt (if n < 9 then 0 else 1)) } }

/-- The key of the sample effect. -/
def sampleEffectId : EffectId := (effect "action-1").effectId

/-- The sample action is executed twice. -/
def coordinationExecuted : CoordinationSystem :=
  coordinationSystem.callAll
    [(appliedAt 3, .execute (dispatch "action-1")), (appliedAt 5, .execute (dispatch "action-1"))]

theorem run_coordinationExecuted : CoordinationRun coordinationSystem coordinationExecuted :=
  (CoordinationSystem.run_callAll _ idle_coordinationSystem).1

set_option maxRecDepth 10000 in
/-- One commit request was sent and executed, and its outcome was retained. -/
theorem evaluated_coordinationExecuted :
    coordinationExecuted.gateway.state.commits.length = 1 ∧
      coordinationExecuted.ot.state.executed.length = 1 ∧
      (coordinationExecuted.gateway.state.journal.records.find? sampleEffectId).map
        (fun e => e.record.state) = some .applied := by
  decide +kernel

/-- The prepare request is lost, and the gateway closes the effect. -/
def coordinationClosed : CoordinationSystem :=
  coordinationSystem.callAll
    [(coordinatedAt 3 (fun _ => false), .execute (dispatch "action-1"))]

theorem run_coordinationClosed :
    CoordinationRun coordinationSystem coordinationClosed ∧ coordinationClosed.Idle :=
  CoordinationSystem.run_callAll _ idle_coordinationSystem

end AegisOt.CoordinationSample
