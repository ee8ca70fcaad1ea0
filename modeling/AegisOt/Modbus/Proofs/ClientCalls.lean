import AegisOt.Modbus.ClientCalls
import AegisOt.Modbus.Proofs.Transfer

/-!
# What a call of the Modbus client reports

Whatever the network does, a call commits at most once, an EXECUTE is reported as an unknown effect
exactly when its commit returned and no response was accepted, and only then the header is not
released. Over the life of a client no response is accepted twice.
-/

namespace AegisOt

namespace Program

/-- A program that is run to its end runs, and what follows goes on with its end. -/
theorem runs_attempt_bind {σ Act : Type} {Reply : Act → Type} {ε α β : Type}
    {perform : σ → (action : Act) → Reply action → σ → Prop} {p : Program Act Reply ε α}
    {f : Except ε α → Program Act Reply ε β} {s s' : σ} {trace : List (Event Act Reply)}
    {ended : Except ε β} (h : (p.attempt >>= f).Runs perform s trace ended s') :
    ∃ before after first s₁, trace = before ++ after ∧ p.Runs perform s before first s₁ ∧
      (f first).Runs perform s₁ after ended s' := by
  induction p generalizing s trace with
  | done first => exact ⟨[], trace, first, s, rfl, .done _ _, h⟩
  | act action next ih =>
    cases h with
    | act hperform hnext =>
      obtain ⟨before, after, first, s₁, rfl, hfirst, hrest⟩ := ih _ hnext
      exact ⟨_ :: before, after, first, s₁, rfl, .act hperform hfirst, hrest⟩

end Program

namespace Modbus

open Words Program

/-- A trace of a client. -/
abbrev ClientTrace : Type := List (Event ClientAct (fun _ => ModbusReply))

/-- An action that neither commits nor releases the header. -/
def ClientAct.Staging (header : RequestHeader) (action : ClientAct) : Prop :=
  action.isCommit = false ∧ ∀ registers,
    ({ header with control := .release } : RequestHeader).toRegisters = .ok registers →
      action ≠ .writeRegisters 0 registers

/-- The first register of a header is its control word. -/
theorem head_of_toRegisters {header : RequestHeader} {registers : List ℕ}
    (h : header.toRegisters = .ok registers) : registers.head? = some header.control.toInt := by
  unfold RequestHeader.toRegisters at h
  simp only [bind_eq_ok, pure_eq_ok, Except.ok.injEq] at h
  obtain ⟨transaction, -, byteLength, -, digest, -, rfl⟩ := h
  rfl

theorem staging_header {header : RequestHeader} {registers : List ℕ}
    (hbegin : header.control = .begin) (h : header.toRegisters = .ok registers) :
    (ClientAct.writeRegisters 0 registers).Staging header := by
  refine ⟨rfl, ?_⟩
  rintro released hreleased ⟨⟩
  have hsame := (head_of_toRegisters h).symm.trans (head_of_toRegisters hreleased)
  rw [hbegin] at hsame
  cases hsame

theorem staging_payload (header : RequestHeader) {address : ℕ} (h : address ≠ 0)
    (values : List ℕ) : (ClientAct.writeRegisters address values).Staging header := by
  refine ⟨rfl, ?_⟩
  rintro registers - ⟨⟩
  exact h rfl

theorem staging_read (header : RequestHeader) (address count : ℕ) :
    (ClientAct.readHoldingRegisters address count).Staging header :=
  ⟨rfl, fun _ _ hsame => by cases hsame⟩

/-! ## Joined traces -/

section

variable {header : RequestHeader} {before after trace : ClientTrace}

theorem commitSent_append :
    commitSent (before ++ after) ↔ commitSent before ∨ commitSent after := by
  simp only [commitSent, List.mem_append, or_and_right, exists_or]

theorem releaseSent_append :
    releaseSent header (before ++ after) ↔
      releaseSent header before ∨ releaseSent header after := by
  simp only [releaseSent, List.mem_append, or_and_right, exists_or]

theorem not_commitSent (h : ∀ event ∈ trace, event.action.isCommit = false) :
    ¬ commitSent trace := by
  rintro ⟨event, hevent, hcommit, -⟩
  rw [h event hevent] at hcommit
  cases hcommit

theorem not_releaseSent (h : ∀ event ∈ trace, event.action.Staging header) :
    ¬ releaseSent header trace := by
  rintro ⟨event, hevent, registers, hregisters, haction⟩
  exact (h event hevent).2 registers hregisters haction

theorem countP_isCommit (h : ∀ event ∈ trace, event.action.isCommit = false) :
    trace.countP (fun event => event.action.isCommit) = 0 := by
  refine List.countP_eq_zero.mpr (fun event hevent => ?_)
  rw [h event hevent]
  exact Bool.false_ne_true

end

namespace ClientProgram

variable {P : ClientAct → Prop}

theorem uses_requireSuccess (operation : String) (reply : ModbusReply) :
    (requireSuccess operation reply).Uses P := by
  cases reply <;> trivial

theorem uses_writeRegisters {address : ℕ} {values : List ℕ}
    (h : P (.writeRegisters address values)) : (writeRegisters address values).Uses P :=
  uses_bind ((uses_call _).mpr h) (fun reply =>
    uses_bind (uses_requireSuccess _ reply) (fun _ => uses_pure _))

theorem uses_writeChunks {registers : List ℕ} {offsets : List ℕ}
    (h : ∀ offset values, P (.writeRegisters (requestPayloadStart + offset) values)) :
    (writeChunks registers offsets).Uses P := by
  induction offsets with
  | nil => trivial
  | cons offset rest ih => exact uses_bind (uses_writeRegisters (h _ _)) (fun _ => ih)

theorem uses_readFrom (h : ∀ address count, P (.readHoldingRegisters address count))
    (address count offset : ℕ) : (readFrom address count offset).Uses P := by
  fun_induction readFrom address count offset with
  | case1 offset hlt chunk ih =>
    refine uses_bind ((uses_call _).mpr (h _ _)) (fun reply => ?_)
    refine uses_bind (uses_requireSuccess _ reply) (fun values => ?_)
    exact uses_bind ih (fun _ => uses_pure _)
  | case2 offset hge => trivial

end ClientProgram

namespace ModbusPhysicalDeviceClient

open ClientProgram

variable [EvidencePrimitives] {Q P : Type} {codec : ClientCodec Q P}
  {client : ModbusPhysicalDeviceClient} {header : RequestHeader}

/-! ## The parts of a call -/

omit [EvidencePrimitives] in
/-- The staging either fails before the commit, or it ends with the commit. -/
theorem stage_ends {registers : List ℕ} {trace : ClientTrace}
    {ended : Except RequestError ModbusReply} (hbegin : header.control = .begin)
    (h : (stage header registers).Ends trace ended) :
    ((∃ error, ended = .error error) ∧ ∀ event ∈ trace, event.action.Staging header) ∨
    ∃ before reply, trace = before ++
        [⟨.writeRegister 0 ControlWord.commit.toInt, reply⟩] ∧
      (∀ event ∈ before, event.action.Staging header) ∧
      ((reply = .raised ∧ ended = .error .other) ∨ (reply ≠ .raised ∧ ended = .ok reply)) := by
  rcases runs_result_bind h with ⟨error, -, rfl, rfl, -⟩ | ⟨headerRegisters, hheader, h⟩
  · exact .inl ⟨⟨error, rfl⟩, List.forall_mem_nil _⟩
  have hpayload (offset : ℕ) (values : List ℕ) :
      (ClientAct.writeRegisters (requestPayloadStart + offset) values).Staging header :=
    staging_payload header (show 32 + offset ≠ 0 by omega) values
  have hheaderUses : (writeRegisters 0 headerRegisters).Uses (ClientAct.Staging header) :=
    uses_writeRegisters (staging_header hbegin (mapError_eq_ok.mp hheader))
  rcases runs_bind h with ⟨first, rest, _, _, rfl, hfirst, h⟩ | ⟨error, hfirst, rfl⟩
  · rcases runs_bind h with ⟨chunks, last, _, _, rfl, hchunks, h⟩ | ⟨error, hchunks, rfl⟩
    · -- the header and the chunks are written, and the commit is sent
      have hbefore (event) (hevent : event ∈ first ++ chunks) : event.action.Staging header := by
        rcases List.mem_append.mp hevent with hfirst' | hchunks'
        · exact hfirst.uses hheaderUses event hfirst'
        · exact hchunks.uses (uses_writeChunks hpayload) event hchunks'
      obtain ⟨reply, _, after, rfl, -, h⟩ := runs_call_bind h
      refine .inr ⟨first ++ chunks, reply, ?_, hbefore, ?_⟩
      · cases reply <;> obtain ⟨rfl, -, -⟩ := runs_done h <;> simp
      · cases reply with
        | raised =>
          obtain ⟨-, rfl, -⟩ := runs_done h
          exact .inl ⟨rfl, rfl⟩
        | failed shown =>
          obtain ⟨-, rfl, -⟩ := runs_done h
          exact .inr ⟨ModbusReply.noConfusion, rfl⟩
        | succeeded values =>
          obtain ⟨-, rfl, -⟩ := runs_done h
          exact .inr ⟨ModbusReply.noConfusion, rfl⟩
    · refine .inl ⟨⟨error, rfl⟩, fun event hevent => ?_⟩
      rcases List.mem_append.mp hevent with hfirst' | hchunks'
      · exact hfirst.uses hheaderUses event hfirst'
      · exact hchunks.uses (uses_writeChunks hpayload) event hchunks'
  · exact .inl ⟨⟨error, rfl⟩, hfirst.uses hheaderUses⟩

/-- Behind the commit there are only reads. -/
theorem receive_uses (committed : ModbusReply) :
    (client.receive codec header committed).Uses (ClientAct.Staging header) := by
  have hreads := uses_readFrom (P := ClientAct.Staging header) (staging_read header)
  refine uses_bind (uses_requireSuccess _ _) (fun _ => ?_)
  refine uses_bind (hreads _ _ _) (fun _ => ?_)
  refine uses_bind (uses_result _) (fun _ => ?_)
  refine uses_bind (uses_require _ _) (fun _ => ?_)
  refine uses_bind (hreads _ _ _) (fun _ => ?_)
  refine uses_bind (uses_result _) (fun _ => ?_)
  refine uses_bind (uses_require _ _) (fun _ => ?_)
  refine uses_bind (uses_result _) (fun _ => ?_)
  refine uses_bind (uses_require _ _) (fun _ => ?_)
  refine uses_bind (uses_require _ _) (fun _ => ?_)
  refine uses_bind (uses_require _ _) (fun _ => ?_)
  refine uses_bind (uses_require _ _) (fun _ => ?_)
  refine uses_bind (uses_result _) (fun _ => ?_)
  exact uses_bind (uses_require _ _) (fun _ => uses_pure _)

omit [EvidencePrimitives] in
/-- A sequence that returned ran both parts. -/
theorem runs_bind_ok {α β : Type} {p : ClientProgram α} {f : α → ClientProgram β}
    {trace : ClientTrace} {b : β} (h : (p >>= f).Ends trace (.ok b)) :
    ∃ before after a, p.Ends before (.ok a) ∧ (f a).Ends after (.ok b) := by
  rcases runs_bind h with ⟨before, after, a, _, -, hp, hf⟩ | ⟨error, -, herror⟩
  · exact ⟨before, after, a, hp, hf⟩
  · cases herror

/-- A response that is accepted belongs to the request, and its counter has advanced. -/
theorem receive_ok {committed : ModbusReply} {trace : ClientTrace}
    {response : ReceivedResponse P}
    (h : (client.receive codec header committed).Ends trace (.ok response)) :
    client.Correlated codec header response ∧
      client.lastDeviceTransactionCounter < response.deviceTransactionCounter := by
  obtain ⟨-, _, _, -, h⟩ := runs_bind_ok h
  obtain ⟨-, _, _, -, h⟩ := runs_bind_ok h
  obtain ⟨-, _, responseHeader, -, h⟩ := runs_bind_ok h
  obtain ⟨-, _, _, -, h⟩ := runs_bind_ok h
  obtain ⟨-, _, _, -, h⟩ := runs_bind_ok h
  obtain ⟨-, _, _, -, h⟩ := runs_bind_ok h
  obtain ⟨-, _, _, -, h⟩ := runs_bind_ok h
  obtain ⟨-, _, received, -, h⟩ := runs_bind_ok h
  obtain ⟨-, _, _, -, h⟩ := runs_bind_ok h
  rcases runs_require_bind h with ⟨-, -, herror, -⟩ | ⟨hcorrelated, h⟩
  · cases herror
  obtain ⟨-, _, _, -, h⟩ := runs_bind_ok h
  rcases runs_require_bind h with ⟨-, -, herror, -⟩ | ⟨hadvanced, h⟩
  · cases herror
  obtain ⟨-, _, _, -, h⟩ := runs_bind_ok h
  obtain ⟨-, _, _, -, h⟩ := runs_bind_ok h
  obtain ⟨-, hreturned, -⟩ := runs_done h
  obtain rfl := Except.ok.inj hreturned
  simp only [not_or, not_not, Bool.not_eq_false] at hcorrelated
  obtain ⟨hid, hoperation, hdigest, hdevice, hkey, hepoch, hverified⟩ := hcorrelated
  exact ⟨⟨hid, hoperation, hdigest, hdevice, hkey, hepoch, hverified⟩, not_le.mp hadvanced⟩

omit [EvidencePrimitives] in
/-- The release is one write, of the header with RELEASE. -/
theorem release_ends {trace : ClientTrace} {ended : Except RequestError Unit}
    (h : (release header).Ends trace ended) :
    ended = .ok () ∧ (∀ event ∈ trace, event.action.isCommit = false) ∧
      ((∃ registers, ({ header with control := .release } : RequestHeader).toRegisters =
        .ok registers) → releaseSent header trace) := by
  unfold release at h
  cases hregisters : ({ header with control := .release } : RequestHeader).toRegisters with
  | error error =>
    rw [hregisters] at h
    obtain ⟨rfl, rfl, -⟩ := runs_done h
    refine ⟨rfl, List.forall_mem_nil _, ?_⟩
    rintro ⟨registers, hok⟩
    cases hok
  | ok registers =>
    rw [hregisters] at h
    obtain ⟨reply, _, after, rfl, -, h⟩ := runs_call_bind h
    obtain ⟨rfl, rfl, -⟩ := runs_done h
    refine ⟨rfl, ?_, fun _ => ?_⟩
    · intro event hevent
      rw [List.mem_singleton.mp hevent]
      rfl
    · exact ⟨_, List.mem_singleton.mpr rfl, registers, hregisters, rfl⟩

/-! ## The call -/

/-- `ModbusUnknownEffectError`. -/
def IsUnknown (ended : Except RequestError (ReceivedResponse P)) : Prop :=
  ∃ message, ended = .error (.unknownEffect message)

/-- What is true of every call. -/
structure Classified (client : ModbusPhysicalDeviceClient) (codec : ClientCodec Q P)
    (header : RequestHeader) (trace : ClientTrace)
    (ended : Except RequestError (ReceivedResponse P)) (after : ModbusPhysicalDeviceClient) :
    Prop where
  commits : trace.countP (fun event => event.action.isCommit) ≤ 1
  unknown : IsUnknown ended ↔
    header.operation = .execute ∧ commitSent trace ∧ ∀ response, ended ≠ .ok response
  released : releaseSent header trace ↔ ¬ IsUnknown ended
  accepted : ∀ response, ended = .ok response → commitSent trace ∧
    client.Correlated codec header response ∧
    client.lastDeviceTransactionCounter < response.deviceTransactionCounter ∧
    after = { client with lastDeviceTransactionCounter := response.deviceTransactionCounter }
  kept : (∀ response, ended ≠ .ok response) → after = client

omit [EvidencePrimitives] in
theorem not_isUnknown_surfaced (error : RequestError) :
    ¬ IsUnknown (.error (surfaced error) : Except RequestError (ReceivedResponse P)) := by
  rintro ⟨message, h⟩
  have hsame := Except.error.inj h
  cases error with
  | transport message => cases hsame
  | unknownEffect message => cases hsame
  | protocol message => cases hsame
  | other => cases hsame

theorem transact_ends {registers : List ℕ} {trace : ClientTrace}
    {ended : Except RequestError
      (Except RequestError (ReceivedResponse P) × ModbusPhysicalDeviceClient)}
    (hbegin : header.control = .begin)
    (hrelease : ∃ registers,
      ({ header with control := .release } : RequestHeader).toRegisters = .ok registers)
    (h : (client.transact codec header registers).Ends trace ended) :
    ∃ outcome after, ended = .ok (outcome, after) ∧
      client.Classified codec header trace outcome after := by
  obtain ⟨staging, rest, first, _, htrace, hstage, hended⟩ := runs_attempt_bind h
  clear h
  subst htrace
  have hstaged := stage_ends hbegin hstage
  cases first with
  | error error =>
    -- nothing was committed, or the write of the commit word raised
    obtain ⟨hcount, hunsent⟩ : staging.countP (fun event => event.action.isCommit) ≤ 1 ∧
        ¬ commitSent staging := by
      rcases hstaged with ⟨-, hquiet⟩ | ⟨before, reply, rfl, hquiet, ⟨rfl, -⟩ | ⟨-, hok⟩⟩
      · have hnone (event) (hevent : event ∈ staging) := (hquiet event hevent).1
        exact ⟨(countP_isCommit hnone).le.trans (Nat.zero_le 1), not_commitSent hnone⟩
      · have hnone (event) (hevent : event ∈ before) := (hquiet event hevent).1
        refine ⟨?_, ?_⟩
        · rw [List.countP_append, countP_isCommit hnone]
          exact le_rfl
        · rw [commitSent_append, not_or]
          refine ⟨not_commitSent hnone, ?_⟩
          rintro ⟨event, hevent, -, hreply⟩
          rw [List.mem_singleton.mp hevent] at hreply
          exact hreply rfl
      · cases hok
    rcases runs_bind hended with ⟨released, last, _, _, rfl, hreleased, h⟩ | ⟨_, hreleased, -⟩
    · obtain ⟨-, hnone, hsent⟩ := release_ends hreleased
      obtain ⟨rfl, rfl, -⟩ := runs_done h
      refine ⟨_, client, rfl, ?_, ?_, ?_, ?_, fun _ => rfl⟩
      · rw [List.append_nil, List.countP_append, countP_isCommit hnone]
        exact hcount
      · refine ⟨fun hunknown => absurd hunknown (not_isUnknown_surfaced error), ?_⟩
        rintro ⟨-, hcommitted, -⟩
        rw [List.append_nil, commitSent_append] at hcommitted
        exact absurd hcommitted (not_or.mpr ⟨hunsent, not_commitSent hnone⟩)
      · rw [List.append_nil, releaseSent_append]
        exact iff_of_true (.inr (hsent hrelease)) (not_isUnknown_surfaced error)
      · rintro response ⟨⟩
    · cases (release_ends hreleased).1
  | ok committed =>
    obtain ⟨hcount, hsent, hunreleased⟩ :
        staging.countP (fun event => event.action.isCommit) = 1 ∧ commitSent staging ∧
          ¬ releaseSent header staging := by
      rcases hstaged with ⟨⟨error, herror⟩, -⟩ | ⟨before, reply, rfl, hquiet, ⟨-, herror⟩ |
        ⟨hreturned, -⟩⟩
      · cases herror
      · cases herror
      · have hnone (event) (hevent : event ∈ before) := (hquiet event hevent).1
        refine ⟨?_, commitSent_append.mpr ?_, ?_⟩
        · rw [List.countP_append, countP_isCommit hnone]
          rfl
        · exact .inr ⟨_, List.mem_singleton.mpr rfl, rfl, hreturned⟩
        · rw [releaseSent_append, not_or]
          refine ⟨not_releaseSent hquiet, ?_⟩
          rintro ⟨event, hevent, registers, -, haction⟩
          rw [List.mem_singleton.mp hevent] at haction
          cases haction
    obtain ⟨reads, last, received, _, rfl, hreceive, h⟩ := runs_attempt_bind hended
    have hreads := hreceive.uses (receive_uses committed)
    have hreadsNone (event) (hevent : event ∈ reads) := (hreads event hevent).1
    have hcommitted (last : ClientTrace) : commitSent (staging ++ (reads ++ last)) :=
      commitSent_append.mpr (.inl hsent)
    -- a release behind the reads
    have hreleasing {released : ClientTrace} {released' : Except RequestError Unit}
        (hreleased : (release header).Ends released released') :
        (staging ++ (reads ++ released)).countP (fun event => event.action.isCommit) ≤ 1 ∧
          releaseSent header (staging ++ (reads ++ released)) := by
      obtain ⟨-, hreleaseNone, hreleaseSent⟩ := release_ends hreleased
      constructor
      · rw [List.countP_append, List.countP_append, hcount, countP_isCommit hreadsNone,
          countP_isCommit hreleaseNone]
      · rw [releaseSent_append, releaseSent_append]
        exact .inr (.inr (hreleaseSent hrelease))
    cases received with
    | ok response =>
      obtain ⟨hcorrelated, hadvanced⟩ := receive_ok hreceive
      rcases runs_bind h with ⟨released, final, _, _, rfl, hreleased, h⟩ | ⟨_, hreleased, -⟩
      · obtain ⟨hcommits, hreleasedSent⟩ := hreleasing hreleased
        obtain ⟨rfl, rfl, -⟩ := runs_done h
        rw [List.append_nil]
        refine ⟨_, _, rfl, hcommits, ?_, ?_, ?_, ?_⟩
        · refine iff_of_false ?_ (fun hfailed => hfailed.2.2 response rfl)
          rintro ⟨message, ⟨⟩⟩
        · refine iff_of_true hreleasedSent ?_
          rintro ⟨message, ⟨⟩⟩
        · rintro _ ⟨⟩
          exact ⟨hcommitted _, hcorrelated, hadvanced, rfl⟩
        · exact fun hfailed => absurd rfl (hfailed response)
      · cases (release_ends hreleased).1
    | error error =>
      by_cases hexecute : header.operation = .execute
      · -- the only end without a release
        simp only [if_pos hexecute] at h
        obtain ⟨rfl, rfl, -⟩ := runs_done h
        have hunknown : IsUnknown (.error executeFailed : Except RequestError
            (ReceivedResponse P)) := ⟨_, rfl⟩
        refine ⟨_, client, rfl, ?_, ?_, ?_, ?_, fun _ => rfl⟩
        · rw [List.append_nil, List.countP_append, hcount, countP_isCommit hreadsNone]
        · refine iff_of_true hunknown ⟨hexecute, hcommitted _, ?_⟩
          rintro response ⟨⟩
        · rw [List.append_nil, releaseSent_append]
          exact iff_of_false (not_or.mpr ⟨hunreleased, not_releaseSent hreads⟩)
            (not_not.mpr hunknown)
        · rintro response ⟨⟩
      · simp only [if_neg hexecute] at h
        rcases runs_bind h with ⟨released, final, _, _, rfl, hreleased, h⟩ | ⟨_, hreleased, -⟩
        · obtain ⟨hcommits, hreleasedSent⟩ := hreleasing hreleased
          obtain ⟨rfl, rfl, -⟩ := runs_done h
          rw [List.append_nil]
          refine ⟨_, client, rfl, hcommits, ?_, ?_, ?_, fun _ => rfl⟩
          · exact iff_of_false (not_isUnknown_surfaced error) (fun hfailed => hexecute hfailed.1)
          · exact iff_of_true hreleasedSent (not_isUnknown_surfaced error)
          · rintro response ⟨⟩
        · cases (release_ends hreleased).1

/-- The client as `_request` first leaves it. -/
def numbered (client : ModbusPhysicalDeviceClient) : ModbusPhysicalDeviceClient :=
  { client with transactionId := client.transactionId + 1 }

/-- A call is refused before anything is sent, or it is what the client reports of one header. -/
theorem request_ends {operation : WireOperation} {payload : Q} {trace : ClientTrace}
    {ended : Except RequestError
      (Except RequestError (ReceivedResponse P) × ModbusPhysicalDeviceClient)}
    (h : (client.request codec operation payload).Ends trace ended) :
    ∃ outcome after, ended = .ok (outcome, after) ∧
      ((trace = [] ∧ after = client.numbered ∧ ¬ IsUnknown outcome ∧
          ∀ response, outcome ≠ .ok response) ∨
        ∃ header, header.operation = operation ∧
          header.transactionId = client.transactionId + 1 ∧
          header.payloadDigest =
            sha256Hex (codec.requestBytes (client.transactionId + 1) operation payload) ∧
          client.numbered.Classified codec header trace outcome after) := by
  unfold request at h
  dsimp only at h
  have hrefused {error : RequestError} (hother : ∀ message, error ≠ .unknownEffect message)
      (h : (pure (.error error, client.numbered) : ClientProgram (Except RequestError
        (ReceivedResponse P) × ModbusPhysicalDeviceClient)).Ends trace ended) :
      ∃ outcome after, ended = .ok (outcome, after) ∧
        (trace = [] ∧ after = client.numbered ∧ ¬ IsUnknown outcome ∧
          ∀ response, outcome ≠ .ok response) := by
    obtain ⟨rfl, rfl, -⟩ := runs_done h
    refine ⟨_, _, rfl, rfl, rfl, ?_, ?_⟩
    · rintro ⟨message, hsame⟩
      exact hother message (Except.error.inj hsame)
    · rintro response ⟨⟩
  split_ifs at h with hid hlong
  · obtain ⟨outcome, after, hended, hcase⟩ := hrefused (fun _ => RequestError.noConfusion) h
    exact ⟨outcome, after, hended, .inl hcase⟩
  · obtain ⟨outcome, after, hended, hcase⟩ := hrefused (fun _ => RequestError.noConfusion) h
    exact ⟨outcome, after, hended, .inl hcase⟩
  · split at h
    · obtain ⟨outcome, after, hended, hcase⟩ := hrefused (fun _ => RequestError.noConfusion) h
      exact ⟨outcome, after, hended, .inl hcase⟩
    · rename_i registers hregisters
      have hvalid :
          (requestHeader (client.transactionId + 1) operation _ registers).Valid :=
        requestHeader_valid (not_le.mp hid) hregisters
      obtain ⟨image, himage, -⟩ := RequestHeader.codec.encodes
        { requestHeader (client.transactionId + 1) operation _ registers with control := .release }
        { hvalid with }
      obtain ⟨outcome, after, hended, hclassified⟩ := transact_ends rfl ⟨image, himage⟩ h
      exact ⟨outcome, after, hended, .inr ⟨_, rfl, rfl, rfl, hclassified⟩⟩

/-- A response that was accepted in a call between two states of the client. -/
structure Between (codec : ClientCodec Q P) (before after : ModbusPhysicalDeviceClient)
    (response : ReceivedResponse P) : Prop where
  transactionId : before.transactionId < response.transactionId
  transactionId_le : response.transactionId ≤ after.transactionId
  counter : before.lastDeviceTransactionCounter < response.deviceTransactionCounter
  counter_le : response.deviceTransactionCounter ≤ after.lastDeviceTransactionCounter
  bootEpoch : response.bootEpoch = before.info.bootEpoch
  verified : codec.verify before.info.devicePublicKey response = true

/-- What a call does to the client. -/
theorem request_between {operation : WireOperation} {payload : Q} {trace : ClientTrace}
    {outcome : Except RequestError (ReceivedResponse P)} {after : ModbusPhysicalDeviceClient}
    (h : (client.request codec operation payload).Ends trace (.ok (outcome, after))) :
    after.info = client.info ∧ client.transactionId ≤ after.transactionId ∧
      client.lastDeviceTransactionCounter ≤ after.lastDeviceTransactionCounter ∧
      ∀ response ∈ outcome.toOption, Between codec client after response := by
  obtain ⟨outcome', after', hended, hcase⟩ := request_ends h
  obtain ⟨rfl, rfl⟩ := Prod.mk.inj (Except.ok.inj hended)
  rcases hcase with ⟨-, rfl, -, hnone⟩ | ⟨header, -, hid, -, hclassified⟩
  · refine ⟨rfl, Nat.le_succ _, le_rfl, ?_⟩
    intro response hresponse
    cases outcome with
    | error error => cases hresponse
    | ok found => exact absurd rfl (hnone found)
  · cases outcome with
    | error error =>
      obtain rfl := hclassified.kept (fun _ hok => by cases hok)
      refine ⟨rfl, Nat.le_succ _, le_rfl, ?_⟩
      rintro response ⟨⟩
    | ok found =>
      obtain ⟨-, hcorrelated, hadvanced, rfl⟩ := hclassified.accepted found rfl
      refine ⟨rfl, Nat.le_succ _, hadvanced.le, ?_⟩
      rintro _ ⟨⟩
      have hsame := hcorrelated.transactionId.trans hid
      refine ⟨?_, hsame.le, hadvanced, le_rfl, hcorrelated.bootEpoch, hcorrelated.verified⟩
      rw [hsame]
      exact Nat.lt_succ_self _

end ModbusPhysicalDeviceClient

open ModbusPhysicalDeviceClient

/-- Over the life of a client the accepted responses have increasing transactions and increasing
    device counters, so none is accepted twice, and all are signed in the boot epoch the client was
    given. -/
theorem ClientRun.accepted_once [EvidencePrimitives] {Q P : Type} {codec : ClientCodec Q P}
    {client after : ModbusPhysicalDeviceClient} {responses : List (ReceivedResponse P)}
    (h : ClientRun codec client responses after) :
    responses.Pairwise (fun r r' => r.transactionId < r'.transactionId ∧
        r.deviceTransactionCounter < r'.deviceTransactionCounter) ∧
      ∀ response ∈ responses, Between codec client after response := by
  have hinvariant : after.info = client.info ∧ client.transactionId ≤ after.transactionId ∧
      client.lastDeviceTransactionCounter ≤ after.lastDeviceTransactionCounter ∧
      responses.Pairwise (fun r r' => r.transactionId < r'.transactionId ∧
        r.deviceTransactionCounter < r'.deviceTransactionCounter) ∧
      ∀ response ∈ responses, Between codec client after response := by
    induction h with
    | refl => exact ⟨rfl, le_rfl, le_rfl, .nil, List.forall_mem_nil _⟩
    | request hrun hended ih =>
      obtain ⟨hinfo, hid, hcounter, hpairwise, hbetween⟩ := ih
      obtain ⟨hinfo', hid', hcounter', hnew⟩ := request_between hended
      refine ⟨hinfo'.trans hinfo, hid.trans hid', hcounter.trans hcounter', ?_, ?_⟩
      · refine List.pairwise_append.mpr ⟨hpairwise, ?_, ?_⟩
        · have hsingle (last : Option (ReceivedResponse P)) : last.toList.Pairwise
              (fun r r' => r.transactionId < r'.transactionId ∧
                r.deviceTransactionCounter < r'.deviceTransactionCounter) := by
            cases last <;> simp
          exact hsingle _
        · intro r hr r' hr'
          obtain ⟨-, hle, -, hcounterLe, -, -⟩ := hbetween r hr
          obtain ⟨hlt, -, hcounterLt, -, -, -⟩ := hnew r' (Option.mem_toList.mp hr')
          exact ⟨hle.trans_lt hlt, hcounterLe.trans_lt hcounterLt⟩
      · intro response hresponse
        rcases List.mem_append.mp hresponse with hold | hlast
        · obtain ⟨hlt, hle, hcounterLt, hcounterLe, hepoch, hverified⟩ := hbetween response hold
          exact ⟨hlt, hle.trans hid', hcounterLt, hcounterLe.trans hcounter', hepoch, hverified⟩
        · obtain ⟨hlt, hle, hcounterLt, hcounterLe, hepoch, hverified⟩ :=
            hnew response (Option.mem_toList.mp hlast)
          exact ⟨hid.trans_lt hlt, hle, hcounter.trans_lt hcounterLt, hcounterLe,
            hepoch.trans (by rw [hinfo]), by rw [← hinfo]; exact hverified⟩
  exact ⟨hinvariant.2.2.2.1, hinvariant.2.2.2.2⟩

/-! ## A scripted network -/

/-- Run a call against a network that answers every action by a script. -/
def ClientProgram.runWith {α : Type} (answer : ClientAct → ModbusReply) :
    ClientProgram α → ClientTrace × Except RequestError α
  | .done ended => ([], ended)
  | .act action next =>
      let rest := runWith answer (next (answer action))
      (⟨action, answer action⟩ :: rest.1, rest.2)

theorem ClientProgram.ends_runWith {α : Type} (answer : ClientAct → ModbusReply)
    (p : ClientProgram α) : p.Ends (runWith answer p).1 (runWith answer p).2 := by
  induction p with
  | done ended => exact .done ended ()
  | act action next ih => exact .act trivial (ih _)

namespace Sample

/-- Requests and responses of one and two bytes. -/
def smallCodec : ClientCodec Unit Unit where
  requestBytes transactionId _ _ := [UInt8.ofNat transactionId]
  parseResponse
    | [transactionId, counter] => some
        { transactionId := transactionId.toNat
          operation := .execute
          requestDigest := sha256Hex [transactionId]
          status := .complete
          resultCode := .ok
          payload := ()
          deviceTransactionCounter := counter.toNat
          deviceId := "device"
          deviceKeyId := "device-key"
          bootEpoch := "boot-epoch-000001" }
    | _ => none
  responseBytes response :=
    [UInt8.ofNat response.transactionId, UInt8.ofNat response.deviceTransactionCounter]
  verify _ _ := true
  stateVersion _ _ := some (some 0)

def client : ModbusPhysicalDeviceClient :=
  .connected ⟨"device", "device-key", "boot-epoch-000001", "device-public-key"⟩

/-- The registers of a response to a transaction. -/
def responseRegisters (transactionId counter : ℕ) : List ℕ :=
  (ResponseHeader.toRegisters
    { status := .complete
      operation := .execute
      transactionId := transactionId
      payloadByteLength := 2
      payloadRegisterCount := 1
      resultCode := .ok
      payloadDigest := sha256Hex [UInt8.ofNat transactionId, UInt8.ofNat counter]
      deviceTransactionCounter := counter
      stateVersionHint := 0 }).toOption.getD []

/-- A network that serves everything, with this response in the mailbox. -/
def serving (transactionId counter : ℕ) : ClientAct → ModbusReply
  | .readHoldingRegisters address _ =>
      if address = responseHeaderStart then .succeeded (responseRegisters transactionId counter)
      else .succeeded [transactionId * 256 + counter]
  | .writeRegisters _ _ | .writeRegister _ _ => .succeeded []

/-- A network that breaks down after the commit. -/
def breaking : ClientAct → ModbusReply
  | .readHoldingRegisters _ _ => .raised
  | .writeRegisters _ _ | .writeRegister _ _ => .succeeded []

/-- The outcome of a call, with the client it leaves. -/
def callWith (answer : ClientAct → ModbusReply) (client : ModbusPhysicalDeviceClient) :
    Except RequestError
      (Except RequestError (ReceivedResponse Unit) × ModbusPhysicalDeviceClient) :=
  (ClientProgram.runWith answer (client.request smallCodec .execute ())).2

/-- The client after one accepted response. -/
def secondClient : ModbusPhysicalDeviceClient :=
  { client with transactionId := 1, lastDeviceTransactionCounter := 1 }

/-- A call that is accepted goes on a run. -/
theorem run_callWith (answer : ClientAct → ModbusReply)
    {before after : ModbusPhysicalDeviceClient} {responses : List (ReceivedResponse Unit)}
    (hrun : ClientRun smallCodec client responses before)
    (hended : (callWith answer before).toOption.map (fun ended =>
      (ended.1.toOption.isSome, ended.2)) = some (true, after)) :
    ∃ response, ClientRun smallCodec client (responses ++ [response]) after := by
  have hends := ClientProgram.ends_runWith answer (before.request smallCodec .execute ())
  obtain ⟨outcome, last, hreturned, -⟩ := request_ends hends
  rw [callWith, hreturned] at hended
  obtain ⟨hsome, rfl⟩ := Prod.mk.inj (Option.some.inj hended)
  rw [hreturned] at hends
  cases outcome with
  | error error => cases hsome
  | ok response => exact ⟨response, .request hrun hends⟩

/-- Two calls are answered with the counters 1 and 5. -/
theorem accepted_once_two :
    ∃ responses after, responses.length = 2 ∧ ClientRun smallCodec client responses after ∧
      responses.Pairwise (fun r r' => r.transactionId < r'.transactionId ∧
        r.deviceTransactionCounter < r'.deviceTransactionCounter) := by
  obtain ⟨first, hfirst⟩ := run_callWith (serving 1 1) .refl
    (show _ = some (true, secondClient) by decide +kernel)
  obtain ⟨second, hsecond⟩ := run_callWith (serving 2 5) hfirst
    (show _ = some (true, { client with transactionId := 2, lastDeviceTransactionCounter := 5 }) by
      decide +kernel)
  exact ⟨_, _, rfl, hsecond, hsecond.accepted_once.1⟩

end Sample

end Modbus

end AegisOt
