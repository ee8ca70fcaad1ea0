import AegisOt.Modbus.Proofs.Transfer
import AegisOt.Modbus.Window

/-!
# One request at a time

`Wrote` says what one write can do to the mailbox. From it: every run of writes of any clients is
a run of the window, whose requests are those that reached the devices; and a response stands
until the header it answers is released.
-/

namespace AegisOt.Modbus

open Words

/-! ## The window alone -/

section

variable [EvidencePrimitives]

theorem Window.Step.of_eq {w w' v v' : Window} {event : WindowEvent} (hw : w = v) (hw' : w' = v')
    (h : Window.Step v event v') : Window.Step w event w' := by
  rw [hw, hw']
  exact h

/-- A staged window was begun once more often than it was answered, a finished one was answered
    once more often than it was released. -/
theorem Window.Run.counts {w : Window} {events : List WindowEvent}
    (h : Window.Run .idle events w) :
    events.countP WindowEvent.isBegun = events.countP WindowEvent.isAnswered + w.openings ∧
      events.countP WindowEvent.isAnswered =
        events.countP WindowEvent.isReleased + w.standing := by
  induction h with
  | refl => exact ⟨rfl, rfl⟩
  | tail hrun hstep ih =>
    obtain ⟨hbegun, hanswered⟩ := ih
    simp only [List.countP_append, List.countP_singleton]
    cases hstep with
    | begin header =>
      simp only [openings, standing, WindowEvent.isBegun, WindowEvent.isAnswered,
        WindowEvent.isReleased, Bool.false_eq_true, if_true, if_false] at *
      omega
    | answer header handled hannounced =>
      simp only [openings, standing, WindowEvent.isBegun, WindowEvent.isAnswered,
        WindowEvent.isReleased, Bool.false_eq_true, if_true, if_false] at *
      omega
    | fail header handled hannounced =>
      simp only [openings, standing, WindowEvent.isBegun, WindowEvent.isAnswered,
        WindowEvent.isReleased, Bool.false_eq_true, if_false] at *
      omega
    | release header =>
      simp only [openings, standing, WindowEvent.isBegun, WindowEvent.isAnswered,
        WindowEvent.isReleased, Bool.false_eq_true, if_true, if_false] at *
      omega

end

section

variable [EvidencePrimitives] {σ P : Type} {app : Application σ P}

/-! ## One write -/

/-- What a write can do to the mailbox. -/
inductive Wrote (app : Application σ P) (m : Mailbox σ) (address : ℕ) (values : List ℕ) :
    Mailbox σ → Prop where
  | refused : Wrote app m address values m
  | begun (header : RequestHeader) (hvalues : RequestHeader.fromRegisters values = .ok header)
      (hfree : m.service.activeHeader = none) (haddress : address = 0) :
      Wrote app m address values
        ⟨{ m.service with
            activeTransaction := some header.transactionId
            activeHeader := some header },
          store (MailboxService.clearResponse m.registers) 0 values⟩
  | repeated (header : RequestHeader) (hvalues : RequestHeader.fromRegisters values = .ok header)
      (hactive : m.service.activeHeader = some header)
      (hopen : m.service.terminalTransaction = none) (haddress : address = 0) :
      Wrote app m address values ⟨m.service, store m.registers 0 values⟩
  | released (header : RequestHeader) (hactive : m.service.activeHeader = some header)
      (hdone : m.service.terminalTransaction = m.service.activeTransaction)
      (hreleases : Releases header (address, values)) :
      Wrote app m address values
        ⟨{ m.service with
            activeTransaction := none
            activeHeader := none
            terminalTransaction := none }, store m.registers 0 values⟩
  | processed (hactive : m.service.activeTransaction ≠ none)
      (hopen : m.service.terminalTransaction = none) (after : Mailbox σ)
      (hprocess : MailboxService.processCommit app m = (.ok (), after)) (haddress : address = 0) :
      Wrote app m address values
        ⟨{ after.service with terminalTransaction := after.service.activeTransaction },
          store after.registers 0 values⟩
  | failed (hactive : m.service.activeTransaction ≠ none)
      (hopen : m.service.terminalTransaction = none) (error : WireError) (after : Mailbox σ)
      (hprocess : MailboxService.processCommit app m = (.error error, after)) :
      Wrote app m address values after
  | again (hdone : m.service.terminalTransaction ≠ none) (hvalues : values.length = 1)
      (haddress : address = 0) :
      Wrote app m address values ⟨m.service, store m.registers 0 values⟩
  | payload (hactive : m.service.activeTransaction ≠ none)
      (hopen : m.service.terminalTransaction = none) (haddress : requestPayloadStart ≤ address) :
      Wrote app m address values ⟨m.service, store m.registers address values⟩

/-- What the server makes of the hook's answer. -/
def settled (address : ℕ) (values : List ℕ) :
    Except WireError (Option ExcCode) × Mailbox σ → Mailbox σ
  | (.ok none, after) => { after with registers := store after.registers address values }
  | (_, after) => after

theorem serve_eq_settled (m : Mailbox σ) (address : ℕ) (values : List ℕ) :
    serve app m address values =
      settled address values (MailboxService.action app m address values) :=
  rfl

theorem wrote_headerAction {m : Mailbox σ} {values : List ℕ} :
    Wrote app m 0 values (settled 0 values (MailboxService.headerAction m values)) := by
  unfold MailboxService.headerAction
  cases hvalues : RequestHeader.fromRegisters values with
  | error error =>
    cases error with
    | value message => exact .refused
    | overflow message => exact .refused
  | ok header =>
    dsimp only
    by_cases hrelease : header.control = .release
    · rw [if_pos hrelease]
      split_ifs with hrefused
      · exact .refused
      · simp only [not_or, not_not] at hrefused
        obtain ⟨hactive, hdone, hsame⟩ := hrefused
        obtain ⟨active, hactive⟩ := Option.ne_none_iff_exists'.mp hactive
        rw [hactive] at hsame
        obtain rfl := Option.some.inj hsame
        exact .released active hactive hdone ⟨rfl, hvalues⟩
    · rw [if_neg hrelease]
      split_ifs with hbegin hactive hsame
      · exact .refused
      · exact .repeated header hvalues hsame.1.symm hsame.2 rfl
      · exact .refused
      · exact .begun header hvalues (not_not.mp hactive) rfl

theorem wrote_commitAction {m : Mailbox σ} {values : List ℕ} (hvalues : values.length = 1) :
    Wrote app m 0 values (settled 0 values (MailboxService.commitAction app m)) := by
  unfold MailboxService.commitAction
  split_ifs with hactive hopen
  · exact .refused
  · cases hprocess : MailboxService.processCommit app m with
    | mk written after =>
      cases written with
      | error error => exact .failed hactive hopen error after hprocess
      | ok _ => exact .processed hactive hopen after hprocess rfl
  · exact .again hopen hvalues rfl

variable (app) in
theorem serve_wrote (m : Mailbox σ) (address : ℕ) (values : List ℕ) :
    Wrote app m address values (serve app m address values) := by
  rw [serve_eq_settled]
  unfold MailboxService.action
  by_cases hbehind : responseHeaderStart ≤ address
  · rw [if_pos hbehind]
    exact .refused
  · rw [if_neg hbehind]
    by_cases haddress : address = 0
    · subst haddress
      rw [if_pos rfl]
      split_ifs with hheader hlength hcommit
      · exact wrote_headerAction
      · exact .refused
      · exact wrote_commitAction (not_not.mp hlength)
      · exact .refused
    · rw [if_neg haddress]
      split_ifs with hrefused
      · exact .refused
      · simp only [not_or, not_not, not_lt] at hrefused
        exact .payload hrefused.1 hrefused.2.1 hrefused.2.2.1

/-! ## The invariant -/

/-- The optional fields belong to one transaction, and the header of an open one stands in the
    registers. -/
structure Coherent (m : Mailbox σ) : Prop extends Sound m where
  terminal : m.service.terminalTransaction = none ∨
    m.service.terminalTransaction = m.service.activeTransaction
  header : ∀ header, m.service.activeHeader = some header →
    m.service.terminalTransaction = none →
      RequestHeader.fromRegisters (slice m.registers 0 requestHeaderRegisters) = .ok header

omit [EvidencePrimitives] in
theorem length_of_fromRegisters {values : List ℕ} {header : RequestHeader}
    (h : RequestHeader.fromRegisters values = .ok header) :
    values.length = requestHeaderRegisters :=
  (RequestHeader.fromRegisters_eq_ok.mp h).length

omit [EvidencePrimitives] in
theorem slice_clearResponse {registers : List ℕ} (h : registers.length = registerCount) :
    slice (MailboxService.clearResponse registers) 0 requestHeaderRegisters =
      slice registers 0 requestHeaderRegisters := by
  refine slice_store_before ?_ (by decide)
  rw [List.length_replicate, h]
  decide

/-- A response is written behind the request. -/
theorem slice_writeResponse {registers : List ℕ} (h : registers.length = registerCount)
    (response : SignedWireResponse P) (stateVersionHint : ℕ) :
    slice (MailboxService.writeResponse app registers response stateVersionHint).2 0
        requestHeaderRegisters = slice registers 0 requestHeaderRegisters := by
  obtain ⟨error, heq⟩ | ⟨error, heq⟩ | ⟨headerRegisters, _, after, hwritten, heq⟩ :=
    writeResponse_cases app registers response stateVersionHint
  · rw [heq]
  · rw [heq]
    exact slice_clearResponse h
  · obtain ⟨hheader, hinside⟩ := hwritten.lengths
    have hcleared := length_clearResponse h
    rw [heq, hwritten.after_eq,
      slice_store_before (by rw [length_store_header h hheader]; exact hinside) (by decide),
      slice_store_before (by rw [hheader, hcleared]; decide) (by decide)]
    exact slice_clearResponse h

variable (app) in
theorem slice_processCommit {m : Mailbox σ} (h : m.registers.length = registerCount) :
    slice (MailboxService.processCommit app m).2.registers 0 requestHeaderRegisters =
      slice m.registers 0 requestHeaderRegisters :=
  slice_writeResponse h _ _

omit [EvidencePrimitives] in
theorem Coherent.active {m : Mailbox σ} (h : Coherent m)
    (hactive : m.service.activeTransaction ≠ none) :
    ∃ header, m.service.activeHeader = some header ∧
      m.service.activeTransaction = some header.transactionId := by
  have htransaction := h.transaction
  cases hheader : m.service.activeHeader with
  | none =>
    rw [hheader] at htransaction
    exact absurd htransaction hactive
  | some header =>
    rw [hheader] at htransaction
    exact ⟨header, rfl, htransaction⟩

theorem Wrote.coherent {m m' : Mailbox σ} {address : ℕ} {values : List ℕ}
    (hwrote : Wrote app m address values m') (h : Coherent m)
    (hinside : address + values.length ≤ registerCount) (hsound : Sound m') : Coherent m' := by
  have hstored : address + values.length ≤ m.registers.length := by
    rw [h.length]
    exact hinside
  cases hwrote with
  | refused => exact h
  | begun header hvalues hfree haddress =>
    subst haddress
    have hlength := length_of_fromRegisters hvalues
    refine ⟨hsound, .inl (h.free hfree), ?_⟩
    rintro _ ⟨⟩ -
    have hcleared : 0 + values.length ≤ (MailboxService.clearResponse m.registers).length := by
      rw [length_clearResponse h.length]
      exact hinside
    have hself := slice_store_self hcleared
    rw [Nat.zero_add, hlength] at hself
    rw [hself]
    exact hvalues
  | repeated header hvalues hactive hopen haddress =>
    subst haddress
    refine ⟨hsound, .inl hopen, ?_⟩
    intro active hsame _
    obtain rfl := Option.some.inj (hactive.symm.trans hsame)
    have hself := slice_store_self hstored
    rw [Nat.zero_add, length_of_fromRegisters hvalues] at hself
    rw [hself]
    exact hvalues
  | released header hactive hdone hreleases =>
    refine ⟨hsound, .inl rfl, ?_⟩
    rintro _ ⟨⟩
  | processed hactive hopen after hprocess haddress =>
    refine ⟨hsound, .inr rfl, ?_⟩
    intro header hheader hnone
    have hkeeps := (processCommit_keeps app m).1
    rw [hprocess] at hkeeps
    exact absurd (hkeeps.symm.trans hnone) hactive
  | failed hactive hopen error after hprocess =>
    have hkeeps := processCommit_keeps app m
    have hslice := slice_processCommit app h.length
    rw [hprocess] at hkeeps hslice
    obtain ⟨htransaction, hheader, hterminal⟩ := hkeeps
    refine ⟨hsound, .inl (hterminal.trans hopen), ?_⟩
    intro header hsame _
    rw [hslice]
    exact h.header header (hheader.symm.trans hsame) hopen
  | again hdone hvalues haddress =>
    refine ⟨hsound, h.terminal, ?_⟩
    intro header _ hnone
    exact absurd hnone hdone
  | payload hactive hopen haddress =>
    refine ⟨hsound, h.terminal, ?_⟩
    intro header hheader hnone
    rw [slice_store_before hstored haddress]
    exact h.header header hheader hnone

theorem serve_coherent {m : Mailbox σ} (h : Coherent m) {address : ℕ} {values : List ℕ}
    (hinside : address + values.length ≤ registerCount) : Coherent (serve app m address values) :=
  (serve_wrote _ m address values).coherent h hinside (sound_serve h.toSound hinside)

omit [EvidencePrimitives] in
theorem coherent_init (device : σ) :
    Coherent ⟨.init device, List.replicate registerCount 0⟩ := by
  refine ⟨⟨List.length_replicate, rfl, fun _ => rfl⟩, .inl rfl, ?_⟩
  rintro _ ⟨⟩

theorem Reachable.coherent {m : Mailbox σ} (h : Reachable app m) : Coherent m := by
  induction h with
  | init device => exact coherent_init device
  | write _ address values hinside ih => exact serve_coherent ih hinside

theorem Reachable.serveAll {m : Mailbox σ} (h : Reachable app m) {writes : List (ℕ × List ℕ)}
    (hinside : Inside writes) : Reachable app (Modbus.serveAll app m writes) := by
  induction writes generalizing m with
  | nil => exact h
  | cons write rest ih =>
    obtain ⟨hfirst, hrest⟩ := List.forall_mem_cons.mp hinside
    exact ih (h.write write.1 write.2 hfirst) hrest

/-! ## Refinement -/

/-- A request that was decoded is the one that the header in the registers announced. -/
theorem decodeRequest_announced {service : MailboxService σ} {registers : List ℕ}
    {context : MailboxService.CommitContext} {payload : List UInt8}
    (h : service.decodeRequest registers = (context, .ok payload)) {header : RequestHeader}
    (hheader : RequestHeader.fromRegisters (slice registers 0 requestHeaderRegisters) =
      .ok header) :
    HandledRequest.Announced ⟨context.transactionId, context.operation, payload⟩ header := by
  unfold MailboxService.decodeRequest at h
  rw [hheader] at h
  dsimp only at h
  split_ifs at h with hcontrol hactive
  · cases (Prod.mk.inj h).2
  · cases (Prod.mk.inj h).2
  · cases hbytes : registersToBytes (slice registers requestPayloadStart
        (requestPayloadStart + header.payloadRegisterCount)) header.payloadByteLength with
    | error error =>
      rw [hbytes] at h
      cases (Prod.mk.inj h).2
    | ok bytes =>
      rw [hbytes] at h
      dsimp only at h
      split_ifs at h with hdigest
      · cases (Prod.mk.inj h).2
      · obtain ⟨rfl, hpayload⟩ := Prod.mk.inj h
        obtain rfl := Except.ok.inj hpayload
        refine ⟨rfl, rfl, ?_, not_not.mp hdigest⟩
        obtain ⟨-, -, hcount, -, rfl⟩ := registersToBytes_eq_ok.mp hbytes
        rw [List.length_take, length_toBytes, Int.toNat_natCast]
        omega

/-- What a commit hands to the devices. -/
def handedOn (m : Mailbox σ) : Option HandledRequest :=
  match m.service.decodeRequest m.registers with
  | (context, .ok payload) => some ⟨context.transactionId, context.operation, payload⟩
  | (_, .error _) => none

variable (app) in
theorem log_processCommit (m : Mailbox (σ × List HandledRequest)) :
    (MailboxService.processCommit app.logged m).2.service.device.2 =
      m.service.device.2 ++ (handedOn m).toList := by
  unfold MailboxService.processCommit MailboxService.respond handedOn
  dsimp only
  cases hdecoded : m.service.decodeRequest m.registers with
  | mk context decoded =>
    cases decoded with
    | error error => simp
    | ok payload => rfl

theorem handedOn_announced {m : Mailbox σ} (h : Coherent m) {header : RequestHeader}
    (hheader : m.service.activeHeader = some header)
    (hopen : m.service.terminalTransaction = none) :
    ∀ request ∈ handedOn m, request.Announced header := by
  intro request hrequest
  unfold handedOn at hrequest
  split at hrequest
  · rename_i context payload hdecoded
    obtain rfl := Option.some.inj hrequest
    exact decodeRequest_announced hdecoded (h.header header hheader hopen)
  · cases hrequest

omit [EvidencePrimitives] in
theorem window_staged {service : MailboxService σ} {header : RequestHeader}
    (hheader : service.activeHeader = some header) (hopen : service.terminalTransaction = none) :
    service.window = .staged header := by
  rw [MailboxService.window, hheader]
  exact if_pos hopen

omit [EvidencePrimitives] in
theorem window_finished {service : MailboxService σ} {header : RequestHeader}
    (hheader : service.activeHeader = some header) (hdone : service.terminalTransaction ≠ none) :
    service.window = .finished header := by
  rw [MailboxService.window, hheader]
  exact if_neg hdone

omit [EvidencePrimitives] in
theorem finished_of_window {service : MailboxService σ} {header : RequestHeader}
    (h : service.window = .finished header) :
    service.activeHeader = some header ∧ service.terminalTransaction ≠ none := by
  unfold MailboxService.window at h
  split at h
  · cases h
  · rename_i found hheader
    split_ifs at h with hopen
    obtain rfl := Window.finished.inj h
    exact ⟨hheader, hopen⟩

omit [EvidencePrimitives] in
theorem window_idle {service : MailboxService σ} (hheader : service.activeHeader = none) :
    service.window = .idle := by
  rw [MailboxService.window, hheader]

/-- A write is an event of the window or leaves it alone, and the log grows by its request. -/
theorem Wrote.refines {m m' : Mailbox (σ × List HandledRequest)} {address : ℕ} {values : List ℕ}
    (hwrote : Wrote app.logged m address values m') (h : Coherent m) :
    (m'.service.window = m.service.window ∧ m'.service.device = m.service.device) ∨
    ∃ event, Window.Step m.service.window event m'.service.window ∧
      m'.service.device.2 = m.service.device.2 ++ event.handled := by
  cases hwrote with
  | refused => exact .inl ⟨rfl, rfl⟩
  | begun header hvalues hfree haddress =>
    refine .inr ⟨.begun header, ?_, (List.append_nil _).symm⟩
    exact .of_eq (window_idle hfree) (window_staged rfl (h.free hfree)) (.begin header)
  | repeated header hvalues hactive hopen haddress => exact .inl ⟨rfl, rfl⟩
  | released header hactive hdone hreleases =>
    refine .inr ⟨.released header, ?_, (List.append_nil _).symm⟩
    have htransaction := h.transaction
    rw [hactive] at htransaction
    have hsome : m.service.terminalTransaction ≠ none := by
      rw [hdone, htransaction]
      exact Option.some_ne_none _
    exact .of_eq (window_finished hactive hsome) (window_idle rfl) (.release header)
  | processed hactive hopen after hprocess haddress =>
    obtain ⟨header, hheader, htransaction⟩ := h.active hactive
    obtain ⟨hkeepsTransaction, hkeepsHeader, -⟩ := processCommit_keeps app.logged m
    have hlog := log_processCommit app m
    rw [hprocess] at hkeepsTransaction hkeepsHeader hlog
    refine .inr ⟨.answered (handedOn m), ?_, hlog⟩
    have hsome : after.service.activeTransaction ≠ none := hkeepsTransaction ▸ hactive
    exact .of_eq (window_staged hheader hopen)
      (window_finished (hkeepsHeader.trans hheader) hsome)
      (.answer header _ (handedOn_announced h hheader hopen))
  | failed hactive hopen error after hprocess =>
    obtain ⟨header, hheader, htransaction⟩ := h.active hactive
    obtain ⟨-, hkeepsHeader, hkeepsTerminal⟩ := processCommit_keeps app.logged m
    have hlog := log_processCommit app m
    rw [hprocess] at hkeepsHeader hkeepsTerminal hlog
    refine .inr ⟨.raised (handedOn m), ?_, hlog⟩
    exact .of_eq (window_staged hheader hopen)
      (window_staged (hkeepsHeader.trans hheader) (hkeepsTerminal.trans hopen))
      (.fail header _ (handedOn_announced h hheader hopen))
  | again hdone hvalues haddress => exact .inl ⟨rfl, rfl⟩
  | payload hactive hopen haddress => exact .inl ⟨rfl, rfl⟩

theorem serveAll_concat (m : Mailbox σ) (writes : List (ℕ × List ℕ)) (write : ℕ × List ℕ) :
    serveAll app m (writes ++ [write]) = serve app (serveAll app m writes) write.1 write.2 := by
  simp [serveAll]

theorem serveAll_coherent {m : Mailbox σ} (h : Coherent m) {writes : List (ℕ × List ℕ)}
    (hinside : Inside writes) : Coherent (serveAll app m writes) := by
  induction writes using List.reverseRecOn with
  | nil => exact h
  | append_singleton writes write ih =>
    rw [serveAll_concat]
    exact serve_coherent (ih (fun w hw => hinside w (List.mem_append_left _ hw)))
      (hinside write (List.mem_append_right _ List.mem_cons_self))

variable (app) in
/-- Writes are a run of the window whose requests are those that reached the devices. -/
theorem serveAll_refines {m : Mailbox (σ × List HandledRequest)} (h : Coherent m)
    {writes : List (ℕ × List ℕ)} (hinside : Inside writes) :
    ∃ events, Window.Run m.service.window events (serveAll app.logged m writes).service.window ∧
      (serveAll app.logged m writes).service.device.2 =
        m.service.device.2 ++ events.flatMap WindowEvent.handled := by
  induction writes using List.reverseRecOn with
  | nil => exact ⟨[], .refl _, (List.append_nil _).symm⟩
  | append_singleton writes write ih =>
    have hbefore : Inside writes := fun w hw => hinside w (List.mem_append_left _ hw)
    obtain ⟨events, hrun, hlog⟩ := ih hbefore
    rw [serveAll_concat]
    obtain ⟨hwindow, hdevice⟩ | ⟨event, hstep, hgrown⟩ :=
      (serve_wrote app.logged (serveAll app.logged m writes) write.1 write.2).refines
        (serveAll_coherent h hbefore)
    · refine ⟨events, ?_, ?_⟩
      · rw [hwindow]
        exact hrun
      · rw [hdevice, hlog]
    · refine ⟨events ++ [event], .tail hrun hstep, ?_⟩
      rw [hgrown, hlog, List.flatMap_append, List.flatMap_singleton, List.append_assoc]

/-- From a fresh mailbox, whatever any clients write: the devices are asked exactly for the
    requests of a run of the window, so each is the one its header announced, and no more of them
    were answered than headers were taken. -/
theorem one_request_at_a_time (app : Application σ P) (device : σ) {writes : List (ℕ × List ℕ)}
    (hinside : Inside writes) :
    ∃ events, Window.Run .idle events
        (serveAll app.logged ⟨.init (device, []), List.replicate registerCount 0⟩
          writes).service.window ∧
      (serveAll app.logged ⟨.init (device, []), List.replicate registerCount 0⟩
        writes).service.device.2 = events.flatMap WindowEvent.handled ∧
      events.countP WindowEvent.isAnswered ≤ events.countP WindowEvent.isBegun ∧
      events.countP WindowEvent.isBegun ≤ events.countP WindowEvent.isReleased + 1 := by
  obtain ⟨events, hrun, hlog⟩ := serveAll_refines app (coherent_init (device, [])) hinside
  have hrun' : Window.Run .idle events _ := hrun
  obtain ⟨hbegun, hanswered⟩ := hrun'.counts
  have hone (w : Window) : w.openings + w.standing ≤ 1 := by
    cases w with
    | idle => exact Nat.zero_le _
    | staged header => exact le_rfl
    | finished header => exact le_rfl
  have hlast := hone (serveAll app.logged ⟨.init (device, []), List.replicate registerCount 0⟩
    writes).service.window
  refine ⟨events, hrun', hlog.trans (List.nil_append _), ?_, ?_⟩
  · omega
  · omega

/-! ## The log -/

theorem processCommit_unlogged (m : Mailbox (σ × List HandledRequest)) :
    MailboxService.processCommit app m.unlogged =
      ((MailboxService.processCommit app.logged m).1,
        (MailboxService.processCommit app.logged m).2.unlogged) := by
  have hdecode : m.unlogged.service.decodeRequest m.unlogged.registers =
      m.service.decodeRequest m.registers := rfl
  unfold MailboxService.processCommit MailboxService.respond
  rw [hdecode]
  dsimp only
  cases m.service.decodeRequest m.registers with
  | mk context decoded =>
    cases decoded with
    | error error => rfl
    | ok payload =>
      dsimp only [Application.logged, Mailbox.unlogged]
      cases (app.handle m.service.device.1 context.transactionId context.operation payload).1 with
      | ok answer => rfl
      | error error =>
        cases error with
        | unknownEffect => rfl
        | value typeName reason => rfl
        | other typeName =>
          unfold MailboxService.classify
          dsimp only
          by_cases hexecute : context.operation = .execute
          · simp only [if_pos hexecute]
            rfl
          · simp only [if_neg hexecute]
            rfl

/-- A result without the log of its mailbox. -/
def unloggedResult {α : Type} (result : α × Mailbox (σ × List HandledRequest)) : α × Mailbox σ :=
  (result.1, result.2.unlogged)

omit [EvidencePrimitives] in
theorem headerAction_unlogged (m : Mailbox (σ × List HandledRequest)) (values : List ℕ) :
    MailboxService.headerAction m.unlogged values =
      unloggedResult (MailboxService.headerAction m values) := by
  unfold MailboxService.headerAction
  dsimp only [Mailbox.unlogged]
  cases RequestHeader.fromRegisters values with
  | error error =>
    cases error with
    | value message => rfl
    | overflow message => rfl
  | ok header =>
    dsimp only
    split_ifs <;> rfl

theorem commitAction_unlogged (m : Mailbox (σ × List HandledRequest)) :
    MailboxService.commitAction app m.unlogged =
      unloggedResult (MailboxService.commitAction app.logged m) := by
  unfold MailboxService.commitAction
  rw [processCommit_unlogged]
  by_cases hactive : m.service.activeTransaction = none
  · rw [if_pos hactive, if_pos (show m.unlogged.service.activeTransaction = none from hactive)]
    rfl
  · rw [if_neg hactive, if_neg (show m.unlogged.service.activeTransaction ≠ none from hactive)]
    by_cases hopen : m.service.terminalTransaction = none
    · rw [if_pos hopen, if_pos (show m.unlogged.service.terminalTransaction = none from hopen)]
      cases MailboxService.processCommit app.logged m with
      | mk written after =>
        cases written with
        | error error => rfl
        | ok _ => rfl
    · rw [if_neg hopen, if_neg (show m.unlogged.service.terminalTransaction ≠ none from hopen)]
      rfl

theorem action_unlogged (m : Mailbox (σ × List HandledRequest)) (address : ℕ) (values : List ℕ) :
    MailboxService.action app m.unlogged address values =
      unloggedResult (MailboxService.action app.logged m address values) := by
  unfold MailboxService.action
  rw [headerAction_unlogged, commitAction_unlogged]
  split_ifs with hbehind haddress hheader hlength hcommit hrefused hrefused'
  · rfl
  · rfl
  · rfl
  · rfl
  · rfl
  · rfl
  · exact absurd hrefused hrefused'
  · rename_i hrefused'
    exact absurd hrefused' hrefused
  · rfl

/-- The log changes nothing. -/
theorem serve_unlogged (m : Mailbox (σ × List HandledRequest)) (address : ℕ) (values : List ℕ) :
    serve app m.unlogged address values = (serve app.logged m address values).unlogged := by
  rw [serve_eq_settled, serve_eq_settled, action_unlogged]
  generalize MailboxService.action app.logged m address values = result
  obtain ⟨_ | _ | _, after⟩ := result <;> rfl

theorem serveAll_unlogged (m : Mailbox (σ × List HandledRequest))
    (writes : List (ℕ × List ℕ)) :
    serveAll app m.unlogged writes = (serveAll app.logged m writes).unlogged := by
  induction writes generalizing m with
  | nil => rfl
  | cons write rest ih =>
    show serveAll app (serve app m.unlogged write.1 write.2) rest = _
    rw [serve_unlogged, ih]
    rfl
/-! ## A finished window -/

/-- In a finished window a write changes nothing behind the first register, unless it releases the
    header. -/
theorem Wrote.frozen {m m' : Mailbox σ} {address : ℕ} {values : List ℕ}
    (hwrote : Wrote app m address values m') (h : Coherent m) {header : RequestHeader}
    (hheader : m.service.activeHeader = some header) (hdone : m.service.terminalTransaction ≠ none)
    (hkept : ¬ Releases header (address, values)) :
    m'.service = m.service ∧
      ∀ first last, 1 ≤ first → slice m'.registers first last = slice m.registers first last := by
  cases hwrote with
  | refused => exact ⟨rfl, fun _ _ _ => rfl⟩
  | begun other hvalues hfree haddress =>
    rw [hfree] at hheader
    cases hheader
  | repeated other hvalues hactive hopen haddress => exact absurd hopen hdone
  | released other hactive hfinished hreleases =>
    obtain rfl := Option.some.inj (hheader.symm.trans hactive)
    exact absurd hreleases hkept
  | processed hactive hopen after hprocess haddress => exact absurd hopen hdone
  | failed hactive hopen error after hprocess => exact absurd hopen hdone
  | again _ hvalues haddress =>
    refine ⟨rfl, fun first last hfirst => slice_store_behind ?_ (by omega)⟩
    rw [h.length, hvalues]
    decide
  | payload hactive hopen haddress => exact absurd hopen hdone

variable (app) in
theorem serveAll_frozen {m : Mailbox σ} (h : Coherent m) {header : RequestHeader}
    (hfinished : m.service.window = .finished header) {writes : List (ℕ × List ℕ)}
    (hinside : Inside writes) (hkept : ∀ write ∈ writes, ¬ Releases header write) :
    (serveAll app m writes).service = m.service ∧
      ∀ first last, 1 ≤ first →
        slice (serveAll app m writes).registers first last = slice m.registers first last := by
  obtain ⟨hheader, hdone⟩ := finished_of_window hfinished
  induction writes using List.reverseRecOn with
  | nil => exact ⟨rfl, fun _ _ _ => rfl⟩
  | append_singleton writes write ih =>
    have hbefore : Inside writes := fun w hw => hinside w (List.mem_append_left _ hw)
    obtain ⟨hservice, hregisters⟩ := ih hbefore (fun w hw => hkept w (List.mem_append_left _ hw))
    obtain ⟨hsame, hslices⟩ := (serve_wrote app (serveAll app m writes) write.1
      write.2).frozen (serveAll_coherent h hbefore) (by rw [hservice]; exact hheader)
      (by rw [hservice]; exact hdone) (hkept write (List.mem_append_right _ List.mem_cons_self))
    rw [serveAll_concat]
    exact ⟨hsame.trans hservice, fun first last hfirst =>
      (hslices first last hfirst).trans (hregisters first last hfirst)⟩

/-- What is read in chunks from mailboxes that agree there is read as from one of them. -/
theorem readFromAmid_eq {t : Transport σ} (ht : t.Serves app) {m : Mailbox σ}
    {mailboxAt : ℕ → Mailbox σ} {address count : ℕ} (hlength : ∀ offset,
      (mailboxAt offset).registers.length = registerCount)
    (hagrees : ∀ offset first last, address ≤ first →
      slice (mailboxAt offset).registers first last = slice m.registers first last)
    (hinside : address + count ≤ registerCount) (offset : ℕ) (hoffset : offset ≤ count) :
    t.readFromAmid mailboxAt address count offset =
      .ok (slice m.registers (address + offset) (address + count)) := by
  have hsize : readChunkRegisters = 120 := rfl
  fun_induction t.readFromAmid mailboxAt address count offset with
  | case1 offset hlt chunk ih =>
    have hpos : 0 < chunk := by
      show 0 < min readChunkRegisters (count - offset)
      omega
    have hle : chunk ≤ 120 ∧ offset + chunk ≤ count := by
      show min readChunkRegisters (count - offset) ≤ 120 ∧
        offset + min readChunkRegisters (count - offset) ≤ count
      omega
    have hread := ht.reads (mailboxAt offset) (address + offset) chunk hpos (by omega)
      (by rw [hlength]; omega)
    have hjoin : slice m.registers (address + offset) (address + offset + chunk) ++
        slice m.registers (address + (offset + chunk)) (address + count) =
        slice m.registers (address + offset) (address + count) := by
      rw [← Nat.add_assoc, slice_append_slice (Nat.le_add_right _ _) (by omega)]
    rw [hread, ok_bind, ih hle.2, ok_bind, pure_eq_ok, hagrees _ _ _ (by omega), hjoin]
  | case2 offset hge =>
    have heq : offset = count := by omega
    rw [heq, slice_self]
    rfl

end

namespace Sample

/-- The header of three bytes. -/
def header : RequestHeader := requestHeader 1 .readState [0x41, 0x42, 0x43] [0x4142, 0x4300]

/-- A request is staged and committed. -/
def writes : List (ℕ × List ℕ) :=
  [(0, header.toRegisters.toOption.getD []), (requestPayloadStart, [0x4142, 0x4300]),
    (0, [ControlWord.commit.toInt])]

theorem inside_writes : Inside writes := by
  unfold Inside
  decide +kernel

theorem reachable_writes :
    Reachable echo (serveAll echo ⟨.init (), List.replicate registerCount 0⟩ writes) :=
  Reachable.serveAll (.init ()) inside_writes

theorem one_request_at_a_time_staged :
    ∃ events, Window.Run .idle events
        (serveAll echo.logged ⟨.init ((), []), List.replicate registerCount 0⟩
          writes).service.window ∧
      (serveAll echo.logged ⟨.init ((), []), List.replicate registerCount 0⟩
        writes).service.device.2 = events.flatMap WindowEvent.handled ∧
      events.countP WindowEvent.isAnswered ≤ events.countP WindowEvent.isBegun ∧
      events.countP WindowEvent.isBegun ≤ events.countP WindowEvent.isReleased + 1 :=
  one_request_at_a_time echo () inside_writes

end Sample

end AegisOt.Modbus
