import AegisOt.Modbus.Client
import AegisOt.Modbus.Proofs.Codecs

/-!
# Chunked transfer is lossless

Whatever the mailbox has been used for, a request that is staged in chunks is decoded to its own
bytes, and the response that the service writes for it is read back in chunks.
-/

namespace AegisOt.Modbus

open Words

/-- The numbers of the layout. -/
theorem layout : requestPayloadStart = 32 ∧ requestPayloadRegisters = 4096 ∧
    responseHeaderStart = 4128 ∧ responsePayloadStart = 4168 ∧ registerCount = 8264 :=
  ⟨rfl, rfl, rfl, rfl, rfl⟩

/-! ## What an encoder has checked -/

theorem bytesToRegisters_ok {payload : List UInt8} {registers : List ℕ}
    (h : bytesToRegisters payload = .ok registers) :
    payload.length ≤ maxPayloadBytes ∧ registers.length = (payload.length + 1) / 2 ∧
      registersToBytes registers payload.length = .ok payload := by
  have hlength : payload.length ≤ maxPayloadBytes := by
    by_contra hlong
    rw [bytesToRegisters, refuseIf_pos (not_le.mp hlong)] at h
    cases h
  obtain ⟨image, himage, hcount, -, hback⟩ := registersToBytes_bytesToRegisters hlength
  have heq : image = registers := Except.ok.inj (himage.symm.trans h)
  rw [heq] at hcount hback
  exact ⟨hlength, hcount, hback⟩

theorem u64Registers_ok {value : ℕ} {registers : List ℕ} (h : u64Registers value = .ok registers) :
    value < 2 ^ 64 ∧ registers.length = 4 := by
  unfold u64Registers at h
  simp only [bind_eq_ok, refuseIf_eq_ok, not_not, pure_eq_ok, Except.ok.injEq] at h
  obtain ⟨_, hvalue, rfl⟩ := h
  exact ⟨hvalue, rfl⟩

theorem u32Registers_ok {value : ℕ} {registers : List ℕ} (h : u32Registers value = .ok registers) :
    registers.length = 2 := by
  unfold u32Registers at h
  simp only [bind_eq_ok, refuseIf_eq_ok, not_not, pure_eq_ok, Except.ok.injEq] at h
  obtain ⟨_, _, rfl⟩ := h
  rfl

theorem digestRegisters_ok {digest : String} {registers : List ℕ}
    (h : digestRegisters digest = .ok registers) : registers.length = 16 := by
  unfold digestRegisters at h
  simp only [bind_eq_ok, orRaise_eq_ok, pure_eq_ok, Except.ok.injEq] at h
  obtain ⟨raw, _, rfl⟩ := h
  exact length_ofPairs raw 16

theorem ResponseHeader.toRegisters_ok {h : ResponseHeader} {registers : List ℕ}
    (hok : h.toRegisters = .ok registers) :
    registers.length = responseHeaderRegisters ∧ h.transactionId < 2 ^ 64 ∧
      h.deviceTransactionCounter < 2 ^ 64 ∧ h.stateVersionHint < 2 ^ 64 := by
  unfold toRegisters at hok
  simp only [bind_eq_ok, pure_eq_ok, Except.ok.injEq] at hok
  obtain ⟨transaction, htransaction, byteLength, hbyteLength, digest, hdigest, counter, hcounter,
    hint, hhint, rfl⟩ := hok
  obtain ⟨hid, htlength⟩ := u64Registers_ok htransaction
  obtain ⟨hcounterBound, hclength⟩ := u64Registers_ok hcounter
  obtain ⟨hhintBound, hhlength⟩ := u64Registers_ok hhint
  refine ⟨?_, hid, hcounterBound, hhintBound⟩
  rw [length_frame rfl htlength (u32Registers_ok hbyteLength) rfl (digestRegisters_ok hdigest)]
  simp only [List.length_append, List.length_replicate, hclength, hhlength]

theorem isSha256_hexdigest (digest : Sha256) : IsSha256 (hexdigest digest) := by
  unfold IsSha256 hexdigest
  rw [String.toList_ofList]
  constructor
  · rw [List.length_map, List.length_range]
  · intro c hc
    obtain ⟨i, -, rfl⟩ := List.mem_map.mp hc
    exact (digitChar_cases (Nat.mod_lt _ (by decide))).1

section

variable [EvidencePrimitives] {σ P : Type} {app : Application σ P}

theorem isSha256_sha256Hex (payload : List UInt8) : IsSha256 (sha256Hex payload) :=
  isSha256_hexdigest _

theorem requestHeader_valid {transactionId : ℕ} {operation : WireOperation}
    {payload : List UInt8} {registers : List ℕ} (hid : transactionId < 2 ^ 64)
    (h : bytesToRegisters payload = .ok registers) :
    (requestHeader transactionId operation payload registers).Valid := by
  obtain ⟨hlength, hcount, -⟩ := bytesToRegisters_ok h
  exact
    { transactionId_lt := hid
      payloadByteLength_le := hlength
      payloadRegisterCount_eq := hcount
      payloadDigest := isSha256_sha256Hex payload }

/-! ## What the service keeps -/

/-- The registers are all there, and the three optional fields belong to one transaction. -/
structure Sound (m : Mailbox σ) : Prop where
  length : m.registers.length = registerCount
  transaction : m.service.activeTransaction = m.service.activeHeader.map (·.transactionId)
  free : m.service.activeHeader = none → m.service.terminalTransaction = none

omit [EvidencePrimitives] in
theorem length_clearResponse {registers : List ℕ} (h : registers.length = registerCount) :
    (MailboxService.clearResponse registers).length = registerCount := by
  have hinside : responseHeaderStart +
      (List.replicate (registerCount - responseHeaderStart) 0).length ≤ registers.length := by
    rw [List.length_replicate, h]
    decide
  rw [MailboxService.clearResponse, length_store hinside, h]

/-- A response that was written: its header and its payload, in cleared registers. -/
structure Written (app : Application σ P) (registers : List ℕ) (response : SignedWireResponse P)
    (stateVersionHint : ℕ) (headerRegisters payloadRegisters after : List ℕ) : Prop where
  payload : bytesToRegisters (app.responseBytes response) = .ok payloadRegisters
  header : (MailboxService.responseHeader response (app.responseBytes response) payloadRegisters
    stateVersionHint).toRegisters = .ok headerRegisters
  after_eq : after = store (store (MailboxService.clearResponse registers) responseHeaderStart
    headerRegisters) responsePayloadStart payloadRegisters

variable (app) in
/-- `_write_response` raises before it touches the registers, or with the response cleared, or it
    writes all of the response. -/
theorem writeResponse_cases (registers : List ℕ) (response : SignedWireResponse P)
    (stateVersionHint : ℕ) :
    (∃ error, MailboxService.writeResponse app registers response stateVersionHint =
      (.error error, registers)) ∨
    (∃ error, MailboxService.writeResponse app registers response stateVersionHint =
      (.error error, MailboxService.clearResponse registers)) ∨
    ∃ headerRegisters payloadRegisters after,
      Written app registers response stateVersionHint headerRegisters payloadRegisters after ∧
      MailboxService.writeResponse app registers response stateVersionHint = (.ok (), after) := by
  unfold MailboxService.writeResponse
  simp only
  split
  case h_1 error _ => exact .inl ⟨error, rfl⟩
  case h_2 payloadRegisters hpayload =>
    split
    case h_1 error _ => exact .inr (.inl ⟨error, rfl⟩)
    case h_2 headerRegisters hheader =>
      exact .inr (.inr ⟨headerRegisters, payloadRegisters, _, ⟨hpayload, hheader, rfl⟩, rfl⟩)

omit [EvidencePrimitives] in
theorem length_store_header {registers headerRegisters : List ℕ}
    (h : registers.length = registerCount)
    (hheader : headerRegisters.length = responseHeaderRegisters) :
    (store (MailboxService.clearResponse registers) responseHeaderStart headerRegisters).length =
      registerCount := by
  have hcleared := length_clearResponse h
  rw [length_store (by rw [hheader, hcleared]; decide), hcleared]

theorem Written.lengths {registers headerRegisters payloadRegisters after : List ℕ}
    {response : SignedWireResponse P} {stateVersionHint : ℕ}
    (h : Written app registers response stateVersionHint headerRegisters payloadRegisters after) :
    headerRegisters.length = responseHeaderRegisters ∧
      responsePayloadStart + payloadRegisters.length ≤ registerCount := by
  obtain ⟨hlong, hcount, -⟩ := bytesToRegisters_ok h.payload
  refine ⟨(ResponseHeader.toRegisters_ok h.header).1, ?_⟩
  have hbytes : (app.responseBytes response).length ≤ 8192 := hlong
  show 4168 + payloadRegisters.length ≤ 8264
  omega

theorem Written.length_after {registers headerRegisters payloadRegisters after : List ℕ}
    {response : SignedWireResponse P} {stateVersionHint : ℕ}
    (h : Written app registers response stateVersionHint headerRegisters payloadRegisters after)
    (hlength : registers.length = registerCount) : after.length = registerCount := by
  obtain ⟨hheader, hinside⟩ := h.lengths
  have hstored := length_store_header hlength hheader
  rw [h.after_eq, length_store (by rw [hstored]; exact hinside), hstored]

theorem length_writeResponse {registers : List ℕ} (h : registers.length = registerCount)
    (response : SignedWireResponse P) (stateVersionHint : ℕ) :
    (MailboxService.writeResponse app registers response stateVersionHint).2.length =
      registerCount := by
  obtain ⟨error, heq⟩ | ⟨error, heq⟩ | ⟨_, _, after, hwritten, heq⟩ :=
    writeResponse_cases app registers response stateVersionHint
  · rw [heq]
    exact h
  · rw [heq]
    exact length_clearResponse h
  · rw [heq]
    exact hwritten.length_after h

variable (app) in
/-- Processing answers for the transaction and leaves it as it is. -/
theorem processCommit_keeps (m : Mailbox σ) :
    (MailboxService.processCommit app m).2.service.activeTransaction =
        m.service.activeTransaction ∧
      (MailboxService.processCommit app m).2.service.activeHeader = m.service.activeHeader ∧
      (MailboxService.processCommit app m).2.service.terminalTransaction =
        m.service.terminalTransaction :=
  ⟨rfl, rfl, rfl⟩

variable (app) in
theorem sound_processCommit {m : Mailbox σ} (h : Sound m) :
    Sound (MailboxService.processCommit app m).2 := by
  obtain ⟨htransaction, hheader, hterminal⟩ := processCommit_keeps app m
  refine ⟨length_writeResponse h.length _ _, ?_, ?_⟩
  · rw [htransaction, hheader]
    exact h.transaction
  · rw [hheader, hterminal]
    exact h.free

omit [EvidencePrimitives] in
theorem sound_headerAction {m : Mailbox σ} (h : Sound m) (values : List ℕ) :
    Sound (MailboxService.headerAction m values).2 := by
  unfold MailboxService.headerAction
  simp only
  split
  · exact h
  · exact h
  · split
    · split
      · exact h
      · exact ⟨h.length, rfl, fun _ => rfl⟩
    · split
      · exact h
      · split
        · split
          · exact h
          · exact h
        · exact ⟨length_clearResponse h.length, rfl, fun hnone => nomatch hnone⟩

variable (app) in
theorem sound_commitAction {m : Mailbox σ} (h : Sound m) :
    Sound (MailboxService.commitAction app m).2 := by
  unfold MailboxService.commitAction
  split
  case isTrue => exact h
  case isFalse hactive =>
    split
    case isTrue =>
      have hsound := sound_processCommit app h
      have hkeeps := processCommit_keeps app m
      split
      case h_1 error after heq =>
        rw [heq] at hsound
        exact hsound
      case h_2 after heq =>
        rw [heq] at hsound hkeeps
        refine ⟨hsound.length, hsound.transaction, ?_⟩
        intro hnone
        have hnoTransaction := hsound.transaction
        rw [hnone, hkeeps.1] at hnoTransaction
        exact absurd hnoTransaction hactive
    case isFalse => exact h

variable (app) in
theorem sound_action {m : Mailbox σ} (h : Sound m) (address : ℕ) (values : List ℕ) :
    Sound (MailboxService.action app m address values).2 := by
  unfold MailboxService.action
  split
  · exact h
  · split
    · split
      · exact sound_headerAction h values
      · split
        · exact h
        · split
          · exact sound_commitAction app h
          · exact h
    · split
      · exact h
      · exact h

theorem sound_serve {m : Mailbox σ} (h : Sound m) {address : ℕ} {values : List ℕ}
    (hinside : address + values.length ≤ registerCount) : Sound (serve app m address values) := by
  have hsound := sound_action app h address values
  unfold serve
  split
  case h_1 after heq =>
    rw [heq] at hsound
    refine ⟨?_, hsound.transaction, hsound.free⟩
    show (store after.registers address values).length = registerCount
    rw [length_store (by rw [hsound.length]; exact hinside), hsound.length]
  case h_2 outcome after _ heq =>
    rw [heq] at hsound
    exact hsound

theorem Reachable.sound {m : Mailbox σ} (h : Reachable app m) : Sound m := by
  induction h with
  | init device => exact ⟨List.length_replicate, rfl, fun _ => rfl⟩
  | write _ address values hinside ih => exact sound_serve ih hinside

/-! ## Staging a request -/

/-- A transaction is open and not yet processed. -/
structure Staging (m : Mailbox σ) (header : RequestHeader) : Prop where
  length : m.registers.length = registerCount
  activeTransaction : m.service.activeTransaction = some header.transactionId
  activeHeader : m.service.activeHeader = some header
  terminalTransaction : m.service.terminalTransaction = none

/-- The mailbox takes this header: it is free, or staging this very request. -/
def Takes (m : Mailbox σ) (header : RequestHeader) : Prop :=
  m.service.activeHeader = none ∨
    (m.service.activeHeader = some header ∧ m.service.terminalTransaction = none)

variable (app) in
/-- The header opens the transaction and stands at the head of the registers. -/
theorem begin_accepted {m : Mailbox σ} (h : Sound m) {header : RequestHeader}
    (hvalid : header.Valid) (hcontrol : header.control = .begin) (htakes : Takes m header)
    {registers : List ℕ} (hregisters : header.toRegisters = .ok registers) :
    (MailboxService.action app m 0 registers).1 = .ok none ∧
      Staging (serve app m 0 registers) header ∧
      slice (serve app m 0 registers).registers 0 requestHeaderRegisters = registers := by
  obtain ⟨image, himage, hfit, hback⟩ := RequestHeader.codec.encodes header hvalid
  have heq : image = registers := Except.ok.inj (himage.symm.trans hregisters)
  rw [heq] at hback
  have hreads := RequestHeader.fromRegisters_eq_ok.mp hback
  have hlength : registers.length = 32 := hreads.length
  have hword : registerAt registers 0 = ControlWord.begin.toInt := by
    rw [← hreads.control, hcontrol]
  -- the hook goes to its header branch, and there to one of the two that accept
  have hcase :
      MailboxService.action app m 0 registers = MailboxService.headerAction m registers := by
    unfold MailboxService.action
    rw [if_neg (by decide), if_pos rfl, if_pos ⟨hlength, .inl hword⟩]
  have haccepted : ∃ m', MailboxService.headerAction m registers = (.ok none, m') ∧
      Staging m' header := by
    unfold MailboxService.headerAction
    rw [hback]
    simp only
    rw [if_neg (by rw [hcontrol]; decide), if_neg (by rw [hcontrol]; decide)]
    rcases htakes with hnone | ⟨hsame, hopen⟩
    · rw [if_neg (by rw [hnone]; decide)]
      exact ⟨_, rfl, length_clearResponse h.length, rfl, rfl, h.free hnone⟩
    · rw [if_pos (by rw [hsame]; exact Option.some_ne_none _), if_pos ⟨hsame.symm, hopen⟩]
      refine ⟨m, rfl, h.length, ?_, hsame, hopen⟩
      rw [h.transaction, hsame]
      rfl
  obtain ⟨m', haction, hstaging⟩ := haccepted
  have hserve : serve app m 0 registers =
      { m' with registers := store m'.registers 0 registers } := by
    rw [serve, hcase, haction]
  have hinside : 0 + registers.length ≤ m'.registers.length := by
    rw [hstaging.length, hlength]
    decide
  refine ⟨by rw [hcase, haction], ?_, ?_⟩
  · rw [hserve]
    refine ⟨?_, hstaging.activeTransaction, hstaging.activeHeader, hstaging.terminalTransaction⟩
    show (store m'.registers 0 registers).length = registerCount
    rw [length_store hinside, hstaging.length]
  · rw [hserve]
    have hslice := slice_store_self hinside
    rw [hlength] at hslice
    exact hslice

variable {t : Transport σ}

/-- A chunk inside the request payload is stored, and nothing else changes. -/
theorem writeRegisters_chunk (ht : t.Serves app) {m : Mailbox σ} {header : RequestHeader}
    (h : Staging m header) {address : ℕ} {values : List ℕ} (hpos : 0 < values.length)
    (hsize : values.length ≤ writeChunkRegisters) (hstart : requestPayloadStart ≤ address)
    (hend : address + values.length ≤ requestPayloadStart + requestPayloadRegisters) :
    (MailboxService.action app m address values).1 = .ok none ∧
      t.writeRegisters m address values =
        .ok { m with registers := store m.registers address values } := by
  obtain ⟨hpayload, hcapacity, hresponse, -, hcount⟩ := layout
  have hchunk : writeChunkRegisters = 120 := rfl
  have haction : MailboxService.action app m address values = (.ok none, m) := by
    unfold MailboxService.action
    rw [if_neg (by omega), if_neg (by omega), if_neg]
    rw [h.activeTransaction, h.terminalTransaction]
    simp only [reduceCtorEq, ne_eq, not_true_eq_false, false_or, not_or, not_lt]
    exact ⟨hstart, hend⟩
  have haccepted : (MailboxService.action app m address values).1 = .ok none := by rw [haction]
  refine ⟨haccepted, ?_⟩
  rw [ht.writes m address values hpos (by omega) (by omega) haccepted, serve, haction]

omit [EvidencePrimitives] in
theorem Staging.store {m : Mailbox σ} {header : RequestHeader} (h : Staging m header)
    {address : ℕ} {values : List ℕ} (hinside : address + values.length ≤ registerCount) :
    Staging { m with registers := Words.store m.registers address values } header := by
  refine ⟨?_, h.activeTransaction, h.activeHeader, h.terminalTransaction⟩
  show (Words.store m.registers address values).length = registerCount
  rw [length_store (by rw [h.length]; exact hinside), h.length]

/-- The loop over the offsets: after every chunk the mailbox holds the payload up to there. -/
theorem foldlM_writeRegisters (ht : t.Serves app) {m : Mailbox σ} {header : RequestHeader}
    (h : Staging m header) {registers : List ℕ} (hfits : registers.length ≤ requestPayloadRegisters)
    (chunks : ℕ) (hchunks : writeChunkRegisters * chunks < registers.length + writeChunkRegisters) :
    ((List.range chunks).map (writeChunkRegisters * ·)).foldlM
      (fun m offset => t.writeRegisters m (requestPayloadStart + offset)
        (slice registers offset (offset + writeChunkRegisters))) m =
      .ok { m with
        registers := Words.store m.registers requestPayloadStart
          (registers.take (writeChunkRegisters * chunks)) } := by
  obtain ⟨hpayload, hcapacity, -, -, hcount⟩ := layout
  have hsize : writeChunkRegisters = 120 := rfl
  induction chunks with
  | zero =>
    show Except.ok m = _
    rw [Nat.mul_zero, List.take_zero, store_nil]
  | succ chunks ih =>
    have hbelow : writeChunkRegisters * chunks < registers.length := by
      rw [Nat.mul_succ] at hchunks
      omega
    have htake : (registers.take (writeChunkRegisters * chunks)).length =
        writeChunkRegisters * chunks := by
      rw [List.length_take]
      omega
    have hchunk : (slice registers (writeChunkRegisters * chunks)
        (writeChunkRegisters * chunks + writeChunkRegisters)).length =
        min writeChunkRegisters (registers.length - writeChunkRegisters * chunks) := by
      rw [slice, List.length_drop, List.length_take]
      omega
    have hinside : requestPayloadStart + (registers.take (writeChunkRegisters * chunks)).length ≤
        registerCount := by
      rw [htake]
      omega
    have hend : requestPayloadStart + writeChunkRegisters * chunks +
        (slice registers (writeChunkRegisters * chunks)
          (writeChunkRegisters * chunks + writeChunkRegisters)).length ≤
        requestPayloadStart + requestPayloadRegisters := by
      omega
    obtain ⟨-, hwrite⟩ := writeRegisters_chunk ht (h.store hinside) (by omega) (by omega)
      (Nat.le_add_right _ _) hend
    have hlast : requestPayloadStart + (registers.take (writeChunkRegisters * chunks)).length +
        (slice registers (writeChunkRegisters * chunks)
          (writeChunkRegisters * chunks + writeChunkRegisters)).length ≤ m.registers.length := by
      rw [h.length, htake]
      omega
    have hjoin := store_store hlast
    rw [htake, take_append_slice registers (Nat.le_add_right _ _)] at hjoin
    rw [List.range_succ, List.map_append, List.foldlM_append, ih (by omega)]
    simp only [ok_bind, List.map_cons, List.map_nil, List.foldlM_cons, List.foldlM_nil, hwrite,
      pure_eq_ok]
    rw [hjoin]
    rfl

/-- The whole request stands in the mailbox behind its header. -/
theorem sendRequest_staged (ht : t.Serves app) {m : Mailbox σ} (h : Sound m) {transactionId : ℕ}
    {operation : WireOperation} {request : List UInt8} {registers : List ℕ}
    (hid : transactionId < 2 ^ 64) (hregisters : bytesToRegisters request = .ok registers)
    (htakes : Takes m (requestHeader transactionId operation request registers)) :
    ∃ staged headerRegisters,
      (requestHeader transactionId operation request registers).toRegisters = .ok headerRegisters ∧
      t.sendRequest m (requestHeader transactionId operation request registers) registers =
        .ok staged ∧
      Staging staged (requestHeader transactionId operation request registers) ∧
      slice staged.registers 0 requestHeaderRegisters = headerRegisters ∧
      slice staged.registers requestPayloadStart (requestPayloadStart + registers.length) =
        registers := by
  obtain ⟨hpayload, hcapacity, -, -, hcount⟩ := layout
  have hvalid : (requestHeader transactionId operation request registers).Valid :=
    requestHeader_valid hid hregisters
  obtain ⟨hlong, hlength, -⟩ := bytesToRegisters_ok hregisters
  obtain ⟨headerRegisters, hheader, hfit, hback⟩ := RequestHeader.codec.encodes _ hvalid
  have hheaderLength : headerRegisters.length = 32 :=
    (RequestHeader.fromRegisters_eq_ok.mp hback).length
  obtain ⟨haccepted, hstaging, hhead⟩ := begin_accepted app h hvalid rfl htakes hheader
  have hfits : registers.length ≤ requestPayloadRegisters := by
    have hbytes : request.length ≤ 8192 := hlong
    omega
  have hsize : writeChunkRegisters = 120 := rfl
  have hchunks : writeChunkRegisters *
      ((registers.length + writeChunkRegisters - 1) / writeChunkRegisters) <
      registers.length + writeChunkRegisters := by
    show 120 * ((registers.length + 120 - 1) / 120) < registers.length + 120
    omega
  have hall : registers.take (writeChunkRegisters *
      ((registers.length + writeChunkRegisters - 1) / writeChunkRegisters)) = registers := by
    apply List.take_of_length_le
    show registers.length ≤ 120 * ((registers.length + 120 - 1) / 120)
    omega
  have hloop := foldlM_writeRegisters ht hstaging hfits _ hchunks
  rw [hall] at hloop
  have hinside : requestPayloadStart + registers.length ≤ registerCount := by omega
  have hstored : requestPayloadStart + registers.length ≤
      (serve app m 0 headerRegisters).registers.length := by
    rw [hstaging.length]
    exact hinside
  refine ⟨_, headerRegisters, hheader, ?_, hstaging.store hinside, ?_, ?_⟩
  · rw [Transport.sendRequest, hheader]
    show (t.writeRegisters m 0 headerRegisters >>= _) = _
    rw [ht.writes m 0 headerRegisters (by omega) (by omega) (by omega) haccepted, ok_bind]
    exact hloop
  · show slice (Words.store _ _ registers) 0 32 = headerRegisters
    rw [slice_store_before hstored (le_refl _)]
    exact hhead
  · exact slice_store_self hstored

/-- The service decodes the bytes that the client encoded. -/
theorem decodeRequest_staged {m : Mailbox σ} {transactionId : ℕ} {operation : WireOperation}
    {request : List UInt8} {registers headerRegisters : List ℕ} (hid : transactionId < 2 ^ 64)
    (hregisters : bytesToRegisters request = .ok registers)
    (hheader : (requestHeader transactionId operation request registers).toRegisters =
      .ok headerRegisters)
    (hstaging : Staging m (requestHeader transactionId operation request registers))
    (hhead : slice m.registers 0 requestHeaderRegisters = headerRegisters)
    (hpayload : slice m.registers requestPayloadStart (requestPayloadStart + registers.length) =
      registers) :
    m.service.decodeRequest m.registers =
      (⟨transactionId, operation, sha256Hex request⟩, .ok request) := by
  have hvalid : (requestHeader transactionId operation request registers).Valid :=
    requestHeader_valid hid hregisters
  obtain ⟨image, himage, -, hback⟩ := RequestHeader.codec.encodes _ hvalid
  have heq : image = headerRegisters := Except.ok.inj (himage.symm.trans hheader)
  rw [heq] at hback
  obtain ⟨-, -, hbytes⟩ := bytesToRegisters_ok hregisters
  unfold MailboxService.decodeRequest
  rw [hhead, hback]
  simp only [requestHeader, ne_eq, not_true_eq_false, if_false, hpayload, hbytes]
  rw [if_neg (by rw [hstaging.activeTransaction]; exact not_not.mpr rfl)]

/-- A region is read in chunks as a whole. -/
theorem readFrom_eq (ht : t.Serves app) {m : Mailbox σ} {address count : ℕ}
    (hinside : address + count ≤ m.registers.length) (offset : ℕ) (hoffset : offset ≤ count) :
    t.readFrom m address count offset =
      .ok (slice m.registers (address + offset) (address + count)) := by
  have hsize : readChunkRegisters = 120 := rfl
  fun_induction t.readFrom m address count offset with
  | case1 offset hlt chunk ih =>
    have hpos : 0 < chunk := by
      show 0 < min readChunkRegisters (count - offset)
      omega
    have hle : chunk ≤ 120 ∧ offset + chunk ≤ count := by
      show min readChunkRegisters (count - offset) ≤ 120 ∧
        offset + min readChunkRegisters (count - offset) ≤ count
      omega
    have hread := ht.reads m (address + offset) chunk hpos (by omega) (by omega)
    have hjoin : slice m.registers (address + offset) (address + offset + chunk) ++
        slice m.registers (address + (offset + chunk)) (address + count) =
        slice m.registers (address + offset) (address + count) := by
      rw [← Nat.add_assoc, slice_append_slice (Nat.le_add_right _ _) (by omega)]
    rw [hread, ok_bind, ih hle.2, ok_bind, pure_eq_ok, hjoin]
  | case2 offset hge =>
    have heq : offset = count := by omega
    rw [heq, slice_self]
    rfl

theorem readRegisters_eq (ht : t.Serves app) {m : Mailbox σ} {address count : ℕ}
    (hinside : address + count ≤ m.registers.length) :
    t.readRegisters m address count = .ok (slice m.registers address (address + count)) :=
  readFrom_eq ht hinside 0 (Nat.zero_le _)

/-! ## Receiving a response -/

/-- The regions of a written response, also behind the commit word. -/
theorem Written.slices {registers headerRegisters payloadRegisters after : List ℕ}
    {response : SignedWireResponse P} {stateVersionHint : ℕ}
    (h : Written app registers response stateVersionHint headerRegisters payloadRegisters after)
    (hlength : registers.length = registerCount) (word : ℕ) :
    slice (Words.store after 0 [word]) responseHeaderStart
        (responseHeaderStart + responseHeaderRegisters) = headerRegisters ∧
      slice (Words.store after 0 [word]) responsePayloadStart
        (responsePayloadStart + payloadRegisters.length) = payloadRegisters := by
  obtain ⟨hheader, hinside⟩ := h.lengths
  have hafter := h.length_after hlength
  have hcleared := length_clearResponse hlength
  have hstored := length_store_header hlength hheader
  have hword : 0 + [word].length ≤ after.length := by
    rw [hafter]
    show 1 ≤ 8264
    decide
  have hheaderInside : responseHeaderStart + headerRegisters.length ≤
      (MailboxService.clearResponse registers).length := by
    rw [hheader, hcleared]
    decide
  have hpayloadInside : responsePayloadStart + payloadRegisters.length ≤
      (Words.store (MailboxService.clearResponse registers) responseHeaderStart
        headerRegisters).length := by
    rw [hstored]
    exact hinside
  have hheaderBehind : 0 + [word].length ≤ responseHeaderStart := show 1 ≤ 4128 by decide
  have hpayloadBehind : 0 + [word].length ≤ responsePayloadStart := show 1 ≤ 4168 by decide
  constructor
  · rw [slice_store_behind hword hheaderBehind, h.after_eq,
      slice_store_before hpayloadInside (by decide), ← hheader]
    exact slice_store_self hheaderInside
  · rw [slice_store_behind hword hpayloadBehind, h.after_eq]
    exact slice_store_self hpayloadInside

theorem Written.header_valid {registers headerRegisters payloadRegisters after : List ℕ}
    {response : SignedWireResponse P} {stateVersionHint : ℕ}
    (h : Written app registers response stateVersionHint headerRegisters payloadRegisters after) :
    (MailboxService.responseHeader response (app.responseBytes response) payloadRegisters
      stateVersionHint).Valid := by
  obtain ⟨hlong, hcount, -⟩ := bytesToRegisters_ok h.payload
  obtain ⟨-, hid, hcounter, hhint⟩ := ResponseHeader.toRegisters_ok h.header
  exact
    { transactionId_lt := hid
      payloadByteLength_le := hlong
      payloadRegisterCount_eq := hcount
      payloadDigest := isSha256_sha256Hex _
      deviceTransactionCounter_lt := hcounter
      stateVersionHint_lt := hhint }

/-- The client reads the header and the bytes that the service encoded. -/
theorem receiveResponse_written (ht : t.Serves app) {m : Mailbox σ} {word : ℕ}
    {registers headerRegisters payloadRegisters after : List ℕ}
    {response : SignedWireResponse P} {stateVersionHint : ℕ}
    (h : Written app registers response stateVersionHint headerRegisters payloadRegisters after)
    (hlength : registers.length = registerCount)
    (hm : m.registers = Words.store after 0 [word]) :
    t.receiveResponse m response.transactionId response.operation =
      .ok (MailboxService.responseHeader response (app.responseBytes response) payloadRegisters
        stateVersionHint, app.responseBytes response) := by
  obtain ⟨hheader, hpayload⟩ := h.slices hlength word
  obtain ⟨-, hinside⟩ := h.lengths
  obtain ⟨-, -, hbytes⟩ := bytesToRegisters_ok h.payload
  obtain ⟨image, himage, -, hback⟩ := ResponseHeader.codec.encodes _ h.header_valid
  have heq : image = headerRegisters := Except.ok.inj (himage.symm.trans h.header)
  rw [heq] at hback
  have hmLength : m.registers.length = registerCount := by
    have hafter := h.length_after hlength
    have hword : 0 + [word].length ≤ after.length := by
      rw [hafter]
      show 1 ≤ 8264
      decide
    rw [hm, length_store hword, hafter]
  have hreadHeader : t.readRegisters m responseHeaderStart responseHeaderRegisters =
      .ok headerRegisters := by
    rw [readRegisters_eq ht (by rw [hmLength]; decide), hm, hheader]
  have hreadPayload : t.readRegisters m responsePayloadStart payloadRegisters.length =
      .ok payloadRegisters := by
    rw [readRegisters_eq ht (by rw [hmLength]; exact hinside), hm, hpayload]
  unfold Transport.receiveResponse
  rw [hreadHeader, ok_bind, hback]
  simp only [MailboxService.responseHeader, Except.mapError, ok_bind, ne_eq, not_true_eq_false,
    or_self, refuseIf_neg not_false, hreadPayload, hbytes, pure_eq_ok]

/-- The commit processes the staged request and is stored behind the response. -/
theorem sendCommit_processed (ht : t.Serves app) {m : Mailbox σ} {header : RequestHeader}
    (h : Staging m header) {response : SignedWireResponse P} {stateVersionHint : ℕ}
    {service : MailboxService σ} {after : List ℕ}
    (hrespond : MailboxService.respond app m = (response, stateVersionHint, service))
    (hwrite : MailboxService.writeResponse app m.registers response stateVersionHint =
      (.ok (), after)) :
    ∃ committed, t.sendCommit m = .ok committed ∧
      committed.registers = Words.store after 0 [ControlWord.commit.toInt] := by
  have hprocess : MailboxService.processCommit app m = (.ok (), ⟨service, after⟩) := by
    unfold MailboxService.processCommit
    rw [hrespond]
    simp only [hwrite]
  have haction : MailboxService.action app m 0 [ControlWord.commit.toInt] =
      (.ok none,
        ⟨{ service with terminalTransaction := service.activeTransaction }, after⟩) := by
    unfold MailboxService.action
    rw [if_neg (by decide), if_pos rfl, if_neg (by decide), if_neg (by decide), if_pos (by decide)]
    unfold MailboxService.commitAction
    rw [if_neg (by rw [h.activeTransaction]; exact Option.some_ne_none _),
      if_pos h.terminalTransaction, hprocess]
  have haccepted : (MailboxService.action app m 0 [ControlWord.commit.toInt]).1 = .ok none := by
    rw [haction]
  refine ⟨_, ht.writes m 0 [ControlWord.commit.toInt] (by decide) (by decide) (by decide)
    haccepted, ?_⟩
  rw [serve, haction]

/-! ## The whole transfer -/

/-- From any state that writes of any clients have left behind, a request that the mailbox takes
    is accepted chunk by chunk and decoded to its own bytes, and whatever response the service can
    write for it is read back, header and bytes. -/
theorem chunked_transfer_lossless (ht : t.Serves app) {m : Mailbox σ} (hm : Reachable app m)
    {transactionId : ℕ} {operation : WireOperation} {request : List UInt8} {registers : List ℕ}
    (hid : transactionId < 2 ^ 64) (hregisters : bytesToRegisters request = .ok registers)
    (htakes : Takes m (requestHeader transactionId operation request registers)) :
    ∃ staged, t.sendRequest m (requestHeader transactionId operation request registers) registers =
        .ok staged ∧
      staged.service.decodeRequest staged.registers =
        (⟨transactionId, operation, sha256Hex request⟩, .ok request) ∧
      ∀ response stateVersionHint service after,
        MailboxService.respond app staged = (response, stateVersionHint, service) →
        MailboxService.writeResponse app staged.registers response stateVersionHint =
          (.ok (), after) →
        ∃ committed payloadRegisters, t.sendCommit staged = .ok committed ∧
          t.receiveResponse committed transactionId operation =
            .ok (MailboxService.responseHeader response (app.responseBytes response)
              payloadRegisters stateVersionHint, app.responseBytes response) := by
  obtain ⟨staged, headerRegisters, hheader, hsent, hstaging, hhead, hpayload⟩ :=
    sendRequest_staged ht hm.sound hid hregisters htakes
  have hdecode := decodeRequest_staged hid hregisters hheader hstaging hhead hpayload
  refine ⟨staged, hsent, hdecode, ?_⟩
  intro response stateVersionHint service after hrespond hwrite
  obtain ⟨committed, hcommitted, hafter⟩ := sendCommit_processed ht hstaging hrespond hwrite
  -- the response answers the transaction that was decoded
  have hresponse : response = (MailboxService.respond app staged).1 := by rw [hrespond]
  have hid' : response.transactionId = transactionId := by
    rw [hresponse]
    show (staged.service.decodeRequest staged.registers).1.transactionId = transactionId
    rw [hdecode]
  have hoperation : response.operation = operation := by
    rw [hresponse]
    show (staged.service.decodeRequest staged.registers).1.operation = operation
    rw [hdecode]
  obtain ⟨error, hfailed⟩ | ⟨error, hfailed⟩ |
      ⟨headerWords, payloadRegisters, after', hwritten, hok⟩ :=
    writeResponse_cases app staged.registers response stateVersionHint
  · rw [hwrite] at hfailed
    cases hfailed
  · rw [hwrite] at hfailed
    cases hfailed
  · rw [hwrite] at hok
    have heq : after = after' := (Prod.mk.inj hok).2
    rw [← heq] at hwritten
    have hreceived := receiveResponse_written ht hwritten hstaging.length hafter
    rw [hid', hoperation] at hreceived
    exact ⟨committed, payloadRegisters, hcommitted, hreceived⟩

/-- The server without a network in between. -/
def direct (app : Application σ P) : Transport σ where
  writeRegisters m address values :=
    if 0 < values.length ∧ values.length ≤ 123 ∧ address + values.length ≤ registerCount ∧
        (MailboxService.action app m address values).1 = .ok none then
      .ok (serve app m address values)
    else .error (.transport "Modbus write-multiple-registers failed")
  readHoldingRegisters m address count :=
    if 0 < count ∧ count ≤ 125 ∧ address + count ≤ m.registers.length then
      .ok (slice m.registers address (address + count))
    else .error (.transport "Modbus read-holding-registers failed")

theorem direct_serves : (direct app).Serves app where
  writes _ _ _ hpos hsize hinside haccepted := if_pos ⟨hpos, hsize, hinside, haccepted⟩
  refuses _ _ _ hrefused := ⟨_, if_neg (fun h => hrefused h.2.2.2)⟩
  reads _ _ _ hpos hsize hinside := if_pos ⟨hpos, hsize, hinside⟩

end

namespace Sample

scoped instance lengthDigest : EvidencePrimitives where
  sha256 bytes := Fin.ofNat (2 ^ 256) bytes.size
  isoformat _ := ""

/-- A device that sends every request back. -/
def echo : Application Unit (List UInt8) where
  handle device _ _ request := (.ok (.complete, .ok, request, 0), device)
  readStateVersion _ := 0
  errorPayload _ _ := []
  responseBytes response := response.payload

/-- A request of three bytes over a direct transport. -/
theorem three_bytes_staged :
    ∃ staged, (direct echo).sendRequest ⟨.init (), List.replicate registerCount 0⟩
        (requestHeader 1 .readState [0x41, 0x42, 0x43] [0x4142, 0x4300]) [0x4142, 0x4300] =
          .ok staged ∧
      staged.service.decodeRequest staged.registers =
        (⟨1, .readState, sha256Hex [0x41, 0x42, 0x43]⟩, .ok [0x41, 0x42, 0x43]) := by
  have hid : 1 < 2 ^ 64 := by decide
  have hregisters : bytesToRegisters [0x41, 0x42, 0x43] = .ok [0x4142, 0x4300] := by decide
  have hm : Reachable echo ⟨.init (), List.replicate registerCount 0⟩ := .init ()
  have htakes : Takes (⟨.init (), List.replicate registerCount 0⟩ : Mailbox Unit)
      (requestHeader 1 .readState [0x41, 0x42, 0x43] [0x4142, 0x4300]) := .inl rfl
  obtain ⟨staged, hsent, hdecoded, -⟩ :=
    chunked_transfer_lossless direct_serves hm hid hregisters htakes
  exact ⟨staged, hsent, hdecoded⟩

end Sample

end AegisOt.Modbus
