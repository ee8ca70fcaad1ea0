import AegisOt.Modbus.Wire

/-!
# One register image for one message

Headers and payloads are read back from their registers. A header has one register image. The
payload of a register image is unique, but an odd payload leaves a padding byte over that the
decoder does not look at.
-/

namespace AegisOt.Modbus

open Words

/-! ## Payloads -/

/-- The payload and its padding byte. -/
def padded (payload : List UInt8) : List UInt8 :=
  payload ++ if payload.length % 2 = 1 then [0] else []

theorem length_padded (payload : List UInt8) :
    (padded payload).length = 2 * ((payload.length + 1) / 2) := by
  unfold padded
  rw [List.length_append]
  split
  · simp only [List.length_singleton]
    omega
  · simp only [List.length_nil]
    omega

theorem bytesToRegisters_eq_ok {payload : List UInt8} (h : payload.length ≤ maxPayloadBytes) :
    bytesToRegisters payload = .ok (ofPairs (padded payload) ((payload.length + 1) / 2)) := by
  have hhalf : (padded payload).length / 2 = (payload.length + 1) / 2 := by
    rw [length_padded]
    omega
  unfold bytesToRegisters
  rw [refuseIf_neg (not_lt.mpr h), ok_bind]
  show Except.ok (ofPairs (padded payload) ((padded payload).length / 2)) = _
  rw [hhalf]

theorem registersToBytes_eq_ok {registers : List ℕ} {byteLength : ℤ} {payload : List UInt8} :
    registersToBytes registers byteLength = .ok payload ↔
      0 ≤ byteLength ∧ byteLength ≤ maxPayloadBytes ∧
      (registers.length : ℤ) = (byteLength + 1) / 2 ∧ Fit registers ∧
      (toBytes registers).take byteLength.toNat = payload := by
  unfold registersToBytes registersBytes
  simp only [bind_eq_ok, refuseIf_eq_ok, not_or, not_lt, not_not, pure_eq_ok, Except.ok.injEq]
  constructor
  · rintro ⟨_, ⟨hnonneg, hmax⟩, _, hcount, raw, ⟨_, hfit, rfl⟩, hpayload⟩
    exact ⟨hnonneg, hmax, hcount, hfit, hpayload⟩
  · rintro ⟨hnonneg, hmax, hcount, hfit, hpayload⟩
    exact ⟨(), ⟨hnonneg, hmax⟩, (), hcount, _, ⟨(), hfit, rfl⟩, hpayload⟩

/-- A payload is read back from its registers and its length. -/
theorem registersToBytes_bytesToRegisters {payload : List UInt8}
    (h : payload.length ≤ maxPayloadBytes) :
    ∃ registers, bytesToRegisters payload = .ok registers ∧
      registers.length = (payload.length + 1) / 2 ∧ Fit registers ∧
      registersToBytes registers payload.length = .ok payload := by
  have hlength := length_padded payload
  have hcount : (ofPairs (padded payload) ((payload.length + 1) / 2)).length =
      (payload.length + 1) / 2 := length_ofPairs _ _
  refine ⟨_, bytesToRegisters_eq_ok h, hcount, fit_ofPairs hlength, ?_⟩
  apply registersToBytes_eq_ok.mpr
  refine ⟨by omega, by exact_mod_cast h, ?_, fit_ofPairs hlength, ?_⟩
  · rw [hcount]
    omega
  · rw [toBytes_ofPairs hlength, Int.toNat_natCast]
    exact List.take_left' rfl

/-- The byte that pads an odd payload is zero. -/
def ZeroPadded (registers : List ℕ) (byteLength : ℤ) : Prop :=
  byteLength % 2 = 1 → ∀ last, registers.getLast? = some last → last % 256 = 0

theorem toBytes_concat (registers : List ℕ) (last : ℕ) :
    toBytes (registers ++ [last]) =
      toBytes registers ++ [UInt8.ofNat (last / 256), UInt8.ofNat (last % 256)] := by
  simp [toBytes, toPair]

/-- What a register image without a stray padding byte decodes to has this image only. -/
theorem bytesToRegisters_registersToBytes_iff {registers : List ℕ} {byteLength : ℤ}
    {payload : List UInt8} (h : registersToBytes registers byteLength = .ok payload) :
    bytesToRegisters payload = .ok registers ↔ ZeroPadded registers byteLength := by
  obtain ⟨hnonneg, hmax, hcount, hfit, hpayload⟩ := registersToBytes_eq_ok.mp h
  obtain ⟨n, rfl⟩ := Int.eq_ofNat_of_zero_le hnonneg
  rw [Int.toNat_natCast] at hpayload
  have hbytes : (toBytes registers).length = 2 * registers.length := length_toBytes registers
  have hlength : payload.length = n := by
    rw [← hpayload, List.length_take, hbytes]
    omega
  have hhalf : (payload.length + 1) / 2 = registers.length := by omega
  have hfits : payload.length ≤ maxPayloadBytes := by omega
  -- equal registers are equal bytes, so only the padding byte is left to compare
  have himage : bytesToRegisters payload = .ok registers ↔ padded payload = toBytes registers := by
    rw [bytesToRegisters_eq_ok hfits, hhalf]
    constructor
    · intro heq
      rw [← Except.ok.inj heq, toBytes_ofPairs (by rw [length_padded, hhalf])]
    · intro heq
      rw [heq, ofPairs_toBytes hfit]
  rw [himage]
  by_cases hodd : n % 2 = 1
  · rcases List.eq_nil_or_concat' registers with rfl | ⟨front, last, rfl⟩
    · simp only [List.length_nil] at hcount
      omega
    · rw [List.length_append, List.length_singleton] at hcount
      have hn : n = (toBytes front).length + 1 := by
        rw [length_toBytes]
        omega
      have hsplit : payload = toBytes front ++ [UInt8.ofNat (last / 256)] := by
        rw [← hpayload, toBytes_concat, hn, List.take_length_add_append]
        rfl
      have hzero : UInt8.ofNat (last % 256) = 0 ↔ last % 256 = 0 := by
        rw [← UInt8.toNat_inj, UInt8.toNat_ofNat']
        show last % 256 % 2 ^ 8 = 0 ↔ _
        omega
      have hpad : padded payload = payload ++ [0] := by
        rw [padded, if_pos (by omega)]
      rw [hpad, hsplit, toBytes_concat, List.append_assoc, List.append_cancel_left_eq]
      constructor
      · intro heq _ other hother
        rw [List.getLast?_concat] at hother
        rw [← Option.some.inj hother, ← hzero]
        exact (List.cons.inj (List.cons.inj heq).2).1.symm
      · intro hzeroPadded
        have hlast := hzeroPadded (by omega) last (List.getLast?_concat)
        rw [hzero.mpr hlast]
        rfl
  · have heven : padded payload = payload := by
      rw [padded, if_neg (by omega), List.append_nil]
    have hall : payload = toBytes registers := by
      rw [← hpayload, List.take_of_length_le (by omega)]
    constructor
    · intro _ hodd'
      omega
    · intro _
      rw [heven, hall]

/-! ## Numbers and digests -/

theorem fit_map_wordAt (value : ℕ) (shifts : List ℕ) : Fit (shifts.map (wordAt value)) := by
  intro word hword
  obtain ⟨shift, -, rfl⟩ := List.mem_map.mp hword
  exact wordAt_lt value shift

theorem u32_codec : Codec (fun value => value < 2 ^ 32)
    (fun values => values.length = 2 ∧ Fit values) u32Registers registersU32 where
  encodes value hvalue := by
    refine ⟨_, by rw [u32Registers, refuseIf_neg (not_not.mpr hvalue)]; rfl, ⟨rfl, ?_⟩, ?_⟩
    · exact fit_map_wordAt value [16, 0]
    · show Except.ok (shiftIn (wordAt value 16) (wordAt value 0)) = _
      rw [shiftIn_eq _ (wordAt_lt _ _), wordAt_eq, wordAt_eq]
      congr 1
      omega
  decodes values value hvalues h := by
    obtain ⟨hlength, hfit⟩ := hvalues
    match values, hlength with
    | [high, low], _ =>
      have hhigh := hfit high (by simp)
      have hlow := hfit low (by simp)
      have hvalue : shiftIn high low = value := Except.ok.inj h
      rw [shiftIn_eq _ hlow] at hvalue
      have hbound : value < 2 ^ 32 := by omega
      refine ⟨hbound, ?_⟩
      rw [u32Registers, refuseIf_neg (not_not.mpr hbound), ok_bind, wordAt_eq, wordAt_eq]
      congr 2
      · omega
      · congr 1
        omega

theorem u64_codec : Codec (fun value => value < 2 ^ 64)
    (fun values => values.length = 4 ∧ Fit values) u64Registers registersU64 where
  encodes value hvalue := by
    refine ⟨_, by rw [u64Registers, refuseIf_neg (not_not.mpr hvalue)]; rfl, ⟨rfl, ?_⟩, ?_⟩
    · exact fit_map_wordAt value [48, 32, 16, 0]
    · show Except.ok (shiftIn (shiftIn (shiftIn (shiftIn 0 (wordAt value 48)) (wordAt value 32))
        (wordAt value 16)) (wordAt value 0)) = _
      rw [shiftIn_eq _ (wordAt_lt _ _), shiftIn_eq _ (wordAt_lt _ _), shiftIn_eq _ (wordAt_lt _ _),
        shiftIn_eq _ (wordAt_lt _ _), wordAt_eq, wordAt_eq, wordAt_eq, wordAt_eq]
      congr 1
      omega
  decodes values value hvalues h := by
    obtain ⟨hlength, hfit⟩ := hvalues
    match values, hlength with
    | [first, second, third, fourth], _ =>
      have hfirst := hfit first (by simp)
      have hsecond := hfit second (by simp)
      have hthird := hfit third (by simp)
      have hfourth := hfit fourth (by simp)
      have hvalue : shiftIn (shiftIn (shiftIn (shiftIn 0 first) second) third) fourth = value :=
        Except.ok.inj h
      rw [shiftIn_eq _ hfourth, shiftIn_eq _ hthird, shiftIn_eq _ hsecond,
        shiftIn_eq _ hfirst] at hvalue
      have hbound : value < 2 ^ 64 := by omega
      refine ⟨hbound, ?_⟩
      have hwords : [48, 32, 16, 0].map (wordAt value) = [first, second, third, fourth] := by
        simp only [List.map_cons, List.map_nil, wordAt_eq, List.cons.injEq, and_true]
        omega
      rw [u64Registers, refuseIf_neg (not_not.mpr hbound), ok_bind, hwords]
      rfl

/-- A text of the form `SHA256_PATTERN`. -/
def IsSha256 (text : String) : Prop :=
  text.toList.length = 64 ∧ ∀ c ∈ text.toList, isLowerHex c = true

theorem digest_codec : Codec IsSha256 (fun values => values.length = 16 ∧ Fit values)
    digestRegisters registersDigest where
  encodes digest hdigest := by
    have hdigits : digest.toList.length = 2 * 32 := hdigest.1
    obtain ⟨raw, hraw, hlength, htext⟩ := toHex_fromHex hdigits hdigest.2
    have hpairs : raw.length = 2 * 16 := hlength
    have hfit : Fit (ofPairs raw 16) := fit_ofPairs hpairs
    refine ⟨ofPairs raw 16, ?_, ⟨length_ofPairs _ _, hfit⟩, ?_⟩
    · rw [digestRegisters, hraw]
      rfl
    · rw [registersDigest, refuseIf_neg (not_not.mpr (length_ofPairs _ _)), registersBytes,
        refuseIf_neg (not_not.mpr hfit)]
      show Except.ok (String.ofList (toHex (toBytes (ofPairs raw 16)))) = _
      rw [toBytes_ofPairs hpairs, htext, String.ofList_toList]
  decodes values digest hvalues h := by
    obtain ⟨hlength, hfit⟩ := hvalues
    rw [registersDigest, refuseIf_neg (not_not.mpr hlength), registersBytes,
      refuseIf_neg (not_not.mpr hfit)] at h
    have htext : String.ofList (toHex (toBytes values)) = digest := Except.ok.inj h
    rw [← htext]
    refine ⟨⟨?_, ?_⟩, ?_⟩
    · rw [String.toList_ofList, length_toHex, length_toBytes, hlength]
    · intro c hc
      rw [String.toList_ofList] at hc
      exact isLowerHex_toHex hc
    · rw [digestRegisters, String.toList_ofList, fromHex_toHex]
      show Except.ok (ofPairs (toBytes values) 16) = _
      rw [← hlength, ofPairs_toBytes hfit]

/-! ## Enumerations -/

/-- Distinct members have distinct numbers, so the constructor finds the one it is given. -/
theorem enumOfInt_eq_ok {α : Type} {toInt : α → ℕ} {members : List α} {name : String}
    (hall : ∀ member, member ∈ members) (hinj : Function.Injective toInt) {value : ℕ} {a : α} :
    enumOfInt toInt members name value = .ok a ↔ toInt a = value := by
  unfold enumOfInt
  rw [orRaise_eq_ok]
  constructor
  · intro h
    simpa using List.find?_some h
  · rintro rfl
    cases hfind : members.find? (fun member => decide (toInt member = toInt a)) with
    | none =>
      have hnone := List.find?_eq_none.mp hfind a (hall a)
      simp at hnone
    | some found =>
      have hfound : toInt found = toInt a := by simpa using List.find?_some hfind
      rw [hinj hfound]

theorem ControlWord.ofInt_eq_ok {value : ℕ} {a : ControlWord} :
    ofInt value = .ok a ↔ toInt a = value :=
  enumOfInt_eq_ok (by rintro ⟨⟩ <;> decide)
    (by rintro ⟨⟩ ⟨⟩ <;> first | exact fun _ => rfl | exact fun h => absurd h (by decide))

theorem WireOperation.ofInt_eq_ok {value : ℕ} {a : WireOperation} :
    ofInt value = .ok a ↔ toInt a = value :=
  enumOfInt_eq_ok (by rintro ⟨⟩ <;> decide)
    (by rintro ⟨⟩ ⟨⟩ <;> first | exact fun _ => rfl | exact fun h => absurd h (by decide))

theorem WireStatus.ofInt_eq_ok {value : ℕ} {a : WireStatus} :
    ofInt value = .ok a ↔ toInt a = value :=
  enumOfInt_eq_ok (by rintro ⟨⟩ <;> decide)
    (by rintro ⟨⟩ ⟨⟩ <;> first | exact fun _ => rfl | exact fun h => absurd h (by decide))

theorem WireResultCode.ofInt_eq_ok {value : ℕ} {a : WireResultCode} :
    ofInt value = .ok a ↔ toInt a = value :=
  enumOfInt_eq_ok (by rintro ⟨⟩ <;> decide)
    (by rintro ⟨⟩ ⟨⟩ <;> first | exact fun _ => rfl | exact fun h => absurd h (by decide))

/-! ## The layout of a header -/

theorem fit_slice {registers : List ℕ} (h : Fit registers) (start stop : ℕ) :
    Fit (slice registers start stop) := by
  intro word hword
  exact h word (List.mem_of_mem_take (List.mem_of_mem_drop hword))

/-- One register as a slice. -/
theorem slice_cons {registers : List ℕ} {start stop : ℕ} (h : start < stop)
    (hstop : stop ≤ registers.length) :
    slice registers start stop =
      registerAt registers start :: slice registers (start + 1) stop := by
  have hone : slice registers start (start + 1) = [registerAt registers start] := by
    have hstart : start < registers.length := by omega
    rw [slice, List.drop_take, Nat.add_sub_cancel_left, registerAt, List.getD_eq_getElem _ _ hstart,
      List.drop_eq_getElem_cons hstart]
    rfl
  rw [← slice_append_slice (Nat.le_succ start) h, hone]
  rfl

/-- A header is the frame of its own fields. -/
theorem frame_slices {registers : List ℕ} {stop : ℕ} (h : registers.length = stop)
    (hstop : 28 ≤ stop) :
    frame (slice registers 0 4) (slice registers 4 8) (slice registers 8 10)
      (slice registers 10 12) (slice registers 12 28) (slice registers 28 stop) = registers := by
  unfold frame
  rw [slice_append_slice (by decide) hstop, slice_append_slice (by decide) (by omega),
    slice_append_slice (by decide) (by omega), slice_append_slice (by decide) (by omega),
    slice_append_slice (by decide) (by omega), slice_of_length h]

section

variable {head transaction byteLength pair digest tail : List ℕ} (hhead : head.length = 4)
  (htransaction : transaction.length = 4) (hbyteLength : byteLength.length = 2)
  (hpair : pair.length = 2) (hdigest : digest.length = 16)

theorem length_frame (hhead : head.length = 4) (htransaction : transaction.length = 4)
    (hbyteLength : byteLength.length = 2) (hpair : pair.length = 2)
    (hdigest : digest.length = 16) :
    (frame head transaction byteLength pair digest tail).length = 28 + tail.length := by
  simp only [frame, List.length_append, hhead, htransaction, hbyteLength, hpair, hdigest]
  omega

include hhead

include htransaction

theorem slice_frame_transaction :
    slice (frame head transaction byteLength pair digest tail) 4 8 = transaction :=
  slice_middle hhead (by omega)

include hbyteLength

theorem slice_frame_byteLength :
    slice (frame head transaction byteLength pair digest tail) 8 10 = byteLength := by
  unfold frame
  rw [← List.append_assoc]
  apply slice_middle
  · rw [List.length_append]
    omega
  · omega

/-- The registers between the byte length and the digest. -/
theorem registerAt_frame_pair (first second : ℕ) :
    registerAt (frame head transaction byteLength [first, second] digest tail) 10 = first ∧
    registerAt (frame head transaction byteLength [first, second] digest tail) 11 = second := by
  have hfront : (head ++ (transaction ++ byteLength)).length = 10 := by
    simp only [List.length_append]
    omega
  have hframe : frame head transaction byteLength [first, second] digest tail =
      (head ++ (transaction ++ byteLength)) ++ (first :: second :: (digest ++ tail)) := by
    simp only [frame, List.append_assoc, List.cons_append, List.nil_append]
  rw [hframe, registerAt, registerAt, List.getD_append_right _ _ _ _ (by omega),
    List.getD_append_right _ _ _ _ (by omega), hfront]
  exact ⟨rfl, rfl⟩

include hpair hdigest

theorem slice_frame_digest :
    slice (frame head transaction byteLength pair digest tail) 12 28 = digest := by
  have hfront : (head ++ (transaction ++ (byteLength ++ pair))).length = 12 := by
    simp only [List.length_append]
    omega
  have hframe : frame head transaction byteLength pair digest tail =
      (head ++ (transaction ++ (byteLength ++ pair))) ++ (digest ++ tail) := by
    simp only [frame, List.append_assoc]
  rw [hframe]
  exact slice_middle hfront (by omega)

/-- A field behind the digest. -/
theorem slice_frame_tail {front middle back : List ℕ} {start stop : ℕ}
    (htail : tail = front ++ (middle ++ back)) (hfront : 28 + front.length = start)
    (hmiddle : start + middle.length = stop) :
    slice (frame head transaction byteLength pair digest tail) start stop = middle := by
  have hlength : (head ++ (transaction ++ (byteLength ++ (pair ++ (digest ++ front))))).length =
      start := by
    simp only [List.length_append]
    omega
  have hframe : frame head transaction byteLength pair digest tail =
      (head ++ (transaction ++ (byteLength ++ (pair ++ (digest ++ front))))) ++
        (middle ++ back) := by
    rw [htail]
    simp only [frame, List.append_assoc]
  rw [hframe]
  exact slice_middle hlength hmiddle

end

theorem fit_nil : Fit [] := by
  intro word hword
  cases hword

theorem fit_cons {word : ℕ} {rest : List ℕ} : Fit (word :: rest) ↔ word < 2 ^ 16 ∧ Fit rest := by
  unfold Fit
  exact List.forall_mem_cons

theorem fit_append {front back : List ℕ} : Fit (front ++ back) ↔ Fit front ∧ Fit back := by
  unfold Fit
  exact List.forall_mem_append

theorem fit_frame {head transaction byteLength pair digest tail : List ℕ} :
    Fit (frame head transaction byteLength pair digest tail) ↔
      Fit head ∧ Fit transaction ∧ Fit byteLength ∧ Fit pair ∧ Fit digest ∧ Fit tail := by
  simp only [frame, fit_append]

theorem fit_replicate_zero (count : ℕ) : Fit (List.replicate count 0) := by
  intro word hword
  rw [List.eq_of_mem_replicate hword]
  decide

/-- Reserved registers that are all zero. -/
theorem slice_eq_replicate {registers : List ℕ} {start stop : ℕ} (h : stop ≤ registers.length)
    (hzero : ∀ value ∈ slice registers start stop, value = 0) :
    slice registers start stop = List.replicate (stop - start) 0 :=
  List.eq_replicate_iff.mpr ⟨length_slice h, hzero⟩

theorem slice_two {registers : List ℕ} {start : ℕ} (h : start + 2 ≤ registers.length) :
    slice registers start (start + 2) =
      [registerAt registers start, registerAt registers (start + 1)] := by
  rw [slice_cons (by omega) h, slice_cons (by omega) h, slice_self]

theorem slice_four {registers : List ℕ} (h : 4 ≤ registers.length) :
    slice registers 0 4 = [registerAt registers 0, registerAt registers 1,
      registerAt registers 2, registerAt registers 3] := by
  rw [slice_cons (by omega) h, slice_cons (by omega) h, slice_cons (by omega) h,
    slice_cons (by omega) h, slice_self]

/-! ## The request header -/

namespace RequestHeader

/-- A header as the client makes it: the register count belongs to the byte length, and the
    digest is one. -/
structure Valid (h : RequestHeader) : Prop where
  transactionId_lt : h.transactionId < 2 ^ 64
  payloadByteLength_le : h.payloadByteLength ≤ maxPayloadBytes
  payloadRegisterCount_eq : h.payloadRegisterCount = (h.payloadByteLength + 1) / 2
  payloadDigest : IsSha256 h.payloadDigest

/-- What `from_registers` has checked and read. -/
structure Reads (values : List ℕ) (h : RequestHeader) : Prop where
  length : values.length = requestHeaderRegisters
  magic : registerAt values 1 = requestMagic
  version : registerAt values 2 = wireVersion
  reserved : registerAt values 11 = 0
  reservedTail : ∀ value ∈ slice values 28 32, value = 0
  control : h.control.toInt = registerAt values 0
  operation : h.operation.toInt = registerAt values 3
  transactionId : registersU64 (slice values 4 8) = .ok h.transactionId
  payloadByteLength : registersU32 (slice values 8 10) = .ok h.payloadByteLength
  payloadByteLength_le : h.payloadByteLength ≤ maxPayloadBytes
  payloadRegisterCount : h.payloadRegisterCount = registerAt values 10
  payloadRegisterCount_eq : h.payloadRegisterCount = (h.payloadByteLength + 1) / 2
  payloadDigest : registersDigest (slice values 12 28) = .ok h.payloadDigest

theorem fromRegisters_eq_ok {values : List ℕ} {h : RequestHeader} :
    fromRegisters values = .ok h ↔ Reads values h := by
  unfold fromRegisters
  simp only [bind_eq_ok, refuseIf_eq_ok, not_or, not_not, not_exists, not_and, not_lt,
    pure_eq_ok, Except.ok.injEq, ControlWord.ofInt_eq_ok, WireOperation.ofInt_eq_ok]
  constructor
  · rintro ⟨_, hlength, _, ⟨hmagic, hversion⟩, _, ⟨hreserved, htail⟩, byteLength, hbyteLength, _,
      ⟨hle, hcount⟩, control, hcontrol, operation, hoperation, transactionId, htransaction,
      digest, hdigest, rfl⟩
    exact
      { length := hlength
        magic := hmagic
        version := hversion
        reserved := hreserved
        reservedTail := htail
        control := hcontrol
        operation := hoperation
        transactionId := htransaction
        payloadByteLength := hbyteLength
        payloadByteLength_le := hle
        payloadRegisterCount := rfl
        payloadRegisterCount_eq := hcount
        payloadDigest := hdigest }
  · intro r
    refine ⟨(), r.length, (), ⟨r.magic, r.version⟩, (), ⟨r.reserved, r.reservedTail⟩, _,
      r.payloadByteLength, (), ⟨r.payloadByteLength_le, ?_⟩, _, r.control, _, r.operation, _,
      r.transactionId, _, r.payloadDigest, ?_⟩
    · rw [← r.payloadRegisterCount]
      exact r.payloadRegisterCount_eq
    · rw [← r.payloadRegisterCount]

theorem codec : Codec Valid Fit toRegisters fromRegisters where
  encodes h hvalid := by
    have hbound : h.payloadByteLength < 2 ^ 32 :=
      lt_of_le_of_lt hvalid.payloadByteLength_le (by decide)
    obtain ⟨transaction, htransaction, ⟨htlength, htfit⟩, htback⟩ :=
      u64_codec.encodes _ hvalid.transactionId_lt
    obtain ⟨byteLength, hbyteLength, ⟨hblength, hbfit⟩, hbback⟩ := u32_codec.encodes _ hbound
    obtain ⟨digest, hdigest, ⟨hdlength, hdfit⟩, hdback⟩ :=
      digest_codec.encodes _ hvalid.payloadDigest
    refine ⟨frame [h.control.toInt, requestMagic, wireVersion, h.operation.toInt] transaction
      byteLength [h.payloadRegisterCount, 0] digest (List.replicate 4 0), ?_, ?_, ?_⟩
    · rw [toRegisters, htransaction, hbyteLength, hdigest]
      rfl
    · refine fit_frame.mpr ⟨?_, htfit, hbfit, ?_, hdfit, fit_replicate_zero 4⟩
      · have hcontrol : h.control.toInt < 2 ^ 16 := by cases h.control <;> decide
        have hoperation : h.operation.toInt < 2 ^ 16 := by cases h.operation <;> decide
        exact fit_cons.mpr ⟨hcontrol, fit_cons.mpr ⟨by decide, fit_cons.mpr ⟨by decide,
          fit_cons.mpr ⟨hoperation, fit_nil⟩⟩⟩⟩
      · have hle : h.payloadByteLength ≤ 8192 := hvalid.payloadByteLength_le
        have hcount := hvalid.payloadRegisterCount_eq
        exact fit_cons.mpr ⟨by omega, fit_cons.mpr ⟨by decide, fit_nil⟩⟩
    · have hhead : [h.control.toInt, requestMagic, wireVersion, h.operation.toInt].length = 4 := rfl
      obtain ⟨hcount, hreserved⟩ :=
        registerAt_frame_pair hhead htlength hblength h.payloadRegisterCount 0
      have hzeros : List.replicate 4 0 = [] ++ (List.replicate 4 0 ++ []) := rfl
      have htail : slice (frame [h.control.toInt, requestMagic, wireVersion, h.operation.toInt]
          transaction byteLength [h.payloadRegisterCount, 0] digest (List.replicate 4 0)) 28 32 =
          List.replicate 4 0 :=
        slice_frame_tail hhead htlength hblength rfl hdlength hzeros rfl rfl
      apply fromRegisters_eq_ok.mpr
      exact
        { length := length_frame rfl htlength hblength rfl hdlength
          magic := rfl
          version := rfl
          reserved := hreserved
          reservedTail := by
            intro value hvalue
            rw [htail] at hvalue
            exact List.eq_of_mem_replicate hvalue
          control := rfl
          operation := rfl
          transactionId := by rw [slice_frame_transaction rfl htlength]; exact htback
          payloadByteLength := by
            rw [slice_frame_byteLength rfl htlength hblength]; exact hbback
          payloadByteLength_le := hvalid.payloadByteLength_le
          payloadRegisterCount := hcount.symm
          payloadRegisterCount_eq := hvalid.payloadRegisterCount_eq
          payloadDigest := by
            rw [slice_frame_digest rfl htlength hblength rfl hdlength]; exact hdback }
  decodes values h hfit hread := by
    have r := fromRegisters_eq_ok.mp hread
    have hlength : values.length = 32 := r.length
    obtain ⟨htransaction, hregisters⟩ := u64_codec.decodes _ _
      ⟨length_slice (by omega), fit_slice hfit 4 8⟩ r.transactionId
    obtain ⟨-, hbyteLength⟩ := u32_codec.decodes _ _
      ⟨length_slice (by omega), fit_slice hfit 8 10⟩ r.payloadByteLength
    obtain ⟨hsha, hdigest⟩ := digest_codec.decodes _ _
      ⟨length_slice (by omega), fit_slice hfit 12 28⟩ r.payloadDigest
    refine ⟨⟨htransaction, r.payloadByteLength_le, r.payloadRegisterCount_eq, hsha⟩, ?_⟩
    have hhead : slice values 0 4 =
        [h.control.toInt, requestMagic, wireVersion, h.operation.toInt] := by
      rw [slice_four (by omega), r.control, r.magic, r.version, r.operation]
    have hpair : slice values 10 12 = [h.payloadRegisterCount, 0] := by
      rw [slice_two (by omega), r.payloadRegisterCount, r.reserved]
    have htail : slice values 28 32 = List.replicate 4 0 :=
      slice_eq_replicate (by omega) r.reservedTail
    rw [toRegisters, hregisters, hbyteLength, hdigest]
    show Except.ok (frame [h.control.toInt, requestMagic, wireVersion, h.operation.toInt] _ _
      [h.payloadRegisterCount, 0] _ (List.replicate 4 0)) = _
    rw [← hhead, ← hpair, ← htail, frame_slices hlength (by decide)]

end RequestHeader

/-! ## The response header -/

namespace ResponseHeader

/-- A header as the device makes it. -/
structure Valid (h : ResponseHeader) : Prop where
  transactionId_lt : h.transactionId < 2 ^ 64
  payloadByteLength_le : h.payloadByteLength ≤ maxPayloadBytes
  payloadRegisterCount_eq : h.payloadRegisterCount = (h.payloadByteLength + 1) / 2
  payloadDigest : IsSha256 h.payloadDigest
  deviceTransactionCounter_lt : h.deviceTransactionCounter < 2 ^ 64
  stateVersionHint_lt : h.stateVersionHint < 2 ^ 64

/-- What `from_registers` has checked and read. -/
structure Reads (values : List ℕ) (h : ResponseHeader) : Prop where
  length : values.length = responseHeaderRegisters
  magic : registerAt values 0 = responseMagic
  version : registerAt values 1 = wireVersion
  reservedTail : ∀ value ∈ slice values 36 40, value = 0
  status : h.status.toInt = registerAt values 2
  operation : h.operation.toInt = registerAt values 3
  transactionId : registersU64 (slice values 4 8) = .ok h.transactionId
  payloadByteLength : registersU32 (slice values 8 10) = .ok h.payloadByteLength
  payloadByteLength_le : h.payloadByteLength ≤ maxPayloadBytes
  payloadRegisterCount : h.payloadRegisterCount = registerAt values 10
  payloadRegisterCount_eq : h.payloadRegisterCount = (h.payloadByteLength + 1) / 2
  resultCode : h.resultCode.toInt = registerAt values 11
  payloadDigest : registersDigest (slice values 12 28) = .ok h.payloadDigest
  deviceTransactionCounter :
    registersU64 (slice values 28 32) = .ok h.deviceTransactionCounter
  stateVersionHint : registersU64 (slice values 32 36) = .ok h.stateVersionHint

theorem fromRegisters_eq_ok {values : List ℕ} {h : ResponseHeader} :
    fromRegisters values = .ok h ↔ Reads values h := by
  unfold fromRegisters
  simp only [bind_eq_ok, refuseIf_eq_ok, not_or, not_not, not_exists, not_and, not_lt,
    pure_eq_ok, Except.ok.injEq, WireStatus.ofInt_eq_ok, WireOperation.ofInt_eq_ok,
    WireResultCode.ofInt_eq_ok]
  constructor
  · rintro ⟨_, hlength, _, ⟨hmagic, hversion⟩, _, htail, byteLength, hbyteLength, _,
      ⟨hle, hcount⟩, status, hstatus, operation, hoperation, transactionId, htransaction,
      resultCode, hresult, digest, hdigest, counter, hcounter, hint, hhint, rfl⟩
    exact
      { length := hlength
        magic := hmagic
        version := hversion
        reservedTail := htail
        status := hstatus
        operation := hoperation
        transactionId := htransaction
        payloadByteLength := hbyteLength
        payloadByteLength_le := hle
        payloadRegisterCount := rfl
        payloadRegisterCount_eq := hcount
        resultCode := hresult
        payloadDigest := hdigest
        deviceTransactionCounter := hcounter
        stateVersionHint := hhint }
  · intro r
    refine ⟨(), r.length, (), ⟨r.magic, r.version⟩, (), r.reservedTail, _, r.payloadByteLength, (),
      ⟨r.payloadByteLength_le, ?_⟩, _, r.status, _, r.operation, _, r.transactionId, _,
      r.resultCode, _, r.payloadDigest, _, r.deviceTransactionCounter, _, r.stateVersionHint, ?_⟩
    · rw [← r.payloadRegisterCount]
      exact r.payloadRegisterCount_eq
    · rw [← r.payloadRegisterCount]

theorem codec : Codec Valid Fit toRegisters fromRegisters where
  encodes h hvalid := by
    have hbound : h.payloadByteLength < 2 ^ 32 :=
      lt_of_le_of_lt hvalid.payloadByteLength_le (by decide)
    obtain ⟨transaction, htransaction, ⟨htlength, htfit⟩, htback⟩ :=
      u64_codec.encodes _ hvalid.transactionId_lt
    obtain ⟨byteLength, hbyteLength, ⟨hblength, hbfit⟩, hbback⟩ := u32_codec.encodes _ hbound
    obtain ⟨digest, hdigest, ⟨hdlength, hdfit⟩, hdback⟩ :=
      digest_codec.encodes _ hvalid.payloadDigest
    obtain ⟨counter, hcounter, ⟨hclength, hcfit⟩, hcback⟩ :=
      u64_codec.encodes _ hvalid.deviceTransactionCounter_lt
    obtain ⟨hint, hhint, ⟨hhlength, hhfit⟩, hhback⟩ :=
      u64_codec.encodes _ hvalid.stateVersionHint_lt
    let head := [responseMagic, wireVersion, h.status.toInt, h.operation.toInt]
    let tail := counter ++ (hint ++ List.replicate 4 0)
    refine ⟨frame head transaction byteLength [h.payloadRegisterCount, h.resultCode.toInt] digest
      tail, ?_, ?_, ?_⟩
    · rw [toRegisters, htransaction, hbyteLength, hdigest, hcounter, hhint]
      rfl
    · refine fit_frame.mpr ⟨?_, htfit, hbfit, ?_, hdfit,
        fit_append.mpr ⟨hcfit, fit_append.mpr ⟨hhfit, fit_replicate_zero 4⟩⟩⟩
      · have hstatus : h.status.toInt < 2 ^ 16 := by cases h.status <;> decide
        have hoperation : h.operation.toInt < 2 ^ 16 := by cases h.operation <;> decide
        exact fit_cons.mpr ⟨by decide, fit_cons.mpr ⟨by decide, fit_cons.mpr ⟨hstatus,
          fit_cons.mpr ⟨hoperation, fit_nil⟩⟩⟩⟩
      · have hle : h.payloadByteLength ≤ 8192 := hvalid.payloadByteLength_le
        have hcount := hvalid.payloadRegisterCount_eq
        have hresult : h.resultCode.toInt < 2 ^ 16 := by cases h.resultCode <;> decide
        exact fit_cons.mpr ⟨by omega, fit_cons.mpr ⟨hresult, fit_nil⟩⟩
    · have hhead : head.length = 4 := rfl
      obtain ⟨hcount, hresult⟩ := registerAt_frame_pair hhead htlength hblength
        h.payloadRegisterCount h.resultCode.toInt
      have htail : tail.length = 12 := by
        simp only [tail, List.length_append, List.length_replicate, hclength, hhlength]
      have hfront : tail = [] ++ (counter ++ (hint ++ List.replicate 4 0)) := rfl
      have hcounterSlice : slice (frame head transaction byteLength
          [h.payloadRegisterCount, h.resultCode.toInt] digest tail) 28 32 = counter :=
        slice_frame_tail hhead htlength hblength rfl hdlength hfront rfl (by omega)
      have hhintSlice : slice (frame head transaction byteLength
          [h.payloadRegisterCount, h.resultCode.toInt] digest tail) 32 36 = hint :=
        slice_frame_tail hhead htlength hblength rfl hdlength rfl (by omega) (by omega)
      have hzeros : slice (frame head transaction byteLength
          [h.payloadRegisterCount, h.resultCode.toInt] digest tail) 36 40 =
          List.replicate 4 0 := by
        have hback : tail = (counter ++ hint) ++ (List.replicate 4 0 ++ []) := by
          simp only [tail, List.append_assoc, List.append_nil]
        apply slice_frame_tail hhead htlength hblength rfl hdlength hback
        · rw [List.length_append]
          omega
        · rfl
      apply fromRegisters_eq_ok.mpr
      exact
        { length := by
            rw [length_frame hhead htlength hblength rfl hdlength, htail]
          magic := rfl
          version := rfl
          reservedTail := by
            intro value hvalue
            rw [hzeros] at hvalue
            exact List.eq_of_mem_replicate hvalue
          status := rfl
          operation := rfl
          transactionId := by rw [slice_frame_transaction hhead htlength]; exact htback
          payloadByteLength := by
            rw [slice_frame_byteLength hhead htlength hblength]; exact hbback
          payloadByteLength_le := hvalid.payloadByteLength_le
          payloadRegisterCount := hcount.symm
          payloadRegisterCount_eq := hvalid.payloadRegisterCount_eq
          resultCode := hresult.symm
          payloadDigest := by
            rw [slice_frame_digest hhead htlength hblength rfl hdlength]; exact hdback
          deviceTransactionCounter := by rw [hcounterSlice]; exact hcback
          stateVersionHint := by rw [hhintSlice]; exact hhback }
  decodes values h hfit hread := by
    have r := fromRegisters_eq_ok.mp hread
    have hlength : values.length = 40 := r.length
    obtain ⟨htransaction, hregisters⟩ := u64_codec.decodes _ _
      ⟨length_slice (by omega), fit_slice hfit 4 8⟩ r.transactionId
    obtain ⟨-, hbyteLength⟩ := u32_codec.decodes _ _
      ⟨length_slice (by omega), fit_slice hfit 8 10⟩ r.payloadByteLength
    obtain ⟨hsha, hdigest⟩ := digest_codec.decodes _ _
      ⟨length_slice (by omega), fit_slice hfit 12 28⟩ r.payloadDigest
    obtain ⟨hcounterBound, hcounter⟩ := u64_codec.decodes _ _
      ⟨length_slice (by omega), fit_slice hfit 28 32⟩ r.deviceTransactionCounter
    obtain ⟨hhintBound, hhint⟩ := u64_codec.decodes _ _
      ⟨length_slice (by omega), fit_slice hfit 32 36⟩ r.stateVersionHint
    refine ⟨⟨htransaction, r.payloadByteLength_le, r.payloadRegisterCount_eq, hsha, hcounterBound,
      hhintBound⟩, ?_⟩
    have hhead : slice values 0 4 =
        [responseMagic, wireVersion, h.status.toInt, h.operation.toInt] := by
      rw [slice_four (by omega), r.magic, r.version, r.status, r.operation]
    have hpair : slice values 10 12 = [h.payloadRegisterCount, h.resultCode.toInt] := by
      rw [slice_two (by omega), r.payloadRegisterCount, r.resultCode]
    have hzeros : slice values 36 40 = List.replicate 4 0 :=
      slice_eq_replicate (by omega) r.reservedTail
    have htail : slice values 28 32 ++ (slice values 32 36 ++ List.replicate 4 0) =
        slice values 28 40 := by
      rw [← hzeros, slice_append_slice (by decide) (by decide),
        slice_append_slice (by decide) (by decide)]
    rw [toRegisters, hregisters, hbyteLength, hdigest, hcounter, hhint]
    show Except.ok (frame [responseMagic, wireVersion, h.status.toInt, h.operation.toInt] _ _
      [h.payloadRegisterCount, h.resultCode.toInt] _
      (slice values 28 32 ++ (slice values 32 36 ++ List.replicate 4 0))) = _
    rw [← hhead, ← hpair, htail, frame_slices hlength (by decide)]

end ResponseHeader

/-! ## All codecs -/

/-- Headers are read back from their registers and have one register image each, and payloads are
    read back. A register image of a payload is the only one that decodes to it exactly where its
    padding byte is zero. -/
theorem wire_codecs_bijective_iff (registers : List ℕ) (byteLength : ℤ)
    (payload : List UInt8) :
    (∀ h : RequestHeader, h.Valid → ∃ registers, h.toRegisters = .ok registers ∧
      RequestHeader.fromRegisters registers = .ok h) ∧
    (∀ h : ResponseHeader, h.Valid → ∃ registers, h.toRegisters = .ok registers ∧
      ResponseHeader.fromRegisters registers = .ok h) ∧
    (∀ h, Fit registers → RequestHeader.fromRegisters registers = .ok h →
      h.toRegisters = .ok registers) ∧
    (∀ h, Fit registers → ResponseHeader.fromRegisters registers = .ok h →
      h.toRegisters = .ok registers) ∧
    (payload.length ≤ maxPayloadBytes →
      ∃ image, bytesToRegisters payload = .ok image ∧
        registersToBytes image payload.length = .ok payload) ∧
    (registersToBytes registers byteLength = .ok payload →
      (bytesToRegisters payload = .ok registers ↔ ZeroPadded registers byteLength)) := by
  refine ⟨?_, ?_, ?_, ?_, ?_, ?_⟩
  · intro h hvalid
    obtain ⟨registers, hregisters, -, hback⟩ := RequestHeader.codec.encodes h hvalid
    exact ⟨registers, hregisters, hback⟩
  · intro h hvalid
    obtain ⟨registers, hregisters, -, hback⟩ := ResponseHeader.codec.encodes h hvalid
    exact ⟨registers, hregisters, hback⟩
  · intro h hfit hread
    exact (RequestHeader.codec.decodes registers h hfit hread).2
  · intro h hfit hread
    exact (ResponseHeader.codec.decodes registers h hfit hread).2
  · intro hlength
    obtain ⟨image, himage, -, -, hback⟩ := registersToBytes_bytesToRegisters hlength
    exact ⟨image, himage, hback⟩
  · intro h
    exact bytesToRegisters_registersToBytes_iff h

/-- The payload `A` from a register with a stray padding byte, and from its own. -/
theorem two_images_of_one_payload :
    registersToBytes [0x41FF] 1 = .ok [0x41] ∧ registersToBytes [0x4100] 1 = .ok [0x41] ∧
      bytesToRegisters [0x41] = .ok [0x4100] ∧
      ¬ ∀ registers byteLength payload, registersToBytes registers byteLength = .ok payload →
        bytesToRegisters payload = .ok registers := by
  refine ⟨by decide, by decide, by decide, ?_⟩
  intro h
  have himage := h [0x41FF] 1 [0x41] (by decide)
  exact absurd himage (by decide)

end AegisOt.Modbus
