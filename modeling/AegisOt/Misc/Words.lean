import Mathlib.Data.Nat.Bitwise
import Mathlib.Data.Nat.Digits.Defs
import Mathlib.Tactic.Common

/-!
# Bytes in sixteen-bit words

Byte strings as words of two bytes, numbers over several words, and byte strings as hexadecimal
text, the most significant part first in each. A word is a number below `2 ^ 16`. The regions of
a list of words are read and stored as Python reads and assigns slices. Nothing here names a
program.
-/

namespace AegisOt

/-- Encoding and decoding undo each other: every valid value has an image, from which it is read
    back, and what is read from an image is valid and has this image. -/
structure Codec {ε α β : Type} (Valid : α → Prop) (Image : β → Prop) (encode : α → Except ε β)
    (decode : β → Except ε α) : Prop where
  encodes : ∀ a, Valid a → ∃ b, encode a = .ok b ∧ Image b ∧ decode b = .ok a
  decodes : ∀ b a, Image b → decode b = .ok a → Valid a ∧ encode a = .ok b

namespace Words

/-! ## Two bytes to a word -/

/-- `int.from_bytes(bytes, "big")`. -/
def ofBytes (bytes : List UInt8) : ℕ :=
  bytes.foldl (fun value byte => value * 256 + byte.toNat) 0

/-- `[int.from_bytes(bytes[i : i + 2], "big") for i in range(0, 2 * count, 2)]`. -/
def ofPairs (bytes : List UInt8) (count : ℕ) : List ℕ :=
  (List.range count).map (fun i => ofBytes ((bytes.drop (2 * i)).take 2))

/-- `word.to_bytes(2, "big")` of a word. -/
def toPair (word : ℕ) : List UInt8 := [UInt8.ofNat (word / 256), UInt8.ofNat (word % 256)]

def toBytes (words : List ℕ) : List UInt8 := words.flatMap toPair

/-- Every number is a word. -/
def Fit (words : List ℕ) : Prop := ∀ word ∈ words, word < 2 ^ 16

instance (words : List ℕ) : Decidable (Fit words) := List.decidableBAll _ _

@[simp] theorem ofPairs_zero (bytes : List UInt8) : ofPairs bytes 0 = [] := rfl

theorem ofPairs_succ (high low : UInt8) (rest : List UInt8) (count : ℕ) :
    ofPairs (high :: low :: rest) (count + 1) =
      (high.toNat * 256 + low.toNat) :: ofPairs rest count := by
  have hhead : ofBytes (((high :: low :: rest).drop (2 * 0)).take 2) =
      high.toNat * 256 + low.toNat := by
    simp [ofBytes]
  have htail : (fun i => ofBytes (((high :: low :: rest).drop (2 * i)).take 2)) ∘ Nat.succ =
      fun i => ofBytes ((rest.drop (2 * i)).take 2) := by
    funext i
    show ofBytes (((high :: low :: rest).drop (2 * i + 2)).take 2) = _
    rw [List.drop_succ_cons, List.drop_succ_cons]
  rw [ofPairs, List.range_succ_eq_map, List.map_cons, List.map_map, hhead, htail, ofPairs]

@[simp] theorem length_ofPairs (bytes : List UInt8) (count : ℕ) :
    (ofPairs bytes count).length = count := by
  simp [ofPairs]

@[simp] theorem length_toBytes (words : List ℕ) : (toBytes words).length = 2 * words.length := by
  induction words with
  | nil => rfl
  | cons word rest ih =>
    rw [toBytes, List.flatMap_cons, List.length_append, ← toBytes, ih, List.length_cons]
    simp only [toPair, List.length_cons, List.length_nil]
    omega

theorem toPair_pair (high low : UInt8) : toPair (high.toNat * 256 + low.toNat) = [high, low] := by
  have hlow := low.toNat_lt
  have hdiv : (high.toNat * 256 + low.toNat) / 256 = high.toNat := by omega
  have hmod : (high.toNat * 256 + low.toNat) % 256 = low.toNat := by omega
  rw [toPair, hdiv, hmod, UInt8.ofNat_toNat, UInt8.ofNat_toNat]

theorem pair_toPair {word : ℕ} (h : word < 2 ^ 16) :
    (UInt8.ofNat (word / 256)).toNat * 256 + (UInt8.ofNat (word % 256)).toNat = word := by
  rw [UInt8.toNat_ofNat', UInt8.toNat_ofNat']
  omega

/-- The bytes are read back. -/
theorem toBytes_ofPairs {bytes : List UInt8} {count : ℕ} (h : bytes.length = 2 * count) :
    toBytes (ofPairs bytes count) = bytes := by
  induction count generalizing bytes with
  | zero =>
    rw [List.length_eq_zero_iff.mp h]
    rfl
  | succ count ih =>
    match bytes, h with
    | high :: low :: rest, h =>
      have hrest : rest.length = 2 * count := by
        simp only [List.length_cons] at h
        omega
      rw [ofPairs_succ, toBytes, List.flatMap_cons, toPair_pair, ← toBytes, ih hrest]
      rfl

/-- The words are read back. -/
theorem ofPairs_toBytes {words : List ℕ} (h : Fit words) :
    ofPairs (toBytes words) words.length = words := by
  induction words with
  | nil => rfl
  | cons word rest ih =>
    have hword := h word List.mem_cons_self
    have hrest : Fit rest := fun other hother => h other (List.mem_cons_of_mem _ hother)
    show ofPairs (UInt8.ofNat (word / 256) :: UInt8.ofNat (word % 256) :: toBytes rest)
      (rest.length + 1) = word :: rest
    rw [ofPairs_succ, pair_toPair hword, ih hrest]

theorem fit_ofPairs {bytes : List UInt8} {count : ℕ} (h : bytes.length = 2 * count) :
    Fit (ofPairs bytes count) := by
  induction count generalizing bytes with
  | zero =>
    intro word hword
    cases hword
  | succ count ih =>
    match bytes, h with
    | high :: low :: rest, h =>
      have hrest : rest.length = 2 * count := by
        simp only [List.length_cons] at h
        omega
      intro word hword
      rw [ofPairs_succ] at hword
      rcases List.mem_cons.mp hword with rfl | hword
      · have hhigh := high.toNat_lt
        have hlow := low.toNat_lt
        omega
      · exact ih hrest word hword

/-! ## Numbers over several words -/

/-- `(value >> shift) & 0xFFFF`. -/
def wordAt (value shift : ℕ) : ℕ := (value >>> shift) &&& 0xFFFF

/-- `result = (result << 16) | word`. -/
def shiftIn (result word : ℕ) : ℕ := (result <<< 16) ||| word

theorem wordAt_eq (value shift : ℕ) : wordAt value shift = value / 2 ^ shift % 2 ^ 16 := by
  rw [wordAt, Nat.shiftRight_eq_div_pow]
  exact Nat.and_two_pow_sub_one_eq_mod _ 16

theorem wordAt_lt (value shift : ℕ) : wordAt value shift < 2 ^ 16 := by
  rw [wordAt_eq]
  exact Nat.mod_lt _ (by decide)

theorem shiftIn_eq {word : ℕ} (result : ℕ) (h : word < 2 ^ 16) :
    shiftIn result word = result * 2 ^ 16 + word := by
  rw [shiftIn, ← Nat.shiftLeft_add_eq_or_of_lt h, Nat.shiftLeft_eq]

/-! ## Hexadecimal text -/

/-- The value of a hexadecimal digit. -/
def digitValue (c : Char) : Option ℕ :=
  if '0' ≤ c ∧ c ≤ '9' then some (c.toNat - '0'.toNat)
  else if 'a' ≤ c ∧ c ≤ 'f' then some (c.toNat - 'a'.toNat + 10)
  else if 'A' ≤ c ∧ c ≤ 'F' then some (c.toNat - 'A'.toNat + 10)
  else none

/-- The ASCII whitespace that `bytes.fromhex` skips between bytes. -/
def isSpace (c : Char) : Bool := c ∈ [' ', '\t', '\n', '\r', '\x0b', '\x0c']

/-- `bytes.fromhex`. -/
def fromHex : List Char → Option (List UInt8)
  | [] => some []
  | c :: rest =>
    if isSpace c then fromHex rest
    else match rest with
      | [] => none
      | d :: rest => do
        let high ← digitValue c
        let low ← digitValue d
        let bytes ← fromHex rest
        pure (UInt8.ofNat (high * 16 + low) :: bytes)

/-- `bytes.hex()`. -/
def toHex (bytes : List UInt8) : List Char :=
  bytes.flatMap (fun byte => [Nat.digitChar (byte.toNat / 16), Nat.digitChar (byte.toNat % 16)])

/-- A lower-case hexadecimal digit. -/
def isLowerHex (c : Char) : Bool := c ∈ ("0123456789abcdef".toList)

theorem digit_cases {c : Char} (h : isLowerHex c) :
    isSpace c = false ∧ ∃ value, value < 16 ∧ digitValue c = some value ∧
      Nat.digitChar value = c := by
  have hmem : c ∈ "0123456789abcdef".toList := by simpa [isLowerHex] using h
  have hall : "0123456789abcdef".toList.all (fun d => isSpace d = false ∧
      (digitValue d).any (fun value => value < 16 ∧ Nat.digitChar value = d) = true) = true := by
    decide
  obtain ⟨hspace, hany⟩ := of_decide_eq_true (List.all_eq_true.mp hall c hmem)
  obtain ⟨value, hdigit, hvalue⟩ := (Option.any_eq_true _ _).mp hany
  obtain ⟨hbound, hchar⟩ := of_decide_eq_true hvalue
  exact ⟨hspace, value, hbound, hdigit, hchar⟩

theorem digitChar_cases {value : ℕ} (h : value < 16) :
    isLowerHex (Nat.digitChar value) = true ∧ isSpace (Nat.digitChar value) = false ∧
      digitValue (Nat.digitChar value) = some value := by
  have hall : ∀ v ∈ List.range 16, isLowerHex (Nat.digitChar v) = true ∧
      isSpace (Nat.digitChar v) = false ∧ digitValue (Nat.digitChar v) = some v := by decide
  exact hall value (List.mem_range.mpr h)

@[simp] theorem length_toHex (bytes : List UInt8) : (toHex bytes).length = 2 * bytes.length := by
  induction bytes with
  | nil => rfl
  | cons byte rest ih =>
    rw [toHex, List.flatMap_cons, List.length_append, ← toHex, ih, List.length_cons]
    simp only [List.length_cons, List.length_nil]
    omega

theorem isLowerHex_toHex {bytes : List UInt8} {c : Char} (h : c ∈ toHex bytes) :
    isLowerHex c = true := by
  obtain ⟨byte, -, hc⟩ := List.mem_flatMap.mp h
  have hbyte := byte.toNat_lt
  rcases List.mem_cons.mp hc with rfl | hc
  · exact (digitChar_cases (by omega)).1
  · rw [List.mem_singleton.mp hc]
    exact (digitChar_cases (by omega)).1

theorem fromHex_pair {c d : Char} {rest : List Char} {high low : ℕ} {bytes : List UInt8}
    (hspace : isSpace c = false) (hhigh : digitValue c = some high)
    (hlow : digitValue d = some low) (hrest : fromHex rest = some bytes) :
    fromHex (c :: d :: rest) = some (UInt8.ofNat (high * 16 + low) :: bytes) := by
  rw [fromHex, hspace, hhigh, hlow, hrest]
  rfl

/-- The bytes are read back from their text. -/
theorem fromHex_toHex (bytes : List UInt8) : fromHex (toHex bytes) = some bytes := by
  induction bytes with
  | nil => rfl
  | cons byte rest ih =>
    have hbyte := byte.toNat_lt
    have hhigh16 : byte.toNat / 16 < 16 := by omega
    have hlow16 : byte.toNat % 16 < 16 := by omega
    obtain ⟨-, hspace, hhigh⟩ := digitChar_cases hhigh16
    obtain ⟨-, -, hlow⟩ := digitChar_cases hlow16
    have hvalue : byte.toNat / 16 * 16 + byte.toNat % 16 = byte.toNat := by omega
    have hpair := fromHex_pair hspace hhigh hlow ih
    rw [hvalue, UInt8.ofNat_toNat] at hpair
    exact hpair

/-- A lower-case text of whole bytes is read back from its bytes. -/
theorem toHex_fromHex {text : List Char} {count : ℕ} (hlength : text.length = 2 * count)
    (hdigits : ∀ c ∈ text, isLowerHex c = true) :
    ∃ bytes, fromHex text = some bytes ∧ bytes.length = count ∧ toHex bytes = text := by
  induction count generalizing text with
  | zero =>
    rw [List.length_eq_zero_iff.mp hlength]
    exact ⟨[], rfl, rfl, rfl⟩
  | succ count ih =>
    match text, hlength with
    | c :: d :: rest, hlength =>
      have hrest : rest.length = 2 * count := by
        simp only [List.length_cons] at hlength
        omega
      obtain ⟨bytes, hbytes, hcount, htext⟩ := ih hrest (fun e he => hdigits e (by simp [he]))
      obtain ⟨hspace, high, hhigh16, hhigh, hc⟩ := digit_cases (hdigits c (by simp))
      obtain ⟨-, low, hlow16, hlow, hd⟩ := digit_cases (hdigits d (by simp))
      have hvalue : (UInt8.ofNat (high * 16 + low)).toNat = high * 16 + low := by
        rw [UInt8.toNat_ofNat']
        omega
      have hdiv : (high * 16 + low) / 16 = high := by omega
      have hmod : (high * 16 + low) % 16 = low := by omega
      refine ⟨UInt8.ofNat (high * 16 + low) :: bytes, ?_, ?_, ?_⟩
      · exact fromHex_pair hspace hhigh hlow hbytes
      · rw [List.length_cons, hcount]
      · show Nat.digitChar ((UInt8.ofNat (high * 16 + low)).toNat / 16) ::
          Nat.digitChar ((UInt8.ofNat (high * 16 + low)).toNat % 16) :: toHex bytes = _
        rw [hvalue, hdiv, hmod, hc, hd, htext]

/-! ## Regions -/

section

variable {α : Type} {items values more : List α} {start middle stop : ℕ}

/-- `items[start:stop]`. -/
def slice (items : List α) (start stop : ℕ) : List α := (items.take stop).drop start

/-- `items[start : start + len(values)] = values`. -/
def store (items : List α) (start : ℕ) (values : List α) : List α :=
  items.take start ++ (values ++ items.drop (start + values.length))

theorem slice_append_slice (h : start ≤ middle) (h' : middle ≤ stop) :
    slice items start middle ++ slice items middle stop = slice items start stop := by
  unfold slice
  rw [List.drop_take, List.drop_take, List.drop_take]
  have hdrop : items.drop middle = (items.drop start).drop (middle - start) := by
    rw [List.drop_drop]
    congr 1
    omega
  have hcount : stop - start = (middle - start) + (stop - middle) := by omega
  rw [hdrop, hcount, List.take_add]

theorem slice_of_length (h : items.length = stop) : slice items 0 stop = items := by
  rw [slice, List.take_of_length_le (by omega), List.drop_zero]

theorem length_slice (h : stop ≤ items.length) :
    (slice items start stop).length = stop - start := by
  rw [slice, List.length_drop, List.length_take, Nat.min_eq_left h]

theorem slice_self (items : List α) (start : ℕ) : slice items start start = [] := by
  rw [slice, List.drop_take, Nat.sub_self, List.take_zero]

/-- A region between what stands before and behind it. -/
theorem slice_middle {front back : List α} (hfront : front.length = start)
    (hvalues : start + values.length = stop) :
    slice (front ++ (values ++ back)) start stop = values := by
  have htake : (front ++ (values ++ back)).take stop = front ++ values := by
    rw [← List.append_assoc]
    apply List.take_left'
    rw [List.length_append]
    omega
  rw [slice, htake]
  exact List.drop_left' hfront

@[simp] theorem store_nil (items : List α) (start : ℕ) : store items start [] = items := by
  show items.take start ++ ([] ++ items.drop (start + 0)) = items
  rw [List.nil_append, Nat.add_zero, List.take_append_drop]

theorem take_append_slice (items : List α) (h : start ≤ stop) :
    items.take start ++ slice items start stop = items.take stop := by
  have hjoin : slice items 0 start ++ slice items start stop = slice items 0 stop :=
    slice_append_slice (Nat.zero_le start) h
  exact hjoin

@[simp] theorem length_store (h : start + values.length ≤ items.length) :
    (store items start values).length = items.length := by
  unfold store
  simp only [List.length_append, List.length_take, List.length_drop]
  omega

/-- What is stored is read. -/
theorem slice_store_self (h : start + values.length ≤ items.length) :
    slice (store items start values) start (start + values.length) = values := by
  apply slice_middle
  · rw [List.length_take]
    omega
  · rfl

theorem slice_store_before (h : start + values.length ≤ items.length) {first last : ℕ}
    (hlast : last ≤ start) :
    slice (store items start values) first last = slice items first last := by
  unfold slice store
  rw [List.take_append_of_le_length (by rw [List.length_take]; omega), List.take_take,
    Nat.min_eq_left hlast]

theorem drop_store (h : start + values.length ≤ items.length) {first : ℕ}
    (hfirst : start + values.length ≤ first) :
    (store items start values).drop first = items.drop first := by
  have hlength : (items.take start ++ values).length = start + values.length := by
    rw [List.length_append, List.length_take]
    omega
  unfold store
  rw [← List.append_assoc, List.drop_append, List.drop_of_length_le (by omega), List.nil_append,
    hlength, List.drop_drop]
  congr 1
  omega

theorem slice_store_behind (h : start + values.length ≤ items.length) {first last : ℕ}
    (hfirst : start + values.length ≤ first) :
    slice (store items start values) first last = slice items first last := by
  unfold slice
  rw [List.drop_take, List.drop_take, drop_store h hfirst]

/-- Two adjacent stores are one. -/
theorem store_store (h : start + values.length + more.length ≤ items.length) :
    store (store items start values) (start + values.length) more =
      store items start (values ++ more) := by
  have htake : (store items start values).take (start + values.length) =
      items.take start ++ values := by
    unfold store
    rw [← List.append_assoc]
    apply List.take_left'
    rw [List.length_append, List.length_take]
    omega
  have hdrop : (store items start values).drop (start + values.length + more.length) =
      items.drop (start + (values ++ more).length) := by
    rw [drop_store (by omega) (by omega), List.length_append]
    congr 1
    omega
  rw [store, htake, hdrop, store]
  simp only [List.append_assoc]

end

end Words

end AegisOt
