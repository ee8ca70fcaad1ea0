import AegisOt.Misc.Json

/-!
# Reading back a written JSON text

`loads` inverts `write` on well-formed values, and so `loadsBytes` inverts `canonicalBytes`
(`loadsBytes_canonicalBytes`). The reader is followed token by token: what a writer puts after
a value is the end of the text or one of `,`, `]`, the closing brace and a newline (`Delimited`),
which extends no number token, and every written token begins with a character that is not
whitespace. The fuel a text needs is at most its length.
-/

namespace AegisOt

namespace Json

/-- What may follow a value inside a text. -/
def Delimited (rest : List Char) : Prop :=
  ∀ c ∈ rest.head?, c = ',' ∨ c = ']' ∨ c = '\x7d' ∨ c = '\n'

theorem delimited_nil : Delimited [] := by simp [Delimited]

theorem delimited_cons {c : Char} {rest : List Char}
    (h : c = ',' ∨ c = ']' ∨ c = '\x7d' ∨ c = '\n') : Delimited (c :: rest) := by
  simpa [Delimited] using h

/-! ## Numbers -/

section Numbers

variable {rest : List Char}

/-- Reading digits stops at a delimiter. -/
theorem spanDigits_append (h : Delimited rest) (cs : List Char) :
    spanDigits (cs ++ rest) = ((spanDigits cs).1, (spanDigits cs).2 ++ rest) := by
  induction cs with
  | nil =>
    cases rest with
    | nil => rfl
    | cons c rest =>
      have hdigit : c.isDigit = false := by rcases h c rfl with rfl | rfl | rfl | rfl <;> decide
      simp [spanDigits, hdigit]
  | cons c cs ih =>
    by_cases hdigit : c.isDigit = true
    · simp [spanDigits, hdigit, ih]
    · simp [spanDigits, hdigit]

theorem scanWhole_append (h : Delimited rest) (cs : List Char) {token after : List Char}
    (hscan : scanWhole cs = some (token, after)) :
    scanWhole (cs ++ rest) = some (token, after ++ rest) := by
  cases cs with
  | nil => cases hscan
  | cons c cs =>
    have hspan := spanDigits_append h (c :: cs)
    rw [List.cons_append] at hspan ⊢
    by_cases hzero : c = '0'
    · simp only [scanWhole, hzero, if_true, Option.some.injEq, Prod.mk.injEq] at hscan ⊢
      exact ⟨hscan.1, by rw [hscan.2]⟩
    · simp only [scanWhole, hzero, if_false, hspan] at hscan ⊢
      split at hscan
      · cases hscan
      · rename_i hdigits
        rw [if_neg hdigits, Option.some.inj hscan]

theorem scanFraction_append (h : Delimited rest) (cs : List Char) :
    scanFraction (cs ++ rest) = ((scanFraction cs).1, (scanFraction cs).2 ++ rest) := by
  cases cs with
  | nil =>
    cases rest with
    | nil => rfl
    | cons c rest =>
      have hdot : c ≠ '.' := by rcases h c rfl with rfl | rfl | rfl | rfl <;> decide
      simp [scanFraction, hdot]
  | cons c cs =>
    simp only [List.cons_append, scanFraction, spanDigits_append h]
    split <;> simp

theorem scanSign_append (h : Delimited rest) (cs : List Char) :
    scanSign (cs ++ rest) = ((scanSign cs).1, (scanSign cs).2 ++ rest) := by
  cases cs with
  | nil =>
    cases rest with
    | nil => rfl
    | cons c rest =>
      have hsign : ¬ (c = '+' ∨ c = '-') := by rcases h c rfl with rfl | rfl | rfl | rfl <;> decide
      simp [scanSign, hsign]
  | cons c cs =>
    simp only [List.cons_append, scanSign]
    split <;> simp

theorem scanExponent_append (h : Delimited rest) (cs : List Char) :
    scanExponent (cs ++ rest) = ((scanExponent cs).1, (scanExponent cs).2 ++ rest) := by
  cases cs with
  | nil =>
    cases rest with
    | nil => rfl
    | cons c rest =>
      have hexponent : ¬ (c = 'e' ∨ c = 'E') := by
        rcases h c rfl with rfl | rfl | rfl | rfl <;> decide
      simp [scanExponent, hexponent]
  | cons c cs =>
    simp only [List.cons_append, scanExponent, scanSign_append h, spanDigits_append h]
    split <;> simp

theorem scanUnsigned_append (h : Delimited rest) (cs : List Char) {token after : List Char}
    (hscan : scanUnsigned cs = some (token, after)) :
    scanUnsigned (cs ++ rest) = some (token, after ++ rest) := by
  simp only [scanUnsigned, Option.map_eq_some_iff, Prod.mk.injEq] at hscan
  obtain ⟨whole, hwhole, htoken, hafter⟩ := hscan
  simp only [scanUnsigned, scanWhole_append h cs hwhole, Option.map_some, scanFraction_append h,
    scanExponent_append h, htoken, hafter]

/-- A delimiter does not change the number before it. -/
theorem scanNumber_append (h : Delimited rest) (cs : List Char) {token after : List Char}
    (hscan : scanNumber cs = some (token, after)) :
    scanNumber (cs ++ rest) = some (token, after ++ rest) := by
  cases cs with
  | nil => cases hscan
  | cons c cs =>
    by_cases hminus : c = '-'
    · simp only [scanNumber, hminus, if_true, Option.map_eq_some_iff, Prod.mk.injEq] at hscan
      obtain ⟨number, hnumber, htoken, hafter⟩ := hscan
      simp only [List.cons_append, scanNumber, hminus, if_true, scanUnsigned_append h cs hnumber,
        Option.map_some, htoken, hafter]
    · simp only [scanNumber, hminus, if_false] at hscan
      simp only [List.cons_append, scanNumber, hminus, if_false]
      exact scanUnsigned_append h (c :: cs) hscan

/-- A number token begins with a digit or a minus sign. -/
theorem head_of_scanNumber {token : List Char} (h : scanNumber token = some (token, [])) :
    ∃ c cs, token = c :: cs ∧ (c = '-' ∨ c.isDigit = true) := by
  cases token with
  | nil => cases h
  | cons c cs =>
    refine ⟨c, cs, rfl, ?_⟩
    by_contra hother
    obtain ⟨hminus, hdigit⟩ := not_or.mp hother
    have hzero : c ≠ '0' := by rintro rfl; exact hdigit (by decide)
    simp [scanNumber, hminus, scanUnsigned, scanWhole, hzero, spanDigits, hdigit] at h

end Numbers

/-! ## Strings -/

section Strings

theorem hexValue_digitChar {n : Nat} (h : n < 16) : hexValue (Nat.digitChar n) = some n := by
  have hall : ∀ n < 16, hexValue (Nat.digitChar n) = some n := by decide
  exact hall n h

theorem readUnit_escapeUnit {n : Nat} (h : n < 0x10000) (rest : List Char) :
    readUnit ((escapeUnit n).drop 2 ++ rest) = some (n, rest) := by
  simp only [escapeUnit, List.drop_succ_cons, List.drop_zero, List.cons_append, List.nil_append,
    readUnit, hexValue_digitChar (Nat.mod_lt _ (by decide : 0 < 16)), Option.some.injEq,
    Prod.mk.injEq, and_true]
  omega

theorem readUnicode_escapeUnit {c : Char} (h : c.toNat < 0x10000) (rest : List Char) :
    readUnicode ((escapeUnit c.toNat).drop 2 ++ rest) = some (c, rest) := by
  have hscalar : c.toNat < 0xd800 ∨ 0xdfff < c.toNat := by
    rcases c.valid with hlow | ⟨hhigh, -⟩
    · exact Or.inl hlow
    · exact Or.inr hhigh
  rw [readUnicode, readUnit_escapeUnit h, Option.bind_some, if_neg (by omega),
    if_neg (by omega), Char.ofNat_toNat]

/-- A surrogate pair is joined again. -/
theorem readUnicode_pair {high low : Nat} (hhigh : 0xd800 ≤ high ∧ high < 0xdc00)
    (hlow : 0xdc00 ≤ low ∧ low < 0xe000) (rest : List Char) :
    readUnicode ((escapeUnit high).drop 2 ++ (escapeUnit low ++ rest)) =
      some (Char.ofNat (0x10000 + (high - 0xd800) * 1024 + (low - 0xdc00)), rest) := by
  have hword : readWord ['\\', 'u'] (escapeUnit low ++ rest) =
    some ((escapeUnit low).drop 2 ++ rest) := rfl
  rw [readUnicode, readUnit_escapeUnit (by omega), Option.bind_some, if_pos hhigh]
  dsimp only
  rw [hword, Option.bind_some, readUnit_escapeUnit (by omega), Option.bind_some, if_pos hlow]

theorem readUnicode_surrogates {c : Char} (h : 0x10000 ≤ c.toNat) (rest : List Char) :
    readUnicode ((escapeUnit (0xd800 + (c.toNat - 0x10000) / 1024)).drop 2 ++
      (escapeUnit (0xdc00 + (c.toNat - 0x10000) % 1024) ++ rest)) = some (c, rest) := by
  have hbound : c.toNat < 0x110000 := by
    rcases c.valid with hlow | ⟨-, hhigh⟩
    · exact lt_trans hlow (by decide)
    · exact hhigh
  rw [readUnicode_pair (by omega) (by omega)]
  have hjoin : 0x10000 + (0xd800 + (c.toNat - 0x10000) / 1024 - 0xd800) * 1024 +
      (0xdc00 + (c.toNat - 0x10000) % 1024 - 0xdc00) = c.toNat := by omega
  rw [hjoin, Char.ofNat_toNat]

/-- The escape that `readString` meets after a backslash. -/
theorem readString_backslash (fuel : Nat) (c : Char) (escape : List Char) {rest : List Char}
    (h : readEscape (escape ++ rest) = some (c, rest)) :
    readString (fuel + 1) ('\\' :: (escape ++ rest)) =
      (readString fuel rest).map (fun r => (c :: r.1, r.2)) := by
  have hquote : ¬ '\\' = '"' := by decide
  simp only [readString, hquote, if_false, if_true, h, Option.bind_some]

/-- Reading one escaped character. -/
theorem readString_escapeChar (fuel : Nat) (c : Char) (rest : List Char) :
    readString (fuel + 1) (escapeChar c ++ rest) =
      (readString fuel rest).map (fun r => (c :: r.1, r.2)) := by
  unfold escapeChar
  split_ifs with hquote hbackslash hn hr ht hf hb hprintable hbasic
  · rw [hquote]
    exact readString_backslash fuel '"' ['"'] rfl
  · rw [hbackslash]
    exact readString_backslash fuel '\\' ['\\'] rfl
  · rw [hn]
    exact readString_backslash fuel '\n' ['n'] rfl
  · rw [hr]
    exact readString_backslash fuel '\r' ['r'] rfl
  · rw [ht]
    exact readString_backslash fuel '\t' ['t'] rfl
  · rw [hf]
    exact readString_backslash fuel '\x0c' ['f'] rfl
  · rw [hb]
    exact readString_backslash fuel '\x08' ['b'] rfl
  · simp only [List.cons_append, List.nil_append, readString, hquote, hbackslash, if_false]
    rw [if_neg (by omega)]
  · exact readString_backslash fuel c ('u' :: (escapeUnit c.toNat).drop 2)
      (readUnicode_escapeUnit hbasic rest)
  · rw [List.append_assoc]
    have hpair := readUnicode_surrogates (not_lt.mp hbasic) rest
    have hescape : readEscape (('u' :: ((escapeUnit (0xd800 + (c.toNat - 0x10000) / 1024)).drop 2
        ++ escapeUnit (0xdc00 + (c.toNat - 0x10000) % 1024))) ++ rest) = some (c, rest) := by
      rw [List.cons_append, List.append_assoc]
      exact hpair
    have hread := readString_backslash fuel c _ hescape
    rw [List.cons_append, List.append_assoc] at hread
    exact hread

theorem length_escapeChar (c : Char) : 1 ≤ (escapeChar c).length := by
  unfold escapeChar
  split_ifs <;> simp [escapeUnit]

theorem length_le_flatMap_escapeChar (text : List Char) :
    text.length ≤ (text.flatMap escapeChar).length := by
  induction text with
  | nil => simp
  | cons c text ih =>
    have := length_escapeChar c
    simp only [List.flatMap_cons, List.length_append, List.length_cons]
    omega

/-- A written string is read back. -/
theorem readString_write (text : List Char) {fuel : Nat} (hfuel : text.length < fuel)
    (rest : List Char) :
    readString fuel (text.flatMap escapeChar ++ '"' :: rest) = some (text, rest) := by
  induction text generalizing fuel with
  | nil =>
    obtain ⟨fuel, rfl⟩ := Nat.exists_eq_succ_of_ne_zero (by omega : fuel ≠ 0)
    simp [readString]
  | cons c text ih =>
    obtain ⟨fuel, rfl⟩ := Nat.exists_eq_succ_of_ne_zero (by omega : fuel ≠ 0)
    rw [List.length_cons] at hfuel
    rw [List.flatMap_cons, List.append_assoc, readString_escapeChar, ih (by omega)]
    rfl

end Strings

/-! ## Objects -/

/-- Members in key order close to themselves. -/
theorem closedObject_sorted {value members : List (String × Json)}
    (h : KeysSorted (value ++ members)) : closedObject value members = .ok (value ++ members) := by
  induction members generalizing value with
  | nil => simp [closedObject]
  | cons member rest ih =>
    obtain ⟨key, item⟩ := member
    have hbefore : ∀ p ∈ value, p.1 < key := fun p hp =>
      (List.pairwise_append.mp h).2.2 p hp (key, item) List.mem_cons_self
    rw [closedObject, lookupEntry_eq_none hbefore, insertSorted_append _ hbefore]
    simp only [Option.isSome_none, Bool.false_eq_true, if_false]
    rw [ih (by simpa using h), List.append_assoc, List.singleton_append]

/-! ## Values -/

theorem skipWhitespace_cons {c : Char} (h : isWhitespace c = false) (cs : List Char) :
    skipWhitespace (c :: cs) = c :: cs := by
  simp [skipWhitespace, h]

/-- The first character of a digit run or a number. -/
theorem number_head {c : Char} (h : c = '-' ∨ c.isDigit = true) :
    isWhitespace c = false ∧ c ≠ ']' ∧ c ≠ 'n' ∧ c ≠ 't' ∧ c ≠ 'f' ∧ c ≠ '"' ∧ c ≠ '[' ∧
      c ≠ '\x7b' := by
  refine ⟨?_, ?_, ?_, ?_, ?_, ?_, ?_, ?_⟩
  · cases hspace : isWhitespace c with
    | false => rfl
    | true =>
      simp only [isWhitespace, Bool.or_eq_true, decide_eq_true_eq] at hspace
      rcases hspace with ((rfl | rfl) | rfl) | rfl <;> revert h <;> decide
  all_goals
    rintro rfl
    revert h
    decide

/-- A written value begins with a character that is neither whitespace nor a bracket. -/
theorem write_head {v : Json} (h : v.wellFormed = true) :
    ∃ c cs, write v = c :: cs ∧ isWhitespace c = false ∧ c ≠ ']' := by
  cases v with
  | null => exact ⟨_, _, rfl, by decide, by decide⟩
  | bool b => cases b <;> exact ⟨_, _, rfl, by decide, by decide⟩
  | num token =>
    obtain ⟨c, cs, rfl, hc⟩ := head_of_scanNumber (of_decide_eq_true h)
    exact ⟨c, cs, rfl, (number_head hc).1, (number_head hc).2.1⟩
  | str text => exact ⟨_, _, rfl, by decide, by decide⟩
  | arr items =>
    cases items with
    | nil => exact ⟨_, _, rfl, by decide, by decide⟩
    | cons item items => exact ⟨_, _, rfl, by decide, by decide⟩
  | obj members =>
    cases members with
    | nil => exact ⟨_, _, rfl, by decide, by decide⟩
    | cons member members => exact ⟨_, _, rfl, by decide, by decide⟩

theorem length_writeItems (items : List Json) : 1 ≤ (writeItems items).length := by
  cases items <;> simp [writeItems]

theorem length_writeMembers (members : List (String × Json)) :
    1 ≤ (writeMembers members).length := by
  cases members <;> simp [writeMembers]

/-- A string value or key after its opening quote. -/
theorem readString_writeString (text : String) {fuel : Nat}
    (hfuel : (writeString text).length ≤ fuel + 1) (rest : List Char) :
    readString fuel (text.toList.flatMap escapeChar ++ ['"'] ++ rest) =
      some (text.toList, rest) := by
  have hlength := length_le_flatMap_escapeChar text.toList
  simp only [writeString, List.length_cons, List.length_append, List.length_nil] at hfuel
  rw [List.append_assoc, List.singleton_append]
  exact readString_write text.toList (by omega) rest

mutual

/-- A written value is read back, with fuel as long as its text. -/
theorem readValue_write : ∀ (v : Json) (fuel : Nat) (rest : List Char), v.wellFormed = true →
    (write v).length ≤ fuel → Delimited rest → readValue fuel (write v ++ rest) = .ok (v, rest)
  | v, 0, _, h, hfuel, _ => by
    obtain ⟨c, cs, hwrite, -⟩ := write_head h
    simp [hwrite] at hfuel
  | .null, _ + 1, _, _, _, _ => rfl
  | .bool true, _ + 1, _, _, _, _ => rfl
  | .bool false, _ + 1, _, _, _, _ => rfl
  | .num token, fuel + 1, rest, h, _, hrest => by
    have hscan := of_decide_eq_true h
    obtain ⟨c, cs, rfl, hc⟩ := head_of_scanNumber hscan
    obtain ⟨hspace, -, hn, ht, hf, hquote, hbracket, hbrace⟩ := number_head hc
    have happend := scanNumber_append hrest (c :: cs) hscan
    rw [List.cons_append, List.nil_append] at happend
    simp only [write, List.cons_append, readValue, skipWhitespace_cons hspace, hn, ht, hf, hquote,
      hbracket, hbrace, if_false, happend, orRaise, ok_bind]
  | .str text, fuel + 1, rest, _, hfuel, _ => by
    have hstring := readString_writeString text hfuel rest
    simp only [write, writeString, List.cons_append, readValue,
      skipWhitespace_cons (show isWhitespace '"' = false by decide), Char.reduceEq, if_false,
      if_true, hstring, orRaise, ok_bind, String.ofList_toList]
  | .arr [], _ + 1, _, _, _, _ => rfl
  | .arr (item :: items), fuel + 1, rest, h, hfuel, _ => by
    have hlength : (write item).length + (writeItems items).length ≤ fuel := by
      simp only [write, List.length_cons, List.length_append] at hfuel
      omega
    have hitems := readItems_write item items fuel rest h hlength
    have hitem : item.wellFormed = true := ((Bool.and_eq_true _ _).mp h).1
    obtain ⟨c, cs, hwrite, hspace, hbracket⟩ := write_head hitem
    have hskip : (skipWhitespace (write item ++ (writeItems items ++ rest))).head? ≠
        some ']' := by
      rw [hwrite, List.cons_append, skipWhitespace_cons hspace]
      simpa using hbracket
    simp only [write, List.cons_append, List.append_assoc, readValue,
      skipWhitespace_cons (show isWhitespace '[' = false by decide), Char.reduceEq, if_false,
      if_true, hskip, hitems, ok_bind]
  | .obj [], _ + 1, _, _, _, _ => rfl
  | .obj (member :: members), fuel + 1, rest, h, hfuel, _ => by
    obtain ⟨hsorted, hmembers⟩ := (Bool.and_eq_true _ _).mp h
    have hlength : (writeString member.1).length + 1 + (write member.2).length +
        (writeMembers members).length ≤ fuel := by
      simp only [write, List.length_cons, List.length_append] at hfuel
      omega
    have hread := readMembers_write member members fuel rest hmembers hlength
    have hclosed : closedObject [] (member :: members) = .ok (member :: members) :=
      closedObject_sorted (of_decide_eq_true hsorted)
    have hskip : (skipWhitespace (writeString member.1 ++ ':' :: (write member.2 ++
        (writeMembers members ++ rest)))).head? ≠ some '\x7d' := by
      rw [writeString, List.cons_append, List.cons_append,
        skipWhitespace_cons (show isWhitespace '"' = false by decide)]
      simp
    simp only [write, List.cons_append, List.append_assoc, readValue,
      skipWhitespace_cons (show isWhitespace '\x7b' = false by decide), Char.reduceEq, if_false,
      if_true, hskip, hread, hclosed, ok_bind]

theorem readItems_write : ∀ (item : Json) (items : List Json) (fuel : Nat) (rest : List Char),
    wellFormedItems (item :: items) = true →
    (write item).length + (writeItems items).length ≤ fuel →
    readItems fuel (write item ++ (writeItems items ++ rest)) = .ok (item :: items, rest)
  | item, items, 0, _, _, hfuel => by
    have := length_writeItems items
    omega
  | item, [], fuel + 1, rest, h, hfuel => by
    simp only [writeItems, List.length_cons, List.length_nil] at hfuel
    have hitem := readValue_write item fuel (']' :: rest) ((Bool.and_eq_true _ _).mp h).1
      (by omega) (delimited_cons (by decide))
    simp only [writeItems, List.cons_append, List.nil_append, readItems, hitem, ok_bind,
      skipWhitespace_cons (show isWhitespace ']' = false by decide), Char.reduceEq, if_false,
      if_true]
  | item, next :: items, fuel + 1, rest, h, hfuel => by
    obtain ⟨hwellFormed, hrest⟩ := (Bool.and_eq_true _ _).mp h
    simp only [writeItems, List.length_cons, List.length_append] at hfuel
    have hitem := readValue_write item fuel (',' :: (write next ++ (writeItems items ++ rest)))
      hwellFormed (by omega) (delimited_cons (by decide))
    have hitems := readItems_write next items fuel rest hrest (by omega)
    simp only [writeItems, List.cons_append, List.append_assoc, readItems, hitem, ok_bind,
      skipWhitespace_cons (show isWhitespace ',' = false by decide), if_true, hitems]

theorem readMembers_write : ∀ (member : String × Json) (members : List (String × Json))
    (fuel : Nat) (rest : List Char), wellFormedMembers (member :: members) = true →
    (writeString member.1).length + 1 + (write member.2).length + (writeMembers members).length ≤
      fuel →
    readMembers fuel (writeString member.1 ++ ':' :: (write member.2 ++
      (writeMembers members ++ rest))) = .ok (member :: members, rest)
  | member, members, 0, _, _, hfuel => by
    omega
  | member, [], fuel + 1, rest, h, hfuel => by
    simp only [writeMembers, List.length_cons, List.length_nil] at hfuel
    have hkey := readString_writeString member.1 (show _ ≤ fuel + 1 by omega)
      (':' :: (write member.2 ++ '\x7d' :: rest))
    have hitem := readValue_write member.2 fuel ('\x7d' :: rest) ((Bool.and_eq_true _ _).mp h).1
      (by omega) (delimited_cons (by decide))
    simp only [writeString, writeMembers, List.cons_append, List.nil_append, readMembers,
      skipWhitespace_cons (show isWhitespace '"' = false by decide),
      skipWhitespace_cons (show isWhitespace ':' = false by decide),
      skipWhitespace_cons (show isWhitespace '\x7d' = false by decide), readWord, if_true,
      orRaise, ok_bind, hkey, hitem, Char.reduceEq, if_false, String.ofList_toList]
  | member, next :: members, fuel + 1, rest, h, hfuel => by
    obtain ⟨hwellFormed, hrest⟩ := (Bool.and_eq_true _ _).mp h
    simp only [writeMembers, List.length_cons, List.length_append] at hfuel
    have hitem := readValue_write member.2 fuel (',' :: (writeString next.1 ++ ':' ::
      (write next.2 ++ (writeMembers members ++ rest)))) hwellFormed (by omega)
      (delimited_cons (by decide))
    have hkey := readString_writeString member.1 (show _ ≤ fuel + 1 by omega)
      (':' :: (write member.2 ++ ',' :: (writeString next.1 ++ ':' ::
        (write next.2 ++ (writeMembers members ++ rest)))))
    have hmembers := readMembers_write next members fuel rest hrest (by omega)
    rw [writeString, List.cons_append, List.cons_append]
    simp only [writeMembers, List.cons_append, List.append_assoc, readMembers,
      skipWhitespace_cons (show isWhitespace '"' = false by decide), readWord, if_true, orRaise,
      ok_bind] at hkey ⊢
    simp only [hkey, hitem, hmembers, ok_bind, readWord, if_true, String.ofList_toList,
      skipWhitespace_cons (show isWhitespace ':' = false by decide),
      skipWhitespace_cons (show isWhitespace ',' = false by decide)]

end

theorem wellFormedItems_iff {items : List Json} :
    wellFormedItems items = true ↔ ∀ item ∈ items, item.wellFormed = true := by
  induction items with
  | nil => simp [wellFormedItems]
  | cons item rest ih =>
    rw [wellFormedItems, Bool.and_eq_true, ih, List.forall_mem_cons]

theorem wellFormedMembers_iff {members : List (String × Json)} :
    wellFormedMembers members = true ↔ ∀ member ∈ members, member.2.wellFormed = true := by
  induction members with
  | nil => simp [wellFormedMembers]
  | cons member rest ih =>
    rw [wellFormedMembers, Bool.and_eq_true, ih, List.forall_mem_cons]

/-! ## Texts -/

/-- An object with these keys is well formed if its values are. -/
theorem wellFormed_obj {members : List (String × Json)} (keys : List String)
    (hkeys : members.map Prod.fst = keys) (hsorted : keys.Pairwise (· < ·))
    (hvalues : ∀ member ∈ members, member.2.wellFormed = true) :
    (Json.obj members).wellFormed = true := by
  rw [wellFormed, Bool.and_eq_true, decide_eq_true_eq, wellFormedMembers_iff]
  exact ⟨List.pairwise_map.mp (hkeys ▸ hsorted), hvalues⟩

/-- `json.loads` inverts `json.dumps`. -/
theorem loads_write {v : Json} (h : v.wellFormed = true) : loads (write v) = .ok v := by
  have hread := readValue_write v ((write v).length + 1) [] h (by omega) delimited_nil
  rw [List.append_nil] at hread
  simp only [loads, hread, ok_bind, skipWhitespace]

/-- So does reading them with a newline. -/
theorem loadsBytes_fileBytes {v : Json} (h : v.wellFormed = true) :
    loadsBytes (fileBytes v) = .ok v := by
  have hdecode : String.fromUTF8? (fileBytes v) = some (String.ofList (write v ++ ['\n'])) := by
    rw [fileBytes, String.fromUTF8?, dif_pos (String.ofList (write v ++ ['\n'])).isValidUTF8]
    rfl
  have hnewline : skipWhitespace ['\n'] = [] := by decide
  have hlength : (write v).length ≤ (write v ++ ['\n']).length + 1 := by
    rw [List.length_append]
    omega
  have hread := readValue_write v ((write v ++ ['\n']).length + 1) ['\n'] h hlength
    (delimited_cons (by decide))
  rw [loadsBytes, hdecode]
  refine (congrArg loads String.toList_ofList).trans ?_
  simp only [loads, hread, ok_bind, hnewline]

/-- A character takes at most four bytes. -/
theorem size_ofList_le (cs : List Char) : (String.ofList cs).toByteArray.size ≤ 4 * cs.length := by
  change (String.ofList cs).utf8ByteSize ≤ 4 * cs.length
  induction cs with
  | nil => simp
  | cons c rest ih =>
    have hc := c.utf8Size_le_four
    rw [List.length_cons, String.ofList_cons, String.utf8ByteSize_append,
      String.utf8ByteSize_singleton]
    omega

theorem size_canonicalBytes_le (v : Json) : (canonicalBytes v).size ≤ 4 * (write v).length :=
  size_ofList_le (write v)

theorem size_fileBytes_le (v : Json) : (fileBytes v).size ≤ 4 * ((write v).length + 1) := by
  have h := size_ofList_le (write v ++ ['\n'])
  rw [List.length_append] at h
  exact h

/-- Reading the canonical bytes of a value gives the value. -/
theorem loadsBytes_canonicalBytes {v : Json} (h : v.wellFormed = true) :
    loadsBytes (canonicalBytes v) = .ok v := by
  have hdecode : String.fromUTF8? (canonicalBytes v) = some (String.ofList (write v)) := by
    rw [canonicalBytes, String.fromUTF8?, dif_pos (String.ofList (write v)).isValidUTF8]
    rfl
  rw [loadsBytes, hdecode]
  exact (congrArg loads String.toList_ofList).trans (loads_write h)

end Json

end AegisOt
