import AegisOt.Misc.JsonRoundTrip

/-!
# Indented JSON texts

`json.dumps` with `indent=2`, `sort_keys=True` and `ensure_ascii=True`: every item and member
stands on a line of its own. The reader skips whitespace before a token, so it inverts this writer
as it inverts the compact one (`loadsBytes_indentedFileBytes`).
-/

namespace AegisOt

namespace Json

/-! ## Writer -/

/-- A line break and the indentation of a depth. -/
def newline (depth : Nat) : List Char := '\n' :: List.replicate (2 * depth) ' '

mutual

/-- The text of one value that begins at a depth. -/
def writeIndented (depth : Nat) : Json → List Char
  | .null => write .null
  | .bool value => write (.bool value)
  | .num token => write (.num token)
  | .str text => write (.str text)
  | .arr [] => ['[', ']']
  | .arr (item :: rest) =>
      '[' :: (newline (depth + 1) ++
        (writeIndented (depth + 1) item ++ writeIndentedItems depth rest))
  | .obj [] => ['\x7b', '\x7d']
  | .obj (member :: rest) =>
      '\x7b' :: (newline (depth + 1) ++ (writeString member.1 ++ ':' :: ' ' ::
        (writeIndented (depth + 1) member.2 ++ writeIndentedMembers depth rest)))

/-- The items after the first one, with the closing bracket on a line of its own. -/
def writeIndentedItems (depth : Nat) : List Json → List Char
  | [] => newline depth ++ [']']
  | item :: rest =>
      ',' :: (newline (depth + 1) ++
        (writeIndented (depth + 1) item ++ writeIndentedItems depth rest))

/-- The members after the first one, with the closing brace on a line of its own. -/
def writeIndentedMembers (depth : Nat) : List (String × Json) → List Char
  | [] => newline depth ++ ['\x7d']
  | member :: rest =>
      ',' :: (newline (depth + 1) ++ (writeString member.1 ++ ':' :: ' ' ::
        (writeIndented (depth + 1) member.2 ++ writeIndentedMembers depth rest)))

end

/-- `json.dumps(value, indent=2, ...).encode("utf-8") + b"\n"`. -/
def indentedFileBytes (value : Json) : ByteArray :=
  (String.ofList (writeIndented 0 value ++ ['\n'])).toByteArray

/-! ## Skipping whitespace -/

theorem skipWhitespace_newline (depth : Nat) (cs : List Char) :
    skipWhitespace (newline depth ++ cs) = skipWhitespace cs := by
  have hspaces (count : Nat) : skipWhitespace (List.replicate count ' ' ++ cs) =
      skipWhitespace cs := by
    induction count with
    | zero => rfl
    | succ count ih =>
      rw [List.replicate_succ, List.cons_append, skipWhitespace, if_pos (by decide), ih]
  rw [newline, List.cons_append, skipWhitespace, if_pos (by decide)]
  exact hspaces _

/-- A reader of a value does not see the whitespace before it. -/
theorem readValue_of_skip {cs cs' : List Char} (h : skipWhitespace cs = skipWhitespace cs')
    (fuel : Nat) : readValue fuel cs = readValue fuel cs' := by
  cases fuel with
  | zero => rfl
  | succ fuel => rw [readValue, readValue, h]

theorem readValue_space (fuel : Nat) (cs : List Char) :
    readValue fuel (' ' :: cs) = readValue fuel cs :=
  readValue_of_skip (show skipWhitespace (' ' :: cs) = skipWhitespace cs from rfl) fuel

theorem readItems_newline (fuel depth : Nat) (cs : List Char) :
    readItems fuel (newline depth ++ cs) = readItems fuel cs := by
  cases fuel with
  | zero => rfl
  | succ fuel => rw [readItems, readItems, readValue_of_skip (skipWhitespace_newline depth cs)]

theorem readMembers_newline (fuel depth : Nat) (cs : List Char) :
    readMembers fuel (newline depth ++ cs) = readMembers fuel cs := by
  cases fuel with
  | zero => rfl
  | succ fuel => rw [readMembers, readMembers, skipWhitespace_newline]

theorem delimited_newline (depth : Nat) (cs : List Char) : Delimited (newline depth ++ cs) :=
  delimited_cons (by decide)

/-! ## Reading back -/

/-- An indented value begins with a character that is neither whitespace nor a bracket. -/
theorem writeIndented_head {v : Json} (h : v.wellFormed = true) (depth : Nat) :
    ∃ c cs, writeIndented depth v = c :: cs ∧ isWhitespace c = false ∧ c ≠ ']' := by
  cases v with
  | null | bool | num | str =>
    rw [writeIndented]
    exact write_head h
  | arr items =>
    cases items with
    | nil => exact ⟨_, _, rfl, by decide, by decide⟩
    | cons item items => exact ⟨_, _, rfl, by decide, by decide⟩
  | obj members =>
    cases members with
    | nil => exact ⟨_, _, rfl, by decide, by decide⟩
    | cons member members => exact ⟨_, _, rfl, by decide, by decide⟩

theorem length_writeIndentedItems (depth : Nat) (items : List Json) :
    1 ≤ (writeIndentedItems depth items).length := by
  cases items <;> simp [writeIndentedItems]

mutual

/-- An indented value is read back, with fuel as long as its text. -/
theorem readValue_writeIndented : ∀ (v : Json) (depth fuel : Nat) (rest : List Char),
    v.wellFormed = true → (writeIndented depth v).length ≤ fuel → Delimited rest →
    readValue fuel (writeIndented depth v ++ rest) = .ok (v, rest)
  | v, depth, 0, _, h, hfuel, _ => by
    obtain ⟨c, cs, hwrite, -⟩ := writeIndented_head h depth
    simp [hwrite] at hfuel
  | .null, _, fuel + 1, rest, h, hfuel, hrest => by
    rw [writeIndented] at hfuel ⊢
    exact readValue_write .null _ rest h hfuel hrest
  | .bool value, _, fuel + 1, rest, h, hfuel, hrest => by
    rw [writeIndented] at hfuel ⊢
    exact readValue_write (.bool value) _ rest h hfuel hrest
  | .num token, _, fuel + 1, rest, h, hfuel, hrest => by
    rw [writeIndented] at hfuel ⊢
    exact readValue_write (.num token) _ rest h hfuel hrest
  | .str text, _, fuel + 1, rest, h, hfuel, hrest => by
    rw [writeIndented] at hfuel ⊢
    exact readValue_write (.str text) _ rest h hfuel hrest
  | .arr [], _, _ + 1, _, _, _, _ => rfl
  | .arr (item :: items), depth, fuel + 1, rest, h, hfuel, _ => by
    have hlength : (writeIndented (depth + 1) item).length +
        (writeIndentedItems depth items).length ≤ fuel := by
      simp only [writeIndented, List.length_cons, List.length_append] at hfuel
      omega
    have hitems := readItems_writeIndented item items depth fuel rest h hlength
    have hitem : item.wellFormed = true := ((Bool.and_eq_true _ _).mp h).1
    obtain ⟨c, cs, hwrite, hspace, hbracket⟩ := writeIndented_head hitem (depth + 1)
    have hskip : (skipWhitespace (writeIndented (depth + 1) item ++
        (writeIndentedItems depth items ++ rest))).head? ≠ some ']' := by
      rw [hwrite, List.cons_append, skipWhitespace_cons hspace]
      simpa using hbracket
    simp only [writeIndented, List.cons_append, List.append_assoc, readValue,
      skipWhitespace_cons (show isWhitespace '[' = false by decide), Char.reduceEq, if_false,
      if_true, skipWhitespace_newline, readItems_newline, hskip, hitems, ok_bind]
  | .obj [], _, _ + 1, _, _, _, _ => rfl
  | .obj (member :: members), depth, fuel + 1, rest, h, hfuel, _ => by
    obtain ⟨hsorted, hmembers⟩ := (Bool.and_eq_true _ _).mp h
    have hlength : (writeString member.1).length + 2 +
        (writeIndented (depth + 1) member.2).length +
        (writeIndentedMembers depth members).length ≤ fuel := by
      simp only [writeIndented, List.length_cons, List.length_append] at hfuel
      omega
    have hread := readMembers_writeIndented member members depth fuel rest hmembers hlength
    have hclosed : closedObject [] (member :: members) = .ok (member :: members) :=
      closedObject_sorted (of_decide_eq_true hsorted)
    have hskip : (skipWhitespace (writeString member.1 ++ ':' :: ' ' ::
        (writeIndented (depth + 1) member.2 ++
          (writeIndentedMembers depth members ++ rest)))).head? ≠ some '\x7d' := by
      rw [writeString, List.cons_append, List.cons_append,
        skipWhitespace_cons (show isWhitespace '"' = false by decide)]
      simp
    simp only [writeIndented, List.cons_append, List.append_assoc, readValue,
      skipWhitespace_cons (show isWhitespace '\x7b' = false by decide), Char.reduceEq, if_false,
      if_true, skipWhitespace_newline, readMembers_newline, hskip, hread, hclosed, ok_bind]

theorem readItems_writeIndented : ∀ (item : Json) (items : List Json) (depth fuel : Nat)
    (rest : List Char), wellFormedItems (item :: items) = true →
    (writeIndented (depth + 1) item).length + (writeIndentedItems depth items).length ≤ fuel →
    readItems fuel (writeIndented (depth + 1) item ++
      (writeIndentedItems depth items ++ rest)) = .ok (item :: items, rest)
  | item, items, depth, 0, _, _, hfuel => by
    have := length_writeIndentedItems depth items
    omega
  | item, [], depth, fuel + 1, rest, h, hfuel => by
    simp only [writeIndentedItems, List.length_append, List.length_cons, List.length_nil] at hfuel
    have hitem := readValue_writeIndented item (depth + 1) fuel (newline depth ++ ']' :: rest)
      ((Bool.and_eq_true _ _).mp h).1 (by omega) (delimited_newline _ _)
    simp only [writeIndentedItems, List.cons_append, List.nil_append, List.append_assoc, readItems,
      hitem, ok_bind, skipWhitespace_newline,
      skipWhitespace_cons (show isWhitespace ']' = false by decide), Char.reduceEq, if_false,
      if_true]
  | item, next :: items, depth, fuel + 1, rest, h, hfuel => by
    obtain ⟨hwellFormed, hrest⟩ := (Bool.and_eq_true _ _).mp h
    simp only [writeIndentedItems, List.length_cons, List.length_append] at hfuel
    have hitem := readValue_writeIndented item (depth + 1) fuel (',' :: (newline (depth + 1) ++
      (writeIndented (depth + 1) next ++ (writeIndentedItems depth items ++ rest)))) hwellFormed
      (by omega) (delimited_cons (by decide))
    have hitems := readItems_writeIndented next items depth fuel rest hrest (by omega)
    simp only [writeIndentedItems, List.cons_append, List.append_assoc, readItems, hitem, ok_bind,
      skipWhitespace_cons (show isWhitespace ',' = false by decide), if_true, readItems_newline,
      hitems]

theorem readMembers_writeIndented : ∀ (member : String × Json) (members : List (String × Json))
    (depth fuel : Nat) (rest : List Char), wellFormedMembers (member :: members) = true →
    (writeString member.1).length + 2 + (writeIndented (depth + 1) member.2).length +
      (writeIndentedMembers depth members).length ≤ fuel →
    readMembers fuel (writeString member.1 ++ ':' :: ' ' ::
      (writeIndented (depth + 1) member.2 ++ (writeIndentedMembers depth members ++ rest))) =
        .ok (member :: members, rest)
  | member, members, depth, 0, _, _, hfuel => by
    omega
  | member, [], depth, fuel + 1, rest, h, hfuel => by
    simp only [writeIndentedMembers, List.length_append, List.length_cons,
      List.length_nil] at hfuel
    have hkey := readString_writeString member.1 (show _ ≤ fuel + 1 by omega)
      (':' :: ' ' :: (writeIndented (depth + 1) member.2 ++ (newline depth ++ '\x7d' :: rest)))
    have hitem := readValue_writeIndented member.2 (depth + 1) fuel
      (newline depth ++ '\x7d' :: rest) ((Bool.and_eq_true _ _).mp h).1 (by omega)
      (delimited_newline _ _)
    simp only [writeString, writeIndentedMembers, List.cons_append, List.nil_append,
      List.append_assoc, readMembers,
      skipWhitespace_cons (show isWhitespace '"' = false by decide), readWord, if_true,
      orRaise, ok_bind] at hkey ⊢
    simp only [hkey, readValue_space, hitem, ok_bind, readWord, if_true, String.ofList_toList,
      skipWhitespace_cons (show isWhitespace ':' = false by decide), skipWhitespace_newline,
      skipWhitespace_cons (show isWhitespace '\x7d' = false by decide), Char.reduceEq, if_false]
  | member, next :: members, depth, fuel + 1, rest, h, hfuel => by
    obtain ⟨hwellFormed, hrest⟩ := (Bool.and_eq_true _ _).mp h
    simp only [writeIndentedMembers, List.length_cons, List.length_append] at hfuel
    have hitem := readValue_writeIndented member.2 (depth + 1) fuel (',' :: (newline (depth + 1) ++
      (writeString next.1 ++ ':' :: ' ' :: (writeIndented (depth + 1) next.2 ++
        (writeIndentedMembers depth members ++ rest))))) hwellFormed (by omega)
      (delimited_cons (by decide))
    have hkey := readString_writeString member.1 (show _ ≤ fuel + 1 by omega)
      (':' :: ' ' :: (writeIndented (depth + 1) member.2 ++ ',' :: (newline (depth + 1) ++
        (writeString next.1 ++ ':' :: ' ' :: (writeIndented (depth + 1) next.2 ++
          (writeIndentedMembers depth members ++ rest))))))
    have hmembers := readMembers_writeIndented next members depth fuel rest hrest (by omega)
    rw [writeString, List.cons_append, List.cons_append]
    simp only [writeIndentedMembers, List.cons_append, List.append_assoc, readMembers,
      skipWhitespace_cons (show isWhitespace '"' = false by decide), readWord, if_true, orRaise,
      ok_bind] at hkey ⊢
    simp only [hkey, readValue_space, hitem, hmembers, ok_bind, readWord, if_true,
      String.ofList_toList, readMembers_newline,
      skipWhitespace_cons (show isWhitespace ':' = false by decide),
      skipWhitespace_cons (show isWhitespace ',' = false by decide)]

end

/-- Reading an indented file gives the value. -/
theorem loadsBytes_indentedFileBytes {v : Json} (h : v.wellFormed = true) :
    loadsBytes (indentedFileBytes v) = .ok v := by
  have hdecode : String.fromUTF8? (indentedFileBytes v) =
      some (String.ofList (writeIndented 0 v ++ ['\n'])) := by
    rw [indentedFileBytes, String.fromUTF8?,
      dif_pos (String.ofList (writeIndented 0 v ++ ['\n'])).isValidUTF8]
    rfl
  have hnewline : skipWhitespace ['\n'] = [] := by decide
  have hread := readValue_writeIndented v 0 ((writeIndented 0 v ++ ['\n']).length + 1) ['\n'] h
    (by rw [List.length_append]; omega) (delimited_cons (by decide))
  rw [loadsBytes, hdecode]
  refine (congrArg loads String.toList_ofList).trans ?_
  simp only [loads, hread, ok_bind, hnewline]

/-- An indented file is not empty. -/
theorem size_indentedFileBytes_pos (v : Json) : 0 < (indentedFileBytes v).size := by
  have hsize : (indentedFileBytes v).size =
      (String.ofList (writeIndented 0 v) ++ String.ofList ['\n']).utf8ByteSize := by
    rw [indentedFileBytes, ← String.ofList_append]
    rfl
  rw [hsize, String.utf8ByteSize_append]
  have hnewline : (String.ofList ['\n']).utf8ByteSize = 1 := by decide
  omega

end Json

end AegisOt
