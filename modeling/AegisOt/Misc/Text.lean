import Mathlib.Data.List.TakeWhile
import Mathlib.Tactic.Common

/-!
# Python text

The classes of characters and the operations of `str` that validators of text use:
`str.isspace`, which is also `\s` of a `str` pattern, `str.strip` and `str.splitlines`. A text
is the list of its code points. Nothing here names a program.
-/

namespace AegisOt

namespace Text

/-- `str.isspace` of one character. -/
def isSpace (c : Char) : Bool :=
  decide (9 ≤ c.toNat ∧ c.toNat ≤ 13) || decide (28 ≤ c.toNat ∧ c.toNat ≤ 32) ||
    decide (0x2000 ≤ c.toNat ∧ c.toNat ≤ 0x200a) ||
    decide (c.toNat ∈ [0x85, 0xa0, 0x1680, 0x2028, 0x2029, 0x202f, 0x205f, 0x3000])

/-- `str.lstrip()`. -/
def lstrip (text : List Char) : List Char := text.dropWhile isSpace

/-- `str.rstrip()`. -/
def rstrip (text : List Char) : List Char := (lstrip text.reverse).reverse

/-- `str.strip()`. -/
def strip (text : List Char) : List Char := rstrip (lstrip text)

/-- `str.lower()` of a text that is compared with ASCII words: of other letters it makes no letter
    of such a word. -/
def lower (text : List Char) : List Char := text.map Char.toLower

/-- `text.partition(separator)`: what is before the first separator, and what is behind it if
    there is one. -/
def partition (separator : Char) (text : List Char) : List Char × Option (List Char) :=
  (text.takeWhile (· ≠ separator), (text.dropWhile (· ≠ separator)).tail?)

/-- `text.split()`: the words between the spaces. -/
def words (text : List Char) : List (List Char) := (text.splitOnP isSpace).filter (· ≠ [])

/-- A character at which `str.splitlines` ends a line. -/
def isLineBreak (c : Char) : Bool :=
  c.toNat ∈ [10, 11, 12, 13, 28, 29, 30, 0x85, 0x2028, 0x2029]

/-- The lines of a text, the first of which has begun. -/
def splitLinesFrom (line : List Char) : List Char → List (List Char)
  | [] => if line = [] then [] else [line]
  | '\r' :: '\n' :: rest => line :: splitLinesFrom [] rest
  | c :: rest =>
      if isLineBreak c then line :: splitLinesFrom [] rest else splitLinesFrom (line ++ [c]) rest

/-- `text.splitlines()`. -/
def splitLines (text : List Char) : List (List Char) := splitLinesFrom [] text

/-! ## What is stripped -/

/-- A text is what stripping it on the left leaves, behind spaces. -/
theorem exists_lstrip (text : List Char) :
    ∃ before, (∀ c ∈ before, isSpace c) ∧ text = before ++ lstrip text :=
  ⟨text.takeWhile isSpace, fun _ hc => List.mem_takeWhile_imp hc,
    List.takeWhile_append_dropWhile.symm⟩

theorem exists_rstrip (text : List Char) :
    ∃ after, (∀ c ∈ after, isSpace c) ∧ text = rstrip text ++ after := by
  obtain ⟨before, hspaces, hreverse⟩ := exists_lstrip text.reverse
  refine ⟨before.reverse, fun c hc => hspaces c (List.mem_reverse.mp hc), ?_⟩
  rw [rstrip, ← List.reverse_append, ← hreverse, List.reverse_reverse]

theorem exists_strip (text : List Char) :
    ∃ before after, (∀ c ∈ before, isSpace c) ∧ (∀ c ∈ after, isSpace c) ∧
      text = before ++ strip text ++ after := by
  obtain ⟨before, hbefore, hleft⟩ := exists_lstrip text
  obtain ⟨after, hafter, hright⟩ := exists_rstrip (lstrip text)
  refine ⟨before, after, hbefore, hafter, ?_⟩
  rw [List.append_assoc, strip, ← hright, ← hleft]

theorem lstrip_append {before : List Char} (h : ∀ c ∈ before, isSpace c) (text : List Char) :
    lstrip (before ++ text) = lstrip text :=
  List.dropWhile_append_of_pos h

theorem rstrip_append {after : List Char} (h : ∀ c ∈ after, isSpace c) (text : List Char) :
    rstrip (text ++ after) = rstrip text := by
  rw [rstrip, List.reverse_append, lstrip_append fun c hc => h c (List.mem_reverse.mp hc), rstrip]

/-- Stripping on the left stops before a character that is no space. -/
theorem lstrip_append_cons {c : Char} (h : isSpace c = false) (left right : List Char) :
    lstrip (left ++ c :: right) = lstrip left ++ c :: right := by
  induction left with
  | nil => simp [lstrip, h]
  | cons first left ih =>
    rw [lstrip, lstrip, List.cons_append, List.dropWhile_cons, List.dropWhile_cons]
    by_cases hfirst : isSpace first
    · rw [if_pos hfirst, if_pos hfirst]
      exact ih
    · rw [if_neg hfirst, if_neg hfirst, List.cons_append]

theorem rstrip_append_cons {c : Char} (h : isSpace c = false) (left right : List Char) :
    rstrip (left ++ c :: right) = left ++ c :: rstrip right := by
  rw [rstrip, rstrip, List.reverse_append, List.reverse_cons, List.append_assoc,
    List.singleton_append, lstrip_append_cons h, List.reverse_append, List.reverse_cons,
    List.reverse_reverse, List.append_assoc, List.singleton_append]

theorem strip_append_cons {c : Char} (h : isSpace c = false) (left right : List Char) :
    strip (left ++ c :: right) = lstrip left ++ c :: rstrip right := by
  rw [strip, lstrip_append_cons h, rstrip_append_cons h]

theorem lstrip_of_spaces {text : List Char} (h : ∀ c ∈ text, isSpace c) : lstrip text = [] := by
  rw [← List.append_nil text, lstrip_append h]
  rfl

theorem rstrip_of_spaces {text : List Char} (h : ∀ c ∈ text, isSpace c) : rstrip text = [] := by
  rw [← List.nil_append text, rstrip_append h]
  rfl

/-- A text without spaces, with spaces around it. -/
theorem strip_surrounded {before core after : List Char} (hbefore : ∀ c ∈ before, isSpace c)
    (hcore : ∀ c ∈ core, isSpace c = false) (hafter : ∀ c ∈ after, isSpace c) :
    strip (before ++ core ++ after) = core := by
  rw [List.append_assoc, strip, lstrip_append hbefore]
  cases core with
  | nil =>
    rw [List.nil_append, lstrip_of_spaces hafter]
    rfl
  | cons first rest =>
    have hfirst := lstrip_append_cons (hcore first List.mem_cons_self) [] (rest ++ after)
    obtain ⟨middle, last, hlast⟩ : ∃ middle last, first :: rest = middle ++ [last] :=
      ⟨_, _, (List.dropLast_concat_getLast (List.cons_ne_nil first rest)).symm⟩
    have hspace : isSpace last = false := by
      refine hcore last ?_
      rw [hlast]
      exact List.mem_append_right _ (List.mem_singleton.mpr rfl)
    have hright := rstrip_append_cons hspace middle after
    rw [rstrip_of_spaces hafter, ← List.singleton_append, ← List.append_assoc, ← hlast] at hright
    exact (congrArg rstrip hfirst).trans hright

theorem lstrip_lstrip (text : List Char) : lstrip (lstrip text) = lstrip text := by
  obtain ⟨before, hbefore, htext⟩ := exists_lstrip text
  conv_rhs => rw [htext, lstrip_append hbefore]

theorem rstrip_rstrip (text : List Char) : rstrip (rstrip text) = rstrip text := by
  obtain ⟨after, hafter, htext⟩ := exists_rstrip text
  conv_rhs => rw [htext, rstrip_append hafter]

theorem strip_lstrip (text : List Char) : strip (lstrip text) = strip text := by
  rw [strip, strip, lstrip_lstrip]

theorem strip_rstrip (text : List Char) : strip (rstrip text) = strip text := by
  by_cases hspaces : ∀ c ∈ text, isSpace c
  · rw [rstrip_of_spaces hspaces, strip, strip, lstrip_of_spaces hspaces]
    rfl
  · push Not at hspaces
    obtain ⟨c, hc, hspace⟩ := hspaces
    obtain ⟨left, right, rfl⟩ := List.append_of_mem hc
    have hspace : isSpace c = false := by simpa using hspace
    rw [rstrip_append_cons hspace, strip_append_cons hspace, strip_append_cons hspace,
      rstrip_rstrip]

theorem strip_append_left {before : List Char} (h : ∀ c ∈ before, isSpace c) (text : List Char) :
    strip (before ++ text) = strip text := by
  rw [strip, lstrip_append h, strip]

theorem strip_append_right {after : List Char} (h : ∀ c ∈ after, isSpace c) (text : List Char) :
    strip (text ++ after) = strip text := by
  rw [← strip_rstrip, rstrip_append h, strip_rstrip]

theorem mem_strip {c : Char} (h : isSpace c = false) {text : List Char} :
    c ∈ strip text ↔ c ∈ text := by
  obtain ⟨before, after, hbefore, hafter, htext⟩ := exists_strip text
  constructor
  · intro hc
    rw [htext]
    exact List.mem_append_left _ (List.mem_append_right _ hc)
  · intro hc
    rw [htext] at hc
    rcases List.mem_append.mp hc with hc | hc
    · rcases List.mem_append.mp hc with hc | hc
      · exact absurd (hbefore c hc) (by simp [h])
      · exact hc
    · exact absurd (hafter c hc) (by simp [h])

/-! ## Lower case and parts -/

theorem toLower_of_isSpace {c : Char} (h : isSpace c) : c.toLower = c := by
  refine dif_neg ?_
  rintro ⟨hleft, hright⟩
  have hle : 65 ≤ c.toNat := hleft
  have hge : c.toNat ≤ 90 := hright
  simp only [isSpace, Bool.or_eq_true, decide_eq_true_eq, List.mem_cons,
    List.not_mem_nil, or_false] at h
  omega

/-- A character that is its own lower case stands in the word that is spelled. -/
theorem mem_lower {c : Char} (hlower : c.toLower = c) {text : List Char} (h : c ∈ text) :
    c ∈ lower text := by
  have := List.mem_map_of_mem (f := Char.toLower) h
  rwa [hlower] at this

/-- A text is parted at the first separator. -/
theorem partition_append_cons {separator : Char} {left : List Char} (h : separator ∉ left)
    (right : List Char) :
    partition separator (left ++ separator :: right) = (left, some right) := by
  have hleft : ∀ c ∈ left, decide (c ≠ separator) = true := by
    intro c hc
    exact decide_eq_true fun heq => h (heq ▸ hc)
  unfold partition
  rw [List.takeWhile_append_of_pos hleft, List.dropWhile_append_of_pos hleft]
  simp

theorem of_partition_eq_some {separator : Char} {text right : List Char}
    (h : (partition separator text).2 = some right) :
    text = (partition separator text).1 ++ separator :: right := by
  have hsplit : (partition separator text).1 ++ text.dropWhile (· ≠ separator) = text :=
    List.takeWhile_append_dropWhile
  have hright : (text.dropWhile (· ≠ separator)).tail? = some right := h
  cases hdrop : text.dropWhile (· ≠ separator) with
  | nil =>
    rw [hdrop] at hright
    cases hright
  | cons first rest =>
    have hfirst := List.head?_dropWhile_not (· ≠ separator) text
    rw [hdrop] at hfirst hright hsplit
    have hseparator : first = separator := by simpa using hfirst
    rw [hseparator, show rest = right from Option.some.inj hright] at hsplit
    exact hsplit.symm

/-! ## Words -/

/-- The words are read on either side of a space. -/
theorem words_append_cons {c : Char} (h : isSpace c) (left right : List Char) :
    words (left ++ c :: right) = words left ++ words right := by
  rw [words, List.splitOnP_append_cons left right h, List.filter_append, words, words]

@[simp] theorem words_nil : words [] = [] := by
  simp [words]

theorem words_cons {c : Char} (h : isSpace c) (text : List Char) :
    words (c :: text) = words text :=
  words_append_cons h [] text

theorem words_of_spaces {text : List Char} (h : ∀ c ∈ text, isSpace c) : words text = [] := by
  induction text with
  | nil => exact words_nil
  | cons c text ih =>
    rw [words_cons (h c List.mem_cons_self)]
    exact ih fun other hother => h other (List.mem_cons_of_mem _ hother)

theorem words_of_no_space {word : List Char} (hword : word ≠ [])
    (h : ∀ c ∈ word, isSpace c = false) : words word = [word] := by
  rw [words, List.splitOnP_eq_singleton h]
  simp [hword]

theorem words_append_left {before : List Char} (h : ∀ c ∈ before, isSpace c) (text : List Char) :
    words (before ++ text) = words text := by
  induction before with
  | nil => rfl
  | cons c before ih =>
    rw [List.cons_append, words_cons (h c List.mem_cons_self)]
    exact ih fun other hother => h other (List.mem_cons_of_mem _ hother)

theorem words_append_right {after : List Char} (h : ∀ c ∈ after, isSpace c) (text : List Char) :
    words (text ++ after) = words text := by
  cases after with
  | nil => rw [List.append_nil]
  | cons c after =>
    rw [words_append_cons (h c List.mem_cons_self),
      words_of_spaces fun other hother => h other (List.mem_cons_of_mem _ hother), List.append_nil]

theorem words_lstrip (text : List Char) : words (lstrip text) = words text := by
  obtain ⟨before, hbefore, htext⟩ := exists_lstrip text
  conv_rhs => rw [htext, words_append_left hbefore]

theorem words_rstrip (text : List Char) : words (rstrip text) = words text := by
  obtain ⟨after, hafter, htext⟩ := exists_rstrip text
  conv_rhs => rw [htext, words_append_right hafter]

/-- A word that ends at a space, or with the text, is the first of its words. -/
theorem words_append_of_head? {word after : List Char} (hword : word ≠ [])
    (hspace : ∀ c ∈ word, isSpace c = false) (hafter : ∀ c ∈ after.head?, isSpace c) :
    words (word ++ after) = word :: words after := by
  cases after with
  | nil => rw [List.append_nil, words_of_no_space hword hspace, words_nil]
  | cons c after =>
    have hc : isSpace c := hafter c rfl
    rw [words_append_cons hc, words_of_no_space hword hspace, words_cons hc, List.singleton_append]

/-- Behind spaces a text begins with its first word, and at a space behind it come the others. -/
theorem exists_of_words_eq_cons {text word : List Char} {others : List (List Char)}
    (h : words text = word :: others) :
    ∃ after, lstrip text = word ++ after ∧ (∀ c ∈ word, isSpace c = false) ∧
      (∀ c ∈ after.head?, isSpace c) ∧ words after = others := by
  have hsplit := List.takeWhile_append_dropWhile (p := fun c => !isSpace c) (l := lstrip text)
  set first := (lstrip text).takeWhile fun c => !isSpace c
  set after := (lstrip text).dropWhile fun c => !isSpace c with hdropWhile
  have hfirst : ∀ c ∈ first, isSpace c = false := by
    intro c hc
    simpa using List.mem_takeWhile_imp hc
  have hafter : ∀ c ∈ after.head?, isSpace c := by
    intro c hc
    have hnot := List.head?_dropWhile_not (fun c => !isSpace c) (lstrip text)
    rw [← hdropWhile, show after.head? = some c from hc] at hnot
    simpa using hnot
  rw [← words_lstrip] at h
  have hnonempty : first ≠ [] := by
    intro hnil
    rw [hnil, List.nil_append] at hsplit
    cases hcases : after with
    | nil =>
      rw [← hsplit, hcases, words_nil] at h
      cases h
    | cons c rest =>
      have hstop := List.head?_dropWhile_not isSpace text
      rw [← lstrip, ← hsplit, hcases] at hstop
      have hspace := hafter c (by rw [hcases]; rfl)
      rw [show isSpace c = false from hstop] at hspace
      cases hspace
  rw [← hsplit, words_append_of_head? hnonempty hfirst hafter] at h
  obtain ⟨rfl, hothers⟩ := List.cons.inj h
  exact ⟨after, hsplit.symm, hfirst, hafter, hothers⟩

end Text

end AegisOt
