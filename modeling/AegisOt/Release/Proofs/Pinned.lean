import AegisOt.Misc.Dockerfile
import AegisOt.Release.OciDeclarations

/-!
# Pinned Dockerfiles

The checker looks at one line at a time and passes over a line that neither pattern matches; a
builder reads instructions. On a line without a `#` that is an instruction by itself the two
agree about `FROM`, and about an `ARG` that the pattern matches. What the builder reads
elsewhere the checker has not seen.
-/

namespace AegisOt

/-- Every `FROM` names a pinned image, or a variable to which every `ARG` of the file assigns
    pinned images only. -/
def ImagesPinned (text : List Char) : Prop :=
  ∀ instruction ∈ Dockerfile.instructions text, ∀ image,
    Dockerfile.image instruction = some image →
      isPinned image ∨ ∃ name, variableName image = some name ∧
        ∀ other ∈ Dockerfile.instructions text, ∀ assigned ∈ Dockerfile.assignments other,
          assigned.1 = name → isPinned assigned.2

/-- An instruction that is a line by itself, without a `#`. -/
def OnOneLine (text instruction : List Char) : Prop :=
  instruction ∈ Text.splitLines text ∧ '#' ∉ instruction

/-- Some `FROM` names the variable. -/
def NamedByFrom (text name : List Char) : Prop :=
  ∃ instruction ∈ Dockerfile.instructions text, ∃ image,
    Dockerfile.image instruction = some image ∧ variableName image = some name

/-- What the checker passes over: a `FROM` on several lines or with a `#` names a pinned image or
    a variable, and an `ARG` on several lines, or with a `#`, or of another form than the pattern
    has, assigns pinned images to the variables that a `FROM` names. -/
structure PassedOverPinned (text : List Char) : Prop where
  images : ∀ instruction ∈ Dockerfile.instructions text, ¬ OnOneLine text instruction →
    ∀ image, Dockerfile.image instruction = some image →
      isPinned image ∨ ∃ name, variableName image = some name
  assignments : ∀ instruction ∈ Dockerfile.instructions text,
    ¬ (OnOneLine text instruction ∧ (imageArgument instruction).isSome) →
      ∀ assigned ∈ Dockerfile.assignments instruction, NamedByFrom text assigned.1 →
        isPinned assigned.2

/-! ## Keywords -/

theorem patternLetter_of_toLower {c : Char} (h : c.toLower.toNat < 128) :
    patternLetter c = c.toLower := by
  have hself (hc : 128 ≤ c.toNat) : c.toLower = c := by
    refine dif_neg ?_
    rintro ⟨-, hle⟩
    have : c.toNat ≤ 90 := hle
    omega
  unfold patternLetter
  have hsmall : c.toNat < 128 := by
    by_contra hlarge
    rw [hself (by omega)] at h
    exact hlarge h
  rw [if_neg (by omega), if_neg (by omega), if_neg (by omega)]

/-- A word of ASCII letters that has the keyword's letters in lower case is the keyword. -/
theorem map_patternLetter {word keyword : List Char}
    (hkeyword : keyword.all fun c => decide (c.toNat < 128)) (h : Text.lower word = keyword) :
    word.map patternLetter = keyword := by
  rw [← h, Text.lower]
  refine List.map_congr_left fun c hc => patternLetter_of_toLower ?_
  have hmem : c.toLower ∈ keyword := by
    rw [← h]
    exact List.mem_map_of_mem hc
  exact of_decide_eq_true (List.all_eq_true.mp hkeyword _ hmem)

theorem toLower_of_patternLetter {c : Char} (h : patternLetter c ∈ "argfrom".toList) :
    c.toLower = patternLetter c := by
  unfold patternLetter at h ⊢
  split_ifs at h ⊢ with h₁ h₂ h₃
  · exact absurd h (by decide)
  · exact absurd h (by decide)
  · exact absurd h (by decide)
  · rfl

theorem afterKeyword_eq_some {keyword line rest : List Char} :
    afterKeyword keyword line = some rest ↔
      ∃ word, Text.lstrip line = word ++ rest ∧ word.map patternLetter = keyword := by
  unfold afterKeyword
  constructor
  · intro h
    split at h
    · next hkeyword =>
      refine ⟨(Text.lstrip line).take keyword.length, ?_, hkeyword⟩
      rw [← Option.some.inj h, List.take_append_drop]
    · cases h
  · rintro ⟨word, hline, rfl⟩
    rw [hline, List.length_map, List.take_left, List.drop_left, if_pos rfl]

/-- Letters and digits stand between the spaces below them and those above. -/
theorem toNat_of_isAlphanum {c : Char} (h : c.isAlphanum) : 48 ≤ c.toNat ∧ c.toNat ≤ 122 := by
  rcases Bool.or_eq_true_iff.mp h with halpha | hdigit
  · rcases Bool.or_eq_true_iff.mp halpha with hupper | hlower
    · obtain ⟨hleft, hright⟩ := of_decide_eq_true hupper
      have hle : 65 ≤ c.toNat := hleft
      have hge : c.toNat ≤ 90 := hright
      omega
    · obtain ⟨hleft, hright⟩ := Bool.and_eq_true_iff.mp hlower
      have hle : 97 ≤ c.toNat := of_decide_eq_true hleft
      have hge : c.toNat ≤ 122 := of_decide_eq_true hright
      omega
  · obtain ⟨hleft, hright⟩ := Bool.and_eq_true_iff.mp hdigit
    have hle : 48 ≤ c.toNat := of_decide_eq_true hleft
    have hge : c.toNat ≤ 57 := of_decide_eq_true hright
    omega

theorem isSpace_of_isNamePart {c : Char} (h : isNamePart c) : Text.isSpace c = false := by
  by_contra hspace
  rw [Bool.not_eq_false] at hspace
  have hlower := Text.toLower_of_isSpace hspace
  simp only [Text.isSpace, Bool.or_eq_true, decide_eq_true_eq, List.mem_cons,
    List.not_mem_nil, or_false] at hspace
  have hbound : c.toNat ≤ 32 ∨ 133 ≤ c.toNat := by omega
  have hletter : patternLetter c = c := by
    unfold patternLetter
    rw [if_neg (by omega), if_neg (by omega), if_neg (by omega), hlower]
  have hpart : c.isAlphanum ∨ c = '_' := by
    rw [isNamePart, isNameStart, hletter] at h
    simp only [Bool.or_eq_true, beq_iff_eq] at h
    rcases h with (halpha | hunderscore) | hdigit
    · exact .inl (Bool.or_eq_true_iff.mpr (.inl halpha))
    · exact .inr hunderscore
    · exact .inl (Bool.or_eq_true_iff.mpr (.inr hdigit))
  rcases hpart with halphanum | rfl
  · have := toNat_of_isAlphanum halphanum
    omega
  · exact absurd hbound (by decide)

theorem isNamePart_of_isImageName {name : List Char} (h : isImageName name) :
    ∀ c ∈ name, isNamePart c := by
  unfold isImageName at h
  cases name with
  | nil => cases h
  | cons first rest =>
    simp only [Bool.and_eq_true, List.all_eq_true] at h
    refine List.forall_mem_cons.mpr ⟨?_, h.1.1.2⟩
    rw [isNamePart, h.1.1.1, Bool.true_or]

/-! ## Lines -/

/-- What is found behind a `FROM` without a `#` has the words that stand there. -/
theorem exists_fromGroup {line word after : List Char} (hline : Text.lstrip line = word ++ after)
    (hword : word.map patternLetter = "from".toList) (hspace : ∀ c ∈ after.head?, Text.isSpace c)
    (hhash : '#' ∉ after) (hnonempty : Text.words after ≠ []) :
    ∃ group, fromGroup line = some group ∧ Text.words group = Text.words after := by
  have hfrom : afterKeyword "from".toList line = some after :=
    afterKeyword_eq_some.mpr ⟨word, hline, hword⟩
  cases hstrip : Text.lstrip after with
  | nil =>
    rw [← Text.words_lstrip, hstrip] at hnonempty
    exact absurd Text.words_nil hnonempty
  | cons first others =>
    have hfirst : Text.isSpace first = false := by
      have hstop := List.head?_dropWhile_not Text.isSpace after
      rwa [← Text.lstrip, hstrip] at hstop
    have hothers : others.takeWhile (fun c => !decide (c = '#')) = others := by
      refine List.takeWhile_eq_self_iff.mpr fun c hc => ?_
      have hmem : c ∈ Text.lstrip after := by
        rw [hstrip]
        exact List.mem_cons_of_mem _ hc
      have hne : c ≠ '#' := fun heq => hhash (heq ▸ (List.dropWhile_suffix _).subset hmem)
      simpa using hne
    refine ⟨first :: Text.rstrip others, ?_, ?_⟩
    · cases after with
      | nil => cases hstrip
      | cons space rest =>
        have hisSpace : Text.isSpace space := hspace space rfl
        rw [fromGroup, hfrom]
        simp [hisSpace, hstrip, hothers]
    · have hgroup := Text.rstrip_append_cons hfirst [] others
      rw [List.nil_append, List.nil_append] at hgroup
      rw [← hgroup, Text.words_rstrip, ← hstrip, Text.words_lstrip]

/-- A line that begins with `FROM` is no `ARG`. -/
theorem imageArgument_of_from {line word after : List Char}
    (hline : Text.lstrip line = word ++ after) (hword : word.map patternLetter = "from".toList) :
    imageArgument line = none := by
  have hnone : afterKeyword "arg".toList line = none := by
    rw [Option.eq_none_iff_forall_ne_some]
    intro rest hrest
    obtain ⟨other, hother, harg⟩ := afterKeyword_eq_some.mp hrest
    have hstart : ((Text.lstrip line).map patternLetter).take 3 = "arg".toList := by
      rw [hother, List.map_append, harg]
      rfl
    rw [hline, List.map_append, hword] at hstart
    cases hstart
  rw [imageArgument, hnone]
  rfl

/-- A `FROM` on one line is found, and so is its image. -/
theorem fromGroup_of_image {line image : List Char} (hhash : '#' ∉ line)
    (h : Dockerfile.image line = some image) :
    imageArgument line = none ∧ ∃ group, fromGroup line = some group ∧
      ((Text.words group).dropWhile "--".toList.isPrefixOf).head? = some image := by
  obtain ⟨arguments, harguments, himage⟩ := Dockerfile.image_eq_some.mp h
  obtain ⟨word, hwords, hlower⟩ := Dockerfile.arguments_eq_some.mp harguments
  obtain ⟨after, hline, -, hspace, rfl⟩ := Text.exists_of_words_eq_cons hwords
  have hword : word.map patternLetter = "from".toList := map_patternLetter (by decide) hlower
  refine ⟨imageArgument_of_from hline hword, ?_⟩
  have hafter : '#' ∉ after := by
    intro hmem
    have hmem : '#' ∈ Text.lstrip line := by
      rw [hline]
      exact List.mem_append_right _ hmem
    exact hhash ((List.dropWhile_suffix _).subset hmem)
  have hnonempty : Text.words after ≠ [] := by
    intro hnil
    rw [hnil] at himage
    cases himage
  obtain ⟨group, hgroup, hwords⟩ := exists_fromGroup hline hword hspace hafter hnonempty
  exact ⟨group, hgroup, hwords ▸ himage⟩

/-- The line in which the pattern of `ARG` finds its groups. -/
structure ArgumentLine (line name reference word after behind : List Char) : Prop where
  line_eq : Text.lstrip line = word ++ after
  word_eq : word.map patternLetter = "arg".toList
  after_space : ∀ c ∈ after.head?, Text.isSpace c
  after_eq : Text.lstrip after = name ++ '=' :: (reference ++ behind)
  name_eq : isImageName name
  name_notMem : '=' ∉ name
  reference_ne : reference ≠ []
  reference_space : ∀ c ∈ reference, Text.isSpace c = false
  behind_eq : Text.lstrip behind = [] ∨ (Text.lstrip behind).head? = some '#'

theorem exists_argumentLine {line name reference : List Char}
    (h : imageArgument line = some (name, reference)) :
    ∃ word after behind, ArgumentLine line name reference word after behind := by
  obtain ⟨after, hafter, h⟩ := Option.bind_eq_some_iff.mp h
  obtain ⟨space, hspace, h⟩ := Option.bind_eq_some_iff.mp h
  obtain ⟨assigned, hassigned, h⟩ := Option.bind_eq_some_iff.mp h
  obtain ⟨word, hline, hword⟩ := afterKeyword_eq_some.mp hafter
  dsimp only at h
  split at h
  · next hmatch =>
    obtain ⟨hisSpace, hname, hreference, hbehind⟩ := hmatch
    obtain ⟨rfl, rfl⟩ := Prod.mk.inj (Option.some.inj h)
    refine ⟨word, after, _, hline, hword, ?_, ?_, hname, ?_, hreference, ?_, hbehind⟩
    · intro c hc
      rw [hspace] at hc
      exact Option.some.inj hc ▸ hisSpace
    · rw [List.takeWhile_append_dropWhile]
      exact Text.of_partition_eq_some hassigned
    · intro hmem
      simpa using List.mem_takeWhile_imp hmem
    · intro c hc
      have hpart := List.mem_takeWhile_imp hc
      simp only [Bool.and_eq_true, Bool.not_eq_true'] at hpart
      exact hpart.1
  · cases h

/-- An `ARG` that the pattern matches, on a line without a `#`, has the one pair that is found. -/
theorem assignments_of_imageArgument {line name reference : List Char} (hhash : '#' ∉ line)
    (h : imageArgument line = some (name, reference)) :
    Dockerfile.assignments line = [(name, reference)] := by
  obtain ⟨word, after, behind, h⟩ := exists_argumentLine h
  have hmem {c : Char} (hc : c ∈ behind) : c ∈ line := by
    have hafter : c ∈ Text.lstrip after := by
      rw [h.after_eq]
      exact List.mem_append_right _ (List.mem_cons_of_mem _ (List.mem_append_right _ hc))
    have hline : c ∈ Text.lstrip line := by
      rw [h.line_eq]
      exact List.mem_append_right _ ((List.dropWhile_suffix _).subset hafter)
    exact (List.dropWhile_suffix _).subset hline
  have hbehind : ∀ c ∈ behind, Text.isSpace c := by
    rcases h.behind_eq with hnil | hstart
    · exact List.dropWhile_eq_nil_iff.mp hnil
    · have hstart := List.mem_of_mem_head? hstart
      exact absurd (hmem ((List.dropWhile_suffix _).subset hstart)) hhash
  have hlower : Text.lower word = "arg".toList := by
    rw [← h.word_eq]
    refine List.map_congr_left fun c hc => toLower_of_patternLetter ?_
    have hletter : patternLetter c ∈ "arg".toList := h.word_eq ▸ List.mem_map_of_mem hc
    exact List.mem_append_left "from".toList hletter
  have hword : ∀ c ∈ word, Text.isSpace c = false := by
    intro c hc
    by_contra hspace
    rw [Bool.not_eq_false] at hspace
    have hmem := Text.mem_lower (Text.toLower_of_isSpace hspace) hc
    have hletters : "arg".toList.all (fun c => !Text.isSpace c) := by decide
    rw [hlower] at hmem
    simpa [hspace] using List.all_eq_true.mp hletters c hmem
  have hargument : ∀ c ∈ name ++ '=' :: reference, Text.isSpace c = false := by
    intro c hc
    rcases List.mem_append.mp hc with hc | hc
    · exact isSpace_of_isNamePart (isNamePart_of_isImageName h.name_eq c hc)
    · rcases List.mem_cons.mp hc with rfl | hc
      · decide
      · exact h.reference_space c hc
  have hwords : Text.words line = [word, name ++ '=' :: reference] := by
    rw [← Text.words_lstrip, h.line_eq, Text.words_append_of_head? _ hword h.after_space,
      ← Text.words_lstrip, h.after_eq, ← List.cons_append, ← List.append_assoc,
      Text.words_append_right hbehind, Text.words_of_no_space _ hargument]
    · simp
    · rintro rfl
      cases h.word_eq
  have harguments : Dockerfile.arguments "arg".toList line = some [name ++ '=' :: reference] :=
    Dockerfile.arguments_eq_some.mpr ⟨word, hwords, hlower⟩
  rw [Dockerfile.assignments, harguments, Option.getD_some, List.filterMap_cons]
  simp [Dockerfile.assignment, Text.partition_append_cons h.name_notMem]

/-! ## Files -/

variable {path : String} {state state' : DockerfileState} {line : List Char} {lineNumber : ℕ}

theorem requireImageDigest_eq_ok {reference : List Char} {location : String} :
    requireImageDigest reference location = .ok () ↔ isPinned reference = true := by
  rw [requireImageDigest, refuseIf_eq_ok, Bool.not_eq_false]

/-- A line that passes pins what the pattern of `ARG` finds in it. -/
theorem isPinned_of_imageArgument (h : checkLine path state (line, lineNumber) = .ok state')
    {name reference : List Char} (hargument : imageArgument line = some (name, reference)) :
    isPinned reference := by
  simp only [checkLine, hargument] at h
  obtain ⟨-, h⟩ := bind_unit_eq_ok.mp h
  obtain ⟨hpinned, -⟩ := bind_unit_eq_ok.mp h
  exact requireImageDigest_eq_ok.mp hpinned

/-- A line that passes pins what the pattern of `FROM` finds in it, or it is a variable. -/
theorem isPinned_of_fromGroup (h : checkLine path state (line, lineNumber) = .ok state')
    (hargument : imageArgument line = none) {group image : List Char}
    (hgroup : fromGroup line = some group)
    (himage : ((Text.words group).dropWhile "--".toList.isPrefixOf).head? = some image) :
    isPinned image ∨ ∃ name, variableName image = some name := by
  obtain ⟨others, hwords⟩ := List.head?_eq_some_iff.mp himage
  simp only [checkLine, hargument, hgroup, hwords] at h
  cases hvariable : variableName image with
  | some name => exact .inr ⟨name, rfl⟩
  | none =>
    rw [hvariable] at h
    obtain ⟨hpinned, -⟩ := bind_unit_eq_ok.mp h
    exact .inl (requireImageDigest_eq_ok.mp hpinned)

/-- A file that passes passes on every line. -/
theorem exists_checkLine {text : List Char} {count : ℕ} (h : checkDockerfile path text = .ok count)
    (hline : line ∈ Text.splitLines text) :
    ∃ lineNumber state state', checkLine path state (line, lineNumber) = .ok state' := by
  obtain ⟨final, hlines, -⟩ := bind_eq_ok.mp h
  rw [← List.zipIdx_map_fst 1 (Text.splitLines text)] at hline
  obtain ⟨⟨_, lineNumber⟩, hmem, rfl⟩ := List.mem_map.mp hline
  obtain ⟨before, after, hpass⟩ := of_foldlM_eq_ok hlines _ hmem
  exact ⟨lineNumber, before, after, hpass⟩

/-- A pinned reference is no variable. -/
theorem variableName_of_isPinned {reference : List Char} (h : isPinned reference) :
    variableName reference = none := by
  rw [Option.eq_none_iff_forall_ne_some]
  intro name hname
  have hat : '@' ∈ reference := by
    simp only [isPinned, matchesImageDigest, Bool.and_eq_true] at h
    split at h
    · exact absurd h.1 (by simp)
    · next digest hdigest =>
      rw [Text.of_partition_eq_some hdigest]
      exact List.mem_append_right _ List.mem_cons_self
  unfold variableName at hname
  split at hname
  · next rest =>
    dsimp only at hname
    split at hname
    · next hmatch =>
      obtain ⟨hclosed, -, hparts⟩ := hmatch
      obtain ⟨inner, rfl⟩ := List.getLast?_eq_some_iff.mp hclosed
      rw [List.dropLast_concat] at hparts
      have hinner : '@' ∈ inner := by simpa using hat
      exact absurd (List.all_eq_true.mp hparts '@' hinner) (by decide)
    · cases hname
  · cases hname

theorem imagesPinned_iff {text : List Char} {count : ℕ}
    (h : checkDockerfile path text = .ok count) : ImagesPinned text ↔ PassedOverPinned text := by
  constructor
  · intro hpinned
    refine ⟨fun instruction hinstruction _ image himage => ?_, ?_⟩
    · rcases hpinned instruction hinstruction image himage with hliteral | ⟨name, hname, -⟩
      · exact .inl hliteral
      · exact .inr ⟨name, hname⟩
    · rintro other hother - assigned hassigned ⟨instruction, hinstruction, image, himage, hname⟩
      rcases hpinned instruction hinstruction image himage with hliteral | ⟨name, hsame, hall⟩
      · rw [variableName_of_isPinned hliteral] at hname
        cases hname
      · rw [hname] at hsame
        exact hall other hother assigned hassigned (Option.some.inj hsame)
  · intro hpassed instruction hinstruction image himage
    have hfrom : isPinned image ∨ ∃ name, variableName image = some name := by
      by_cases honeLine : OnOneLine text instruction
      · obtain ⟨hargument, group, hgroup, hwords⟩ := fromGroup_of_image honeLine.2 himage
        obtain ⟨_, _, _, hpass⟩ := exists_checkLine h honeLine.1
        exact isPinned_of_fromGroup hpass hargument hgroup hwords
      · exact hpassed.images instruction hinstruction honeLine image himage
    refine hfrom.imp_right fun ⟨name, hname⟩ => ⟨name, hname, ?_⟩
    rintro other hother assigned hassigned rfl
    by_cases hfound : OnOneLine text other ∧ (imageArgument other).isSome
    · obtain ⟨⟨variable', reference⟩, hargument⟩ := Option.isSome_iff_exists.mp hfound.2
      obtain ⟨_, _, _, hpass⟩ := exists_checkLine h hfound.1.1
      rw [assignments_of_imageArgument hfound.1.2 hargument, List.mem_singleton] at hassigned
      rw [hassigned]
      exact isPinned_of_imageArgument hpass hargument
    · exact hpassed.assignments other hother hfound assigned hassigned
        ⟨instruction, hinstruction, image, himage, hname⟩

section

variable {checkComposeImages checkWorkflowImages :
  List UInt8 → String → Except ReleaseSecurityError ℕ} {files : SortedMap String (List UInt8)}

/-- Of every Dockerfile that is let through, the images are pinned if and only if they are in
    what the checker passed over. -/
theorem checkOciDeclarations_pinned_iff {count : ℕ}
    (h : checkOciDeclarations checkComposeImages checkWorkflowImages files = .ok count)
    {text : List Char} (hdockerfile : isDockerfile path) (htext : strictText files path = .ok text) :
    ImagesPinned text ↔ PassedOverPinned text := by
  obtain ⟨total, hfiles, -⟩ := bind_eq_ok.mp h
  obtain ⟨material, hmaterial, -⟩ := bind_eq_ok.mp htext
  have hentry : (path, material) ∈ files.entries :=
    mem_of_lookupEntry (orRaise_eq_ok.mp hmaterial)
  obtain ⟨before, after, hfile⟩ := of_foldlM_eq_ok hfiles _ hentry
  simp only [checkOciFile, hdockerfile, if_true, htext, ok_bind] at hfile
  obtain ⟨checked, hchecked, -⟩ := bind_eq_ok.mp hfile
  exact imagesPinned_iff hchecked

end

/-- A repository with a Dockerfile only. -/
def dockerfileOnly (text : String) : SortedMap String (List UInt8) :=
  ⟨[("Dockerfile", text.toUTF8.data.toList)], List.pairwise_singleton _ _⟩

/-- The checks of the other declarations, where there are none. -/
def noOtherImages (_material : List UInt8) (_path : String) : Except ReleaseSecurityError ℕ := .ok 0

theorem strictText_dockerfileOnly (text : String) :
    strictText (dockerfileOnly text) "Dockerfile" = .ok text.toList := by
  have hdecoded : String.fromUTF8? ⟨text.toUTF8.data.toList.toArray⟩ = some text := by
    rw [Array.toArray_toList]
    change String.fromUTF8? text.toByteArray = some text
    rw [String.fromUTF8?, dif_pos text.isValidUTF8]
    rfl
  have hfile : (dockerfileOnly text).find? "Dockerfile" = some text.toUTF8.data.toList := rfl
  rw [strictText, hfile, orRaise, ok_bind, hdecoded]
  rfl

theorem checkOciDeclarations_dockerfileOnly {text : String} {count : ℕ}
    (h : checkDockerfile "Dockerfile" text.toList = .ok count) (hcount : count ≠ 0) :
    checkOciDeclarations noOtherImages noOtherImages (dockerfileOnly text) = .ok count := by
  have hfile : checkOciFile noOtherImages noOtherImages (dockerfileOnly text) 0
      ("Dockerfile", text.toUTF8.data.toList) = .ok count := by
    have hdockerfile : isDockerfile "Dockerfile" = true := by decide
    have hcompose : isComposeDeclaration "Dockerfile" = false := by decide
    have hworkflow : isWorkflow "Dockerfile" = false := by decide
    simp [checkOciFile, hdockerfile, hcompose, hworkflow, strictText_dockerfileOnly, h]
  have hfiles : (dockerfileOnly text).entries.foldlM
      (checkOciFile noOtherImages noOtherImages (dockerfileOnly text)) 0 = .ok count := by
    rw [dockerfileOnly, List.foldlM_cons, ← dockerfileOnly, hfile]
    rfl
  rw [checkOciDeclarations, hfiles, ok_bind, refuseIf_neg hcount]
  rfl

def pinnedImage : String :=
  "base@sha256:0123456789abcdef0123456789abcdef0123456789abcdef0123456789abcdef"

def pinnedDockerfile : String := "ARG BASE_IMAGE=" ++ pinnedImage ++ "\nFROM ${BASE_IMAGE}\n"

theorem pinnedDockerfile_imagesPinned : ImagesPinned pinnedDockerfile.toList := by
  have hchecked : checkDockerfile "Dockerfile" pinnedDockerfile.toList = .ok 1 := by
    decide +kernel
  have hinstructions : Dockerfile.instructions pinnedDockerfile.toList =
      ["ARG BASE_IMAGE=".toList ++ pinnedImage.toList, "FROM ${BASE_IMAGE}".toList, []] := by
    decide +kernel
  have hlines : Text.splitLines pinnedDockerfile.toList =
      ["ARG BASE_IMAGE=".toList ++ pinnedImage.toList, "FROM ${BASE_IMAGE}".toList] := by
    decide +kernel
  refine (checkOciDeclarations_pinned_iff
    (checkOciDeclarations_dockerfileOnly hchecked one_ne_zero) (by decide)
    (strictText_dockerfileOnly _)).mpr ⟨?_, ?_⟩
  · rw [hinstructions]
    intro instruction hinstruction hpassed image himage
    rcases List.mem_cons.mp hinstruction with rfl | hinstruction
    · cases himage
    · rcases List.mem_cons.mp hinstruction with rfl | hinstruction
      · refine absurd ⟨?_, by decide⟩ hpassed
        rw [hlines]
        exact List.mem_cons_of_mem _ List.mem_cons_self
      · rw [List.mem_singleton.mp hinstruction] at himage
        cases himage
  · rw [hinstructions]
    intro instruction hinstruction hpassed assigned hassigned
    rcases List.mem_cons.mp hinstruction with rfl | hinstruction
    · refine absurd ⟨⟨?_, by decide +kernel⟩, by decide +kernel⟩ hpassed
      rw [hlines]
      exact List.mem_cons_self
    · rcases List.mem_cons.mp hinstruction with rfl | hinstruction
      · cases hassigned
      · rw [List.mem_singleton.mp hinstruction] at hassigned
        cases hassigned

/-- A second `ARG` with another pair before the one of the variable. -/
def twoPairsDockerfile : String :=
  "ARG BASE_IMAGE=" ++ pinnedImage ++ "\nARG X=1 BASE_IMAGE=evil:latest\nFROM ${BASE_IMAGE}\n"

/-- The checker lets it through, and its `FROM` is not pinned. -/
theorem twoPairsDockerfile_accepted :
    checkOciDeclarations noOtherImages noOtherImages (dockerfileOnly twoPairsDockerfile) = .ok 1 ∧
    strictText (dockerfileOnly twoPairsDockerfile) "Dockerfile" =
      .ok twoPairsDockerfile.toList ∧
    ¬ ImagesPinned twoPairsDockerfile.toList := by
  have hchecked : checkDockerfile "Dockerfile" twoPairsDockerfile.toList = .ok 1 := by
    decide +kernel
  have hinstructions : Dockerfile.instructions twoPairsDockerfile.toList =
      ["ARG BASE_IMAGE=".toList ++ pinnedImage.toList, "ARG X=1 BASE_IMAGE=evil:latest".toList,
        "FROM ${BASE_IMAGE}".toList, []] := by
    decide +kernel
  refine ⟨checkOciDeclarations_dockerfileOnly hchecked one_ne_zero, strictText_dockerfileOnly _,
    fun h => ?_⟩
  have hfrom := h "FROM ${BASE_IMAGE}".toList (by simp [hinstructions]) "${BASE_IMAGE}".toList
    (by decide)
  rcases hfrom with hpinned | ⟨name, hname, hall⟩
  · exact absurd hpinned (by decide)
  · have hbase : name = "BASE_IMAGE".toList := by
      have hdecoded : variableName "${BASE_IMAGE}".toList = some "BASE_IMAGE".toList := by decide
      rw [hdecoded] at hname
      exact (Option.some.inj hname).symm
    have hevil := hall "ARG X=1 BASE_IMAGE=evil:latest".toList (by simp [hinstructions])
      ("BASE_IMAGE".toList, "evil:latest".toList) (by decide) hbase.symm
    exact absurd hevil (by decide)

end AegisOt
