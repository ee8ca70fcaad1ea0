import AegisOt.Transport.StrictJsonRequest

/-!
# What a strict request is

`_strict_json_material` takes the headers apart in steps, reads the body as its chunks come and
runs a decoder over it. What passes is said here without the steps: how the content type is
spelled, what the content length counts, and what the body is as a whole.
-/

namespace AegisOt

/-! ## Content types -/

/-- The text spells a word of lower case letters: in letters of any case, with spaces around. -/
def Spells (word text : List Char) : Prop :=
  ∃ before core after, (∀ c ∈ before, Text.isSpace c) ∧ (∀ c ∈ after, Text.isSpace c) ∧
    text = before ++ core ++ after ∧ Text.lower core = word

/-- The values of the parameter. -/
def utf8Charsets : List (List Char) :=
  ["utf-8".toList, "utf8".toList, "\"utf-8\"".toList, "\"utf8\"".toList]

/-- The parameter `charset` for UTF-8. -/
def DeclaresUtf8 (parameter : List Char) : Prop :=
  ∃ name charset, parameter = name ++ '=' :: charset ∧ Spells "charset".toList name ∧
    ∃ word ∈ utf8Charsets, Spells word charset

/-- A content type that names `application/json`, with at most one parameter, the charset of
    UTF-8. -/
def NamesApplicationJson (contentType : List Char) : Prop :=
  ∃ mediaType, Spells applicationJson mediaType ∧
    (contentType = mediaType ∨
      ∃ parameter, contentType = mediaType ++ ';' :: parameter ∧ DeclaresUtf8 parameter)

/-- Spelling a word without spaces is having it between the spaces. -/
theorem spells_iff {word text : List Char} (hword : ∀ c ∈ word, Text.isSpace c = false) :
    Spells word text ↔ Text.lower (Text.strip text) = word := by
  constructor
  · rintro ⟨before, core, after, hbefore, hafter, rfl, rfl⟩
    have hcore : ∀ c ∈ core, Text.isSpace c = false := by
      intro c hc
      by_contra hspace
      rw [Bool.not_eq_false] at hspace
      have := hword c (Text.mem_lower (Text.toLower_of_isSpace hspace) hc)
      rw [hspace] at this
      cases this
    rw [Text.strip_surrounded hbefore hcore hafter]
  · intro h
    obtain ⟨before, after, hbefore, hafter, htext⟩ := Text.exists_strip text
    exact ⟨before, Text.strip text, after, hbefore, hafter, htext, h⟩

/-- What is in the text and no space is in the word that it spells. -/
theorem not_mem_of_spells {word text : List Char} (hword : ∀ c ∈ word, Text.isSpace c = false)
    (h : Spells word text) {c : Char} (hspace : Text.isSpace c = false) (hlower : c.toLower = c)
    (hc : c ∉ word) : c ∉ text := by
  intro hmem
  rw [spells_iff hword] at h
  rw [← h] at hc
  exact hc (Text.mem_lower hlower ((Text.mem_strip hspace).mpr hmem))

theorem no_space_of_all {word : List Char} (h : word.all (fun c => !Text.isSpace c)) :
    ∀ c ∈ word, Text.isSpace c = false := by
  simpa using h

theorem applicationJson_no_space : ∀ c ∈ applicationJson, Text.isSpace c = false :=
  no_space_of_all (by decide)

theorem charset_no_space : ∀ c ∈ "charset".toList, Text.isSpace c = false :=
  no_space_of_all (by decide)

theorem utf8Charsets_no_space {word : List Char} (h : word ∈ utf8Charsets) :
    ∀ c ∈ word, Text.isSpace c = false := by
  have hall : utf8Charsets.all (fun word => word.all fun c => !Text.isSpace c) := by decide
  exact no_space_of_all (List.all_eq_true.mp hall word h)

/-- Quotes come off in pairs. -/
theorem unquote_eq_ok {charset value : List Char} (h : unquote charset = .ok value) :
    charset = value ∨ charset = '"' :: (value ++ ['"']) := by
  unfold unquote at h
  split at h
  · obtain ⟨hquoted, hinner⟩ := bind_unit_eq_ok.mp h
    rw [rejectIf, refuseIf_eq_ok] at hquoted
    push Not at hquoted
    obtain ⟨hlength, hhead, hlast⟩ := hquoted
    obtain ⟨opened, rfl⟩ := List.getLast?_eq_some_iff.mp hlast
    right
    cases opened with
    | nil => simp at hlength
    | cons first middle =>
      have hfirst : first = '"' := by simpa using hhead
      have hmiddle : middle = value := by simpa using hinner
      rw [hfirst, hmiddle, List.cons_append]
  · exact .inl (Except.ok.inj h)

theorem unquote_utf8_iff {charset : List Char} :
    (∃ value, unquote charset = .ok value ∧ value ∈ ["utf-8".toList, "utf8".toList]) ↔
      charset ∈ utf8Charsets := by
  constructor
  · rintro ⟨value, hvalue, hmem⟩
    have hvalues : value = "utf-8".toList ∨ value = "utf8".toList := by simpa using hmem
    rcases unquote_eq_ok hvalue with rfl | rfl
    · exact List.mem_append_left _ hmem
    · rcases hvalues with rfl | rfl <;> decide
  · intro h
    have hcases : charset = "utf-8".toList ∨ charset = "utf8".toList ∨
        charset = "\"utf-8\"".toList ∨ charset = "\"utf8\"".toList := by
      simpa [utf8Charsets] using h
    rcases hcases with rfl | rfl | rfl | rfl
    · exact ⟨"utf-8".toList, by decide⟩
    · exact ⟨"utf8".toList, by decide⟩
    · exact ⟨"utf-8".toList, by decide⟩
    · exact ⟨"utf8".toList, by decide⟩

/-- The source looks at the parameter without the spaces around it. -/
theorem requireCharset_eq_ok {parameter : List Char} :
    requireCharset (Text.strip parameter) = .ok () ↔ DeclaresUtf8 parameter := by
  constructor
  · intro h
    unfold requireCharset at h
    obtain ⟨charset, hcharset, hchecks⟩ := bind_eq_ok.mp h
    rw [rejectIf, refuseIf_eq_ok] at hchecks
    push Not at hchecks
    obtain ⟨hvalue, hname, hmem⟩ := hchecks
    obtain ⟨value, hsome⟩ := Option.ne_none_iff_exists'.mp hvalue
    have hstrip := Text.of_partition_eq_some hsome
    obtain ⟨before, after, hbefore, hafter, hparameter⟩ := Text.exists_strip parameter
    refine ⟨before ++ (Text.partition '=' (Text.strip parameter)).1, value ++ after, ?_, ?_, ?_⟩
    · rw [hstrip] at hparameter
      simpa using hparameter
    · rw [spells_iff charset_no_space, Text.strip_append_left hbefore]
      exact hname
    · rw [hsome, Option.getD_some] at hcharset
      have hword := unquote_utf8_iff.mp ⟨charset, hcharset, hmem⟩
      refine ⟨_, hword, (spells_iff (utf8Charsets_no_space hword)).mpr ?_⟩
      rw [Text.strip_append_right hafter]
  · rintro ⟨name, charset, rfl, hname, word, hword, hcharset⟩
    have hequals : '=' ∉ Text.lstrip name := by
      intro hmem
      exact not_mem_of_spells charset_no_space hname (by decide) (by decide) (by decide)
        ((List.dropWhile_suffix _).subset hmem)
    rw [spells_iff charset_no_space] at hname
    rw [spells_iff (utf8Charsets_no_space hword)] at hcharset
    obtain ⟨value, hvalue, hmem⟩ := unquote_utf8_iff.mpr hword
    unfold requireCharset
    rw [Text.strip_append_cons (by decide), Text.partition_append_cons hequals]
    simp only [Option.getD_some, Text.strip_rstrip, Text.strip_lstrip, hcharset, hname]
    rw [hvalue, ok_bind, rejectIf, refuseIf_eq_ok]
    push Not
    exact ⟨nofun, rfl, hmem⟩

theorem requireMediaType_eq_ok {contentType : List Char} :
    requireMediaType contentType = .ok () ↔ NamesApplicationJson contentType := by
  have hjoined : [';'].intercalate (contentType.splitOn ';') = contentType :=
    List.intercalate_splitOn ';'
  have hnotMem {mediaType : List Char} (h : Spells applicationJson mediaType) : ';' ∉ mediaType :=
    not_mem_of_spells applicationJson_no_space h (by decide) (by decide) (by decide)
  constructor
  · intro h
    unfold requireMediaType at h
    cases hparts : contentType.splitOn ';' with
    | nil =>
      rw [hparts] at h
      cases h
    | cons mediaType parameters =>
      rw [hparts, List.map_cons] at h
      obtain ⟨hmediaType, hparameters⟩ := bind_unit_eq_ok.mp h
      rw [rejectIf, refuseIf_eq_ok, not_not] at hmediaType
      refine ⟨mediaType, (spells_iff applicationJson_no_space).mpr hmediaType, ?_⟩
      rw [hparts] at hjoined
      match parameters with
      | [] =>
        left
        simpa using hjoined.symm
      | [parameter] =>
        right
        obtain ⟨-, hcharset⟩ := bind_unit_eq_ok.mp hparameters
        refine ⟨parameter, ?_, requireCharset_eq_ok.mp hcharset⟩
        simpa using hjoined.symm
      | _ :: _ :: _ => cases hparameters
  · rintro ⟨mediaType, hmediaType, rfl | ⟨parameter, rfl, hparameter⟩⟩
    · unfold requireMediaType
      rw [List.splitOn_eq_singleton (hnotMem hmediaType), List.map_cons, List.map_nil]
      rw [spells_iff applicationJson_no_space] at hmediaType
      simp [rejectIf, hmediaType]
    · have hsplit : parameter.splitOn ';' = [parameter] := by
        refine List.splitOn_eq_singleton ?_
        obtain ⟨name, charset, rfl, hname, word, hword, hcharset⟩ := hparameter
        have hword' : ';' ∉ word := by
          have hall : utf8Charsets.all (fun word => decide (';' ∉ word)) := by decide
          exact of_decide_eq_true (List.all_eq_true.mp hall word hword)
        have hleft := not_mem_of_spells charset_no_space hname (c := ';') (by decide) (by decide)
          (by decide)
        have hright := not_mem_of_spells (utf8Charsets_no_space hword) hcharset (c := ';')
          (by decide) (by decide) hword'
        simp [hleft, hright]
      have hnonempty : Text.strip parameter ≠ [] := by
        obtain ⟨name, charset, rfl, -⟩ := hparameter
        rw [Text.strip_append_cons (by decide)]
        simp
      unfold requireMediaType
      rw [List.splitOn_append_cons_self_of_not_mem (hnotMem hmediaType), hsplit]
      rw [spells_iff applicationJson_no_space] at hmediaType
      simp [rejectIf, hmediaType, hnonempty, requireCharset_eq_ok.mpr hparameter]

/-! ## Headers -/

theorem oneHeader_eq_ok_some {request : Request} {name : String} {value : List Char} :
    oneHeader request name = .ok (some value) ↔ request.getlist name = [value] := by
  unfold oneHeader
  split
  · next h => simp [h]
  · next h => simp [h]
  · next h hone =>
    constructor
    · intro herror
      split at herror <;> cases herror
    · intro hvalue
      exact absurd hvalue (hone value)

theorem requireApplicationJson_eq_ok {request : Request} :
    requireApplicationJson request = .ok () ↔
      ∃ contentType, request.getlist "content-type" = [contentType] ∧
        NamesApplicationJson contentType := by
  unfold requireApplicationJson
  simp only [bind_eq_ok, orRaise_eq_ok, requireMediaType_eq_ok]
  constructor
  · rintro ⟨_, hheader, contentType, rfl, hnames⟩
    exact ⟨contentType, oneHeader_eq_ok_some.mp hheader, hnames⟩
  · rintro ⟨contentType, hheader, hnames⟩
    exact ⟨_, oneHeader_eq_ok_some.mpr hheader, contentType, rfl, hnames⟩

/-- A content length that the digits of a text declare. -/
structure DeclaresLength (rawLength : List Char) (maxBytes length : ℕ) : Prop where
  nonempty : rawLength ≠ []
  digits : ∀ c ∈ rawLength, c.isDigit
  short : rawLength.length ≤ (toString maxBytes).length
  value_eq : digitsValue rawLength = length
  length_le : length ≤ maxBytes

theorem requireContentLength_eq_ok {request : Request} {maxBytes length : ℕ} :
    requireContentLength request maxBytes = .ok length ↔
      ∃ rawLength, request.getlist "content-length" = [rawLength] ∧
        DeclaresLength rawLength maxBytes length := by
  unfold requireContentLength
  constructor
  · intro h
    obtain ⟨header, hheader, h⟩ := bind_eq_ok.mp h
    obtain ⟨rawLength, hraw, h⟩ := bind_eq_ok.mp h
    obtain ⟨hdecimal, h⟩ := bind_unit_eq_ok.mp h
    obtain ⟨hle, hlength⟩ := bind_unit_eq_ok.mp h
    rw [orRaise_eq_ok] at hraw
    rw [rejectIf, refuseIf_eq_ok] at hdecimal hle
    rw [hraw] at hheader
    push Not at hdecimal hle
    obtain ⟨hdigits, hshort⟩ := hdecimal
    have hvalue := Except.ok.inj hlength
    simp only [isAsciiDecimal, ne_eq, Bool.not_eq_false, Bool.and_eq_true, bne_iff_ne,
      List.all_eq_true] at hdigits
    exact ⟨rawLength, oneHeader_eq_ok_some.mp hheader, hdigits.1, hdigits.2, hshort, hvalue,
      hvalue ▸ hle⟩
  · rintro ⟨rawLength, hheader, h⟩
    have hdecimal : isAsciiDecimal rawLength = true := by
      simp only [isAsciiDecimal, Bool.and_eq_true, bne_iff_ne, List.all_eq_true]
      exact ⟨h.nonempty, h.digits⟩
    refine bind_eq_ok.mpr ⟨some rawLength, oneHeader_eq_ok_some.mpr hheader, bind_eq_ok.mpr
      ⟨rawLength, rfl, bind_unit_eq_ok.mpr ⟨refuseIf_neg ?_, bind_unit_eq_ok.mpr
        ⟨refuseIf_neg ?_, congrArg _ h.value_eq⟩⟩⟩⟩
    · rintro (hfalse | hlong)
      · rw [hdecimal] at hfalse
        cases hfalse
      · exact h.short.not_gt hlong
    · rw [h.value_eq]
      exact h.length_le.not_gt

/-! ## The body -/

/-- The loop goes on where it was: nothing depends on how the body is cut. -/
theorem readChunks_from {declaredLength maxBytes : ℕ} (hdeclared : declaredLength ≤ maxBytes)
    {chunks : List (List UInt8)} {material result : List UInt8}
    (hmaterial : material.length ≤ declaredLength) :
    chunks.foldlM (extendMaterial declaredLength maxBytes) material = .ok result ↔
      material ++ chunks.flatten = result ∧ result.length ≤ declaredLength := by
  induction chunks generalizing material with
  | nil =>
    rw [List.foldlM_nil, List.flatten_nil, List.append_nil]
    constructor
    · intro h
      obtain rfl := Except.ok.inj h
      exact ⟨rfl, hmaterial⟩
    · rintro ⟨rfl, -⟩
      rfl
  | cons chunk rest ih =>
    rw [List.foldlM_cons, bind_eq_ok, List.flatten_cons, ← List.append_assoc]
    constructor
    · rintro ⟨extended, hextend, hrest⟩
      unfold extendMaterial at hextend
      obtain ⟨-, hextend⟩ := bind_unit_eq_ok.mp hextend
      obtain ⟨hlength, hextended⟩ := bind_unit_eq_ok.mp hextend
      rw [rejectIf, refuseIf_eq_ok, not_lt] at hlength
      obtain rfl := Except.ok.inj hextended
      exact (ih (by simpa using hlength)).mp hrest
    · rintro ⟨hresult, hlength⟩
      have hchunk : material.length + chunk.length ≤ declaredLength := by
        have := congrArg List.length hresult
        simp only [List.length_append] at this
        omega
      refine ⟨material ++ chunk, ?_, (ih (by simpa using hchunk)).mpr ⟨hresult, hlength⟩⟩
      unfold extendMaterial
      refine bind_unit_eq_ok.mpr ⟨refuseIf_neg ?_, bind_unit_eq_ok.mpr ⟨refuseIf_neg ?_, rfl⟩⟩
      · omega
      · omega

theorem readChunks_eq_ok {declaredLength maxBytes : ℕ} (hdeclared : declaredLength ≤ maxBytes)
    {chunks : List (List UInt8)} {material : List UInt8} :
    readChunks chunks declaredLength maxBytes = .ok material ↔
      chunks.flatten = material ∧ material.length ≤ declaredLength :=
  readChunks_from hdeclared (Nat.zero_le _)

theorem readBoundedBody_eq_ok {request : Request} {declaredLength maxBytes : ℕ}
    (hdeclared : declaredLength ≤ maxBytes) {material : List UInt8} :
    readBoundedBody request declaredLength maxBytes = .ok material ↔
      request.disconnected = false ∧ request.chunks.flatten = material ∧
        material.length = declaredLength := by
  unfold readBoundedBody
  constructor
  · intro h
    obtain ⟨found, hread, h⟩ := bind_eq_ok.mp h
    obtain ⟨hconnected, h⟩ := bind_unit_eq_ok.mp h
    obtain ⟨hlength, h⟩ := bind_unit_eq_ok.mp h
    rw [rejectIf, refuseIf_eq_ok, Bool.not_eq_true] at hconnected
    rw [rejectIf, refuseIf_eq_ok, not_not] at hlength
    obtain rfl := Except.ok.inj h
    exact ⟨hconnected, ((readChunks_eq_ok hdeclared).mp hread).1, hlength⟩
  · rintro ⟨hconnected, hflatten, hlength⟩
    refine bind_eq_ok.mpr ⟨material, (readChunks_eq_ok hdeclared).mpr ⟨hflatten, hlength.le⟩, ?_⟩
    refine bind_unit_eq_ok.mpr ⟨refuseIf_neg ?_, bind_unit_eq_ok.mpr ⟨refuseIf_neg ?_, rfl⟩⟩
    · simp [hconnected]
    · exact not_not.mpr hlength

/-! ## The JSON text -/

theorem uniqueObjectFrom_eq_ok {result pairs final : List (List ℕ × RawJson)}
    (hresult : (result.map Prod.fst).Nodup) :
    uniqueObjectFrom result pairs = .ok final ↔
      ((result ++ pairs).map Prod.fst).Nodup ∧ result ++ pairs = final := by
  induction pairs generalizing result with
  | nil =>
    rw [uniqueObjectFrom, List.append_nil]
    constructor
    · intro h
      exact ⟨hresult, Except.ok.inj h⟩
    · rintro ⟨-, rfl⟩
      rfl
  | cons pair rest ih =>
    obtain ⟨name, value⟩ := pair
    have hextended : ((result ++ [(name, value)]).map Prod.fst).Nodup ↔
        name ∉ result.map Prod.fst := by
      rw [List.map_append, List.map_singleton, List.nodup_append]
      constructor
      · rintro ⟨-, -, hdistinct⟩ hname
        exact hdistinct name hname name (List.mem_singleton.mpr rfl) rfl
      · intro hname
        refine ⟨hresult, List.pairwise_singleton _ _, fun a ha b hb hab => hname ?_⟩
        rwa [← show b = name from List.mem_singleton.mp hb, ← hab]
    have hshift : result ++ (name, value) :: rest = result ++ [(name, value)] ++ rest := by simp
    rw [uniqueObjectFrom, bind_unit_eq_ok, refuseIf_eq_ok, hshift, ← hextended]
    constructor
    · rintro ⟨hnodup, hrest⟩
      exact (ih hnodup).mp hrest
    · rintro ⟨hnodup, hfinal⟩
      have hleft := hnodup
      rw [List.map_append, List.nodup_append] at hleft
      exact ⟨hleft.1, (ih hleft.1).mpr ⟨hnodup, hfinal⟩⟩

theorem uniqueObject_refuses : RawJson.RefusesDuplicates uniqueObject := by
  intro members result
  exact uniqueObjectFrom_eq_ok List.nodup_nil

theorem rejectConstant_refuses : RawJson.RefusesConstants rejectConstant := by
  intro name result h
  cases h

section

variable [JsonDecoder]

theorem jsonLoads_eq_ok {decoded : List Char} {value : RawJson} :
    jsonLoads decoded = .ok value ↔
      JsonDecoder.recognise decoded = .ok value ∧ value.Strict := by
  unfold jsonLoads
  cases JsonDecoder.recognise decoded with
  | ok found =>
    change found.hooked uniqueObject rejectConstant = .ok value ↔ _
    rw [RawJson.hooked_eq_ok uniqueObject_refuses rejectConstant_refuses]
    constructor
    · rintro ⟨hstrict, rfl⟩
      exact ⟨rfl, hstrict⟩
    · rintro ⟨hfound, hstrict⟩
      obtain rfl := Except.ok.inj hfound
      exact ⟨hstrict, rfl⟩
  | error complete => simp

/-- A body that is UTF-8 without a byte-order mark, in which the decoder recognises an object
    without a name that comes twice and without a constant, at any depth. -/
def IsStrictObject (material : List UInt8) : Prop :=
  ¬ utf8Bom <+: material ∧
    ∃ decoded value, String.fromUTF8? ⟨material.toArray⟩ = some decoded ∧
      JsonDecoder.recognise decoded.toList = .ok value ∧ value.isObject = true ∧ value.Strict

theorem prevalidateJsonObject_eq_ok {material : List UInt8} :
    prevalidateJsonObject material = .ok () ↔ IsStrictObject material := by
  unfold prevalidateJsonObject
  constructor
  · intro h
    obtain ⟨hbom, h⟩ := bind_unit_eq_ok.mp h
    obtain ⟨decoded, hdecoded, h⟩ := bind_eq_ok.mp h
    obtain ⟨value, hvalue, hobject⟩ := bind_eq_ok.mp h
    obtain ⟨hrecognised, hstrict⟩ := jsonLoads_eq_ok.mp (mapError_eq_ok.mp hvalue)
    rw [rejectIf, refuseIf_eq_ok] at hbom hobject
    exact ⟨hbom, decoded, value, orRaise_eq_ok.mp hdecoded, hrecognised,
      Bool.not_eq_false _ ▸ hobject, hstrict⟩
  · rintro ⟨hbom, decoded, value, hdecoded, hrecognised, hobject, hstrict⟩
    refine bind_unit_eq_ok.mpr ⟨refuseIf_neg hbom, bind_eq_ok.mpr
      ⟨decoded, orRaise_eq_ok.mpr hdecoded, bind_eq_ok.mpr ⟨value, ?_, refuseIf_neg ?_⟩⟩⟩
    · exact mapError_eq_ok.mpr (jsonLoads_eq_ok.mpr ⟨hrecognised, hstrict⟩)
    · simp [hobject]

/-- The headers and the body of a request that is let in. -/
structure IsAdmissible (getlist : String → List (List Char)) (body : List UInt8)
    (maxBytes : ℕ) : Prop where
  limit_pos : 1 ≤ maxBytes
  limit_le : maxBytes ≤ segmentedMaxJsonBytes
  contentType : ∃ contentType, getlist "content-type" = [contentType] ∧
    NamesApplicationJson contentType
  contentLength : ∃ rawLength, getlist "content-length" = [rawLength] ∧
    DeclaresLength rawLength maxBytes body.length
  json : IsStrictObject body

theorem strictJsonMaterial_eq_ok {request : Request} {maxBytes : ℕ} {material : List UInt8} :
    strictJsonMaterial request maxBytes = .ok material ↔
      request.disconnected = false ∧ request.chunks.flatten = material ∧
        IsAdmissible request.getlist material maxBytes := by
  unfold strictJsonMaterial
  constructor
  · intro h
    obtain ⟨hlimit, h⟩ := bind_unit_eq_ok.mp h
    obtain ⟨hcontentType, h⟩ := bind_unit_eq_ok.mp h
    obtain ⟨declaredLength, hdeclared, h⟩ := bind_eq_ok.mp h
    obtain ⟨body, hbody, h⟩ := bind_eq_ok.mp h
    obtain ⟨hjson, h⟩ := bind_unit_eq_ok.mp h
    obtain rfl := Except.ok.inj h
    rw [refuseIf_eq_ok] at hlimit
    push Not at hlimit
    obtain ⟨rawLength, hraw, hlength⟩ := requireContentLength_eq_ok.mp hdeclared
    obtain ⟨hconnected, hflatten, rfl⟩ := (readBoundedBody_eq_ok hlength.length_le).mp hbody
    exact ⟨hconnected, hflatten, hlimit.1, hlimit.2,
      requireApplicationJson_eq_ok.mp hcontentType, ⟨rawLength, hraw, hlength⟩,
      prevalidateJsonObject_eq_ok.mp hjson⟩
  · rintro ⟨hconnected, hflatten, h⟩
    obtain ⟨rawLength, hraw, hlength⟩ := h.contentLength
    have hread := (readBoundedBody_eq_ok hlength.length_le).mpr ⟨hconnected, hflatten, rfl⟩
    refine bind_unit_eq_ok.mpr ⟨refuseIf_neg ?_, bind_unit_eq_ok.mpr
      ⟨requireApplicationJson_eq_ok.mpr h.contentType, bind_eq_ok.mpr ⟨material.length,
        requireContentLength_eq_ok.mpr ⟨rawLength, hraw, hlength⟩, bind_eq_ok.mpr ⟨material, hread,
          bind_unit_eq_ok.mpr ⟨prevalidateJsonObject_eq_ok.mpr h.json, rfl⟩⟩⟩⟩⟩
    rintro (hsmall | hlarge)
    · exact h.limit_pos.not_gt hsmall
    · exact h.limit_le.not_gt hlarge

/-- Exactly the admissible requests are let in, with their whole body; the chunks in which the
    body came make no difference; and at no point of the loop is more in the buffer than what the
    header declares. -/
theorem strictJsonMaterial_exact (request : Request) (maxBytes : ℕ) :
    (∀ material, strictJsonMaterial request maxBytes = .ok material ↔
      request.disconnected = false ∧ request.chunks.flatten = material ∧
        IsAdmissible request.getlist material maxBytes) ∧
    (∀ chunks : List (List UInt8), chunks.flatten = request.chunks.flatten → ∀ material,
      strictJsonMaterial { request with chunks := chunks } maxBytes = .ok material ↔
        strictJsonMaterial request maxBytes = .ok material) ∧
    ∀ declaredLength, requireContentLength request maxBytes = .ok declaredLength →
      ∀ received, received <+: request.chunks → ∀ buffered,
        readChunks received declaredLength maxBytes = .ok buffered →
          buffered.length ≤ declaredLength := by
  refine ⟨fun material => strictJsonMaterial_eq_ok, ?_, ?_⟩
  · intro chunks hchunks material
    rw [strictJsonMaterial_eq_ok, strictJsonMaterial_eq_ok, hchunks]
  · intro declaredLength hdeclared received _ buffered hbuffered
    obtain ⟨rawLength, -, hlength⟩ := requireContentLength_eq_ok.mp hdeclared
    exact ((readChunks_eq_ok hlength.length_le).mp hbuffered).2

end

/-- The decoder on the text of an empty object. -/
abbrev emptyObjectDecoder : JsonDecoder where
  recognise text := if text = "{}".toList then .ok (.object []) else .error []

/-- An empty object in three chunks, one of them empty. -/
def emptyObjectRequest : Request where
  getlist name :=
    if name = "content-type" then ["Application/JSON ; charset=\"UTF-8\"".toList]
    else if name = "content-length" then ["2".toList]
    else []
  chunks := [[0x7b], [], [0x7d]]
  disconnected := false

theorem strictJsonMaterial_emptyObject :
    @strictJsonMaterial emptyObjectDecoder emptyObjectRequest 2 = .ok [0x7b, 0x7d] := by
  let := emptyObjectDecoder
  have hcontentType : requireMediaType "Application/JSON ; charset=\"UTF-8\"".toList = .ok () := by
    decide
  have hjson : IsStrictObject [0x7b, 0x7d] := by
    refine ⟨by decide, "{}", .object [], rfl, rfl, rfl, ?_⟩
    exact RawJson.strict_object_iff.mpr ⟨List.nodup_nil, nofun⟩
  exact ((strictJsonMaterial_exact emptyObjectRequest 2).1 _).mpr
    ⟨rfl, rfl, by decide, by decide, ⟨_, rfl, requireMediaType_eq_ok.mp hcontentType⟩,
      ⟨_, rfl, by decide, List.all_eq_true.mp (by decide), by decide, by decide, by decide⟩,
      hjson⟩

end AegisOt
