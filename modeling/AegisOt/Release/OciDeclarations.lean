import AegisOt.Misc.Checks
import AegisOt.Misc.SortedMap
import AegisOt.Misc.Text
import Mathlib.Data.String.Basic

/-!
# OCI declarations

`release_security.py`: the check that every image a tracked file declares is pinned by its
digest. A Dockerfile is read line by line with two regular expressions, which stand here as the
functions that find their groups. The declarations of the composes and the workflows are YAML;
what is checked in them is a parameter.
-/

namespace AegisOt

/-- `ReleaseSecurityError`. -/
structure ReleaseSecurityError where
  message : String
  deriving DecidableEq, Repr

/-! ## The regular expressions -/

/-- The letter for which a pattern with `re.IGNORECASE` takes a character. Besides the ASCII
    letters these are the four others that `[a-z]` then matches. -/
def patternLetter (c : Char) : Char :=
  if c.toNat = 0x130 ∨ c.toNat = 0x131 then 'i'
  else if c.toNat = 0x17f then 's'
  else if c.toNat = 0x212a then 'k'
  else c.toLower

/-- `[A-Za-z_]` with `re.IGNORECASE`. -/
def isNameStart (c : Char) : Bool := (patternLetter c).isAlpha || c == '_'

/-- `[A-Za-z0-9_]` with `re.IGNORECASE`. -/
def isNamePart (c : Char) : Bool := isNameStart c || c.isDigit

/-- `[A-Za-z_][A-Za-z0-9_]*_IMAGE` with `re.IGNORECASE`. -/
def isImageName (name : List Char) : Bool :=
  match name with
  | [] => false
  | first :: rest =>
      isNameStart first && rest.all isNamePart && decide (6 ≤ rest.length) &&
        (rest.drop (rest.length - 6)).map patternLetter == "_image".toList

/-- `^\s*` and a keyword: what follows them. -/
def afterKeyword (keyword line : List Char) : Option (List Char) :=
  if ((Text.lstrip line).take keyword.length).map patternLetter = keyword then
    some ((Text.lstrip line).drop keyword.length)
  else none

/-- The groups of `_IMAGE_ARGUMENT` in a line that it matches. -/
def imageArgument (line : List Char) : Option (List Char × List Char) := do
  let rest ← afterKeyword "arg".toList line
  let space ← rest.head?
  let (name, assigned) := Text.partition '=' (Text.lstrip rest)
  let assigned ← assigned
  let reference := assigned.takeWhile fun c => !Text.isSpace c && c != '#'
  let behind := Text.lstrip (assigned.dropWhile fun c => !Text.isSpace c && c != '#')
  if Text.isSpace space ∧ isImageName name ∧ reference ≠ [] ∧
      (behind = [] ∨ behind.head? = some '#') then
    some (name, reference)
  else none

/-- The group of `_FROM` in a line that it matches. The spaces in front of it are as many as can
    be, the group is as short as can be, and where nothing but spaces follows the keyword it is
    the last of them. -/
def fromGroup (line : List Char) : Option (List Char) := do
  let rest ← afterKeyword "from".toList line
  let space ← rest.head?
  if Text.isSpace space then
    match Text.lstrip rest with
    | [] => if rest.length < 2 then none else rest.getLast?.map fun last => [last]
    | first :: others => some (first :: Text.rstrip (others.takeWhile (· ≠ '#')))
  else none

/-- The name in `_VARIABLE.fullmatch(reference)`. -/
def variableName (reference : List Char) : Option (List Char) :=
  match reference with
  | '$' :: '\x7b' :: rest =>
      let name := rest.dropLast
      if rest.getLast? = some '\x7d' ∧ name.head?.any (fun c => c.isAlpha || c == '_') ∧
          name.all (fun c => c.isAlphanum || c == '_') then
        some name
      else none
  | _ => none

/-- A lower case hexadecimal digit. -/
def isLowerHex (c : Char) : Bool := c.isDigit || (decide ('a' ≤ c) && decide (c ≤ 'f'))

/-- `_IMAGE_DIGEST.fullmatch(reference)`. The group in the middle of the pattern is of no
    consequence: what may stand in it may stand before it. -/
def matchesImageDigest (reference : List Char) : Bool :=
  let (name, digest) := Text.partition '@' reference
  match digest with
  | none => false
  | some digest =>
      name != [] && name.all (fun c => !Text.isSpace c) &&
        "sha256:".toList.isPrefixOf digest && (digest.drop 7).length == 64 &&
        (digest.drop 7).all isLowerHex

/-- `str.casefold()` of a text that is compared with ASCII text: the characters that fold into
    ASCII letters. -/
def casefold (text : List Char) : List Char :=
  text.flatMap fun c =>
    if c.toNat = 0x17f then ['s']
    else if c.toNat = 0x212a then ['k']
    else if c.toNat = 0xdf ∨ c.toNat = 0x1e9e then ['s', 's']
    else if c.toNat = 0xfb00 then ['f', 'f']
    else if c.toNat = 0xfb01 then ['f', 'i']
    else if c.toNat = 0xfb02 then ['f', 'l']
    else if c.toNat = 0xfb03 then ['f', 'f', 'i']
    else if c.toNat = 0xfb04 then ['f', 'f', 'l']
    else if c.toNat = 0xfb05 ∨ c.toNat = 0xfb06 then ['s', 't']
    else [c.toLower]

/-- A reference that `_require_image_digest` lets pass. -/
def isPinned (reference : List Char) : Bool :=
  matchesImageDigest reference && !":latest".toList.isSuffixOf (casefold reference)

/-- `_require_image_digest`. -/
def requireImageDigest (reference : List Char) (location : String) :
    Except ReleaseSecurityError Unit :=
  refuseIf (isPinned reference = false) ⟨s!"OCI image is not digest pinned: {location}"⟩

/-! ## Dockerfiles -/

/-- `arguments` and `from_count`. -/
structure DockerfileState where
  arguments : List (List Char × List Char)
  fromCount : ℕ
  deriving DecidableEq, Repr

/-- One pass of the loop over the lines of a Dockerfile. -/
def checkLine (path : String) (state : DockerfileState) (numbered : List Char × ℕ) :
    Except ReleaseSecurityError DockerfileState := do
  let (line, lineNumber) := numbered
  match imageArgument line with
  | some (name, reference) => do
      refuseIf (name ∈ state.arguments.map Prod.fst)
        ⟨s!"Dockerfile image argument is duplicated: {path}:{lineNumber}"⟩
      requireImageDigest reference s!"{path}:{lineNumber}"
      .ok { state with arguments := state.arguments ++ [(name, reference)] }
  | none =>
      match fromGroup line with
      | none => .ok state
      | some group =>
          match (Text.words group).dropWhile "--".toList.isPrefixOf with
          | [] => .error ⟨s!"Dockerfile FROM is malformed: {path}:{lineNumber}"⟩
          | reference :: _ => do
              match variableName reference with
              | some name =>
                  refuseIf (name ∉ state.arguments.map Prod.fst)
                    ⟨s!"Dockerfile FROM uses an unpinned variable: {path}:{lineNumber}"⟩
              | none => requireImageDigest reference s!"{path}:{lineNumber}"
              .ok { state with fromCount := state.fromCount + 1 }

/-- The body of the loop over the files for a Dockerfile. -/
def checkDockerfile (path : String) (text : List Char) : Except ReleaseSecurityError ℕ := do
  let state ← ((Text.splitLines text).zipIdx 1).foldlM (checkLine path) ⟨[], 0⟩
  refuseIf (state.fromCount = 0) ⟨s!"Dockerfile contains no FROM declaration: {path}"⟩
  .ok state.fromCount

/-! ## Files -/

/-- `PurePosixPath(path).name`. -/
def pathName (path : String) : List Char :=
  ((path.toList.splitOn '/').filter fun part => part ≠ [] ∧ part ≠ ['.']).getLast?.getD []

def isDockerfile (path : String) : Bool :=
  let foldedName := casefold (pathName path)
  foldedName == "dockerfile".toList || "dockerfile.".toList.isPrefixOf foldedName

/-- `text.endswith((".yml", ".yaml"))`. -/
def isYaml (text : List Char) : Bool :=
  ".yml".toList.isSuffixOf text || ".yaml".toList.isSuffixOf text

/-- `_is_compose_declaration`. -/
def isComposeDeclaration (path : String) : Bool :=
  let name := casefold (pathName path)
  decide (name ∈ ["compose.yml".toList, "compose.yaml".toList, "docker-compose.yml".toList,
    "docker-compose.yaml".toList]) ||
  (("compose.".toList.isPrefixOf name || "docker-compose.".toList.isPrefixOf name) && isYaml name)

def isWorkflow (path : String) : Bool :=
  ".github/workflows/".toList.isPrefixOf path.toList && isYaml path.toList

/-- `_strict_text`. -/
def strictText (files : SortedMap String (List UInt8)) (path : String) :
    Except ReleaseSecurityError (List Char) := do
  let material ← orRaise (files.find? path)
    ⟨s!"required tracked declaration is missing: {path}"⟩
  let text ← orRaise (String.fromUTF8? ⟨material.toArray⟩)
    ⟨s!"tracked declaration is not UTF-8: {path}"⟩
  .ok text.toList

section

variable (checkComposeImages checkWorkflowImages :
  List UInt8 → String → Except ReleaseSecurityError ℕ)

/-- One pass of the loop over the files. -/
def checkOciFile (files : SortedMap String (List UInt8)) (count : ℕ)
    (file : String × List UInt8) : Except ReleaseSecurityError ℕ := do
  let (path, material) := file
  let dockerfileCount ←
    if isDockerfile path then do
      let text ← strictText files path
      checkDockerfile path text
    else .ok 0
  let composeCount ← if isComposeDeclaration path then checkComposeImages material path else .ok 0
  let workflowCount ← if isWorkflow path then checkWorkflowImages material path else .ok 0
  .ok (count + dockerfileCount + composeCount + workflowCount)

/-- `_check_oci_declarations`. -/
def checkOciDeclarations (files : SortedMap String (List UInt8)) :
    Except ReleaseSecurityError ℕ := do
  let count ← files.entries.foldlM (checkOciFile checkComposeImages checkWorkflowImages files) 0
  refuseIf (count = 0) ⟨"repository declares no digest-pinned OCI inputs"⟩
  .ok count

end

end AegisOt
