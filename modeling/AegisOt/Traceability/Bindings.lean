import AegisOt.Traceability.Mapping

/-!
# Repository bindings

`bind_committed_file`, `bind_historical_result` and the verification of a test procedure of
`m8_evidence_traceability.py`, over what the working tree and Git answer. The repository root is the
canonical one and every Git command succeeds.
-/

namespace AegisOt

/-- What `git ls-tree` and `git show` answer for one path of a commit. -/
structure TreeEntry where
  mode : String
  objectType : String
  objectId : String
  content : ByteArray

/-- A checkout. -/
structure Checkout where
  /-- What `_read_working_regular_file` reads: a bounded regular file that is no link. -/
  working : String → Option ByteArray
  /-- The one entry of a commit at a path. -/
  committed : String → String → Option TreeEntry
  /-- `git rev-parse <commit>^{tree}`. -/
  tree : String → Option String

/-- `ast.parse`: the functions at the top level of a module, if its source is valid. An empty
    module has none. -/
class PythonSource where
  topLevelFunctions : ByteArray → Option (List String)
  topLevelFunctions_empty : topLevelFunctions .empty = some []

/-- `ArtifactBinding`. -/
structure ArtifactBinding where
  path : String
  bytes : Nat
  sha256 : Sha256
  gitMode : String
  gitBlob : String
  deriving DecidableEq

/-- `HistoricalResultBinding`. -/
structure HistoricalResultBinding where
  artifact : ArtifactBinding
  exercisedGitCommit : String
  exercisedGitTree : String
  sourceFilesVerified : Nat
  relationshipToCurrentSource : String
  deriving DecidableEq

section

variable [TraceabilityPrimitives]

/-- `bind_committed_file`. -/
def bindCommittedFile (checkout : Checkout) (commit relative : String) :
    Except IngestError ArtifactBinding := do
  refuseIf (isGitObject commit = false) (.traceability "commit identifier is noncanonical")
  canonicalRepoPath relative
  let working ← orRaise (checkout.working relative)
    (.traceability ("mapped repository artifact is unavailable: " ++ relative))
  let entry ← orRaise (checkout.committed commit relative)
    (.traceability ("mapped artifact is not one committed file: " ++ relative))
  refuseIf (entry.objectType ≠ "blob" ∨ entry.mode ∉ ["100644", "100755"] ∨
      isGitObject entry.objectId = false)
    (.traceability ("mapped artifact is not a committed regular file: " ++ relative))
  refuseIf (working ≠ entry.content)
    (.traceability ("mapped artifact differs from commit: " ++ relative))
  pure
    { path := relative
      bytes := working.size
      sha256 := TraceabilityPrimitives.sha256 working
      gitMode := entry.mode
      gitBlob := entry.objectId }

/-- `git show <commit>:<relative>`. -/
def gitShow (checkout : Checkout) (commit relative : String) : Except IngestError ByteArray := do
  let entry ← orRaise (checkout.committed commit relative)
    (.traceability "pinned Git command failed")
  pure entry.content

/-! ## Historical results -/

/-- `value.get(key)`, where `null` is as good as absent. -/
def getField (members : List (String × Json)) (key : String) : Option Json :=
  match lookupEntry key members with
  | some .null => none
  | found => found

/-- `item is False`. -/
def Json.isFalse : Json → Bool
  | .bool false => true
  | _ => false

/-- `_historical_source_identity`: the exercised commit and the items of the source hashes. -/
def historicalSourceIdentity (value : List (String × Json)) :
    Except IngestError (String × List (String × Json)) := do
  let (commit, dirtyValues) :=
    match getField value "git" with
    | some (.obj nested) =>
        (getField nested "commit",
          [getField nested "working_tree_dirty_at_start",
            getField nested "working_tree_dirty_at_end"])
    | _ =>
        (getField value "git_commit",
          [getField value "working_tree_dirty", getField value "git_dirty_at_start"])
  let uncommitted : IngestError :=
    .traceability "result artifact lacks a canonical exercised Git commit"
  let commit ← orRaise (commit.bind Json.text?) uncommitted
  refuseIf (isGitObject commit = false) uncommitted
  let suppliedDirty := dirtyValues.filterMap id
  refuseIf (suppliedDirty.isEmpty = true ∨ suppliedDirty.all Json.isFalse = false)
    (.traceability "result artifact is not bound to an explicitly clean execution")
  let unlisted : IngestError :=
    .traceability "result artifact lacks a bounded source-hash inventory"
  let sourceHashes ← orRaise ((getField value "source_sha256").bind Json.members?) unlisted
  refuseIf (sourceHashes.isEmpty = true ∨ 256 < sourceHashes.length) unlisted
  pure (commit, sourceHashes)

/-- `stored_path.removeprefix("source/")`. -/
def removeSourcePrefix (storedPath : String) : String :=
  if storedPath.toList.take 7 = "source/".toList then String.ofList (storedPath.toList.drop 7)
  else storedPath

/-- One pass of the loop over the source hashes. -/
def verifySourceHash (checkout : Checkout) (exercisedCommit relative : String)
    (item : String × Json) : Except IngestError Unit := do
  let invalid : IngestError := .traceability ("result source digest is invalid: " ++ relative)
  let digest ← orRaise item.2.text? invalid
  refuseIf (isHexDigest digest = false) invalid
  let sourcePath := removeSourcePrefix item.1
  canonicalRepoPath sourcePath
  let source ← (gitShow checkout exercisedCommit sourcePath).mapError fun _ => .traceability
    ("result source inventory cannot be resolved: " ++ relative ++ ":" ++ sourcePath)
  refuseIf (hexdigest (TraceabilityPrimitives.sha256 source) ≠ digest)
    (.traceability ("result source inventory digest does not match: " ++ relative ++ ":" ++
      sourcePath))

/-- `bind_historical_result`. -/
def bindHistoricalResult (checkout : Checkout) (currentCommit relative : String) :
    Except IngestError HistoricalResultBinding := do
  let artifact ← bindCommittedFile checkout currentCommit relative
  let material ← gitShow checkout currentCommit relative
  let value ← loadStrictJsonBytes material ("result artifact " ++ relative)
  let (exercisedCommit, sourceHashes) ← historicalSourceIdentity value
  let exercisedTree ← orRaise (checkout.tree exercisedCommit)
    (.traceability ("result artifact exercised commit is unavailable: " ++ relative))
  refuseIf (isGitObject exercisedTree = false)
    (.traceability ("result artifact exercised tree is invalid: " ++ relative))
  sourceHashes.forM (verifySourceHash checkout exercisedCommit relative)
  pure
    { artifact := artifact
      exercisedGitCommit := exercisedCommit
      exercisedGitTree := exercisedTree
      sourceFilesVerified := sourceHashes.length
      relationshipToCurrentSource :=
        if exercisedCommit = currentCommit then "current_exact" else "historical" }

end

/-! ## Test procedures -/

/-- `_procedure_path_and_name`. -/
def procedurePathAndName (procedure : String) : Except IngestError (String × String) :=
  orRaise (matchTestId procedure)
    (.traceability ("test procedure ID is noncanonical: " ++ procedure))

/-- `_verify_test_procedure`: the path of the test. -/
def verifyTestProcedure [PythonSource] (checkout : Checkout) (commit procedure : String) :
    Except IngestError String := do
  let (relative, name) ← procedurePathAndName procedure
  let source ← gitShow checkout commit relative
  let declared ← orRaise (PythonSource.topLevelFunctions source)
    (.traceability ("test procedure source is not valid Python: " ++ procedure))
  refuseIf (name ∉ declared)
    (.traceability ("mapped test procedure does not exist exactly: " ++ procedure))
  pure relative

end AegisOt
