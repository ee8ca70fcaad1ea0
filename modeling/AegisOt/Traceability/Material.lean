import AegisOt.Misc.JsonIndented
import AegisOt.Trust.SequenceState

/-!
# Traceability material

The JSON helpers of `m8_evidence_traceability.py`: the strict loader, the digests of canonical
texts and the field checks that attestations and the replay state share.
-/

namespace AegisOt

/-- The exceptions of an ingestion. -/
inductive IngestError where
  /-- `TraceabilityError`. -/
  | traceability (message : String)
  /-- The `TraceabilityError` of a text that is no strict JSON. -/
  | notStrictJson (label : String) (cause : Json.LoadsError)
  /-- The `ValueError` of an integer with too many digits. -/
  | integerTooLong
  /-- `KeyError`. -/
  | key (name : String)
  /-- An `OSError` that nothing wraps. -/
  | os (description : String)
  deriving DecidableEq

/-- `MAX_JSON_BYTES`. -/
def maxJsonBytes : Nat := 4 * 1024 * 1024

/-- `sys.int_info.default_max_str_digits`: no longer decimal text becomes an `int`. -/
def maxIntDigits : Nat := 4300

/-- SHA-256 and Ed25519. -/
class TraceabilityPrimitives where
  sha256 : ByteArray → Sha256
  /-- `public_key.public_bytes_raw()`. -/
  publicBytesRaw : PublicKey → ByteArray
  /-- `public_key.verify` accepts the signature with this canonical Base64 text. -/
  verify : PublicKey → ByteArray → String → Bool

/-! ## Values of one type -/

namespace Json

/-- The text of a string. -/
def text? : Json → Option String
  | .str text => some text
  | _ => none

/-- The items of a list. -/
def items? : Json → Option (List Json)
  | .arr items => some items
  | _ => none

/-- The members of an object. -/
def members? : Json → Option (List (String × Json))
  | .obj members => some members
  | _ => none

theorem members?_eq_some {value : Json} {members : List (String × Json)} :
    value.members? = some members ↔ value = .obj members := by
  cases value <;> simp [members?]

theorem items?_eq_some {value : Json} {items : List Json} :
    value.items? = some items ↔ value = .arr items := by
  cases value <;> simp [items?]

theorem text?_eq_some {value : Json} {text : String} :
    value.text? = some text ↔ value = .str text := by
  cases value <;> simp [text?]

end Json

/-! ## Loading -/

/-- The integer has no more digits than `int` converts. -/
def IsNarrow (n : ℤ) : Prop := n.natAbs < 10 ^ maxIntDigits

instance : DecidablePred IsNarrow := fun _ => by unfold IsNarrow; infer_instance

namespace Json

mutual

/-- The integers of a value have no more digits than `int` converts. -/
def convertible : Json → Bool
  | .num token => decide (∀ n ∈ (Json.num token).toInt?, IsNarrow n)
  | .arr items => convertibleItems items
  | .obj members => convertibleMembers members
  | _ => true

def convertibleItems : List Json → Bool
  | [] => true
  | item :: rest => convertible item && convertibleItems rest

def convertibleMembers : List (String × Json) → Bool
  | [] => true
  | member :: rest => convertible member.2 && convertibleMembers rest

end

theorem convertibleItems_iff {items : List Json} :
    convertibleItems items = true ↔ ∀ item ∈ items, item.convertible = true := by
  induction items with
  | nil => simp [convertibleItems]
  | cons item rest ih => rw [convertibleItems, Bool.and_eq_true, ih, List.forall_mem_cons]

theorem convertibleMembers_iff {members : List (String × Json)} :
    convertibleMembers members = true ↔ ∀ member ∈ members, member.2.convertible = true := by
  induction members with
  | nil => simp [convertibleMembers]
  | cons member rest ih => rw [convertibleMembers, Bool.and_eq_true, ih, List.forall_mem_cons]

end Json

/-- `load_strict_json_bytes`: the members of the root object. -/
def loadStrictJsonBytes (material : ByteArray) (label : String) :
    Except IngestError (List (String × Json)) := do
  refuseIf (material.size = 0 ∨ maxJsonBytes < material.size)
    (.traceability (label ++ " size is outside the allowed range"))
  let value ← (Json.loadsBytes material).mapError (.notStrictJson label)
  refuseIf (value.convertible = false) .integerTooLong
  orRaise value.members? (.traceability (label ++ " root must be an object"))

/-- `_exact_fields`; the message of the source also lists the fields in question. -/
def exactFields (members : List (String × Json)) (expected : List String) (label : String) :
    Except IngestError Unit :=
  refuseIf (members.map Prod.fst ≠ expected) (.traceability (label ++ " fields are not exact"))

/-- `_required_text`. -/
def requiredText (members : List (String × Json)) (key label : String) :
    Except IngestError String := do
  let invalid : IngestError :=
    .traceability (label ++ "." ++ key ++ " must be nonempty canonical text")
  let item ← orRaise (WorkloadTrustSequenceState.readStr members key) invalid
  refuseIf (item = "" ∨ hasOuterWhitespace item = true) invalid
  pure item


/-- `_unique_sorted_strings` with `allow_empty=False`. -/
def uniqueSortedStrings (value : Option Json) (label : String) (maximum : Nat) :
    Except IngestError (List String) := do
  let counted : IngestError := .traceability (label ++ " must contain an allowed number of strings")
  let items ← orRaise (value.bind Json.items?) counted
  refuseIf (items = [] ∨ maximum < items.length) counted
  let nonempty : IngestError := .traceability (label ++ " must contain only nonempty strings")
  let texts ← orRaise (items.mapM Json.text?) nonempty
  refuseIf ("" ∈ texts) nonempty
  refuseIf (¬ texts.Pairwise (· < ·))
    (.traceability (label ++ " must be unique and lexically sorted"))
  pure texts

section

variable [TraceabilityPrimitives]

/-- `sha256_json`. -/
def sha256Json (value : Json) : String :=
  hexdigest (TraceabilityPrimitives.sha256 (Json.canonicalBytes value))

end

end AegisOt
