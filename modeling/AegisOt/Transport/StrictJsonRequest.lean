import AegisOt.Misc.JsonHooks
import AegisOt.Misc.Text

/-!
# Strict JSON requests

`strict_json_request.py`: the boundary parser that rejects an ambiguous representation of a
request before a model sees it. The request is what the server's framework gives of it: the
values of the headers by their names, and the chunks of the body as they come. The text of a
header is the list of its characters.
-/

namespace AegisOt

/-- `MAX_JSON_BYTES` of `segmented_capability_transport.py`. -/
def segmentedMaxJsonBytes : ℕ := 1024 * 1024

/-- `StrictJsonRequestReason`. -/
inductive StrictJsonRequestReason where
  | contentTypeRequired
  | contentLengthRequired
  | contentLengthInvalid
  | contentLengthMismatch
  | bodyTooLarge
  | bodyIncomplete
  | utf8BomForbidden
  | invalidUtf8
  | invalidJson
  | duplicateJsonKey
  | nonfiniteJsonNumber
  | jsonRootNotObject
  | modelValidationFailed
  deriving DecidableEq, Repr

namespace StrictJsonRequestReason

def value : StrictJsonRequestReason → String
  | .contentTypeRequired => "content_type_must_be_application_json"
  | .contentLengthRequired => "content_length_required"
  | .contentLengthInvalid => "content_length_invalid"
  | .contentLengthMismatch => "content_length_mismatch"
  | .bodyTooLarge => "request_body_too_large"
  | .bodyIncomplete => "request_body_incomplete"
  | .utf8BomForbidden => "utf8_bom_forbidden"
  | .invalidUtf8 => "invalid_utf8"
  | .invalidJson => "invalid_json"
  | .duplicateJsonKey => "duplicate_json_key"
  | .nonfiniteJsonNumber => "nonfinite_json_number"
  | .jsonRootNotObject => "json_root_must_be_object"
  | .modelValidationFailed => "request_model_validation_failed"

end StrictJsonRequestReason

/-- A `StrictJsonRequestError` with its status code and reason, or a `ValueError`. -/
inductive StrictJsonRequestError where
  | rejected (statusCode : ℕ) (reason : StrictJsonRequestReason)
  | valueError (message : String)
  deriving DecidableEq, Repr

/-- A request: `request.headers.getlist`, and what `request.stream()` yields, at the end of which
    the client may have disconnected. -/
structure Request where
  getlist : String → List (List Char)
  chunks : List (List UInt8)
  disconnected : Bool

/-- `_reject` under a condition. -/
def rejectIf (refused : Prop) [Decidable refused] (statusCode : ℕ)
    (reason : StrictJsonRequestReason) : Except StrictJsonRequestError Unit :=
  refuseIf refused (.rejected statusCode reason)

/-! ## Headers -/

/-- `_one_header`. -/
def oneHeader (request : Request) (name : String) :
    Except StrictJsonRequestError (Option (List Char)) :=
  match request.getlist name with
  | [] => .ok none
  | [value] => .ok (some value)
  | _ =>
      if name = "content-length" then .error (.rejected 400 .contentLengthInvalid)
      else .error (.rejected 415 .contentTypeRequired)

/-- `APPLICATION_JSON`. -/
def applicationJson : List Char := "application/json".toList

/-- `charset`, without its quotes. -/
def unquote (charset : List Char) : Except StrictJsonRequestError (List Char) :=
  if charset.head? = some '"' ∨ charset.getLast? = some '"' then do
    rejectIf (charset.length < 2 ∨ charset.head? ≠ some '"' ∨ charset.getLast? ≠ some '"') 415
      .contentTypeRequired
    .ok (charset.drop 1).dropLast
  else .ok charset

/-- The checks of the parameter of a content type. -/
def requireCharset (parameter : List Char) : Except StrictJsonRequestError Unit := do
  let (name, value) := Text.partition '=' parameter
  let charset ← unquote (Text.lower (Text.strip (value.getD [])))
  rejectIf (value = none ∨ Text.lower (Text.strip name) ≠ "charset".toList ∨
    charset ∉ ["utf-8".toList, "utf8".toList]) 415 .contentTypeRequired

/-- The checks of a content type. -/
def requireMediaType (contentType : List Char) : Except StrictJsonRequestError Unit :=
  match (contentType.splitOn ';').map Text.strip with
  | [] => .error (.rejected 415 .contentTypeRequired)
  | mediaType :: parameters => do
      rejectIf (Text.lower mediaType ≠ applicationJson) 415 .contentTypeRequired
      match parameters with
      | [] => .ok ()
      | [parameter] => do
          rejectIf (parameter = []) 415 .contentTypeRequired
          requireCharset parameter
      | _ => .error (.rejected 415 .contentTypeRequired)

/-- `_require_application_json`. -/
def requireApplicationJson (request : Request) : Except StrictJsonRequestError Unit := do
  let header ← oneHeader request "content-type"
  let contentType ← orRaise header (.rejected 415 .contentTypeRequired)
  requireMediaType contentType

/-- `int(text)` of a text of decimal digits. -/
def digitsValue (text : List Char) : ℕ :=
  text.foldl (fun value digit => 10 * value + (digit.toNat - '0'.toNat)) 0

/-- `text.isascii() and text.isdecimal()`. -/
def isAsciiDecimal (text : List Char) : Bool := text != [] && text.all Char.isDigit

/-- `_require_content_length`. -/
def requireContentLength (request : Request) (maxBytes : ℕ) : Except StrictJsonRequestError ℕ := do
  let header ← oneHeader request "content-length"
  let rawLength ← orRaise header (.rejected 411 .contentLengthRequired)
  rejectIf (isAsciiDecimal rawLength = false ∨ (toString maxBytes).length < rawLength.length) 400
    .contentLengthInvalid
  let declaredLength := digitsValue rawLength
  rejectIf (maxBytes < declaredLength) 413 .bodyTooLarge
  .ok declaredLength

/-! ## The body -/

/-- One pass of the loop over the stream. -/
def extendMaterial (declaredLength maxBytes : ℕ) (material chunk : List UInt8) :
    Except StrictJsonRequestError (List UInt8) := do
  let nextLength := material.length + chunk.length
  rejectIf (maxBytes < nextLength) 413 .bodyTooLarge
  rejectIf (declaredLength < nextLength) 400 .contentLengthMismatch
  .ok (material ++ chunk)

/-- The loop over some chunks of the stream. -/
def readChunks (chunks : List (List UInt8)) (declaredLength maxBytes : ℕ) :
    Except StrictJsonRequestError (List UInt8) :=
  chunks.foldlM (extendMaterial declaredLength maxBytes) []

/-- `_read_bounded_body`. -/
def readBoundedBody (request : Request) (declaredLength maxBytes : ℕ) :
    Except StrictJsonRequestError (List UInt8) := do
  let material ← readChunks request.chunks declaredLength maxBytes
  rejectIf (request.disconnected = true) 400 .bodyIncomplete
  rejectIf (material.length ≠ declaredLength) 400 .contentLengthMismatch
  .ok material

/-! ## The JSON text -/

/-- What `json.loads` raises with the two hooks: `_DuplicateJsonKey`, `_NonfiniteJsonNumber`, or
    one of the errors of the decoder. -/
inductive JsonLoadsError where
  | duplicateJsonKey
  | nonfiniteJsonNumber
  | decoder
  deriving DecidableEq, Repr

/-- The decoder of the `json` module: the value that it recognises in a text, or, where it gives
    up, the values that were complete by then and for which its hooks were called. -/
class JsonDecoder where
  recognise : List Char → Except (List RawJson) RawJson

/-- The loop of `_unique_object`. -/
def uniqueObjectFrom (result : List (List ℕ × RawJson)) :
    List (List ℕ × RawJson) → Except JsonLoadsError (List (List ℕ × RawJson))
  | [] => .ok result
  | (name, value) :: rest => do
      refuseIf (name ∈ result.map Prod.fst) .duplicateJsonKey
      uniqueObjectFrom (result ++ [(name, value)]) rest

/-- `_unique_object`. -/
def uniqueObject (pairs : List (List ℕ × RawJson)) :
    Except JsonLoadsError (List (List ℕ × RawJson)) := uniqueObjectFrom [] pairs

/-- `_reject_constant`. -/
def rejectConstant (_value : List Char) : Except JsonLoadsError RawJson :=
  .error .nonfiniteJsonNumber

/-- The bytes of the byte-order mark. -/
def utf8Bom : List UInt8 := [0xef, 0xbb, 0xbf]

section

variable [JsonDecoder]

/-- `json.loads(decoded, object_pairs_hook=_unique_object, parse_constant=_reject_constant)`. -/
def jsonLoads (decoded : List Char) : Except JsonLoadsError RawJson :=
  match JsonDecoder.recognise decoded with
  | .ok value => value.hooked uniqueObject rejectConstant
  | .error complete => do
      let _ ← complete.mapM (RawJson.hooked uniqueObject rejectConstant)
      .error .decoder

/-- The reason for which an error of `json.loads` is rejected. -/
def JsonLoadsError.reason : JsonLoadsError → StrictJsonRequestReason
  | .duplicateJsonKey => .duplicateJsonKey
  | .nonfiniteJsonNumber => .nonfiniteJsonNumber
  | .decoder => .invalidJson

/-- `_prevalidate_json_object`. -/
def prevalidateJsonObject (material : List UInt8) : Except StrictJsonRequestError Unit := do
  rejectIf (utf8Bom <+: material) 400 .utf8BomForbidden
  let decoded ← orRaise (String.fromUTF8? ⟨material.toArray⟩) (.rejected 400 .invalidUtf8)
  let value ← (jsonLoads decoded.toList).mapError fun error =>
    (.rejected 400 error.reason : StrictJsonRequestError)
  rejectIf (value.isObject = false) 400 .jsonRootNotObject

/-- `_strict_json_material`. -/
def strictJsonMaterial (request : Request) (maxBytes : ℕ) :
    Except StrictJsonRequestError (List UInt8) := do
  refuseIf (maxBytes < 1 ∨ segmentedMaxJsonBytes < maxBytes)
    (.valueError "max_bytes must be within the M4g JSON size limit")
  requireApplicationJson request
  let declaredLength ← requireContentLength request maxBytes
  let material ← readBoundedBody request declaredLength maxBytes
  prevalidateJsonObject material
  .ok material

end

end AegisOt
