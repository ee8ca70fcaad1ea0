import AegisOt.Misc.Checks
import AegisOt.Misc.SortedMap
import Mathlib.Data.String.Basic

/-!
# JSON texts

The JSON values, writer and reader of Python's `json` module as a strict journal uses them:
`json.dumps` with `sort_keys=True`, `separators=(",", ":")`, `ensure_ascii=True`, and
`json.loads` with an `object_pairs_hook` that refuses duplicate keys and a `parse_constant`
that refuses `NaN` and the infinities. Nothing here names a program.

A `dict` is the list of its items in key order, so a well-formed object has strictly
increasing keys. A number is the token its `repr` writes. A string is a sequence of Unicode
scalar values: `json.loads` would keep a lone surrogate escape, which no strict reader of the
value accepts, and is refused here.
-/

namespace AegisOt

/-- JSON values. -/
inductive Json where
  | null
  | bool (value : Bool)
  | num (token : List Char)
  | str (text : String)
  | arr (items : List Json)
  | obj (members : List (String × Json))
  deriving Inhabited

namespace Json

/-! ## Numbers -/

/-- The longest run of decimal digits. -/
def spanDigits : List Char → List Char × List Char
  | [] => ([], [])
  | c :: rest =>
      if c.isDigit then
        let digits := spanDigits rest
        (c :: digits.1, digits.2)
      else ([], c :: rest)

/-- The whole part, `0|[1-9][0-9]*`. -/
def scanWhole : List Char → Option (List Char × List Char)
  | [] => none
  | c :: rest =>
      if c = '0' then some (['0'], rest)
      else if (spanDigits (c :: rest)).1 = [] then none
      else some (spanDigits (c :: rest))

/-- The optional fraction, `\.[0-9]+`. -/
def scanFraction : List Char → List Char × List Char
  | [] => ([], [])
  | c :: rest =>
      if c = '.' ∧ (spanDigits rest).1 ≠ [] then
        ('.' :: (spanDigits rest).1, (spanDigits rest).2)
      else ([], c :: rest)

/-- The sign of an exponent. -/
def scanSign : List Char → List Char × List Char
  | [] => ([], [])
  | c :: rest => if c = '+' ∨ c = '-' then ([c], rest) else ([], c :: rest)

/-- The optional exponent, `[eE][-+]?[0-9]+`. -/
def scanExponent : List Char → List Char × List Char
  | [] => ([], [])
  | c :: rest =>
      let digits := spanDigits (scanSign rest).2
      if (c = 'e' ∨ c = 'E') ∧ digits.1 ≠ [] then
        (c :: (scanSign rest).1 ++ digits.1, digits.2)
      else ([], c :: rest)

/-- An unsigned number token and the text after it. -/
def scanUnsigned (cs : List Char) : Option (List Char × List Char) :=
  (scanWhole cs).map (fun whole =>
    let fraction := scanFraction whole.2
    let exponent := scanExponent fraction.2
    (whole.1 ++ fraction.1 ++ exponent.1, exponent.2))

/-- `NUMBER_RE` of the `json` scanner: the number token at the start of a text. -/
def scanNumber : List Char → Option (List Char × List Char)
  | [] => none
  | c :: rest =>
      if c = '-' then (scanUnsigned rest).map (fun token => ('-' :: token.1, token.2))
      else scanUnsigned (c :: rest)

/-! ## Writer -/

/-- `\uXXXX`. -/
def escapeUnit (n : Nat) : List Char :=
  ['\\', 'u', Nat.digitChar (n / 4096 % 16), Nat.digitChar (n / 256 % 16),
    Nat.digitChar (n / 16 % 16), Nat.digitChar (n % 16)]

/-- `ESCAPE_DCT` and the `replace` function of `py_encode_basestring_ascii`. -/
def escapeChar (c : Char) : List Char :=
  if c = '"' then ['\\', '"']
  else if c = '\\' then ['\\', '\\']
  else if c = '\n' then ['\\', 'n']
  else if c = '\r' then ['\\', 'r']
  else if c = '\t' then ['\\', 't']
  else if c = '\x0c' then ['\\', 'f']
  else if c = '\x08' then ['\\', 'b']
  else if 32 ≤ c.toNat ∧ c.toNat ≤ 126 then [c]
  else if c.toNat < 0x10000 then escapeUnit c.toNat
  else escapeUnit (0xd800 + (c.toNat - 0x10000) / 1024) ++
    escapeUnit (0xdc00 + (c.toNat - 0x10000) % 1024)

/-- A string with its quotes. -/
def writeString (s : String) : List Char := '"' :: s.toList.flatMap escapeChar ++ ['"']

mutual

/-- The text of `json.dumps` for one value. -/
def write : Json → List Char
  | .null => ['n', 'u', 'l', 'l']
  | .bool true => ['t', 'r', 'u', 'e']
  | .bool false => ['f', 'a', 'l', 's', 'e']
  | .num token => token
  | .str text => writeString text
  | .arr [] => ['[', ']']
  | .arr (item :: rest) => '[' :: (write item ++ writeItems rest)
  | .obj [] => ['\x7b', '\x7d']
  | .obj (member :: rest) =>
      '\x7b' :: (writeString member.1 ++ ':' :: (write member.2 ++ writeMembers rest))

/-- The items after the first one, with the closing bracket. -/
def writeItems : List Json → List Char
  | [] => [']']
  | item :: rest => ',' :: (write item ++ writeItems rest)

/-- The members after the first one, with the closing brace. -/
def writeMembers : List (String × Json) → List Char
  | [] => ['\x7d']
  | member :: rest =>
      ',' :: (writeString member.1 ++ ':' :: (write member.2 ++ writeMembers rest))

end

/-- `json.dumps(value, ...).encode("utf-8")`. -/
def canonicalBytes (value : Json) : ByteArray := (String.ofList (write value)).toByteArray

/-- `json.dumps(value, ...).encode("utf-8") + b"\n"`. -/
def fileBytes (value : Json) : ByteArray := (String.ofList (write value ++ ['\n'])).toByteArray

/-! ## Reader -/

/-- What `json.loads` raises under the two hooks. -/
inductive LoadsError where
  | duplicateKey
  | value
  deriving DecidableEq, Repr

/-- JSON whitespace. -/
def isWhitespace (c : Char) : Bool := c = ' ' || c = '\n' || c = '\r' || c = '\t'

def skipWhitespace : List Char → List Char
  | [] => []
  | c :: rest => if isWhitespace c then skipWhitespace rest else c :: rest

/-- The value of one hexadecimal digit. -/
def hexValue (c : Char) : Option Nat :=
  if '0' ≤ c ∧ c ≤ '9' then some (c.toNat - 48)
  else if 'a' ≤ c ∧ c ≤ 'f' then some (c.toNat - 87)
  else if 'A' ≤ c ∧ c ≤ 'F' then some (c.toNat - 55)
  else none

/-- The four digits of a `\u` escape. -/
def readUnit : List Char → Option (Nat × List Char)
  | a :: b :: c :: d :: rest =>
      match hexValue a, hexValue b, hexValue c, hexValue d with
      | some a, some b, some c, some d => some (((a * 16 + b) * 16 + c) * 16 + d, rest)
      | _, _, _, _ => none
  | _ => none

/-- The rest of a literal name, and the text after it. -/
def readWord : List Char → List Char → Option (List Char)
  | [], rest => some rest
  | _ :: _, [] => none
  | c :: word, d :: rest => if c = d then readWord word rest else none

/-- The character of a `\u` escape, joining a surrogate pair. -/
def readUnicode (cs : List Char) : Option (Char × List Char) :=
  (readUnit cs).bind (fun high =>
    if 0xd800 ≤ high.1 ∧ high.1 < 0xdc00 then
      ((readWord ['\\', 'u'] high.2).bind readUnit).bind (fun low =>
        if 0xdc00 ≤ low.1 ∧ low.1 < 0xe000 then
          some (Char.ofNat (0x10000 + (high.1 - 0xd800) * 1024 + (low.1 - 0xdc00)), low.2)
        else none)
    else if 0xdc00 ≤ high.1 ∧ high.1 < 0xe000 then none
    else some (Char.ofNat high.1, high.2))

/-- The character after a backslash. -/
def readEscape : List Char → Option (Char × List Char)
  | [] => none
  | c :: rest =>
      if c = '"' then some ('"', rest)
      else if c = '\\' then some ('\\', rest)
      else if c = '/' then some ('/', rest)
      else if c = 'n' then some ('\n', rest)
      else if c = 'r' then some ('\r', rest)
      else if c = 't' then some ('\t', rest)
      else if c = 'f' then some ('\x0c', rest)
      else if c = 'b' then some ('\x08', rest)
      else if c = 'u' then readUnicode rest
      else none

/-- The string body up to its closing quote. -/
def readString : Nat → List Char → Option (List Char × List Char)
  | 0, _ => none
  | _ + 1, [] => none
  | fuel + 1, c :: rest =>
      if c = '"' then some ([], rest)
      else if c = '\\' then
        (readEscape rest).bind (fun e =>
          (readString fuel e.2).map (fun r => (e.1 :: r.1, r.2)))
      else if c.toNat < 32 then none
      else (readString fuel rest).map (fun r => (c :: r.1, r.2))

/-- `_closed_object`: build the dictionary, refusing a key that is already there. -/
def closedObject (value : List (String × Json)) :
    List (String × Json) → Except LoadsError (List (String × Json))
  | [] => .ok value
  | (key, item) :: rest =>
      if (lookupEntry key value).isSome then .error .duplicateKey
      else closedObject (insertSorted key item value) rest

mutual

/-- One value. `fuel` bounds the nesting and the text read. -/
def readValue : Nat → List Char → Except LoadsError (Json × List Char)
  | 0, _ => .error .value
  | fuel + 1, cs =>
      match skipWhitespace cs with
      | [] => .error .value
      | c :: rest =>
          if c = 'n' then do
            let rest ← orRaise (readWord ['u', 'l', 'l'] rest) .value
            .ok (.null, rest)
          else if c = 't' then do
            let rest ← orRaise (readWord ['r', 'u', 'e'] rest) .value
            .ok (.bool true, rest)
          else if c = 'f' then do
            let rest ← orRaise (readWord ['a', 'l', 's', 'e'] rest) .value
            .ok (.bool false, rest)
          else if c = '"' then do
            let text ← orRaise (readString fuel rest) .value
            .ok (.str (String.ofList text.1), text.2)
          else if c = '[' then
            if (skipWhitespace rest).head? = some ']' then .ok (.arr [], (skipWhitespace rest).tail)
            else do
              let items ← readItems fuel rest
              .ok (.arr items.1, items.2)
          else if c = '\x7b' then
            if (skipWhitespace rest).head? = some '\x7d' then
              .ok (.obj [], (skipWhitespace rest).tail)
            else do
              let pairs ← readMembers fuel rest
              let members ← closedObject [] pairs.1
              .ok (.obj members, pairs.2)
          else do
            let number ← orRaise (scanNumber (c :: rest)) .value
            .ok (.num number.1, number.2)

/-- The items of a nonempty array, with the closing bracket. -/
def readItems : Nat → List Char → Except LoadsError (List Json × List Char)
  | 0, _ => .error .value
  | fuel + 1, cs => do
      let item ← readValue fuel cs
      match skipWhitespace item.2 with
      | [] => .error .value
      | c :: rest =>
          if c = ',' then do
            let items ← readItems fuel rest
            .ok (item.1 :: items.1, items.2)
          else if c = ']' then .ok ([item.1], rest)
          else .error .value

/-- The members of a nonempty object, with the closing brace. -/
def readMembers : Nat → List Char → Except LoadsError (List (String × Json) × List Char)
  | 0, _ => .error .value
  | fuel + 1, cs => do
      let start ← orRaise (readWord ['"'] (skipWhitespace cs)) .value
      let key ← orRaise (readString fuel start) .value
      let value ← orRaise (readWord [':'] (skipWhitespace key.2)) .value
      let item ← readValue fuel value
      match skipWhitespace item.2 with
      | [] => .error .value
      | c :: rest =>
          if c = ',' then do
            let members ← readMembers fuel rest
            .ok ((String.ofList key.1, item.1) :: members.1, members.2)
          else if c = '\x7d' then .ok ([(String.ofList key.1, item.1)], rest)
          else .error .value

end

/-- `json.loads` on a decoded text: one value and nothing after it but whitespace. -/
def loads (text : List Char) : Except LoadsError Json := do
  let value ← readValue (text.length + 1) text
  match skipWhitespace value.2 with
  | [] => .ok value.1
  | _ :: _ => .error .value

/-- `json.loads(material.decode("utf-8", errors="strict"), ...)`. -/
def loadsBytes (material : ByteArray) : Except LoadsError Json :=
  match String.fromUTF8? material with
  | none => .error .value
  | some text => loads text.toList

/-! ## Well-formed values -/

mutual

/-- Number tokens are number tokens and object keys increase strictly. -/
def wellFormed : Json → Bool
  | .null => true
  | .bool _ => true
  | .num token => decide (scanNumber token = some (token, []))
  | .str _ => true
  | .arr items => wellFormedItems items
  | .obj members => decide (KeysSorted members) && wellFormedMembers members

def wellFormedItems : List Json → Bool
  | [] => true
  | item :: rest => wellFormed item && wellFormedItems rest

def wellFormedMembers : List (String × Json) → Bool
  | [] => true
  | member :: rest => wellFormed member.2 && wellFormedMembers rest

end

end Json

/-- A `dict` of JSON values, its items in key order. -/
structure JsonObject where
  members : List (String × Json)
  wellFormed : (Json.obj members).wellFormed = true

end AegisOt
