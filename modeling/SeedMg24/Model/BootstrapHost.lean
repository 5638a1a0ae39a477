import Mathlib.Data.Char
import Mathlib.Data.List.Lex
import Mathlib.Data.List.Sort
import SeedMg24.Foundation.Json
import SeedMg24.Model.BleProvisioning

/-!
# The bootstrap protocol on the host

The requests and responses of `tools/bootstrap/protocol.py`.  All bytes of a line are ASCII, so a
line is a text.
-/

set_option autoImplicit false

namespace SeedMg24.Model

open Foundation Foundation.Json

namespace BootstrapHost

/-- SOURCE: protocol.py:8-11 -/
def PREFIX : Text := "MG24BOOT1 ".toList
def SCHEMA_VERSION : ℕ := 1
def MAX_LINE_BYTES : ℕ := 768
def MAX_REQUEST_ID : ℕ := 40

/-- SOURCE: protocol.py:14-25 -/
def ALLOWED_ACTIONS : List Text := [
  "read_node_state".toList, "read_identity".toList, "provision_identity".toList,
  "read_configuration".toList, "backup_state".toList, "verify_state".toList,
  "restore_configuration".toList, "prepare_factory_reset".toList,
  "confirm_factory_reset".toList, "cancel_factory_reset".toList]

/-- `ProtocolError` with its message. -/
structure ProtocolError where
  message : Text
deriving DecidableEq, Repr

/-! ## Canonical JSON -/

/-- A parameter of a request. -/
inductive FieldValue where
  | string (s : Text)
  | integer (z : ℤ)
deriving DecidableEq, Repr

/-- The escape of a code unit of 16 bits. -/
def unicodeEscape (unit : ℕ) : Text :=
  "\\u".toList ++ (List.range 4).reverse.map fun i => Nat.digitChar (unit / 16 ^ i % 16)

/-- A character of a string that `json.dumps` prints with `ensure_ascii`. -/
def dumpsChar (c : Char) : Text :=
  if c = '"' then "\\\"".toList
  else if c = '\\' then "\\\\".toList
  else if c = '\n' then "\\n".toList
  else if c = '\r' then "\\r".toList
  else if c = '\t' then "\\t".toList
  else if c = '\x08' then "\\b".toList
  else if c = '\x0c' then "\\f".toList
  else if 0x20 ≤ c.toNat ∧ c.toNat ≤ 0x7E then [c]
  else if c.toNat < 0x10000 then unicodeEscape c.toNat
  else unicodeEscape (0xD800 + (c.toNat - 0x10000) / 0x400) ++
    unicodeEscape (0xDC00 + (c.toNat - 0x10000) % 0x400)

/-- `json.dumps` of a string, without its quotes. -/
def dumpsString (s : Text) : Text := s.flatMap dumpsChar

/-- `json.dumps` of a value. -/
def FieldValue.dumps : FieldValue → Text
  | .string s => '"' :: dumpsString s ++ ['"']
  | .integer z => str z

/-- A dictionary: its items, each key once, oldest first. -/
abbrev Dict := List (Text × FieldValue)

/-- `body[key] = value`. -/
def Dict.set : Dict → Text → FieldValue → Dict
  | [], key, value => [(key, value)]
  | (k, v) :: body, key, value =>
    if k = key then (k, value) :: body else (k, v) :: Dict.set body key value

/-- `body.update(fields)`. -/
def Dict.update (body fields : Dict) : Dict := fields.foldl (fun body (key, value) => body.set key value) body

/-- The items of a dictionary by their keys.
SOURCE: protocol.py:33 -/
def sortKeys (body : Dict) : Dict := body.insertionSort fun a b => a.1 ≤ b.1

/-- SOURCE: protocol.py:32-33 -/
def canonicalJson (body : Dict) : Text :=
  objectText ((sortKeys body).map fun item => (dumpsString item.1, item.2.dumps))

/-! ## Requests -/

/-- The short name of a parameter of a confirmation.
SOURCE: protocol.py:48-51 -/
def aliasOf (key : Text) : Text :=
  if key = "reset_protocol_version".toList then "rv".toList
  else if key = "scope".toList then "s".toList
  else if key = "expected_hardware_id".toList then "h".toList
  else if key = "operation_id".toList then "op".toList
  else if key = "challenge".toList then "c".toList
  else key

/-- SOURCE: protocol.py:47-58 -/
def requestBody (requestId action : Text) (fields : Dict) : Dict :=
  if action = "confirm_factory_reset".toList then
    Dict.update [("t".toList, .string "bootstrap_request".toList),
      ("v".toList, .integer SCHEMA_VERSION), ("id".toList, .string requestId),
      ("a".toList, .string action)]
        (Dict.update [] (fields.map fun item => (aliasOf item.1, item.2)))
  else
    Dict.update [("type".toList, .string "bootstrap_request".toList),
      ("schema_version".toList, .integer SCHEMA_VERSION), ("request_id".toList, .string requestId),
      ("action".toList, .string action)] fields

/-- `[A-Za-z0-9_-]+`, matched in full, and not too long.
SOURCE: protocol.py:43 -/
def validRequestId (requestId : Text) : Bool :=
  !requestId.isEmpty && requestId.length ≤ MAX_REQUEST_ID && requestId.all isBare

/-- SOURCE: protocol.py:42-62 -/
def encodeRequest (requestId action : Text) (fields : Dict) : Except ProtocolError Text :=
  if !validRequestId requestId then throw ⟨"invalid request_id".toList⟩
  else if action ∉ ALLOWED_ACTIONS then throw ⟨"unknown action".toList⟩
  else
    let line := PREFIX ++ canonicalJson (requestBody requestId action fields) ++ "\n".toList
    if line.length > MAX_LINE_BYTES then throw ⟨"request exceeds line limit".toList⟩
    else return line

/-! ## Responses -/

/-- SOURCE: protocol.py:72 -/
def requiredKeys : List Text :=
  ["type".toList, "schema_version".toList, "request_id".toList, "action".toList, "status".toList]

/-- SOURCE: protocol.py:65-81 -/
def decodeResponse (line requestId action : Text) : Except ProtocolError Json :=
  if line.length > MAX_LINE_BYTES ∨ !PREFIX.isPrefixOf line then
    throw ⟨"invalid response framing".toList⟩
  else match loads (line.drop PREFIX.length) with
    | none => throw ⟨"malformed response".toList⟩
    | some body =>
      if !requiredKeys.all fun key => (body.get? key).isSome then
        throw ⟨"incomplete response".toList⟩
      else if !isStr (body.get? "type".toList) "bootstrap_response".toList ||
          !isInt (body.get? "schema_version".toList) SCHEMA_VERSION then
        throw ⟨"unsupported response".toList⟩
      else if !isStr (body.get? "request_id".toList) requestId ||
          !isStr (body.get? "action".toList) action then
        throw ⟨"response correlation mismatch".toList⟩
      else if !isStr (body.get? "status".toList) "success".toList &&
          !isStr (body.get? "status".toList) "error".toList then
        throw ⟨"invalid response status".toList⟩
      else return body

end BootstrapHost

end SeedMg24.Model
