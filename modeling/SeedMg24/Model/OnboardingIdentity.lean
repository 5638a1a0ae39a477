import SeedMg24.Foundation.Json
import SeedMg24.Foundation.Sha256
import SeedMg24.Model.UsbBootstrap

/-!
# Onboarding identities

The hash of `sha256_minimal.cpp`, the payload a node publishes its onboarding identity in, and the
derivation of the identity on the gateway in `ble/onboarding_identity.py`.
-/

set_option autoImplicit false

namespace SeedMg24.Model

open Foundation Foundation.Json

/-! ## The hash -/

namespace Sha256Minimal

/-- SOURCE: sha256_minimal.cpp:6-15 -/
def k : List UInt32 := [
  0x428a2f98, 0x71374491, 0xb5c0fbcf, 0xe9b5dba5, 0x3956c25b, 0x59f111f1, 0x923f82a4, 0xab1c5ed5,
  0xd807aa98, 0x12835b01, 0x243185be, 0x550c7dc3, 0x72be5d74, 0x80deb1fe, 0x9bdc06a7, 0xc19bf174,
  0xe49b69c1, 0xefbe4786, 0x0fc19dc6, 0x240ca1cc, 0x2de92c6f, 0x4a7484aa, 0x5cb0a9dc, 0x76f988da,
  0x983e5152, 0xa831c66d, 0xb00327c8, 0xbf597fc7, 0xc6e00bf3, 0xd5a79147, 0x06ca6351, 0x14292967,
  0x27b70a85, 0x2e1b2138, 0x4d2c6dfc, 0x53380d13, 0x650a7354, 0x766a0abb, 0x81c2c92e, 0x92722c85,
  0xa2bfe8a1, 0xa81a664b, 0xc24b8b70, 0xc76c51a3, 0xd192e819, 0xd6990624, 0xf40e3585, 0x106aa070,
  0x19a4c116, 0x1e376c08, 0x2748774c, 0x34b0bcb5, 0x391c0cb3, 0x4ed8aa4a, 0x5b9cca4f, 0x682e6ff3,
  0x748f82ee, 0x78a5636f, 0x84c87814, 0x8cc70208, 0x90befffa, 0xa4506ceb, 0xbef9a3f7, 0xc67178f2]

/-- SOURCE: sha256_minimal.cpp:17-19 -/
def rotateRight (value : UInt32) (bits : UInt8) : UInt32 :=
  (value >>> bits.toUInt32) ||| (value <<< (32 - bits.toUInt32))

/-- A word of a block.
SOURCE: sha256_minimal.cpp:24-25 -/
def blockWord (block : List UInt8) (i : ℕ) : UInt32 :=
  (block.getD (i * 4) 0).toUInt32 <<< 24 ||| (block.getD (i * 4 + 1) 0).toUInt32 <<< 16 |||
    (block.getD (i * 4 + 2) 0).toUInt32 <<< 8 ||| (block.getD (i * 4 + 3) 0).toUInt32

/-- `words[i]`, from the words before it.
SOURCE: sha256_minimal.cpp:28-30 -/
def nextWord (words : List UInt32) (i : ℕ) : UInt32 :=
  let s0 := rotateRight (words.getD (i - 15) 0) 7 ^^^ rotateRight (words.getD (i - 15) 0) 18 ^^^
    (words.getD (i - 15) 0 >>> 3)
  let s1 := rotateRight (words.getD (i - 2) 0) 17 ^^^ rotateRight (words.getD (i - 2) 0) 19 ^^^
    (words.getD (i - 2) 0 >>> 10)
  words.getD (i - 16) 0 + s0 + words.getD (i - 7) 0 + s1

/-- The array `words`, filled from the front.
SOURCE: sha256_minimal.cpp:22-31 -/
def words (block : List UInt8) : List UInt32 :=
  (List.range' 16 48).foldl (fun words i => words ++ [nextWord words i])
    ((List.range 16).map (blockWord block))

/-- The body of the loop of `transform`.
SOURCE: sha256_minimal.cpp:34-40 -/
def step (words : List UInt32) (v : Sha256.Words) (i : ℕ) : Sha256.Words :=
  let s1 := rotateRight v.e 6 ^^^ rotateRight v.e 11 ^^^ rotateRight v.e 25
  let choice := (v.e &&& v.f) ^^^ (~~~v.e &&& v.g)
  let temp1 := v.h + s1 + choice + k.getD i 0 + words.getD i 0
  let s0 := rotateRight v.a 2 ^^^ rotateRight v.a 13 ^^^ rotateRight v.a 22
  let majority := (v.a &&& v.b) ^^^ (v.a &&& v.c) ^^^ (v.b &&& v.c)
  let temp2 := s0 + majority
  { h := v.g, g := v.f, f := v.e, e := v.d + temp1, d := v.c, c := v.b, b := v.a, a := temp1 + temp2 }

/-- SOURCE: sha256_minimal.cpp:21-44 -/
def transform (state : Sha256.Words) (block : List UInt8) : Sha256.Words :=
  let words := words block
  let v := (List.range 64).foldl (step words) state
  { a := state.a + v.a, b := state.b + v.b, c := state.c + v.c, d := state.d + v.d
    e := state.e + v.e, f := state.f + v.f, g := state.g + v.g, h := state.h + v.h }

/-- SOURCE: sha256_minimal.cpp:48 -/
def initialState : Sha256.Words :=
  ⟨0x6a09e667, 0xbb67ae85, 0x3c6ef372, 0xa54ff53a, 0x510e527f, 0x9b05688c, 0x1f83d9ab, 0x5be0cd19⟩

/-- The loop over whole blocks: the state after it, and what is left.
SOURCE: sha256_minimal.cpp:49-50 -/
def wholeBlocks : ℕ → Sha256.Words → List UInt8 → Sha256.Words × List UInt8
  | 0, state, data => (state, data)
  | fuel + 1, state, data =>
    if data.length ≥ 64 then wholeBlocks fuel (transform state (data.take 64)) (data.drop 64)
    else (state, data)

/-- The last bytes, padded in a buffer of two blocks: the buffer, and how much of it counts.
SOURCE: sha256_minimal.cpp:51-57 -/
def paddedTail (rest : List UInt8) (length : UInt32) : List UInt8 × ℕ :=
  let remaining := rest.length
  let tail := rest ++ List.replicate (128 - remaining) 0
  let tail := tail.set remaining 0x80
  let padded := if remaining < 56 then 64 else 128
  let bits : UInt64 := length.toUInt64 * 8
  ((List.range 8).foldl
    (fun tail i => tail.set (padded - 1 - i) (bits >>> UInt64.ofNat (i * 8)).toUInt8) tail, padded)

/-- `sha256_compute`: the digest of some bytes, whose number is a `size_t` of 32 bits.
SOURCE: sha256_minimal.cpp:47-64 -/
def sha256Compute (data : List UInt8) : List UInt8 :=
  let (state, rest) := wholeBlocks data.length initialState data
  let (tail, padded) := paddedTail rest (UInt32.ofNat data.length)
  let state := transform state (tail.take 64)
  let state := if padded = 128 then transform state (tail.drop 64) else state
  [state.a, state.b, state.c, state.d, state.e, state.f, state.g, state.h].flatMap fun word : UInt32 =>
    [(word >>> 24).toUInt8, (word >>> 16).toUInt8, (word >>> 8).toUInt8, word.toUInt8]

end Sha256Minimal

/-! ## The node -/

/-- A byte in small hexadecimal digits. -/
def hexLower (byte : UInt8) : Text := [Nat.digitChar (byte.toNat / 16), Nat.digitChar (byte.toNat % 16)]

/-- SOURCE: xiao_mg24_sensor_node.ino:820 -/
def onboardingDomain : Text := "MG24-ONBOARDING-V1".toList

/-- The identity a node without one shows before it is provisioned.
SOURCE: xiao_mg24_sensor_node.ino:816-827 -/
def onboardingIdentity (hardwareId : UInt64) : Text :=
  let digestInput := Text.toBytes onboardingDomain ++ Text.toBytes (hardwareIdText hardwareId)
  ((Sha256Minimal.sha256Compute digestInput).take 16).flatMap hexLower

/-- `sizeof(onboarding_identity_json)`. -/
def onboardingIdentitySize : ℕ := 192

/-- The payload of the characteristic.
SOURCE: xiao_mg24_sensor_node.ino:809-836 -/
def onboardingIdentityJson (bootstrapOnly : Bool) (hardwareId : UInt64)
    (resetRecoveryStatus : StoreStatus) : Text :=
  if !bootstrapOnly then
    Text.snprintf onboardingIdentitySize
      ("\x7b\"schema_version\":1,\"provisioning_state\":\"provisioned\",\"protocol_version\":\"".toList ++
        PROTOCOL_VERSION ++ "\"\x7d".toList)
  else
    Text.snprintf onboardingIdentitySize
      ("\x7b\"schema_version\":1,\"onboarding_identity\":\"".toList ++ onboardingIdentity hardwareId ++
        "\",\"provisioning_state\":\"".toList ++
        (if resetRecoveryStatus = .ok then "unprovisioned" else "recovery").toList ++
        "\",\"protocol_version\":\"".toList ++ PROTOCOL_VERSION ++
        "\",\"firmware_version\":\"".toList ++ FIRMWARE_VERSION ++ "\"\x7d".toList)

/-! ## The gateway -/

namespace Onboarding

/-- `OnboardingIdentityError` with its message. -/
structure OnboardingIdentityError where
  message : Text
deriving DecidableEq, Repr

/-- SOURCE: onboarding_identity.py:5 -/
def DOMAIN : List UInt8 := Text.toBytes "MG24-ONBOARDING-V1".toList

/-- `^0x[0-9A-F]{16}$`, matched in full.
SOURCE: onboarding_identity.py:6 -/
def hardwareIdPattern (s : Text) : Bool :=
  "0x".toList.isPrefixOf s && (s.drop 2).length = 16 &&
    (s.drop 2).all fun c => c.isDigit || ('A' ≤ c && c ≤ 'F')

/-- `str.removeprefix`. -/
def withoutPrefix (start s : Text) : Text := if start.isPrefixOf s then s.drop start.length else s

/-- The canonical form of a hardware id of ASCII characters.
SOURCE: onboarding_identity.py:15-21 -/
def canonicalHardwareId (value : Text) : Except OnboardingIdentityError Text :=
  let normalized := "0x".toList ++
    (withoutPrefix "0X".toList (withoutPrefix "0x".toList value)).map Char.toUpper
  if !hardwareIdPattern normalized then
    throw ⟨"hardware ID must contain exactly 16 hexadecimal digits".toList⟩
  else return normalized

/-- The identity of a hardware id; `sha256` is the one of `hashlib`, from bytes to 32 bytes.
SOURCE: onboarding_identity.py:24-26 -/
def deriveOnboardingIdentity (sha256 : List UInt8 → List UInt8) (hardwareId : Text) :
    Except OnboardingIdentityError Text := do
  let canonical ← canonicalHardwareId hardwareId
  return ((sha256 (DOMAIN ++ Text.toBytes canonical)).flatMap hexLower).take 32

/-- SOURCE: onboarding_identity.py:8 -/
def MAX_PAYLOAD_BYTES : ℕ := 192

/-- `^[0-9a-f]{32}$`, matched in full.
SOURCE: onboarding_identity.py:7 -/
def identityPattern (s : Text) : Bool :=
  s.length = 32 && s.all fun c => c.isDigit || ('a' ≤ c && c ≤ 'f')

/-- Whether a member is a text. -/
def isText (j : Option Json) : Bool :=
  match j with
  | some (.str _) => true
  | _ => false

/-- A payload of ASCII characters, one a byte.
SOURCE: onboarding_identity.py:29-51 -/
def parseOnboardingPayload (raw : Text) : Except OnboardingIdentityError Json := do
  if raw = [] ∨ raw.length > MAX_PAYLOAD_BYTES then
    throw ⟨"onboarding identity payload is empty or oversized".toList⟩
  match loads (raw.rdropWhile (· = '\x00')) with
  | none => throw ⟨"onboarding identity payload is malformed".toList⟩
  | some payload =>
    if !isInt (payload.get? "schema_version".toList) 1 then
      throw ⟨"onboarding identity schema is unsupported".toList⟩
    let state := payload.get? "provisioning_state".toList
    if isStr state "provisioned".toList then
      if (payload.get? "onboarding_identity".toList).isSome then
        throw ⟨"provisioned response exposed a bootstrap identity".toList⟩
      return payload
    if !isStr state "unprovisioned".toList && !isStr state "recovery".toList then
      throw ⟨"onboarding identity is unavailable".toList⟩
    match payload.get? "onboarding_identity".toList with
    | some (.str identity) =>
      if !identityPattern identity then
        throw ⟨"onboarding identity encoding is invalid".toList⟩
    | _ => throw ⟨"onboarding identity encoding is invalid".toList⟩
    if !isText (payload.get? "protocol_version".toList) ||
        !isText (payload.get? "firmware_version".toList) then
      throw ⟨"onboarding compatibility versions are missing".toList⟩
    return payload

end Onboarding

end SeedMg24.Model
