import SeedMg24.Foundation.IntelHex
import SeedMg24.Foundation.Json

/-!
# Firmware images

`inspect_intel_hex` and the `ApprovedFirmwareCatalog` of `services/firmware_installation.py`.  The
hash of `hashlib` is a parameter; the artifact behind a path comes with the catalog.
-/

set_option autoImplicit false

namespace SeedMg24.Model

open Foundation Foundation.IntelHex

/-! ## Python's texts -/

/-- The characters `str.splitlines` breaks a line at, of those a text of ASCII characters can have. -/
def isLineBreak (c : Char) : Bool :=
  c == '\n' || c == '\r' || c == '\x0b' || c == '\x0c' || c == '\x1c' || c == '\x1d' || c == '\x1e'

/-- `str.splitlines`, from the part of the line that is read. -/
def splitLinesFrom (line : Text) : Text → List Text
  | [] => if line = [] then [] else [line]
  | '\r' :: '\n' :: s => line :: splitLinesFrom [] s
  | c :: s => if isLineBreak c then line :: splitLinesFrom [] s else splitLinesFrom (line ++ [c]) s

/-- `str.splitlines` of a text of ASCII characters. -/
def splitLines (s : Text) : List Text := splitLinesFrom [] s

/-- `bytes.fromhex`: pairs of digits, with space between them. -/
def fromHex : Text → Option (List UInt8)
  | [] => some []
  | [c] => if Text.isSpaceAscii c then some [] else none
  | c :: d :: s =>
    if Text.isSpaceAscii c then fromHex (d :: s)
    else match Json.hexDigit c, Json.hexDigit d with
      | some high, some low => (fromHex s).map (UInt8.ofNat (16 * high + low) :: ·)
      | _, _ => none

/-- The digits of a number, with single underscores between them. -/
def intDigits (n : ℕ) : Text → Option ℕ
  | [] => some n
  | '_' :: c :: s => (Json.hexDigit c).bind fun digit => intDigits (16 * n + digit) s
  | c :: s => (Json.hexDigit c).bind fun digit => intDigits (16 * n + digit) s

/-- `int(s, 16)` of a text of ASCII characters. -/
def parseInt16 (s : Text) : Option ℤ :=
  let (negative, s) := Json.signed (Text.strip s)
  let isPrefixed := "0x".toList.isPrefixOf s || "0X".toList.isPrefixOf s
  let s := if isPrefixed then s.drop 2 else s
  let s := if isPrefixed && s.head? = some '_' then s.drop 1 else s
  match s with
  | [] => none
  | c :: s => do
    let first ← Json.hexDigit c
    let n ← intDigits first s
    return if negative then -n else n

/-! ## Intel HEX files -/

/-- SOURCE: firmware_installation.py:14-17 -/
structure FirmwareValidationError where
  message : Text
  code : Text := "invalid".toList
deriving DecidableEq, Repr

/-- The bytes of one line, with their length and checksum checked.
SOURCE: firmware_installation.py:24-31 -/
def readHexLine (number : ℕ) (line : Text) : Except FirmwareValidationError (List UInt8) :=
  if !":".toList.isPrefixOf line then
    .error { message := "invalid Intel HEX record at line ".toList ++ Text.decimal number }
  else match fromHex (line.drop 1) with
    | none => .error { message := "non-hexadecimal number found in fromhex() arg".toList }
    | some raw =>
      if raw.length < 5 ∨ (raw.map UInt8.toNat).sum % 256 ≠ 0 then
        .error { message := "invalid Intel HEX checksum at line ".toList ++ Text.decimal number }
      else if (raw.headD 0).toNat ≠ raw.length - 5 then
        .error { message := "invalid Intel HEX length at line ".toList ++ Text.decimal number }
      else .ok raw

/-- The record of a line. -/
def hexRecord (raw : List UInt8) : Record where
  offset := word ((raw.drop 1).take 2)
  kind := (raw.getD 3 0).toNat
  data := (raw.drop 4).take (raw.length - 5)
  checksum := raw.getLastD 0

/-- The loop of `inspect_intel_hex`: the ranges of the data records that are left.
SOURCE: firmware_installation.py:22-37 -/
def hexRanges (number base : ℕ) : List Text → Except FirmwareValidationError (List (ℤ × ℤ))
  | [] => .ok []
  | line :: lines =>
    match readHexLine number line with
    | .error error => .error error
    | .ok raw =>
      let count := (raw.headD 0).toNat
      let offset := word ((raw.drop 1).take 2)
      let kind := (raw.getD 3 0).toNat
      if kind = 0 then
        (hexRanges (number + 1) base lines).map
          (((base + offset : ℤ), (base + offset + count - 1 : ℤ)) :: ·)
      else if kind = 4 then
        hexRanges (number + 1) (65536 * word ((raw.drop 4).take 2)) lines
      else if kind ∉ [1, 2, 3, 5] then
        .error { message := "unsupported Intel HEX record type ".toList ++ Text.decimal kind }
      else hexRanges (number + 1) base lines

/-- The first and the last address of an image, and how many bytes its records have.
SOURCE: firmware_installation.py:20-40 -/
def inspectIntelHex (text : Text) : Except FirmwareValidationError (ℤ × ℤ × ℤ) :=
  match hexRanges 1 0 (splitLines text) with
  | .error error => .error error
  | .ok [] => .error { message := "firmware image contains no programmed data".toList }
  | .ok (first :: others) =>
    .ok (others.foldl (fun m r => min m r.1) first.1, others.foldl (fun m r => max m r.2) first.2,
      ((first :: others).map fun r => r.2 - r.1 + 1).sum)

/-- The records of a text whose lines can be read. -/
def hexRecords (text : Text) : List Record :=
  (splitLines text).filterMap fun line => (readHexLine 1 line).toOption.map hexRecord

/-! ## The catalog -/

/-- A package of the manifest.
SOURCE: firmware_installation.py:103-105 -/
structure FirmwarePackage where
  /-- whether every member that is required is there -/
  complete : Bool := true
  fqbn : Text
  artifactPath : Text
  artifactFilename : Text
  artifactSize : ℤ
  sha256 : Text
  applicationStart : Text
  applicationEnd : Text
  bootloaderEnd : Text
  nvm3Start : Text
  /-- whether `build_provenance` is true as a condition -/
  hasProvenance : Bool := true
  applicationOnly : Bool := true
deriving DecidableEq, Repr

/-- What is behind the path of an artifact. -/
structure FirmwareArtifact where
  insideRepository : Bool := true
  name : Text
  /-- the bytes, or whether the file is missing -/
  content : Except Bool (List UInt8)

/-- An approval of a developer, which stands in for the manifest.
SOURCE: firmware_installation.py:90-95 -/
structure DeveloperApproval where
  artifactSize : ℤ
  sha256 : Text
  applicationStart : Text
  applicationEnd : Text
deriving DecidableEq, Repr

/-- SOURCE: firmware_installation.py:43-50 -/
structure FirmwareCatalog where
  packages : List (Text × FirmwarePackage)
  developerApprovals : List (Text × DeveloperApproval) := []
  artifact : Text → FirmwareArtifact

/-- What is expected of the artifact of a package.
SOURCE: firmware_installation.py:121 -/
def FirmwareCatalog.expected (catalog : FirmwareCatalog) (packageId : Text)
    (item : FirmwarePackage) : DeveloperApproval :=
  (catalog.developerApprovals.lookup packageId).getD
    ⟨item.artifactSize, item.sha256, item.applicationStart, item.applicationEnd⟩

/-- `int(s, 16)`, with the error of a text that is not a number. -/
def int16 (s : Text) : Except FirmwareValidationError ℤ :=
  match parseInt16 s with
  | some n => .ok n
  | none => .error { message := "invalid literal for int() with base 16".toList }

/-- The checks of the range of an image.
SOURCE: firmware_installation.py:124-128 -/
def checkRange (item : FirmwarePackage) (expected : DeveloperApproval) (first last : ℤ) :
    Except FirmwareValidationError Unit := do
  let mismatch : FirmwareValidationError :=
    { message := "firmware programmed range does not match the approved manifest".toList }
  let overlap : FirmwareValidationError :=
    { message := "firmware overlaps a protected region".toList }
  if first ≠ (← int16 expected.applicationStart) then .error mismatch
  else if last ≠ (← int16 expected.applicationEnd) then .error mismatch
  else if first ≤ (← int16 item.bootloaderEnd) then .error overlap
  else if last ≥ (← int16 item.nvm3Start) then .error overlap
  else .ok ()

/-- The package and the text of its image; `sha256` is the digest of `hashlib` in capitals.
SOURCE: firmware_installation.py:99-129 -/
def FirmwareCatalog.validate (catalog : FirmwareCatalog) (sha256 : List UInt8 → Text)
    (packageId : Text) : Except FirmwareValidationError (FirmwarePackage × Text) :=
  match catalog.packages.lookup packageId with
  | none => .error { message := "unknown firmware package".toList }
  | some item =>
    let artifact := catalog.artifact item.artifactPath
    if !item.complete || !item.hasProvenance then
      .error { message := "firmware package provenance is incomplete".toList }
    else if !item.applicationOnly ||
        (item.artifactFilename.map Char.toLower).tails.any ("with_bootloader".toList.isPrefixOf ·) then
      .error { message := "bootloader-containing firmware is not approved".toList }
    else if item.fqbn ≠ "SiliconLabs:silabs:xiao_mg24:protocol_stack=ble_silabs".toList then
      .error { message := "firmware package targets an unsupported board".toList }
    else if !artifact.insideRepository || artifact.name ≠ item.artifactFilename then
      .error { message := "firmware artifact path is outside the approved catalog".toList }
    else match artifact.content with
      | .error true => .error
          ⟨"approved firmware artifact is missing".toList, "missing".toList⟩
      | .error false => .error
          ⟨"approved firmware artifact cannot be read".toList, "unreadable".toList⟩
      | .ok data =>
        let expected := catalog.expected packageId item
        let text := Text.ofBytes data
        if data.length ≠ expected.artifactSize ∨ sha256 data ≠ expected.sha256.map Char.toUpper then
          .error ⟨"firmware artifact hash or size mismatch".toList, "hash_mismatch".toList⟩
        else if data.any (128 ≤ ·) then
          .error { message := "'ascii' codec can't decode byte".toList }
        else match inspectIntelHex text with
          | .error error => .error error
          | .ok (first, last, _) =>
            match checkRange item expected first last with
            | .error error => .error error
            | .ok () => .ok (item, text)

end SeedMg24.Model
