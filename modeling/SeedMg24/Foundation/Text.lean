import Mathlib.Tactic
import Mathlib.Data.List.DropRight
import Mathlib.Data.List.TakeWhile

/-!
# Byte texts

Texts are lists of characters; a C string is a text read up to its first zero character, and a
text travels as one byte a character.  Formatted printing into a buffer keeps what fits before
the terminating zero.
-/

set_option autoImplicit false

namespace Foundation

/-- Whether something holds of every character of a text is decided along the text: the instance
that runs through every character there is does not end. -/
instance (priority := high) decidableForallMemText {p : Char → Prop} [DecidablePred p]
    (s : List Char) : Decidable (∀ c ∈ s, p c) := List.decidableBAll p s

instance (priority := high) decidableForallMemOption {p : Char → Prop} [DecidablePred p] :
    (o : Option Char) → Decidable (∀ c ∈ o, p c)
  | none => isTrue (by simp)
  | some c => decidable_of_iff (p c) (by simp)

/-- A text, one element a character. -/
abbrev Text := List Char

/-- By these whether a text, or a pair of texts, is in a list is decided. -/
instance : LawfulBEq Text := inferInstanceAs (LawfulBEq (List Char))
instance : LawfulBEq (Text × Text) := inferInstance

namespace Text

/-- One byte a character. -/
def toBytes (s : Text) : List UInt8 := s.map Char.toUInt8

/-- One character a byte. -/
def ofBytes (bytes : List UInt8) : Text := bytes.map fun b => Char.ofNat b.toNat

/-- What C sees of a buffer: everything before the first zero. -/
def cString (s : Text) : Text := s.takeWhile (· ≠ '\x00')

/-- Printing into a buffer of the given size. -/
def snprintf (size : ℕ) (s : Text) : Text := s.take (size - 1)

/-- A number in decimal. -/
def decimal (n : ℕ) : Text := Nat.toDigits 10 n

/-- Small ASCII letters become capitals, everything else stays. -/
def toUpperAscii (s : Text) : Text := s.map Char.toUpper

/-- The characters `isspace` accepts. -/
def isSpaceAscii (c : Char) : Bool :=
  c == ' ' || c == '\t' || c == '\n' || c == '\x0b' || c == '\x0c' || c == '\r'

/-- The text without the space around it. -/
def trim (s : Text) : Text := (s.dropWhile isSpaceAscii).rdropWhile isSpaceAscii

/-- The characters Python's `str.isspace` accepts. -/
def isSpaceUnicode (c : Char) : Bool :=
  let n := c.toNat
  (9 ≤ n && n ≤ 13) || (28 ≤ n && n ≤ 32) || n == 0x85 || n == 0xA0 || n == 0x1680 ||
    (0x2000 ≤ n && n ≤ 0x200A) || n == 0x2028 || n == 0x2029 || n == 0x202F || n == 0x205F ||
    n == 0x3000

/-- Python's `str.strip`. -/
def strip (s : Text) : Text := (s.dropWhile isSpaceUnicode).rdropWhile isSpaceUnicode

/-- The first position of a character at or after `start`. -/
def indexOf (s : Text) (c : Char) (start : ℕ) : Option ℕ :=
  if start ≥ s.length then none else ((s.drop start).findIdx? (· == c)).map (start + ·)

/-- The characters from `left` up to `right`. -/
def substring (s : Text) (left right : ℕ) : Text := (s.drop left).take (right - left)

/-- The number a run of decimal digits stands for. -/
def digitsValue (s : Text) : ℕ := s.foldl (fun n c => 10 * n + (c.toNat - 48)) 0

/-- The text that bytes stand for in UTF-8, if they do. -/
def decodeUtf8 (bytes : List UInt8) : Option Text :=
  (ByteArray.utf8Decode? ⟨bytes.toArray⟩).map Array.toList

/-- The text from the first occurrence of `needle` on. -/
def strstr (needle : Text) : Text → Option Text
  | [] => if needle = [] then some [] else none
  | c :: cs => if needle.isPrefixOf (c :: cs) then some (c :: cs) else strstr needle cs

@[simp] theorem length_toBytes (s : Text) : s.toBytes.length = s.length := List.length_map ..

@[simp] theorem length_ofBytes (bytes : List UInt8) : (ofBytes bytes).length = bytes.length :=
  List.length_map ..

theorem toNat_ofNat {n : ℕ} (h : n.isValidChar) : (Char.ofNat n).toNat = n := by
  rw [Char.ofNat, dif_pos h]
  rfl

theorem toNat_toUInt8 {c : Char} (h : c.toNat < 256) : c.toUInt8.toNat = c.toNat := by
  simp only [Char.toUInt8, UInt32.toNat_toUInt8]
  exact Nat.mod_eq_of_lt h

/-- Texts of one-byte characters survive the way through bytes. -/
theorem ofBytes_toBytes {s : Text} (h : ∀ c ∈ s, c.toNat < 256) : ofBytes s.toBytes = s := by
  induction s with
  | nil => rfl
  | cons c s ih =>
    have hc : c.toUInt8.toNat = c.toNat := toNat_toUInt8 (h c (by simp))
    have htail := ih fun d hd => h d (by simp [hd])
    rw [toBytes, ofBytes] at htail
    rw [toBytes, ofBytes, List.map_cons, List.map_cons, htail, hc, Char.ofNat_toNat]

/-- A byte is a character with the same number. -/
theorem toNat_ofByte (b : UInt8) : (Char.ofNat b.toNat).toNat = b.toNat := by
  have hbyte : b.toNat < 256 := b.toNat_lt
  exact toNat_ofNat (.inl (by omega))

/-- Bytes survive the way through a text. -/
theorem toBytes_ofBytes (bytes : List UInt8) : (ofBytes bytes).toBytes = bytes := by
  induction bytes with
  | nil => rfl
  | cons b bytes ih =>
    have hb : (Char.ofNat b.toNat).toUInt8 = b := by
      have hbyte : b.toNat < 256 := b.toNat_lt
      have hchar := toNat_ofByte b
      apply UInt8.toNat_inj.mp
      rw [toNat_toUInt8 (by omega), hchar]
    rw [toBytes, ofBytes] at ih
    rw [toBytes, ofBytes, List.map_cons, List.map_cons, ih, hb]

/-- An ASCII character is one byte in UTF-8. -/
theorem utf8EncodeChar_of_ascii {c : Char} (h : c.toNat < 128) :
    String.utf8EncodeChar c = [c.toUInt8] := by
  have hsize : c.utf8Size = 1 := by
    rw [Char.utf8Size_eq_one_iff, UInt32.le_iff_toNat_le]
    exact Nat.le_of_lt_succ h
  exact String.utf8EncodeChar_eq_singleton hsize

/-- The bytes of an ASCII text stand for it. -/
theorem decodeUtf8_toBytes {s : Text} (h : ∀ c ∈ s, c.toNat < 128) :
    decodeUtf8 s.toBytes = some s := by
  have hflat : s.toBytes = s.flatMap String.utf8EncodeChar := by
    induction s with
    | nil => rfl
    | cons c s ih =>
      have htail := ih fun d hd => h d (by simp [hd])
      rw [toBytes] at htail
      rw [toBytes, List.map_cons, List.flatMap_cons, htail, utf8EncodeChar_of_ascii (h c (by simp)),
        List.singleton_append]
  have hbytes : (⟨s.toBytes.toArray⟩ : ByteArray) = s.utf8Encode := by
    rw [List.utf8Encode, ← hflat]
    apply ByteArray.ext
    simp
  rw [decodeUtf8, hbytes, List.utf8Decode?_utf8Encode]
  rfl

/-- A text without zeros is its own C string. -/
theorem cString_eq_self {s : Text} (h : '\x00' ∉ s) : s.cString = s := by
  rw [cString, List.takeWhile_eq_self_iff]
  intro c hc
  simp only [ne_eq, decide_eq_true_eq]
  rintro rfl
  exact h hc

theorem snprintf_eq_self {size : ℕ} {s : Text} (h : s.length < size) : snprintf size s = s := by
  rw [snprintf, List.take_of_length_le]
  omega

/-- How many digits a number has. -/
theorem length_decimal_le {n k : ℕ} (hk : 0 < k) (h : n < 10 ^ k) : (decimal n).length ≤ k :=
  (Nat.length_toDigits_le_iff (by decide) hk).mpr h

theorem decimal_ne_nil (n : ℕ) : decimal n ≠ [] := Nat.toDigits_ne_nil

theorem isDigit_of_mem_decimal {n : ℕ} {c : Char} (h : c ∈ decimal n) : c.isDigit = true :=
  Nat.isDigit_of_mem_toDigits (by decide) (by decide) h

/-- A number survives being printed and read. -/
theorem digitsValue_decimal (n : ℕ) : digitsValue (decimal n) = n := by
  have h := Nat.ofDigitChars_ten_toDigits (n := n)
  rwa [Nat.ofDigitChars_eq_foldl] at h

/-- A printable character that is neither a space nor a small letter. -/
def isPlain (c : Char) : Bool := 33 ≤ c.toNat ∧ c.toNat < 97

theorem isPlain_of_isDigit {c : Char} (h : c.isDigit = true) : isPlain c = true := by
  unfold Char.isDigit at h
  simp only [Bool.and_eq_true, decide_eq_true_eq, ge_iff_le, UInt32.le_iff_toNat_le] at h
  have hrange : 48 ≤ c.toNat ∧ c.toNat ≤ 57 := h
  simp only [isPlain, decide_eq_true_eq]
  omega

theorem ne_of_isPlain {c d : Char} (h : isPlain c = true) (hd : d.toNat < 33) : c ≠ d := by
  rintro rfl
  simp only [isPlain, decide_eq_true_eq] at h
  omega

theorem isSpaceAscii_of_isPlain {c : Char} (h : isPlain c = true) : isSpaceAscii c = false := by
  have hne : ∀ d : Char, d.toNat < 33 → (c == d) = false := fun d hd =>
    beq_eq_false_iff_ne.mpr (ne_of_isPlain h hd)
  unfold isSpaceAscii
  rw [hne ' ' (by decide), hne '\t' (by decide), hne '\n' (by decide), hne '\x0b' (by decide),
    hne '\x0c' (by decide), hne '\r' (by decide)]
  rfl

theorem toUpper_of_isPlain {c : Char} (h : isPlain c = true) : c.toUpper = c := by
  have hrange : ¬ (97 ≤ c.toNat ∧ c.toNat ≤ 122) := by
    simp only [isPlain, decide_eq_true_eq] at h
    omega
  unfold Char.toUpper
  exact dif_neg hrange

/-- What is left of a text whose first and last characters are no spaces. -/
theorem trim_eq_self {s : Text} (hfirst : ∀ c ∈ s.head?, isSpaceAscii c = false)
    (hlast : ∀ c ∈ s.getLast?, isSpaceAscii c = false) : trim s = s := by
  have hdrop : s.dropWhile isSpaceAscii = s := by
    cases s with
    | nil => rfl
    | cons c s => exact List.dropWhile_cons_of_neg (by simp [hfirst c rfl])
  rw [trim, hdrop, List.rdropWhile_eq_self_iff]
  intro hne
  simp [hlast (s.getLast hne) (List.getLast?_eq_some_getLast hne ▸ rfl)]

/-- Spaces are only taken from the end of what follows, if it is not all spaces. -/
theorem trim_append {s u : Text} (hs : s ≠ []) (hfirst : ∀ c ∈ s.head?, isSpaceAscii c = false)
    (hu : u.rdropWhile isSpaceAscii ≠ []) :
    trim (s ++ u) = s ++ u.rdropWhile isSpaceAscii := by
  have hdrop : (s ++ u).dropWhile isSpaceAscii = s ++ u := by
    cases s with
    | nil => exact absurd rfl hs
    | cons c s => exact List.dropWhile_cons_of_neg (by simp [hfirst c rfl])
  rw [trim, hdrop, List.rdropWhile, List.reverse_append, List.dropWhile_append]
  rw [List.rdropWhile, ne_eq, List.reverse_eq_nil_iff] at hu
  rw [if_neg (by simpa using hu), List.reverse_append, List.reverse_reverse, List.rdropWhile]

end Text

end Foundation
