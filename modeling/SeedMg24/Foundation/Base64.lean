import SeedMg24.Foundation.Text

/-!
# Base64 for URLs

The encoder and the decoder of Python's `base64` module with the alphabet for URLs.  The decoder
passes over what is not in the alphabet, takes `+` and `/` as well, and stops where the padding of a
group is complete.
-/

set_option autoImplicit false

namespace Foundation

namespace Base64

/-- The characters of the values from 0 on. -/
def alphabet : List Char :=
  "ABCDEFGHIJKLMNOPQRSTUVWXYZabcdefghijklmnopqrstuvwxyz0123456789-_".toList

/-- The character of a value of six bits. -/
def symbol (v : ℕ) : Char := alphabet.getD v '='

/-- The value of a character. -/
def value (c : Char) : Option ℕ :=
  if c = '+' then some 62 else if c = '/' then some 63 else alphabet.idxOf? c

/-- `urlsafe_b64encode`: three bytes are four characters. -/
def encode : List UInt8 → Text
  | a :: b :: c :: rest =>
    symbol (a.toNat / 4) :: symbol (a.toNat % 4 * 16 + b.toNat / 16) ::
      symbol (b.toNat % 16 * 4 + c.toNat / 64) :: symbol (c.toNat % 64) :: encode rest
  | [a, b] => [symbol (a.toNat / 4), symbol (a.toNat % 4 * 16 + b.toNat / 16),
      symbol (b.toNat % 16 * 4), '=']
  | [a] => [symbol (a.toNat / 4), symbol (a.toNat % 4 * 16), '=', '=']
  | [] => []

/-- The loop of the decoder: the place in a group, the bits left of the character before, and how
many padding characters came in a row. -/
def decodeFrom : ℕ → ℕ → ℕ → Text → Option (List UInt8)
  | place, _, _, [] => if place = 0 then some [] else none
  | place, left, pads, c :: s =>
    if c = '=' then
      if 2 ≤ place ∧ 4 ≤ place + (pads + 1) then some []
      else decodeFrom place left (if 2 ≤ place then pads + 1 else pads) s
    else
      match value c with
      | none => decodeFrom place left pads s
      | some v =>
        match place with
        | 0 => decodeFrom 1 v 0 s
        | 1 => (decodeFrom 2 (v % 16) 0 s).map (UInt8.ofNat (left * 4 + v / 16) :: ·)
        | 2 => (decodeFrom 3 (v % 4) 0 s).map (UInt8.ofNat (left * 16 + v / 4) :: ·)
        | _ => (decodeFrom 0 0 0 s).map (UInt8.ofNat (left * 64 + v) :: ·)

/-- `urlsafe_b64decode`, which raises where a group is not complete. -/
def decode (s : Text) : Option (List UInt8) := decodeFrom 0 0 0 s

/-- A character has its value, and is no padding. -/
theorem value_symbol : ∀ v < 64, value (symbol v) = some v ∧ symbol v ≠ '=' := by decide +kernel

section Reading

variable {v left pads : ℕ} {s : Text}

theorem decodeFrom_zero (hv : v < 64) :
    decodeFrom 0 left pads (symbol v :: s) = decodeFrom 1 v 0 s := by
  obtain ⟨hvalue, hne⟩ := value_symbol v hv
  rw [decodeFrom, if_neg hne, hvalue]
  rfl

theorem decodeFrom_one (hv : v < 64) : decodeFrom 1 left pads (symbol v :: s) =
    (decodeFrom 2 (v % 16) 0 s).map (UInt8.ofNat (left * 4 + v / 16) :: ·) := by
  obtain ⟨hvalue, hne⟩ := value_symbol v hv
  rw [decodeFrom, if_neg hne, hvalue]
  rfl

theorem decodeFrom_two (hv : v < 64) : decodeFrom 2 left pads (symbol v :: s) =
    (decodeFrom 3 (v % 4) 0 s).map (UInt8.ofNat (left * 16 + v / 4) :: ·) := by
  obtain ⟨hvalue, hne⟩ := value_symbol v hv
  rw [decodeFrom, if_neg hne, hvalue]
  rfl

theorem decodeFrom_three (hv : v < 64) : decodeFrom 3 left pads (symbol v :: s) =
    (decodeFrom 0 0 0 s).map (UInt8.ofNat (left * 64 + v) :: ·) := by
  obtain ⟨hvalue, hne⟩ := value_symbol v hv
  rw [decodeFrom, if_neg hne, hvalue]
  rfl

/-- The padding of a group with one byte, or with two. -/
theorem decodeFrom_padding : decodeFrom 2 left 0 ['=', '='] = some [] ∧
    decodeFrom 3 left 0 ['='] = some [] := ⟨rfl, rfl⟩

end Reading

/-- **What is encoded is decoded.** -/
theorem decode_encode (bytes : List UInt8) : decode (encode bytes) = some bytes := by
  unfold decode
  induction bytes using encode.induct with
  | case1 a b c rest ih =>
    have ha := a.toNat_lt
    have hb := b.toNat_lt
    have hc := c.toNat_lt
    have hfirst : a.toNat / 4 * 4 + (a.toNat % 4 * 16 + b.toNat / 16) / 16 = a.toNat := by omega
    have hsecond : (a.toNat % 4 * 16 + b.toNat / 16) % 16 * 16 +
        (b.toNat % 16 * 4 + c.toNat / 64) / 4 = b.toNat := by omega
    have hthird : (b.toNat % 16 * 4 + c.toNat / 64) % 4 * 64 + c.toNat % 64 = c.toNat := by omega
    rw [encode, decodeFrom_zero (by omega), decodeFrom_one (by omega), decodeFrom_two (by omega),
      decodeFrom_three (by omega), ih, hfirst, hsecond, hthird]
    simp only [Option.map_some, UInt8.ofNat_toNat]
  | case2 a b =>
    have ha := a.toNat_lt
    have hb := b.toNat_lt
    have hfirst : a.toNat / 4 * 4 + (a.toNat % 4 * 16 + b.toNat / 16) / 16 = a.toNat := by omega
    have hsecond : (a.toNat % 4 * 16 + b.toNat / 16) % 16 * 16 + b.toNat % 16 * 4 / 4 = b.toNat := by
      omega
    rw [encode, decodeFrom_zero (by omega), decodeFrom_one (by omega), decodeFrom_two (by omega),
      decodeFrom_padding.2, hfirst, hsecond]
    simp only [Option.map_some, UInt8.ofNat_toNat]
  | case3 a =>
    have ha := a.toNat_lt
    have hfirst : a.toNat / 4 * 4 + a.toNat % 4 * 16 / 16 = a.toNat := by omega
    rw [encode, decodeFrom_zero (by omega), decodeFrom_one (by omega), decodeFrom_padding.1, hfirst]
    simp only [Option.map_some, UInt8.ofNat_toNat]
  | case4 => rfl

/-- How long an encoding is. -/
theorem length_encode (bytes : List UInt8) : (encode bytes).length = 4 * ((bytes.length + 2) / 3) := by
  induction bytes using encode.induct with
  | case1 a b c rest ih =>
    rw [encode]
    simp only [List.length_cons, ih]
    omega
  | case2 a b => simp [encode]
  | case3 a => simp [encode]
  | case4 => rfl

example : encode (Text.toBytes "2024-01".toList) = "MjAyNC0wMQ==".toList := by decide +kernel

end Base64

end Foundation
