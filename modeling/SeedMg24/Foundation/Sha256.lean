import Mathlib.Tactic
import Mathlib.Data.List.GetD

/-!
# SHA-256

The Secure Hash Standard's SHA-256 over bit strings: padding, parsing into words, the message
schedule and the compression.  Bytes are bit strings of eight bits each, and a padded byte string is
a byte string.
-/

set_option autoImplicit false

namespace Foundation

namespace Sha256

/-! ## Bit strings -/

/-- A bit string, the most significant bit first. -/
abbrev Bits := List Bool

/-- The number a bit string stands for. -/
def valueOf (bits : Bits) : ℕ := bits.foldl (fun n b => 2 * n + b.toNat) 0

/-- The lowest bits of a number. -/
def bitsOf : ℕ → ℕ → Bits
  | 0, _ => []
  | width + 1, n => bitsOf width (n / 2) ++ [n % 2 == 1]

/-! ## Padding and parsing -/

/-- How many zero bits follow the one bit after a message of `l` bits. -/
def zeroBits (l : ℕ) : ℕ := (959 - l % 512) % 512

/-- A message, a one bit, zero bits, and the length of the message in 64 bits. -/
def pad (message : Bits) : Bits :=
  message ++ true :: List.replicate (zeroBits message.length) false ++ bitsOf 64 message.length

/-- The 32-bit word at a place of a padded message. -/
def wordAt (padded : Bits) (i : ℕ) : UInt32 :=
  UInt32.ofNat (valueOf ((padded.drop (32 * i)).take 32))

/-! ## Functions on words -/

def rotr (n : ℕ) (x : UInt32) : UInt32 := x >>> UInt32.ofNat n ||| x <<< UInt32.ofNat (32 - n)
def ch (x y z : UInt32) : UInt32 := (x &&& y) ^^^ (~~~x &&& z)
def maj (x y z : UInt32) : UInt32 := (x &&& y) ^^^ (x &&& z) ^^^ (y &&& z)
def bigSigma0 (x : UInt32) : UInt32 := rotr 2 x ^^^ rotr 13 x ^^^ rotr 22 x
def bigSigma1 (x : UInt32) : UInt32 := rotr 6 x ^^^ rotr 11 x ^^^ rotr 25 x
def smallSigma0 (x : UInt32) : UInt32 := rotr 7 x ^^^ rotr 18 x ^^^ x >>> 3
def smallSigma1 (x : UInt32) : UInt32 := rotr 17 x ^^^ rotr 19 x ^^^ x >>> 10

/-! ## Constants -/

/-- The constants of the sixty-four rounds. -/
def roundConstants : List UInt32 := [
  0x428a2f98, 0x71374491, 0xb5c0fbcf, 0xe9b5dba5, 0x3956c25b, 0x59f111f1, 0x923f82a4, 0xab1c5ed5,
  0xd807aa98, 0x12835b01, 0x243185be, 0x550c7dc3, 0x72be5d74, 0x80deb1fe, 0x9bdc06a7, 0xc19bf174,
  0xe49b69c1, 0xefbe4786, 0x0fc19dc6, 0x240ca1cc, 0x2de92c6f, 0x4a7484aa, 0x5cb0a9dc, 0x76f988da,
  0x983e5152, 0xa831c66d, 0xb00327c8, 0xbf597fc7, 0xc6e00bf3, 0xd5a79147, 0x06ca6351, 0x14292967,
  0x27b70a85, 0x2e1b2138, 0x4d2c6dfc, 0x53380d13, 0x650a7354, 0x766a0abb, 0x81c2c92e, 0x92722c85,
  0xa2bfe8a1, 0xa81a664b, 0xc24b8b70, 0xc76c51a3, 0xd192e819, 0xd6990624, 0xf40e3585, 0x106aa070,
  0x19a4c116, 0x1e376c08, 0x2748774c, 0x34b0bcb5, 0x391c0cb3, 0x4ed8aa4a, 0x5b9cca4f, 0x682e6ff3,
  0x748f82ee, 0x78a5636f, 0x84c87814, 0x8cc70208, 0x90befffa, 0xa4506ceb, 0xbef9a3f7, 0xc67178f2]

/-- Eight words: a hash value, or the working variables of the compression. -/
@[ext] structure Words where
  a : UInt32
  b : UInt32
  c : UInt32
  d : UInt32
  e : UInt32
  f : UInt32
  g : UInt32
  h : UInt32
deriving DecidableEq, Repr

/-- The words in order. -/
def Words.toList (v : Words) : List UInt32 := [v.a, v.b, v.c, v.d, v.e, v.f, v.g, v.h]

/-- The hash value before the first block. -/
def initial : Words :=
  ⟨0x6a09e667, 0xbb67ae85, 0x3c6ef372, 0xa54ff53a, 0x510e527f, 0x9b05688c, 0x1f83d9ab, 0x5be0cd19⟩

/-! ## The hash -/

/-- The message schedule of a block. -/
def schedule (block : ℕ → UInt32) (t : ℕ) : UInt32 :=
  if t < 16 then block t
  else smallSigma1 (schedule block (t - 2)) + schedule block (t - 7) +
    smallSigma0 (schedule block (t - 15)) + schedule block (t - 16)

/-- One round, with its constant and its word of the schedule. -/
def oneRound (v : Words) (constant word : UInt32) : Words :=
  let t1 := v.h + bigSigma1 v.e + ch v.e v.f v.g + constant + word
  let t2 := bigSigma0 v.a + maj v.a v.b v.c
  { a := t1 + t2, b := v.a, c := v.b, d := v.c, e := v.d + t1, f := v.e, g := v.f, h := v.g }

/-- The hash value after a block. -/
def compress (hash : Words) (block : ℕ → UInt32) : Words :=
  let v := (List.range 64).foldl
    (fun v t => oneRound v (roundConstants.getD t 0) (schedule block t)) hash
  { a := hash.a + v.a, b := hash.b + v.b, c := hash.c + v.c, d := hash.d + v.d
    e := hash.e + v.e, f := hash.f + v.f, g := hash.g + v.g, h := hash.h + v.h }

/-- The hash value after the blocks of a padded message. -/
def hashValue (message : Bits) : Words :=
  let padded := pad message
  (List.range (padded.length / 512)).foldl
    (fun hash i => compress hash fun t => wordAt padded (16 * i + t)) initial

/-- **The message digest**, 256 bits. -/
def digest (message : Bits) : Bits :=
  (hashValue message).toList.flatMap fun word => bitsOf 32 word.toNat

/-! ## Padding is as short as it can be -/

/-- The zero bits leave room for the length in the last block. -/
theorem zeroBits_fill (l : ℕ) : (l + 1 + zeroBits l) % 512 = 448 := by
  unfold zeroBits
  omega

/-- Fewer do not. -/
theorem zeroBits_least {l k : ℕ} (h : (l + 1 + k) % 512 = 448) : zeroBits l ≤ k := by
  unfold zeroBits
  omega

/-! ## Bits of numbers -/

@[simp] theorem length_bitsOf (width n : ℕ) : (bitsOf width n).length = width := by
  induction width generalizing n with
  | zero => rfl
  | succ width ih => rw [bitsOf, List.length_append, ih, List.length_singleton]

theorem valueOf_append (bits more : Bits) :
    valueOf (bits ++ more) = valueOf bits * 2 ^ more.length + valueOf more := by
  have hfold (n : ℕ) : more.foldl (fun n b => 2 * n + b.toNat) n =
      n * 2 ^ more.length + valueOf more := by
    unfold valueOf
    induction more generalizing n with
    | nil => simp
    | cons b more ih =>
      rw [List.foldl_cons, List.foldl_cons, ih, ih (2 * 0 + b.toNat), List.length_cons, pow_succ]
      ring
  unfold valueOf at hfold ⊢
  rw [List.foldl_append, hfold]

/-- The lowest bits of a number are what is left of it. -/
theorem valueOf_bitsOf (width n : ℕ) : valueOf (bitsOf width n) = n % 2 ^ width := by
  induction width generalizing n with
  | zero => rw [pow_zero, Nat.mod_one]; rfl
  | succ width ih =>
    have hlast : valueOf [n % 2 == 1] = n % 2 := by
      rcases Nat.mod_two_eq_zero_or_one n with h | h <;> rw [h] <;> rfl
    rw [bitsOf, valueOf_append, ih, hlast, List.length_singleton, pow_one, pow_succ' 2 width,
      Nat.mod_mul]
    ring

/-- The high bits and the low bits. -/
theorem bitsOf_add (high low n : ℕ) : bitsOf (high + low) n = bitsOf high (n / 2 ^ low) ++ bitsOf low n := by
  induction low generalizing n with
  | zero => simp [bitsOf]
  | succ low ih =>
    rw [← Nat.add_assoc, bitsOf, ih, bitsOf, Nat.div_div_eq_div_mul, ← pow_succ', List.append_assoc]

theorem bitsOf_mod (width n : ℕ) : bitsOf width (n % 2 ^ width) = bitsOf width n := by
  induction width generalizing n with
  | zero => rfl
  | succ width ih =>
    have hhalf : n % 2 ^ (width + 1) / 2 = n / 2 % 2 ^ width := by
      rw [pow_succ', Nat.mod_mul_right_div_self]
    have hlow : n % 2 ^ (width + 1) % 2 = n % 2 := by
      rw [pow_succ', Nat.mod_mul_right_mod]
    rw [bitsOf, hhalf, ih, hlow, bitsOf]

/-! ## Bytes -/

/-- The bits of a byte string. -/
def bytesBits (bytes : List UInt8) : Bits := bytes.flatMap fun byte => bitsOf 8 byte.toNat

/-- One byte more. -/
theorem valueOf_bytesBits_snoc (bytes : List UInt8) (byte : UInt8) :
    valueOf (bytesBits (bytes ++ [byte])) = valueOf (bytesBits bytes) * 256 + byte.toNat := by
  have hlast : bytesBits [byte] = bitsOf 8 byte.toNat := List.append_nil _
  unfold bytesBits at hlast ⊢
  rw [List.flatMap_append, hlast, valueOf_append, valueOf_bitsOf, length_bitsOf,
    Nat.mod_eq_of_lt byte.toNat_lt, show 2 ^ 8 = 256 from rfl]

/-- A number in bytes, the most significant first. -/
def bigEndian : ℕ → ℕ → List UInt8
  | 0, _ => []
  | width + 1, n => bigEndian width (n / 256) ++ [UInt8.ofNat n]

theorem bytesBits_append (bytes more : List UInt8) :
    bytesBits (bytes ++ more) = bytesBits bytes ++ bytesBits more := List.flatMap_append

@[simp] theorem length_bytesBits (bytes : List UInt8) : (bytesBits bytes).length = 8 * bytes.length := by
  induction bytes with
  | nil => rfl
  | cons byte bytes ih =>
    rw [bytesBits, List.flatMap_cons, List.length_append, length_bitsOf, ← bytesBits, ih,
      List.length_cons]
    ring

@[simp] theorem length_bigEndian (width n : ℕ) : (bigEndian width n).length = width := by
  induction width generalizing n with
  | zero => rfl
  | succ width ih => rw [bigEndian, List.length_append, ih, List.length_singleton]

/-- The first of the bytes of a number. -/
theorem bigEndian_succ (width n : ℕ) :
    bigEndian (width + 1) n = UInt8.ofNat (n / 256 ^ width) :: bigEndian width n := by
  induction width generalizing n with
  | zero => simp [bigEndian]
  | succ width ih =>
    rw [bigEndian, ih, bigEndian, Nat.div_div_eq_div_mul, ← pow_succ']
    rfl

/-- The bits of a number are those of its bytes. -/
theorem bytesBits_bigEndian (width n : ℕ) : bytesBits (bigEndian width n) = bitsOf (8 * width) n := by
  induction width generalizing n with
  | zero => rfl
  | succ width ih =>
    have hbyte : bytesBits [UInt8.ofNat n] = bitsOf 8 n := by
      simp only [bytesBits, List.flatMap_cons, List.flatMap_nil, List.append_nil, UInt8.toNat_ofNat']
      exact bitsOf_mod 8 n
    rw [bigEndian, bytesBits_append, ih, hbyte, Nat.mul_succ, bitsOf_add, show 2 ^ 8 = 256 from rfl]

/-- A part of a byte string. -/
theorem bytesBits_slice (bytes : List UInt8) (start size : ℕ) :
    ((bytesBits bytes).drop (8 * start)).take (8 * size) = bytesBits ((bytes.drop start).take size) := by
  have hdrop (bytes : List UInt8) (n : ℕ) :
      (bytesBits bytes).drop (8 * n) = bytesBits (bytes.drop n) := by
    induction n generalizing bytes with
    | zero => rfl
    | succ n ih =>
      cases bytes with
      | nil => simp [bytesBits]
      | cons byte bytes =>
        rw [List.drop_succ_cons, ← ih, bytesBits, List.flatMap_cons, Nat.mul_succ, Nat.add_comm,
          ← List.drop_drop, List.drop_left' (length_bitsOf 8 _)]
        rfl
  have htake (bytes : List UInt8) (n : ℕ) :
      (bytesBits bytes).take (8 * n) = bytesBits (bytes.take n) := by
    induction n generalizing bytes with
    | zero => rfl
    | succ n ih =>
      cases bytes with
      | nil => simp [bytesBits]
      | cons byte bytes =>
        rw [List.take_succ_cons, bytesBits, List.flatMap_cons, ← bytesBits, Nat.mul_succ,
          Nat.add_comm, List.take_append, List.take_of_length_le (by simp), length_bitsOf,
          Nat.add_sub_cancel_left, ih]
        rfl
  rw [hdrop, htake]

/-- How many zero bytes follow the byte 0x80 after `n` bytes. -/
def zeroBytes (n : ℕ) : ℕ := (119 - n % 64) % 64

/-- A padded byte string. -/
def padBytes (data : List UInt8) : List UInt8 :=
  data ++ 0x80 :: List.replicate (zeroBytes data.length) 0 ++ bigEndian 8 (8 * data.length)

/-- **The padding of a byte string is that of its bits.** -/
theorem pad_bytesBits (data : List UInt8) : pad (bytesBits data) = bytesBits (padBytes data) := by
  have hzeros : zeroBits (8 * data.length) = 7 + 8 * zeroBytes data.length := by
    unfold zeroBits zeroBytes
    omega
  have hreplicate (n : ℕ) : bytesBits (List.replicate n 0) = List.replicate (8 * n) false := by
    induction n with
    | zero => rfl
    | succ n ih =>
      rw [List.replicate_succ, bytesBits, List.flatMap_cons, ← bytesBits, ih, Nat.mul_succ,
        Nat.add_comm, List.replicate_add]
      rfl
  have hmark (zeros : List UInt8) :
      bytesBits (0x80 :: zeros) = true :: List.replicate 7 false ++ bytesBits zeros := rfl
  unfold pad padBytes
  rw [length_bytesBits, bytesBits_append, bytesBits_append, hmark, hreplicate, bytesBits_bigEndian,
    hzeros, List.replicate_add]
  simp

/-- A padded byte string is whole blocks of 64 bytes. -/
theorem length_padBytes (data : List UInt8) :
    (padBytes data).length = 64 * ((data.length + 8) / 64 + 1) := by
  unfold padBytes zeroBytes
  simp only [List.length_append, List.length_cons, List.length_replicate, length_bigEndian]
  omega

/-- A word is four bytes. -/
theorem wordAt_bytesBits (bytes : List UInt8) (i : ℕ) :
    wordAt (bytesBits bytes) i = UInt32.ofNat (valueOf (bytesBits ((bytes.drop (4 * i)).take 4))) := by
  unfold wordAt
  rw [← bytesBits_slice, show 8 * (4 * i) = 32 * i by ring]

/-- Equal bits are the bits of equal bytes. -/
theorem bytesBits_injective : Function.Injective bytesBits := by
  intro bytes more h
  induction bytes generalizing more with
  | nil =>
    have hlength := congrArg List.length h
    rw [length_bytesBits, length_bytesBits] at hlength
    cases more with
    | nil => rfl
    | cons byte more => simp at hlength
  | cons byte bytes ih =>
    cases more with
    | nil =>
      have hlength := congrArg List.length h
      rw [length_bytesBits, length_bytesBits] at hlength
      simp at hlength
    | cons other more =>
      simp only [bytesBits, List.flatMap_cons] at h
      obtain ⟨hbits, hrest⟩ := List.append_inj h (by simp)
      have hvalue := congrArg valueOf hbits
      rw [valueOf_bitsOf, valueOf_bitsOf, Nat.mod_eq_of_lt byte.toNat_lt,
        Nat.mod_eq_of_lt other.toNat_lt] at hvalue
      rw [UInt8.toNat_inj.mp hvalue, ih hrest]

/-- The digest of a byte string, in bytes. -/
def digestBytes (data : List UInt8) : List UInt8 :=
  (hashValue (bytesBits data)).toList.flatMap fun word => bigEndian 4 word.toNat

theorem bytesBits_digestBytes (data : List UInt8) :
    bytesBits (digestBytes data) = digest (bytesBits data) := by
  unfold digestBytes digest
  generalize (hashValue (bytesBits data)).toList = words
  induction words with
  | nil => rfl
  | cons word words ih =>
    rw [List.flatMap_cons, List.flatMap_cons, bytesBits_append, ih, bytesBits_bigEndian]

/-! ## Blocks of bytes -/

/-- The words of a block. -/
def blockWords (block : List UInt8) (t : ℕ) : UInt32 :=
  UInt32.ofNat (valueOf (bytesBits ((block.drop (4 * t)).take 4)))

/-- The hash value after some blocks of a byte string. -/
def hashBlocks : ℕ → Words → List UInt8 → Words
  | 0, hash, _ => hash
  | n + 1, hash, data => hashBlocks n (compress hash (blockWords (data.take 64))) (data.drop 64)

/-- The first words of a schedule are those of the block. -/
theorem schedule_of_lt (block : ℕ → UInt32) {t : ℕ} (h : t < 16) : schedule block t = block t := by
  rw [schedule, if_pos h]

/-- The others follow from the ones before. -/
theorem schedule_of_le (block : ℕ → UInt32) {t : ℕ} (h : 16 ≤ t) :
    schedule block t = smallSigma1 (schedule block (t - 2)) + schedule block (t - 7) +
      smallSigma0 (schedule block (t - 15)) + schedule block (t - 16) := by
  rw [schedule, if_neg (by omega)]

/-- A schedule looks at sixteen words. -/
theorem schedule_congr {block other : ℕ → UInt32} (h : ∀ t < 16, block t = other t) (t : ℕ) :
    schedule block t = schedule other t := by
  induction t using Nat.strong_induction_on with
  | _ t ih =>
    by_cases ht : t < 16
    · rw [schedule_of_lt block ht, schedule_of_lt other ht, h t ht]
    · rw [schedule_of_le block (by omega), schedule_of_le other (by omega), ih (t - 2) (by omega),
        ih (t - 7) (by omega), ih (t - 15) (by omega), ih (t - 16) (by omega)]

theorem compress_congr {block other : ℕ → UInt32} (h : ∀ t < 16, block t = other t) (hash : Words) :
    compress hash block = compress hash other := by
  unfold compress
  simp only [schedule_congr h]

/-- **The blocks of a byte string, one after the other.** -/
theorem foldl_compress_bytesBits (n : ℕ) (hash : Words) (bytes : List UInt8) (h : 64 * n ≤ bytes.length) :
    (List.range n).foldl
      (fun hash i => compress hash fun t => wordAt (bytesBits bytes) (16 * i + t)) hash =
      hashBlocks n hash bytes := by
  induction n generalizing hash bytes with
  | zero => rfl
  | succ n ih =>
    have hfirst : compress hash (fun t => wordAt (bytesBits bytes) (16 * 0 + t)) =
        compress hash (blockWords (bytes.take 64)) := by
      refine compress_congr (fun t ht => ?_) hash
      rw [wordAt_bytesBits, blockWords, List.drop_take, List.take_take, Nat.mul_zero, Nat.zero_add,
        Nat.min_eq_left (by omega)]
    have hnext (i t : ℕ) : wordAt (bytesBits bytes) (16 * (i + 1) + t) =
        wordAt (bytesBits (bytes.drop 64)) (16 * i + t) := by
      rw [wordAt_bytesBits, wordAt_bytesBits, List.drop_drop]
      congr 5
      ring
    rw [List.range_succ_eq_map, List.foldl_cons, List.foldl_map, hfirst, hashBlocks,
      ← ih _ (bytes.drop 64) (by rw [List.length_drop]; omega)]
    simp only [Nat.succ_eq_add_one, hnext]

/-- Blocks of a byte string that goes on. -/
theorem hashBlocks_append {n : ℕ} (m : ℕ) (hash : Words) {bytes : List UInt8}
    (h : bytes.length = 64 * n) (more : List UInt8) :
    hashBlocks (n + m) hash (bytes ++ more) = hashBlocks m (hashBlocks n hash bytes) more := by
  induction n generalizing hash bytes with
  | zero =>
    rw [Nat.mul_zero, List.length_eq_zero_iff] at h
    rw [h, Nat.zero_add]
    rfl
  | succ n ih =>
    have hblock : 64 ≤ bytes.length := by omega
    rw [Nat.succ_add, hashBlocks, hashBlocks, List.take_append_of_le_length hblock,
      List.drop_append_of_le_length hblock, ih _ (by rw [List.length_drop]; omega)]

/-- **The hash value of a byte string**, from the blocks of its padding. -/
theorem hashValue_bytesBits (data : List UInt8) :
    hashValue (bytesBits data) =
      hashBlocks ((data.length + 8) / 64 + 1) initial (padBytes data) := by
  have hlength := length_padBytes data
  have hblocks : (bytesBits (padBytes data)).length / 512 = (data.length + 8) / 64 + 1 := by
    rw [length_bytesBits, hlength]
    omega
  unfold hashValue
  dsimp only
  rw [pad_bytesBits, hblocks]
  exact foldl_compress_bytesBits _ _ _ (by rw [hlength])

end Sha256

end Foundation
