import SeedMg24.Foundation.Text
import Mathlib.Data.Int.Log

/-!
# JSON texts

The values of JSON and the reader of Python's `json` module: a value is read from the beginning of a
text, together with what it leaves.  `Reads` says that a text is read as a value wherever it stands;
texts of strings, numbers and objects are put together by its rules.  A text that opens an object
and does not close it is no value.
-/

set_option autoImplicit false

namespace Foundation

/-- A 64-bit float, the two zeros being one. -/
inductive Double where
  | nan
  | infinite (negative : Bool)
  | finite (value : ℚ)
deriving DecidableEq, Repr

/-- The nearest integer, the even one of two. -/
def roundEven (q : ℚ) : ℤ :=
  if q - ⌊q⌋ < 1 / 2 then ⌊q⌋
  else if 1 / 2 < q - ⌊q⌋ then ⌊q⌋ + 1
  else if 2 ∣ ⌊q⌋ then ⌊q⌋
  else ⌊q⌋ + 1

/-- The float nearest to a number. -/
def Double.nearest (q : ℚ) : Double :=
  let exponent := max (Int.log 2 |q| - 52) (-1074)
  let value := roundEven (q / 2 ^ exponent) * (2 : ℚ) ^ exponent
  if 2 ^ 1024 ≤ |value| then .infinite (q < 0) else .finite value

/-- What a JSON text stands for.  The members of an object are kept as they are written. -/
inductive Json where
  | null
  | bool (b : Bool)
  | int (z : ℤ)
  | float (x : Double)
  | str (s : Text)
  | arr (items : List Json)
  | obj (members : List (Text × Json))

namespace Json

/-! ## The reader -/

/-- The characters `[ \t\n\r]`. -/
def isSpace (c : Char) : Bool := c == ' ' || c == '\t' || c == '\n' || c == '\r'

/-- The text after the space it begins with. -/
def skip (s : Text) : Text := s.dropWhile isSpace

/-- A hexadecimal digit. -/
def hexDigit (c : Char) : Option ℕ :=
  if c.isDigit then some (c.toNat - 48)
  else if 'a' ≤ c ∧ c ≤ 'f' then some (c.toNat - 87)
  else if 'A' ≤ c ∧ c ≤ 'F' then some (c.toNat - 55)
  else none

/-- The code unit of four hexadecimal digits. -/
def codeUnit (a b c d : Char) : Option ℕ := do
  return 4096 * (← hexDigit a) + 256 * (← hexDigit b) + 16 * (← hexDigit c) + (← hexDigit d)

/-- The escapes of one letter. -/
def escapes : List (Char × Char) :=
  [('"', '"'), ('\\', '\\'), ('/', '/'), ('b', '\x08'), ('f', '\x0c'), ('n', '\n'), ('r', '\r'),
    ('t', '\t')]

/-- The code units of a string, read up to its closing quote, and what is left. -/
def string : Text → Option (List ℕ × Text)
  | [] => none
  | '"' :: s => some ([], s)
  | '\\' :: 'u' :: a :: b :: c :: d :: s => do
    let unit ← codeUnit a b c d
    let (units, rest) ← string s
    return (unit :: units, rest)
  | '\\' :: c :: s => do
    let character ← escapes.lookup c
    let (units, rest) ← string s
    return (character.toNat :: units, rest)
  | c :: s => do
    if c.toNat < 32 ∨ c = '\\' then none
    let (units, rest) ← string s
    return (c.toNat :: units, rest)

/-- The characters of code units: a pair of surrogates is one character, and a surrogate of its own
the replacement character. -/
def characters : List ℕ → Text
  | [] => []
  | [unit] => [if 0xD800 ≤ unit ∧ unit < 0xE000 then '\ufffd' else Char.ofNat unit]
  | high :: low :: units =>
    if 0xD800 ≤ high ∧ high < 0xDC00 ∧ 0xDC00 ≤ low ∧ low < 0xE000 then
      Char.ofNat (0x10000 + 0x400 * (high - 0xD800) + (low - 0xDC00)) :: characters units
    else
      (if 0xD800 ≤ high ∧ high < 0xE000 then '\ufffd' else Char.ofNat high) ::
        characters (low :: units)

/-- The words that are values. -/
def words : List (Text × Json) := [
  ("null".toList, .null), ("true".toList, .bool true), ("false".toList, .bool false),
  ("NaN".toList, .float .nan), ("Infinity".toList, .float (.infinite false)),
  ("-Infinity".toList, .float (.infinite true))]

/-- The value of a word a text begins with. -/
def word (s : Text) : Option (Json × Text) :=
  words.findSome? fun (w, j) => if w.isPrefixOf s then some (j, s.drop w.length) else none

/-- Whether a text begins with a minus, and what is left. -/
def minus : Text → Bool × Text
  | '-' :: s => (true, s)
  | s => (false, s)

/-- The same where a plus may stand as well. -/
def signed : Text → Bool × Text
  | '+' :: s => (false, s)
  | s => minus s

/-- The digits a text begins with, and what is left. -/
def digits (s : Text) : Text × Text := (s.takeWhile Char.isDigit, s.dropWhile Char.isDigit)

/-- The digits before the point: no other digit follows a zero. -/
def wholePart : Text → Option (Text × Text)
  | '0' :: s => some (['0'], s)
  | s => match digits s with
    | ([], _) => none
    | (whole, rest) => some (whole, rest)

/-- The digits after the point, if there are any. -/
def fractionPart (s : Text) : Option (Text × Text) :=
  match s with
  | '.' :: s => match digits s with
    | ([], _) => none
    | (fraction, rest) => some (fraction, rest)
  | _ => none

/-- The exponent, if there is one. -/
def exponentPart (s : Text) : Option (ℤ × Text) :=
  match s with
  | e :: s =>
    if e ≠ 'e' ∧ e ≠ 'E' then none
    else
      let (negative, s) := signed s
      match digits s with
      | ([], _) => none
      | (exponent, rest) =>
        let exponent : ℤ := Text.digitsValue exponent
        some (if negative then -exponent else exponent, rest)
  | [] => none

/-- The number a text begins with. -/
def number (s : Text) : Option (Json × Text) := do
  let (negative, s) := minus s
  let (whole, s) ← wholePart s
  let fraction := fractionPart s
  let s := (fraction.map Prod.snd).getD s
  let exponent := exponentPart s
  let s := (exponent.map Prod.snd).getD s
  if fraction.isNone ∧ exponent.isNone then
    let value : ℤ := Text.digitsValue whole
    return (.int (if negative then -value else value), s)
  let fraction := (fraction.map Prod.fst).getD []
  let exponent := (exponent.map Prod.fst).getD 0
  let value := Text.digitsValue (whole ++ fraction) * (10 : ℚ) ^ (exponent - fraction.length)
  return (.float (Double.nearest (if negative then -value else value)), s)

mutual

/-- The value a text begins with, and what is left. -/
def value : ℕ → Text → Option (Json × Text)
  | 0, _ => none
  | fuel + 1, s =>
    match s with
    | '"' :: s => do
      let (units, s) ← string s
      return (.str (characters units), s)
    | '\x7b' :: s =>
      match skip s with
      | '\x7d' :: s => some (.obj [], s)
      | s => do
        let (members, s) ← members fuel s
        return (.obj members, s)
    | '[' :: s =>
      match skip s with
      | ']' :: s => some (.arr [], s)
      | s => do
        let (items, s) ← items fuel s
        return (.arr items, s)
    | s => (word s).or (number s)

/-- The members of an object, up to its closing brace. -/
def members : ℕ → Text → Option (List (Text × Json) × Text)
  | 0, _ => none
  | fuel + 1, s =>
    match s with
    | '"' :: s => do
      let (key, s) ← string s
      match skip s with
      | ':' :: s => do
        let (value, s) ← value fuel (skip s)
        match skip s with
        | '\x7d' :: s => return ([(characters key, value)], s)
        | ',' :: s => do
          let (others, s) ← members fuel (skip s)
          return ((characters key, value) :: others, s)
        | _ => none
      | _ => none
    | _ => none

/-- The items of an array, up to its closing bracket. -/
def items : ℕ → Text → Option (List Json × Text)
  | 0, _ => none
  | fuel + 1, s => do
    let (value, s) ← value fuel s
    match skip s with
    | ']' :: s => return ([value], s)
    | ',' :: s => do
      let (others, s) ← items fuel (skip s)
      return (value :: others, s)
    | _ => none

end

/-- `json.loads`: one value, and nothing but space around it. -/
def loads (s : Text) : Option Json := do
  let (j, rest) ← value (s.length + 1) (skip s)
  if skip rest = [] then some j else none

/-- `get` of a dictionary: of members with one key the last counts. -/
def get? (j : Json) (key : Text) : Option Json :=
  match j with
  | .obj members => members.reverse.lookup key
  | _ => none

/-- Whether something is there and equal to a text. -/
def isStr (j : Option Json) (s : Text) : Bool :=
  match j with
  | some (.str t) => t = s
  | _ => false

/-- Whether something is there and equal to an integer, as Python compares numbers. -/
def isInt (j : Option Json) (z : ℤ) : Bool :=
  match j with
  | some (.int y) => y = z
  | some (.bool b) => (if b then 1 else 0) = z
  | some (.float (.finite q)) => q = z
  | _ => false

/-! ## Strings -/

/-- A text whose characters stand for themselves in a string. -/
def IsVerbatim (s : Text) : Prop := ∀ c ∈ s, 32 ≤ c.toNat ∧ c ≠ '"' ∧ c ≠ '\\'

instance (s : Text) : Decidable (IsVerbatim s) := inferInstanceAs (Decidable (∀ c ∈ s, _))

/-- A letter, a digit, a dash or an underscore. -/
def isBare (c : Char) : Bool := c.isAlphanum || c == '-' || c == '_'

/-- A text of such characters. -/
def IsBare (s : Text) : Prop := ∀ c ∈ s, isBare c = true

instance (s : Text) : Decidable (IsBare s) := inferInstanceAs (Decidable (∀ c ∈ s, _))

/-- Their ranges. -/
theorem isBare_iff {c : Char} : isBare c = true ↔ (65 ≤ c.toNat ∧ c.toNat ≤ 90) ∨
    (97 ≤ c.toNat ∧ c.toNat ≤ 122) ∨ (48 ≤ c.toNat ∧ c.toNat ≤ 57) ∨ c = '-' ∨ c = '_' := by
  delta isBare Char.isAlphanum Char.isAlpha Char.isUpper Char.isLower Char.isDigit
  simp only [Bool.or_eq_true, Bool.and_eq_true, decide_eq_true_eq, beq_iff_eq, or_assoc]
  exact Iff.rfl

/-- What a text of such characters does without. -/
theorem IsBare.not_mem {s : Text} (h : IsBare s) {c : Char} (hc : isBare c = false) : c ∉ s := by
  intro hmem
  rw [h c hmem] at hc
  cases hc

theorem IsBare.isVerbatim {s : Text} (h : IsBare s) : IsVerbatim s := by
  intro c hc
  have hbare := h c hc
  refine ⟨?_, ?_, ?_⟩
  · by_contra hcontrol
    have hsmall : ∀ n < 32, isBare (Char.ofNat n) = false := by decide
    have hnot := hsmall c.toNat (by omega)
    rw [Char.ofNat_toNat, hbare] at hnot
    cases hnot
  · rintro rfl
    exact absurd hbare (by decide)
  · rintro rfl
    exact absurd hbare (by decide)

theorem isVerbatim_append {s t : Text} (hs : IsVerbatim s) (ht : IsVerbatim t) :
    IsVerbatim (s ++ t) := by
  intro c hc
  rcases List.mem_append.mp hc with h | h
  · exact hs c h
  · exact ht c h

/-- A character that stands for itself is read as such. -/
theorem string_cons {c : Char} (hc : 32 ≤ c.toNat ∧ c ≠ '"' ∧ c ≠ '\\') (s : Text) :
    string (c :: s) = (string s).map fun (units, rest) => (c.toNat :: units, rest) := by
  have hcontrol : ¬ c.toNat < 32 := by omega
  rw [string.eq_def]
  split
  · rename_i h
    cases h
  · rename_i h
    cases h
    exact absurd rfl hc.2.1
  · rename_i h
    cases h
    exact absurd rfl hc.2.2
  · rename_i h
    cases h
    exact absurd rfl hc.2.2
  · rename_i h
    cases h
    rw [if_neg (by simp [hcontrol, hc.2.2])]
    cases string s <;> rfl

/-- A string is read up to the quote after it. -/
theorem string_verbatim {s : Text} (h : IsVerbatim s) (rest : Text) :
    string (s ++ '"' :: rest) = some (s.map Char.toNat, rest) := by
  induction s with
  | nil => rfl
  | cons c s ih =>
    rw [List.cons_append, string_cons (h c (by simp)), ih fun d hd => h d (by simp [hd])]
    rfl

/-- No character is a surrogate. -/
theorem characters_map_toNat (s : Text) : characters (s.map Char.toNat) = s := by
  have hcharacter (c : Char) : ¬ (0xD800 ≤ c.toNat ∧ c.toNat < 0xE000) := by
    have hvalid := c.valid
    simp only [UInt32.isValidChar, Nat.isValidChar] at hvalid
    have hval : c.toNat = c.val.toNat := rfl
    omega
  induction s with
  | nil => rfl
  | cons c s ih =>
    have hc := hcharacter c
    cases s with
    | nil =>
      rw [List.map_singleton, characters, if_neg hc, Char.ofNat_toNat]
    | cons d s =>
      rw [List.map_cons] at ih ⊢
      rw [List.map_cons, characters, if_neg (by omega), if_neg hc, Char.ofNat_toNat, ih]

/-! ## Texts of values -/

/-- What a number does not go on with. -/
def Ends (rest : Text) : Prop :=
  ∀ c ∈ rest.head?, c.isDigit = false ∧ c ≠ '.' ∧ c ≠ 'e' ∧ c ≠ 'E'

/-- A text that is read as a value, whatever follows that ends it. -/
def Reads (text : Text) (j : Json) : Prop :=
  ∀ fuel rest, text.length ≤ fuel → Ends rest → value fuel (text ++ rest) = some (j, rest)

/-- A value does not begin with a space. -/
theorem value_space {c : Char} (hc : isSpace c = true) (fuel : ℕ) (s : Text) :
    value fuel (c :: s) = none := by
  simp only [isSpace, Bool.or_eq_true, beq_iff_eq] at hc
  cases fuel with
  | zero => rfl
  | succ fuel => rcases hc with ((rfl | rfl) | rfl) | rfl <;> rfl

/-- There is no space to skip before the text of a value. -/
theorem Reads.skip_append {text : Text} {j : Json} (h : Reads text j) (rest : Text) :
    skip (text ++ rest) = text ++ rest := by
  cases text with
  | nil => cases h 0 [] (le_refl _) (by simp [Ends])
  | cons c s =>
    have hread := h (c :: s).length [] (le_refl _) (by simp [Ends])
    have hc : isSpace c = false := by
      rw [Bool.eq_false_iff]
      intro hspace
      rw [List.append_nil, value_space hspace] at hread
      cases hread
    rw [List.cons_append, skip, List.dropWhile_cons_of_neg (by simp [hc])]

/-! ### What a value begins with -/

theorem value_quote (fuel : ℕ) (s : Text) :
    value (fuel + 1) ('"' :: s) =
      (string s).map fun (units, rest) => (.str (characters units), rest) := by
  have hvalue : value (fuel + 1) ('"' :: s) = (do
    let (units, rest) ← string s
    return (.str (characters units), rest)) := rfl
  rw [hvalue]
  cases string s <;> rfl

/-- What is read after an opening brace. -/
def valueOpened (fuel : ℕ) (s : Text) : Option (Json × Text) :=
  match skip s with
  | '\x7d' :: s => some (.obj [], s)
  | s => do
    let (members, s) ← members fuel s
    return (.obj members, s)

theorem value_open (fuel : ℕ) (s : Text) :
    value (fuel + 1) ('\x7b' :: s) = valueOpened fuel s := rfl

theorem value_brace (fuel : ℕ) {s : Text} (h : (skip s).head? = some '"') :
    value (fuel + 1) ('\x7b' :: s) =
      (members fuel (skip s)).map fun (members, rest) => (.obj members, rest) := by
  rw [value_open, valueOpened]
  cases hskip : skip s with
  | nil =>
    rw [hskip] at h
    cases h
  | cons c t =>
    rw [hskip] at h
    cases h
    show (do
      let (members, rest) ← members fuel ('"' :: t)
      return (obj members, rest)) = _
    cases members fuel ('"' :: t) <;> rfl

theorem value_scalar (fuel : ℕ) {c : Char} (hc : c ≠ '"' ∧ c ≠ '\x7b' ∧ c ≠ '[') (s : Text) :
    value (fuel + 1) (c :: s) = (word (c :: s)).or (number (c :: s)) := by
  rw [value.eq_def]
  dsimp only
  split
  · rename_i h
    cases h
    exact absurd rfl hc.1
  · rename_i h
    cases h
    exact absurd rfl hc.2.1
  · rename_i h
    cases h
    exact absurd rfl hc.2.2
  · rfl

/-- A text that begins as no word does begins with no word. -/
theorem word_eq_none {d : Char} {s : Text}
    (h : ∀ w j, (w, j) ∈ words → w.head? ≠ some d) : word (d :: s) = none := by
  unfold word
  rw [List.findSome?_eq_none_iff]
  rintro ⟨w, j⟩ hw
  rw [ite_eq_right_iff]
  intro hprefix
  cases w with
  | nil => exact absurd hw (by simp [words])
  | cons c w =>
    rw [List.isPrefixOf_iff_prefix, List.cons_prefix_cons] at hprefix
    exact absurd (congrArg some hprefix.1) (h _ _ hw)

/-- A quoted text is read as a string. -/
theorem reads_str {s : Text} (h : IsVerbatim s) : Reads ('"' :: s ++ ['"']) (.str s) := by
  intro fuel rest hfuel _
  cases fuel with
  | zero => simp at hfuel
  | succ fuel =>
    rw [show '"' :: s ++ ['"'] ++ rest = '"' :: (s ++ '"' :: rest) by simp, value_quote,
      string_verbatim h]
    simp [characters_map_toNat]

/-- The words are read as what they stand for. -/
theorem reads_null : Reads "null".toList .null := by
  intro fuel rest hfuel _
  cases fuel with
  | zero => simp at hfuel
  | succ fuel => rfl

theorem reads_bool (b : Bool) : Reads (if b then "true" else "false").toList (.bool b) := by
  intro fuel rest hfuel _
  cases fuel with
  | zero => cases b <;> simp at hfuel
  | succ fuel => cases b <;> rfl

/-- A number but zero does not begin with a zero. -/
theorem decimal_eq_cons {n : ℕ} (h : 0 < n) :
    ∃ c s, Text.decimal n = c :: s ∧ c ≠ '0' := by
  induction n using Nat.strong_induction_on with
  | _ n ih =>
    unfold Text.decimal
    by_cases hsmall : n < 10
    · rw [Nat.toDigits_of_lt_base hsmall]
      refine ⟨n.digitChar, [], rfl, ?_⟩
      interval_cases n <;> decide
    · rw [Nat.toDigits_of_base_le (by decide) (by omega)]
      obtain ⟨c, s, hdigits, hc⟩ := ih (n / 10) (by omega) (by omega)
      unfold Text.decimal at hdigits
      rw [hdigits]
      exact ⟨c, _, rfl, hc⟩

/-- The digits a text begins with, up to what is none. -/
theorem digits_append {s rest : Text} (hs : ∀ c ∈ s, c.isDigit = true)
    (hrest : ∀ c ∈ rest.head?, c.isDigit = false) : digits (s ++ rest) = (s, rest) := by
  have htake : rest.takeWhile Char.isDigit = [] ∧ rest.dropWhile Char.isDigit = rest := by
    cases rest with
    | nil => exact ⟨rfl, rfl⟩
    | cons c rest =>
      have hc := hrest c (by simp)
      exact ⟨List.takeWhile_cons_of_neg (by simp [hc]), List.dropWhile_cons_of_neg (by simp [hc])⟩
  rw [digits, List.takeWhile_append_of_pos hs, List.dropWhile_append_of_pos hs, htake.1, htake.2,
    List.append_nil]

/-- What ends a number is neither a fraction nor an exponent. -/
theorem ends_parts {rest : Text} (h : Ends rest) :
    fractionPart rest = none ∧ exponentPart rest = none := by
  cases rest with
  | nil => exact ⟨rfl, rfl⟩
  | cons c rest =>
    obtain ⟨-, hpoint, he, hE⟩ := h c (by simp)
    constructor
    · unfold fractionPart
      split
      · rename_i heq
        cases heq
        exact absurd rfl hpoint
      · rfl
    · unfold exponentPart
      dsimp only
      rw [if_pos ⟨he, hE⟩]

/-- The digits before the point. -/
theorem wholePart_decimal (n : ℕ) {rest : Text} (h : ∀ c ∈ rest.head?, c.isDigit = false) :
    wholePart (Text.decimal n ++ rest) = some (Text.decimal n, rest) := by
  rcases Nat.eq_zero_or_pos n with rfl | hn
  · rfl
  · obtain ⟨c, s, hdecimal, hc⟩ := decimal_eq_cons hn
    have hdigits := digits_append (fun c hc => Text.isDigit_of_mem_decimal (n := n) hc) h
    rw [hdecimal] at hdigits ⊢
    unfold wholePart
    split
    · rename_i heq
      cases heq
      exact absurd rfl hc
    · rw [hdigits]

/-- What a digit is not. -/
theorem ne_of_isDigit {d c : Char} (hd : d.isDigit = true) (hc : c.isDigit = false) : d ≠ c := by
  rintro rfl
  rw [hd] at hc
  cases hc

/-- What begins with a digit has no sign. -/
theorem minus_digit {d : Char} (hd : d.isDigit = true) (s : Text) :
    minus (d :: s) = (false, d :: s) := by
  unfold minus
  split
  · rename_i heq
    cases heq
    exact absurd rfl (ne_of_isDigit hd (by decide : '-'.isDigit = false))
  · rfl

/-- What begins with a digit is a number. -/
theorem value_digit {d : Char} (hd : d.isDigit = true) (fuel : ℕ) (s : Text) :
    value (fuel + 1) (d :: s) = number (d :: s) := by
  have hword : word (d :: s) = none := by
    apply word_eq_none
    rintro w j hw hhead
    have hletter : ∀ p ∈ words, ∀ c ∈ p.1.head?, c.isDigit = false := by decide
    exact ne_of_isDigit hd (hletter (w, j) hw d hhead) rfl
  rw [value_scalar fuel ⟨ne_of_isDigit hd (by decide), ne_of_isDigit hd (by decide),
    ne_of_isDigit hd (by decide)⟩, hword, Option.none_or]

/-- A number is read as a number. -/
theorem reads_decimal (n : ℕ) : Reads (Text.decimal n) (.int n) := by
  intro fuel rest hfuel hrest
  have hwhole := wholePart_decimal n fun c hc => (hrest c hc).1
  have hdigit : ∀ c ∈ Text.decimal n, c.isDigit = true := fun c => Text.isDigit_of_mem_decimal
  have hvalue := Text.digitsValue_decimal n
  cases fuel with
  | zero =>
    have hne := List.length_pos_iff.mpr (Text.decimal_ne_nil n)
    omega
  | succ fuel =>
    cases hdecimal : Text.decimal n with
    | nil => exact absurd hdecimal (Text.decimal_ne_nil n)
    | cons d s =>
      rw [hdecimal] at hwhole hdigit hvalue
      have hd := hdigit d (by simp)
      rw [List.cons_append] at hwhole ⊢
      obtain ⟨hfraction, hexponent⟩ := ends_parts hrest
      rw [value_digit hd]
      unfold number
      rw [minus_digit hd]
      dsimp only
      rw [hwhole]
      simp [hfraction, hexponent, hvalue]

/-! ## Objects -/

/-- A member of an object. -/
def memberText (key text : Text) : Text := '"' :: key ++ '"' :: ':' :: text

/-- The members of an object, with the texts of their values. -/
def membersText : List (Text × Text) → Text
  | [] => []
  | [(key, text)] => memberText key text
  | (key, text) :: member :: others => memberText key text ++ ',' :: membersText (member :: others)

/-- An object without any space. -/
def objectText (members : List (Text × Text)) : Text :=
  '\x7b' :: membersText members ++ ['\x7d']

/-- What is read after the key of a member. -/
def membersFrom (fuel : ℕ) (key s : Text) : Option (List (Text × Json) × Text) := do
  let (value, s) ← value fuel (skip s)
  match skip s with
  | '\x7d' :: s => return ([(key, value)], s)
  | ',' :: s => do
    let (others, s) ← members fuel (skip s)
    return ((key, value) :: others, s)
  | _ => none

theorem members_memberText (fuel : ℕ) {key : Text} (h : IsVerbatim key) (s : Text) :
    members (fuel + 1) (memberText key s) = membersFrom fuel key s := by
  have hmembers (t : Text) : members (fuel + 1) ('"' :: t) = (do
      let (units, s) ← string t
      match skip s with
      | ':' :: s => membersFrom fuel (characters units) s
      | _ => none) := rfl
  rw [memberText, List.cons_append, hmembers, string_verbatim h]
  show membersFrom fuel (characters (key.map Char.toNat)) s = _
  rw [characters_map_toNat]

/-- The last member. -/
theorem membersFrom_last {fuel : ℕ} {text : Text} {j : Json} (h : Reads text j)
    (hfuel : text.length ≤ fuel) (key rest : Text) :
    membersFrom fuel key (text ++ '\x7d' :: rest) = some ([(key, j)], rest) := by
  have hends : Ends ('\x7d' :: rest) := by
    simp [Ends]
  unfold membersFrom
  rw [h.skip_append, h fuel _ hfuel hends]
  rfl

/-- A member before others. -/
theorem membersFrom_more {fuel : ℕ} {text : Text} {j : Json} (h : Reads text j)
    (hfuel : text.length ≤ fuel) (key rest : Text) {others : List (Text × Json)} {last : Text}
    (hothers : members fuel (skip rest) = some (others, last)) :
    membersFrom fuel key (text ++ ',' :: rest) = some ((key, j) :: others, last) := by
  have hends : Ends (',' :: rest) := by
    simp [Ends]
  unfold membersFrom
  rw [h.skip_append, h fuel _ hfuel hends]
  show (do
    let (others, s) ← members fuel (skip rest)
    return ((key, j) :: others, s)) = _
  rw [hothers]
  rfl

/-- A member of an object, the text it is printed as, and what the text stands for. -/
structure Field where
  key : Text
  text : Text
  json : Json

/-- The key can be written, and the text is read as the value. -/
def Field.IsRead (f : Field) : Prop := IsVerbatim f.key ∧ Reads f.text f.json

/-- A member that is a string. -/
def Field.string (key s : Text) : Field := ⟨key, '"' :: s ++ ['"'], .str s⟩

/-- A member that is a natural number. -/
def Field.natural (key : Text) (n : ℕ) : Field := ⟨key, Text.decimal n, .int n⟩

theorem Field.isRead_string {key s : Text} (hkey : IsVerbatim key) (h : IsVerbatim s) :
    (Field.string key s).IsRead := ⟨hkey, reads_str h⟩

theorem Field.isRead_natural {key : Text} (hkey : IsVerbatim key) (n : ℕ) :
    (Field.natural key n).IsRead := ⟨hkey, reads_decimal n⟩

/-- A member that is a truth value. -/
def Field.bool (key : Text) (b : Bool) : Field := ⟨key, (if b then "true" else "false").toList, .bool b⟩

/-- A member that is a text or nothing. -/
def Field.optionalString (key : Text) : Option Text → Field
  | none => ⟨key, "null".toList, .null⟩
  | some s => .string key s

theorem Field.isRead_bool {key : Text} (hkey : IsVerbatim key) (b : Bool) :
    (Field.bool key b).IsRead := ⟨hkey, reads_bool b⟩

theorem Field.isRead_optionalString {key : Text} (hkey : IsVerbatim key) {s : Option Text}
    (h : ∀ t ∈ s, IsVerbatim t) : (Field.optionalString key s).IsRead := by
  cases s with
  | none => exact ⟨hkey, reads_null⟩
  | some t => exact Field.isRead_string hkey (h t rfl)

/-- The text of an object with the given members. -/
def fieldsText (fields : List Field) : Text :=
  objectText (fields.map fun f => (f.key, f.text))

/-- How long the text of an object is. -/
theorem length_fieldsText {fields : List Field} (hne : fields ≠ []) :
    (fieldsText fields).length =
      (fields.map fun f => f.key.length + f.text.length + 4).sum + 1 := by
  have hmembers : (membersText (fields.map fun f => (f.key, f.text))).length + 1 =
      (fields.map fun f => f.key.length + f.text.length + 4).sum := by
    induction fields with
    | nil => exact absurd rfl hne
    | cons f fields ih =>
      cases fields with
      | nil =>
        simp only [List.map_cons, List.map_nil, membersText, memberText, List.length_append,
          List.length_cons, List.sum_cons, List.sum_nil]
        omega
      | cons g fields =>
        have hothers := ih (by simp)
        simp only [List.map_cons, membersText, memberText, List.length_append, List.length_cons,
          List.sum_cons] at hothers ⊢
        omega
  unfold fieldsText objectText
  rw [List.length_append, List.length_cons, List.length_singleton, ← hmembers]

/-- The object with the given members. -/
def fieldsJson (fields : List Field) : Json := .obj (fields.map fun f => (f.key, f.json))

theorem members_fields {fields : List Field} (hne : fields ≠ []) (h : ∀ f ∈ fields, f.IsRead)
    (fuel : ℕ) (rest : Text)
    (hfuel : (membersText (fields.map fun f => (f.key, f.text))).length ≤ fuel) :
    members fuel (membersText (fields.map fun f => (f.key, f.text)) ++ '\x7d' :: rest) =
      some (fields.map fun f => (f.key, f.json), rest) := by
  induction fields generalizing fuel with
  | nil => exact absurd rfl hne
  | cons f fields ih =>
    obtain ⟨hkey, htext⟩ := h f (by simp)
    cases fuel with
    | zero => cases fields <;> simp [membersText, memberText] at hfuel
    | succ fuel =>
      cases fields with
      | nil =>
        simp only [List.map_cons, List.map_nil, membersText, memberText, List.length_append,
          List.length_cons] at hfuel
        have hmember : memberText f.key f.text ++ '\x7d' :: rest =
            memberText f.key (f.text ++ '\x7d' :: rest) := by simp [memberText]
        rw [List.map_cons, List.map_nil, membersText, hmember, members_memberText fuel hkey,
          membersFrom_last htext (by omega)]
        rfl
      | cons g fields =>
        simp only [List.map_cons, membersText, memberText, List.length_append,
          List.length_cons] at hfuel
        have hothers := ih (by simp) (fun f hf => h f (by simp [hf])) fuel
          (by simp only [List.map_cons]; omega)
        have hskip : skip (membersText ((g :: fields).map fun f => (f.key, f.text)) ++
            '\x7d' :: rest) = membersText ((g :: fields).map fun f => (f.key, f.text)) ++
            '\x7d' :: rest := by
          cases fields <;> rfl
        rw [← hskip] at hothers
        have hmember : membersText ((f :: g :: fields).map fun f => (f.key, f.text)) ++
            '\x7d' :: rest = memberText f.key (f.text ++ ',' ::
              (membersText ((g :: fields).map fun f => (f.key, f.text)) ++ '\x7d' :: rest)) := by
          simp [membersText, memberText]
        rw [hmember, members_memberText fuel hkey, membersFrom_more htext (by omega) _ _ hothers]
        rfl

/-- **An object of texts that are read is read.** -/
theorem reads_fields {fields : List Field} (hne : fields ≠ []) (h : ∀ f ∈ fields, f.IsRead) :
    Reads (fieldsText fields) (fieldsJson fields) := by
  intro fuel rest hfuel _
  cases fuel with
  | zero => simp [fieldsText, objectText] at hfuel
  | succ fuel =>
    have hlength : (membersText (fields.map fun f => (f.key, f.text))).length ≤ fuel := by
      simp only [fieldsText, objectText, List.length_append, List.length_cons] at hfuel
      omega
    have htext : fieldsText fields ++ rest =
        '\x7b' :: (membersText (fields.map fun f => (f.key, f.text)) ++ '\x7d' :: rest) := by
      simp [fieldsText, objectText]
    have hskip : skip (membersText (fields.map fun f => (f.key, f.text)) ++ '\x7d' :: rest) =
          membersText (fields.map fun f => (f.key, f.text)) ++ '\x7d' :: rest ∧
        (membersText (fields.map fun f => (f.key, f.text)) ++ '\x7d' :: rest).head? =
          some '"' := by
      rcases fields with _ | ⟨f, _ | ⟨g, fields⟩⟩
      · exact absurd rfl hne
      · exact ⟨rfl, rfl⟩
      · exact ⟨rfl, rfl⟩
    rw [htext, value_brace fuel (by rw [hskip.1]; exact hskip.2), hskip.1,
      members_fields hne h fuel rest hlength]
    rfl

/-- A member that is an object. -/
def Field.object (key : Text) (fields : List Field) : Field :=
  ⟨key, fieldsText fields, fieldsJson fields⟩

theorem Field.isRead_object {key : Text} (hkey : IsVerbatim key) {fields : List Field}
    (hne : fields ≠ []) (h : ∀ f ∈ fields, f.IsRead) : (Field.object key fields).IsRead :=
  ⟨hkey, reads_fields hne h⟩

/-- **A text that is read is loaded**, with space after it or not. -/
theorem loads_of_reads {text : Text} {j : Json} (h : Reads text j) {space : Text}
    (hspace : ∀ c ∈ space, isSpace c = true) : loads (text ++ space) = some j := by
  have hends : Ends space := by
    intro c hc
    have hc := hspace c (List.mem_of_mem_head? hc)
    simp only [isSpace, Bool.or_eq_true, beq_iff_eq] at hc
    rcases hc with ((rfl | rfl) | rfl) | rfl <;> decide
  have hskip : skip space = [] := by
    unfold skip
    rw [List.dropWhile_eq_nil_iff]
    exact hspace
  unfold loads
  rw [h.skip_append, h _ _ (by simp; omega) hends]
  simp [hskip]

/-! ## Objects that are not closed -/

theorem skip_suffix (s : Text) : skip s <:+ s := List.dropWhile_suffix _

/-- What is left after a string is an end of the text. -/
theorem string_suffix {s : Text} {units : List ℕ} {rest : Text}
    (h : string s = some (units, rest)) : rest <:+ s := by
  induction s using string.induct generalizing units with
  | case1 => cases h
  | case2 s =>
    cases h
    exact List.suffix_cons _ _
  | case3 a b c d s ih =>
    rw [string] at h
    simp only [Option.bind_eq_bind, Option.bind_eq_some_iff] at h
    obtain ⟨unit, -, ⟨others, rest'⟩, hothers, h⟩ := h
    cases h
    exact (ih hothers).trans ⟨['\\', 'u', a, b, c, d], rfl⟩
  | case4 c s hne ih =>
    rw [string] at h
    · simp only [Option.bind_eq_bind, Option.bind_eq_some_iff] at h
      obtain ⟨character, -, ⟨others, rest'⟩, hothers, h⟩ := h
      cases h
      exact (ih hothers).trans ⟨['\\', c], rfl⟩
    · exact hne
  | case5 c s hquote hunit hescape hcontrol ih =>
    rw [string] at h
    · rw [if_pos hcontrol] at h
      cases h
    · exact hquote
    · exact hunit
    · exact hescape
  | case6 c s hquote hunit hescape hplain ih =>
    rw [string] at h
    · rw [if_neg hplain] at h
      simp only [Option.bind_eq_bind, Option.bind_eq_some_iff] at h
      obtain ⟨⟨others, rest'⟩, hothers, h⟩ := h
      cases h
      exact (ih hothers).trans (List.suffix_cons _ _)
    · exact hquote
    · exact hunit
    · exact hescape

/-- What is left after a word is an end of the text. -/
theorem word_suffix {s : Text} {j : Json} {rest : Text} (h : word s = some (j, rest)) :
    rest <:+ s := by
  unfold word at h
  obtain ⟨⟨w, j'⟩, -, h⟩ := List.exists_of_findSome?_eq_some h
  dsimp only at h
  split at h
  · cases h
    exact List.drop_suffix _ _
  · cases h

theorem minus_suffix (s : Text) : (minus s).2 <:+ s := by
  unfold minus
  split
  · exact List.suffix_cons _ _
  · exact List.suffix_refl _

theorem digits_suffix (s : Text) : (digits s).2 <:+ s := List.dropWhile_suffix _

theorem wholePart_suffix {s : Text} {whole rest : Text} (h : wholePart s = some (whole, rest)) :
    rest <:+ s := by
  have hdigits := digits_suffix s
  unfold wholePart at h
  split at h
  · cases h
    exact List.suffix_cons _ _
  · generalize digits s = split at h hdigits
    split at h
    · cases h
    · cases h
      exact hdigits

theorem fractionPart_suffix {s : Text} {fraction rest : Text}
    (h : fractionPart s = some (fraction, rest)) : rest <:+ s := by
  unfold fractionPart at h
  split at h
  · rename_i s
    have hdigits := digits_suffix s
    generalize digits s = split at h hdigits
    split at h
    · cases h
    · cases h
      exact hdigits.trans (List.suffix_cons _ _)
  · cases h

theorem exponentPart_suffix {s : Text} {exponent : ℤ} {rest : Text}
    (h : exponentPart s = some (exponent, rest)) : rest <:+ s := by
  unfold exponentPart at h
  split at h
  · rename_i e s
    split at h
    · cases h
    have hsign : (signed s).2 <:+ s := by
      unfold signed
      split
      · exact List.suffix_cons _ _
      · exact minus_suffix s
    have hdigits := digits_suffix (signed s).2
    dsimp only at h
    generalize digits (signed s).2 = split at h hdigits
    split at h
    · cases h
    · cases h
      exact (hdigits.trans hsign).trans (List.suffix_cons _ _)
  · cases h

/-- What is left after a number is an end of the text. -/
theorem number_suffix {s : Text} {j : Json} {rest : Text} (h : number s = some (j, rest)) :
    rest <:+ s := by
  unfold number at h
  simp only [Option.bind_eq_bind, Option.bind_eq_some_iff] at h
  obtain ⟨⟨whole, s₁⟩, hwhole, h⟩ := h
  dsimp only at h
  have hfraction : ((fractionPart s₁).map Prod.snd).getD s₁ <:+ s₁ := by
    cases hpart : fractionPart s₁ with
    | none => exact List.suffix_refl _
    | some fraction => exact fractionPart_suffix hpart
  have hexponent (t : Text) : ((exponentPart t).map Prod.snd).getD t <:+ t := by
    cases hpart : exponentPart t with
    | none => exact List.suffix_refl _
    | some exponent => exact exponentPart_suffix hpart
  have hrest : rest = ((exponentPart (((fractionPart s₁).map Prod.snd).getD s₁)).map Prod.snd).getD
      (((fractionPart s₁).map Prod.snd).getD s₁) := by
    split at h <;> cases h <;> rfl
  rw [hrest]
  exact ((hexponent _).trans hfraction).trans ((wholePart_suffix hwhole).trans (minus_suffix s))

/-- What is left after a value, the members of an object or the items of an array is an end of the
text, and the members of an object are closed. -/
theorem suffixes (fuel : ℕ) :
    (∀ s j rest, value fuel s = some (j, rest) → rest <:+ s) ∧
      (∀ s ms rest, members fuel s = some (ms, rest) → '\x7d' :: rest <:+ s) ∧
      ∀ s js rest, items fuel s = some (js, rest) → rest <:+ s := by
  induction fuel with
  | zero => simp [value, members, items]
  | succ fuel ih =>
    obtain ⟨hvalue, hmembers, hitems⟩ := ih
    refine ⟨fun s j rest h => ?_, fun s ms rest h => ?_, fun s js rest h => ?_⟩
    · rw [value.eq_def] at h
      dsimp only at h
      split at h
      · rename_i s
        simp only [Option.bind_eq_bind, Option.bind_eq_some_iff] at h
        obtain ⟨⟨units, rest'⟩, hstring, h⟩ := h
        cases h
        exact (string_suffix hstring).trans (List.suffix_cons _ _)
      · rename_i s
        have hskip := skip_suffix s
        generalize skip s = t at h hskip
        split at h
        · cases h
          exact (List.suffix_cons _ _).trans (hskip.trans (List.suffix_cons _ _))
        · simp only [Option.bind_eq_bind, Option.bind_eq_some_iff] at h
          obtain ⟨⟨ms, rest'⟩, hread, h⟩ := h
          cases h
          exact (List.suffix_cons _ _).trans
            ((hmembers _ _ _ hread).trans (hskip.trans (List.suffix_cons _ _)))
      · rename_i s
        have hskip := skip_suffix s
        generalize skip s = t at h hskip
        split at h
        · cases h
          exact (List.suffix_cons _ _).trans (hskip.trans (List.suffix_cons _ _))
        · simp only [Option.bind_eq_bind, Option.bind_eq_some_iff] at h
          obtain ⟨⟨js, rest'⟩, hread, h⟩ := h
          cases h
          exact (hitems _ _ _ hread).trans (hskip.trans (List.suffix_cons _ _))
      · rw [Option.or_eq_some_iff] at h
        rcases h with h | ⟨-, h⟩
        · exact word_suffix h
        · exact number_suffix h
    · rw [members.eq_def] at h
      dsimp only at h
      split at h
      · rename_i s
        simp only [Option.bind_eq_bind, Option.bind_eq_some_iff] at h
        obtain ⟨⟨units, s₁⟩, hstring, h⟩ := h
        have hkey := (string_suffix hstring).trans (List.suffix_cons '"' s)
        dsimp only at h
        have hcolon := skip_suffix s₁
        generalize skip s₁ = s₂ at h hcolon
        split at h
        · rename_i s₂
          simp only [Option.bind_eq_some_iff] at h
          obtain ⟨⟨j, s₃⟩, hread, h⟩ := h
          have hafter := (((hvalue _ _ _ hread).trans (skip_suffix s₂)).trans
            (List.suffix_cons _ _)).trans (hcolon.trans hkey)
          dsimp only at h
          have hskip := skip_suffix s₃
          generalize skip s₃ = s₄ at h hskip
          split at h
          · cases h
            exact hskip.trans hafter
          · rename_i s₄
            simp only [Option.bind_eq_some_iff] at h
            obtain ⟨⟨others, s₅⟩, hothers, h⟩ := h
            cases h
            exact ((hmembers _ _ _ hothers).trans (skip_suffix s₄)).trans
              ((List.suffix_cons _ _).trans (hskip.trans hafter))
          · cases h
        · cases h
      · cases h
    · rw [items] at h
      simp only [Option.bind_eq_bind, Option.bind_eq_some_iff] at h
      obtain ⟨⟨j, s₁⟩, hread, h⟩ := h
      have hafter := hvalue _ _ _ hread
      dsimp only at h
      have hskip := skip_suffix s₁
      generalize skip s₁ = s₂ at h hskip
      split at h
      · cases h
        exact (List.suffix_cons _ _).trans (hskip.trans hafter)
      · rename_i s₂
        simp only [Option.bind_eq_some_iff] at h
        obtain ⟨⟨others, s₃⟩, hothers, h⟩ := h
        cases h
        exact ((hitems _ _ _ hothers).trans (skip_suffix s₂)).trans
          ((List.suffix_cons _ _).trans (hskip.trans hafter))
      · cases h

/-- **A text that opens an object and never closes one is not loaded.** -/
theorem loads_unclosed {s : Text} (h : '\x7d' ∉ s) : loads ('\x7b' :: s) = none := by
  rw [Option.eq_none_iff_forall_not_mem]
  intro j hj
  have hskip : skip ('\x7b' :: s) = '\x7b' :: s := rfl
  simp only [loads, hskip, Option.mem_def, Option.bind_eq_bind, Option.bind_eq_some_iff] at hj
  obtain ⟨⟨j', rest⟩, hvalue, -⟩ := hj
  rw [value_open, valueOpened] at hvalue
  have hsuffix := skip_suffix s
  generalize skip s = t at hvalue hsuffix
  split at hvalue
  · exact h (hsuffix.subset (by simp))
  · simp only [Option.bind_eq_bind, Option.bind_eq_some_iff] at hvalue
    obtain ⟨⟨ms, rest'⟩, hread, -⟩ := hvalue
    have hclosed := (suffixes _).2.1 _ _ _ hread
    exact h (hsuffix.subset (hclosed.subset (by simp)))

end Json

end Foundation
