import SeedMg24.Foundation.Json

/-!
# Decimal numbers

Numbers printed with a fixed number of digits after the point, which a reader of JSON takes for the
floats nearest to them, arrays of whole numbers, and the floats of the 32-bit format as they are
printed.
-/

set_option autoImplicit false

namespace Foundation

/-! ## Rounding -/

/-- The nearest integer is at most half away. -/
theorem abs_roundEven_sub_le (q : ℚ) : |(roundEven q : ℚ) - q| ≤ 1 / 2 := by
  have hlow := Int.floor_le q
  have hhigh := Int.lt_floor_add_one q
  unfold roundEven
  rw [abs_le]
  split
  · constructor <;> linarith
  split
  · push_cast
    constructor <;> linarith
  split
  · constructor <;> linarith
  · push_cast
    constructor <;> linarith

theorem roundEven_nonneg {q : ℚ} (h : 0 ≤ q) : 0 ≤ roundEven q := by
  have hfloor := Int.floor_nonneg.mpr h
  unfold roundEven
  split
  · exact hfloor
  split
  · omega
  split <;> omega

/-- A number far from the end of the range has a nearest float that is finite. -/
theorem Double.nearest_finite {q : ℚ} (h : |q| < 2 ^ 1023) :
    ∃ v, Double.nearest q = .finite v := by
  unfold Double.nearest
  dsimp only
  set exponent := max (Int.log 2 |q| - 52) (-1074) with hexponent
  have hspacing : (2 : ℚ) ^ exponent ≤ 2 ^ 1023 := by
    rw [← zpow_natCast (2 : ℚ) 1023]
    apply zpow_le_zpow_right₀ (by norm_num)
    have hlog : Int.log 2 |q| ≤ 1023 := by
      rcases eq_or_lt_of_le (abs_nonneg q) with hzero | hpos
      · rw [← hzero, Int.log_zero_right]
        norm_num
      · have hle := Int.zpow_log_le_self (b := 2) (by norm_num) hpos
        have hlt : (2 : ℚ) ^ Int.log 2 |q| < 2 ^ (1023 : ℤ) := by
          refine lt_of_le_of_lt (by exact_mod_cast hle) ?_
          exact_mod_cast h
        exact ((zpow_lt_zpow_iff_right₀ (by norm_num)).mp hlt).le
    rw [hexponent, max_le_iff]
    omega
  have hpos : (0 : ℚ) < 2 ^ exponent := zpow_pos (by norm_num) _
  have hclose : |(roundEven (q / 2 ^ exponent) : ℚ) * 2 ^ exponent - q| ≤ 1 / 2 * 2 ^ exponent := by
    have hround := mul_le_mul_of_nonneg_right (abs_roundEven_sub_le (q / 2 ^ exponent)) hpos.le
    have hscaled : ((roundEven (q / 2 ^ exponent) : ℚ) - q / 2 ^ exponent) * 2 ^ exponent =
        (roundEven (q / 2 ^ exponent) : ℚ) * 2 ^ exponent - q := by
      rw [sub_mul, div_mul_cancel₀ _ hpos.ne']
    rwa [← abs_of_pos hpos, ← abs_mul, abs_of_pos hpos, hscaled] at hround
  have hvalue : |(roundEven (q / 2 ^ exponent) : ℚ) * 2 ^ exponent| < 2 ^ 1024 := by
    have htriangle := (abs_sub_abs_le_abs_sub _ q).trans hclose
    have hbound : |(roundEven (q / 2 ^ exponent) : ℚ) * 2 ^ exponent| <
        2 ^ 1023 + 1 / 2 * 2 ^ 1023 := by
      have hhalf := mul_le_mul_of_nonneg_left hspacing (by norm_num : (0 : ℚ) ≤ 1 / 2)
      calc |(roundEven (q / 2 ^ exponent) : ℚ) * 2 ^ exponent|
          ≤ |q| + 1 / 2 * 2 ^ exponent := by rwa [sub_le_iff_le_add, add_comm] at htriangle
        _ < 2 ^ 1023 + 1 / 2 * 2 ^ 1023 := add_lt_add_of_lt_of_le h hhalf
    have hlarge : (0 : ℚ) < 2 ^ 1023 := pow_pos (by norm_num) _
    refine hbound.trans ?_
    rw [pow_succ (2 : ℚ) 1023]
    generalize (2 : ℚ) ^ 1023 = range at hlarge ⊢
    linarith
  rw [if_neg (not_le.mpr hvalue)]
  exact ⟨_, rfl⟩

/-! ## Texts -/

namespace Text

/-- A number in decimal, after zeros up to a width. -/
def padded (width n : ℕ) : Text := List.replicate (width - (decimal n).length) '0' ++ decimal n

/-- A number of units of the last of `places` digits after the point. -/
def fixed (places : ℕ) (negative : Bool) (n : ℕ) : Text :=
  (if negative then ['-'] else []) ++
    (decimal (n / 10 ^ places) ++ '.' :: padded places (n % 10 ^ places))

theorem length_padded {width n : ℕ} (hwidth : 0 < width) (h : n < 10 ^ width) :
    (padded width n).length = width := by
  have hlength := length_decimal_le hwidth h
  rw [padded, List.length_append, List.length_replicate]
  omega

theorem isDigit_of_mem_padded {width n : ℕ} {c : Char} (h : c ∈ padded width n) :
    c.isDigit = true := by
  rcases List.mem_append.mp h with hzero | hdigit
  · rw [List.eq_of_mem_replicate hzero]
    rfl
  · exact isDigit_of_mem_decimal hdigit

/-- Digits count from the left. -/
theorem digitsValue_append (s t : Text) :
    digitsValue (s ++ t) = digitsValue s * 10 ^ t.length + digitsValue t := by
  have hfold (t : Text) (a : ℕ) : t.foldl (fun n c => 10 * n + (c.toNat - 48)) a =
      a * 10 ^ t.length + digitsValue t := by
    induction t generalizing a with
    | nil => simp [digitsValue]
    | cons c t ih =>
      rw [digitsValue, List.foldl_cons, List.foldl_cons, ih, ih (10 * 0 + (c.toNat - 48)),
        List.length_cons, pow_succ]
      ring
  rw [digitsValue, List.foldl_append, hfold]
  rfl

theorem digitsValue_padded (width n : ℕ) : digitsValue (padded width n) = n := by
  have hzeros (k : ℕ) : digitsValue (List.replicate k '0') = 0 := by
    induction k with
    | zero => rfl
    | succ k ih => exact ih
  rw [padded, digitsValue_append, hzeros, digitsValue_decimal]
  omega

/-- The digits of a number with a point are those of the number without it. -/
theorem digitsValue_fixed {places : ℕ} (hplaces : 0 < places) (n : ℕ) :
    digitsValue (decimal (n / 10 ^ places) ++ padded places (n % 10 ^ places)) = n := by
  have hmod := Nat.mod_lt n (Nat.pow_pos (n := places) (by decide : 0 < 10))
  rw [digitsValue_append, digitsValue_decimal, length_padded hplaces hmod, digitsValue_padded]
  exact Nat.div_add_mod' n (10 ^ places)

/-- How long a number of so many digits before the point is. -/
theorem length_fixed_le {places digits n : ℕ} (hplaces : 0 < places) (hdigits : 0 < digits)
    (negative : Bool) (h : n < 10 ^ (digits + places)) :
    (fixed places negative n).length ≤ digits + places + 2 := by
  have hwhole : n / 10 ^ places < 10 ^ digits := by
    rw [Nat.div_lt_iff_lt_mul (Nat.pow_pos (by decide)), ← pow_add]
    exact h
  have hmod := Nat.mod_lt n (Nat.pow_pos (n := places) (by decide : 0 < 10))
  have hlength := length_decimal_le hdigits hwhole
  have hsign : (if negative then ['-'] else ([] : Text)).length ≤ 1 := by
    cases negative <;> simp
  rw [fixed, List.length_append, List.length_append, List.length_cons, length_padded hplaces hmod]
  omega

/-- The characters of a number with a point. -/
theorem ascii_of_mem_fixed {places n : ℕ} {negative : Bool} {c : Char}
    (h : c ∈ fixed places negative n) : c.isDigit = true ∨ c = '.' ∨ c = '-' := by
  rcases List.mem_append.mp h with hsign | hnumber
  · cases negative with
    | false => cases hsign
    | true => exact .inr (.inr (List.mem_singleton.mp hsign))
  rcases List.mem_append.mp hnumber with hwhole | hfraction
  · exact .inl (isDigit_of_mem_decimal hwhole)
  rcases List.mem_cons.mp hfraction with hpoint | hpadded
  · exact .inr (.inl hpoint)
  · exact .inl (isDigit_of_mem_padded hpadded)

end Text

namespace Json

/-- The digits after a point. -/
theorem fractionPart_padded {places n : ℕ} (hplaces : 0 < places) (h : n < 10 ^ places)
    {rest : Text} (hrest : Ends rest) :
    fractionPart ('.' :: (Text.padded places n ++ rest)) = some (Text.padded places n, rest) := by
  have hdigits : digits (Text.padded places n ++ rest) = (Text.padded places n, rest) :=
    digits_append (fun _ => Text.isDigit_of_mem_padded) fun c hc => (hrest c hc).1
  have hlength := Text.length_padded hplaces h
  simp only [fractionPart, hdigits]
  cases hpadded : Text.padded places n with
  | nil =>
    rw [hpadded, List.length_nil] at hlength
    omega
  | cons c s => rfl

/-- What a reader makes of a number with a point and without a sign. -/
theorem number_fixed {places : ℕ} (hplaces : 0 < places) (negative : Bool) (n : ℕ) {rest : Text}
    (hrest : Ends rest) :
    number (Text.fixed places negative n ++ rest) =
      some (.float (Double.nearest (if negative then -(n / 10 ^ places) else n / 10 ^ places)),
        rest) := by
  have hmod := Nat.mod_lt n (Nat.pow_pos (n := places) (by decide : 0 < 10))
  have hsign : minus (Text.fixed places negative n ++ rest) =
      (negative, Text.decimal (n / 10 ^ places) ++
        '.' :: (Text.padded places (n % 10 ^ places) ++ rest)) := by
    cases negative with
    | true => simp [Text.fixed, minus]
    | false =>
      cases hdecimal : Text.decimal (n / 10 ^ places) with
      | nil => exact absurd hdecimal (Text.decimal_ne_nil _)
      | cons d s =>
        have hd : d.isDigit = true := Text.isDigit_of_mem_decimal (hdecimal ▸ List.mem_cons_self)
        simp [Text.fixed, hdecimal, minus_digit hd]
  have hwhole : wholePart (Text.decimal (n / 10 ^ places) ++
      '.' :: (Text.padded places (n % 10 ^ places) ++ rest)) =
        some (Text.decimal (n / 10 ^ places), '.' :: (Text.padded places (n % 10 ^ places) ++ rest)) :=
    wholePart_decimal _ (by simp)
  have hvalue : (Text.digitsValue (Text.decimal (n / 10 ^ places) ++
      Text.padded places (n % 10 ^ places)) : ℚ) *
        (10 : ℚ) ^ (0 - ((Text.padded places (n % 10 ^ places)).length : ℤ)) = n / 10 ^ places := by
    rw [Text.digitsValue_fixed hplaces, Text.length_padded hplaces hmod, zero_sub, zpow_neg,
      zpow_natCast]
    rfl
  unfold number
  rw [hsign]
  dsimp only
  rw [hwhole]
  simp only [Option.bind_eq_bind, Option.bind_some, fractionPart_padded hplaces hmod hrest,
    Option.map_some, Option.getD_some, (ends_parts hrest).2, Option.map_none, Option.getD_none,
    Option.isNone_some, Bool.false_eq_true, false_and, if_false]
  rw [hvalue]
  rfl

/-- A number with a point is read as the float nearest to it. -/
theorem reads_fixed {places : ℕ} (hplaces : 0 < places) (negative : Bool) (n : ℕ) :
    Reads (Text.fixed places negative n)
      (.float (Double.nearest (if negative then -(n / 10 ^ places) else n / 10 ^ places))) := by
  intro fuel rest hfuel hrest
  cases fuel with
  | zero => simp [Text.fixed] at hfuel
  | succ fuel =>
    rw [← number_fixed hplaces negative n hrest]
    cases hdecimal : Text.decimal (n / 10 ^ places) with
    | nil => exact absurd hdecimal (Text.decimal_ne_nil _)
    | cons d s =>
      have hd : d.isDigit = true := Text.isDigit_of_mem_decimal (hdecimal ▸ List.mem_cons_self)
      cases negative with
      | false =>
        simp only [Text.fixed, Bool.false_eq_true, if_false, List.nil_append, hdecimal,
          List.cons_append]
        exact value_digit hd fuel _
      | true =>
        simp only [Text.fixed, if_true, hdecimal, List.cons_append]
        generalize s ++ '.' :: Text.padded places (n % 10 ^ places) = t
        -- the one word with a minus goes on with a letter
        have hword : word ('-' :: d :: (t ++ rest)) = none := by
          have hletter : 'I' ≠ d := (ne_of_isDigit hd (by decide)).symm
          simp [word, words, hletter]
        show value (fuel + 1) ('-' :: d :: (t ++ rest)) = number ('-' :: d :: (t ++ rest))
        rw [value_scalar fuel (by decide), hword, Option.none_or]

/-! ## Arrays -/

/-- Texts with commas between them. -/
def itemsText : List Text → Text
  | [] => []
  | [text] => text
  | text :: item :: others => text ++ ',' :: itemsText (item :: others)

/-- An array without any space. -/
def arrayText (items : List Text) : Text := '[' :: itemsText items ++ [']']

/-- What is read after an item. -/
def itemsFrom (fuel : ℕ) (item : Json) (s : Text) : Option (List Json × Text) :=
  match skip s with
  | ']' :: s => some ([item], s)
  | ',' :: s => do
    let (others, s) ← items fuel (skip s)
    return (item :: others, s)
  | _ => none

/-- What is read after an opening bracket. -/
def arrayOpened (fuel : ℕ) (s : Text) : Option (Json × Text) :=
  match skip s with
  | ']' :: s => some (.arr [], s)
  | s => do
    let (items, s) ← items fuel s
    return (.arr items, s)

theorem items_reads {fuel : ℕ} {text : Text} {j : Json} (h : Reads text j)
    (hfuel : text.length ≤ fuel) {rest : Text} (hends : Ends rest) :
    items (fuel + 1) (text ++ rest) = itemsFrom fuel j rest := by
  have hitems (s : Text) : items (fuel + 1) s =
      (value fuel s).bind fun read => itemsFrom fuel read.1 read.2 := rfl
  rw [hitems, h fuel rest hfuel hends]
  rfl

/-- The items of an array are read one after the other. -/
theorem items_itemsText {texts : List (Text × Json)} (hne : texts ≠ [])
    (h : ∀ p ∈ texts, Reads p.1 p.2) (fuel : ℕ) (rest : Text)
    (hfuel : (itemsText (texts.map Prod.fst)).length ≤ fuel) :
    items (fuel + 1) (itemsText (texts.map Prod.fst) ++ ']' :: rest) =
      some (texts.map Prod.snd, rest) := by
  induction texts generalizing fuel with
  | nil => exact absurd rfl hne
  | cons p texts ih =>
    have hread := h p (by simp)
    cases texts with
    | nil =>
      simp only [List.map_cons, List.map_nil, itemsText] at hfuel ⊢
      rw [items_reads hread hfuel (by simp [Ends])]
      rfl
    | cons q texts =>
      simp only [List.map_cons, itemsText, List.length_append, List.length_cons] at hfuel
      obtain ⟨fuel, rfl⟩ : ∃ k, fuel = k + 1 := ⟨fuel - 1, by omega⟩
      have hothers := ih (by simp) (fun p hp => h p (by simp [hp])) fuel
        (by simp only [List.map_cons]; omega)
      have hnext := h q (by simp)
      have htext : itemsText ((p :: q :: texts).map Prod.fst) ++ ']' :: rest =
          p.1 ++ ',' :: (itemsText ((q :: texts).map Prod.fst) ++ ']' :: rest) := by
        simp [itemsText]
      have hskip : skip (itemsText ((q :: texts).map Prod.fst) ++ ']' :: rest) =
          itemsText ((q :: texts).map Prod.fst) ++ ']' :: rest := by
        cases texts with
        | nil =>
          simp only [List.map_cons, List.map_nil, itemsText]
          exact hnext.skip_append _
        | cons r texts =>
          simp only [List.map_cons, itemsText, List.append_assoc, List.cons_append]
          exact hnext.skip_append _
      rw [htext, items_reads hread (by omega) (by simp [Ends])]
      show (do
        let (others, s) ← items (fuel + 1) (skip (itemsText ((q :: texts).map Prod.fst) ++
          ']' :: rest))
        return (p.2 :: others, s)) = _
      rw [hskip, hothers]
      rfl

/-- No value begins with a closing bracket. -/
theorem value_closed (fuel : ℕ) (s : Text) : value fuel (']' :: s) = none := by
  cases fuel <;> rfl

/-- The text of a value begins as no array ends. -/
theorem Reads.head_ne {text : Text} {j : Json} (h : Reads text j) :
    ∃ c s, text = c :: s ∧ c ≠ ']' := by
  cases text with
  | nil => cases h 0 [] (le_refl _) (by simp [Ends])
  | cons c s =>
    refine ⟨c, s, rfl, ?_⟩
    rintro rfl
    have hread := h (']' :: s).length [] (le_refl _) (by simp [Ends])
    rw [List.append_nil, value_closed] at hread
    cases hread

/-- **An array of texts that are read is read.** -/
theorem reads_array {texts : List (Text × Json)} (hne : texts ≠ [])
    (h : ∀ p ∈ texts, Reads p.1 p.2) :
    Reads (arrayText (texts.map Prod.fst)) (.arr (texts.map Prod.snd)) := by
  intro fuel rest hfuel _
  simp only [arrayText, List.length_append, List.length_cons, List.length_nil] at hfuel
  obtain ⟨fuel, rfl⟩ : ∃ k, fuel = k + 2 := ⟨fuel - 2, by omega⟩
  have hitems := items_itemsText hne h fuel rest (by omega)
  obtain ⟨p, others, rfl⟩ := List.exists_cons_of_ne_nil hne
  have hfirst := h p (by simp)
  obtain ⟨tail, htail⟩ : ∃ tail, itemsText ((p :: others).map Prod.fst) ++ ']' :: rest =
      p.1 ++ tail := by
    cases others with
    | nil => exact ⟨_, rfl⟩
    | cons q others => exact ⟨_, by rw [List.map_cons, List.map_cons, itemsText, List.append_assoc]⟩
  have hopen : arrayText ((p :: others).map Prod.fst) ++ rest =
      '[' :: (itemsText ((p :: others).map Prod.fst) ++ ']' :: rest) := by
    simp [arrayText]
  have hvalue (t : Text) : value (fuel + 2) ('[' :: t) = arrayOpened (fuel + 1) t := rfl
  obtain ⟨c, s, htext, hc⟩ := hfirst.head_ne
  rw [hopen, hvalue, arrayOpened, htail, hfirst.skip_append]
  rw [htail] at hitems
  split
  · rename_i heq
    rw [htext] at heq
    cases heq
    exact absurd rfl hc
  · rw [hitems]
    rfl

/-- **An array of whole numbers is read as one.** -/
theorem reads_naturals {ns : List ℕ} (hne : ns ≠ []) :
    Reads (arrayText (ns.map Text.decimal)) (.arr (ns.map fun n : ℕ => .int n)) := by
  have hreads : ∀ p ∈ ns.map fun n : ℕ => (Text.decimal n, Json.int n), Reads p.1 p.2 := by
    intro p hp
    obtain ⟨n, -, rfl⟩ := List.mem_map.mp hp
    exact reads_decimal n
  simpa [Function.comp_def] using reads_array (by simpa using hne) hreads

/-- A member that is an array of strings. -/
def Field.strings (key : Text) (ss : List Text) : Field :=
  ⟨key, arrayText (ss.map fun s => '"' :: s ++ ['"']), .arr (ss.map .str)⟩

theorem Field.isRead_strings {key : Text} (hkey : IsVerbatim key) {ss : List Text} (hne : ss ≠ [])
    (h : ∀ s ∈ ss, IsVerbatim s) : (Field.strings key ss).IsRead := by
  have hreads : ∀ p ∈ ss.map fun s => ('"' :: s ++ ['"'], Json.str s), Reads p.1 p.2 := by
    intro p hp
    obtain ⟨s, hs, rfl⟩ := List.mem_map.mp hp
    exact reads_str (h s hs)
  refine ⟨hkey, ?_⟩
  simpa [Field.strings, Function.comp_def] using reads_array (by simpa using hne) hreads

/-- A member that is an array of objects. -/
def Field.objects (key : Text) (members : List (List Field)) : Field :=
  ⟨key, arrayText (members.map fieldsText), .arr (members.map fieldsJson)⟩

theorem Field.isRead_objects {key : Text} (hkey : IsVerbatim key) {members : List (List Field)}
    (hne : members ≠ []) (h : ∀ fields ∈ members, fields ≠ [] ∧ ∀ f ∈ fields, f.IsRead) :
    (Field.objects key members).IsRead := by
  have hreads : ∀ p ∈ members.map fun fields => (fieldsText fields, fieldsJson fields),
      Reads p.1 p.2 := by
    intro p hp
    obtain ⟨fields, hfields, rfl⟩ := List.mem_map.mp hp
    exact reads_fields (h fields hfields).1 (h fields hfields).2
  refine ⟨hkey, ?_⟩
  simpa [Field.objects, Function.comp_def] using reads_array (by simpa using hne) hreads

/-- A member that is an array of natural numbers. -/
def Field.naturals (key : Text) (ns : List ℕ) : Field :=
  ⟨key, arrayText (ns.map Text.decimal), .arr (ns.map fun n : ℕ => .int n)⟩

theorem Field.isRead_naturals {key : Text} (hkey : IsVerbatim key) {ns : List ℕ} (hne : ns ≠ []) :
    (Field.naturals key ns).IsRead := ⟨hkey, reads_naturals hne⟩

end Json

/-! ## 32-bit floats -/

/-- There are mantissas and exponents. -/
instance neZero_mantissas : NeZero (2 ^ 24) := ⟨by decide⟩
instance neZero_exponents : NeZero 254 := ⟨by decide⟩

/-- A 32-bit float: a finite one is its mantissa times `2 ^ (exponent - 149)`. -/
inductive Single where
  | nan
  | infinite (negative : Bool)
  | finite (negative : Bool) (mantissa : Fin (2 ^ 24)) (exponent : Fin 254)
deriving DecidableEq

namespace Single

/-- `isfinite`. -/
def isFinite : Single → Bool
  | finite _ _ _ => true
  | _ => false

/-- The absolute value of a finite float. -/
def magnitude : Single → ℚ
  | finite _ mantissa exponent => mantissa.val * 2 ^ ((exponent.val : ℤ) - 149)
  | _ => 0

def isNegative : Single → Bool
  | finite negative _ _ => negative
  | infinite negative => negative
  | nan => false

/-- The number a finite float stands for. -/
def value (x : Single) : ℚ := if x.isNegative then -x.magnitude else x.magnitude

/-- How many units of the last of `places` digits after the point the absolute value has. -/
def units (places : ℕ) (x : Single) : ℕ := (roundEven (x.magnitude * 10 ^ places)).toNat

/-- The number a finite float is printed as. -/
def rounded (places : ℕ) (x : Single) : ℚ :=
  if x.isNegative then -(x.units places / 10 ^ places) else x.units places / 10 ^ places

/-- A float printed with `places` digits after the point. -/
def fixed (places : ℕ) : Single → Text
  | nan => "nan".toList
  | infinite negative => (if negative then "-inf" else "inf").toList
  | finite negative mantissa exponent =>
    Text.fixed places negative (units places (finite negative mantissa exponent))

theorem magnitude_nonneg (x : Single) : 0 ≤ x.magnitude := by
  cases x with
  | finite negative mantissa exponent =>
    have : (0 : ℚ) ≤ 2 ^ ((exponent.val : ℤ) - 149) := zpow_nonneg (by norm_num) _
    exact mul_nonneg (Nat.cast_nonneg _) this
  | _ => exact le_refl _

/-- No finite float reaches `2 ^ 128`. -/
theorem magnitude_lt (x : Single) : x.magnitude < 2 ^ 128 := by
  cases x with
  | finite negative mantissa exponent =>
    have hmantissa : (mantissa.val : ℚ) < 2 ^ 24 := by exact_mod_cast mantissa.isLt
    have hexponent : (2 : ℚ) ^ ((exponent.val : ℤ) - 149) ≤ 2 ^ (104 : ℤ) := by
      apply zpow_le_zpow_right₀ (by norm_num)
      have := exponent.isLt
      omega
    have hpos : (0 : ℚ) < 2 ^ ((exponent.val : ℤ) - 149) := zpow_pos (by norm_num) _
    calc (mantissa.val : ℚ) * 2 ^ ((exponent.val : ℤ) - 149)
        < 2 ^ 24 * 2 ^ ((exponent.val : ℤ) - 149) := mul_lt_mul_of_pos_right hmantissa hpos
      _ ≤ 2 ^ 24 * 2 ^ (104 : ℤ) := mul_le_mul_of_nonneg_left hexponent (by norm_num)
      _ = 2 ^ 128 := by norm_num
  | _ => norm_num [magnitude]

/-- The units of a float are its absolute value, up to half of one. -/
theorem abs_units_sub_le (places : ℕ) (x : Single) :
    |(x.units places : ℚ) - x.magnitude * 10 ^ places| ≤ 1 / 2 := by
  have hnonneg : 0 ≤ x.magnitude * 10 ^ places :=
    mul_nonneg x.magnitude_nonneg (pow_nonneg (by norm_num) _)
  have hcast : ((x.units places : ℕ) : ℚ) = (roundEven (x.magnitude * 10 ^ places) : ℚ) := by
    have hint : ((x.units places : ℕ) : ℤ) = roundEven (x.magnitude * 10 ^ places) :=
      Int.toNat_of_nonneg (roundEven_nonneg hnonneg)
    exact_mod_cast congrArg (Int.cast : ℤ → ℚ) hint
  rw [hcast]
  exact abs_roundEven_sub_le _

/-- No float has more than 39 digits before the point. -/
theorem units_lt (places : ℕ) (x : Single) : x.units places < 10 ^ (39 + places) := by
  have hclose := (abs_le.mp (abs_units_sub_le places x)).2
  have hscale : (0 : ℚ) < 10 ^ places := pow_pos (by norm_num) _
  have hone : (1 : ℚ) ≤ 10 ^ places := one_le_pow₀ (by norm_num)
  have hproduct : x.magnitude * 10 ^ places < 2 ^ 128 * 10 ^ places :=
    mul_lt_mul_of_pos_right x.magnitude_lt hscale
  have hrange : (2 : ℚ) ^ 128 + 1 ≤ 10 ^ 39 := by norm_num
  have hwide : ((2 : ℚ) ^ 128 + 1) * 10 ^ places ≤ 10 ^ 39 * 10 ^ places :=
    mul_le_mul_of_nonneg_right hrange hscale.le
  have hlt : (x.units places : ℚ) < 10 ^ (39 + places) := by
    rw [pow_add]
    linarith
  exact_mod_cast hlt

theorem fixed_of_isFinite (places : ℕ) {x : Single} (h : x.isFinite = true) :
    x.fixed places = Text.fixed places x.isNegative (x.units places) := by
  cases x with
  | finite => rfl
  | _ => cases h

/-- How long a finite float is printed. -/
theorem length_fixed_le {places : ℕ} (hplaces : 0 < places) {x : Single} (h : x.isFinite = true) :
    (x.fixed places).length ≤ places + 41 := by
  have hlength := Text.length_fixed_le hplaces (by decide) x.isNegative (x.units_lt places)
  rw [fixed_of_isFinite places h]
  omega

/-- **A printed finite float is read as the float nearest to what was printed.** -/
theorem reads_fixed {places : ℕ} (hplaces : 0 < places) {x : Single} (h : x.isFinite = true) :
    Json.Reads (x.fixed places) (.float (Double.nearest (x.rounded places))) := by
  rw [fixed_of_isFinite places h]
  exact Json.reads_fixed hplaces x.isNegative (x.units places)

/-- What is printed of a float lies in the range of the 64-bit format. -/
theorem nearest_rounded_finite (places : ℕ) (x : Single) :
    ∃ v, Double.nearest (x.rounded places) = .finite v := by
  apply Double.nearest_finite
  have hscale : (0 : ℚ) < 10 ^ places := pow_pos (by norm_num) _
  have hunits : (x.units places : ℚ) / 10 ^ places < 10 ^ 39 := by
    rw [div_lt_iff₀ hscale, ← pow_add]
    exact_mod_cast x.units_lt places
  have habs : |x.rounded places| = x.units places / 10 ^ places := by
    unfold rounded
    split
    · rw [abs_neg, abs_of_nonneg (by positivity)]
    · rw [abs_of_nonneg (by positivity)]
  rw [habs]
  refine lt_of_lt_of_le hunits ?_
  calc (10 : ℚ) ^ 39 ≤ 2 ^ 130 := by norm_num
    _ ≤ 2 ^ 1023 := pow_le_pow_right₀ (by norm_num) (by norm_num)

end Single

namespace Json

/-- A member that is a printed float, or nothing. -/
def Field.optionalSingle (key : Text) (places : ℕ) : Option Single → Field
  | none => ⟨key, "null".toList, .null⟩
  | some x => ⟨key, x.fixed places, .float (Double.nearest (x.rounded places))⟩

theorem Field.isRead_optionalSingle {key : Text} (hkey : IsVerbatim key) {places : ℕ}
    (hplaces : 0 < places) {x : Option Single} (h : ∀ y ∈ x, y.isFinite = true) :
    (Field.optionalSingle key places x).IsRead := by
  cases x with
  | none => exact ⟨hkey, reads_null⟩
  | some y => exact ⟨hkey, Single.reads_fixed hplaces (h y rfl)⟩

/-! ## ASCII objects -/

/-- A text of ASCII characters. -/
def IsAscii (s : Text) : Prop := ∀ c ∈ s, c.toNat < 128

instance (s : Text) : Decidable (IsAscii s) := inferInstanceAs (Decidable (∀ c ∈ s, _))

theorem IsAscii.append {s t : Text} (hs : IsAscii s) (ht : IsAscii t) : IsAscii (s ++ t) := by
  intro c hc
  rcases List.mem_append.mp hc with h | h
  · exact hs c h
  · exact ht c h

theorem IsAscii.cons {c : Char} {s : Text} (hc : c.toNat < 128) (hs : IsAscii s) :
    IsAscii (c :: s) := by
  intro d hd
  rcases List.mem_cons.mp hd with rfl | hd
  · exact hc
  · exact hs d hd

theorem toNat_lt_of_isDigit {c : Char} (h : c.isDigit = true) : c.toNat < 128 := by
  have hplain := Text.isPlain_of_isDigit h
  simp only [Text.isPlain, decide_eq_true_eq] at hplain
  omega

theorem isAscii_decimal (n : ℕ) : IsAscii (Text.decimal n) :=
  fun _ hc => toNat_lt_of_isDigit (Text.isDigit_of_mem_decimal hc)

theorem IsBare.isAscii {s : Text} (h : IsBare s) : IsAscii s := by
  intro c hc
  rcases isBare_iff.mp (h c hc) with hupper | hlower | hdigit | rfl | rfl
  · omega
  · omega
  · omega
  · decide
  · decide

theorem isAscii_fixed (places : ℕ) (x : Single) : IsAscii (x.fixed places) := by
  cases x with
  | nan => exact (by decide : IsAscii "nan".toList)
  | infinite negative =>
    cases negative with
    | false => exact (by decide : IsAscii "inf".toList)
    | true => exact (by decide : IsAscii "-inf".toList)
  | finite negative mantissa exponent =>
    intro c hc
    rcases Text.ascii_of_mem_fixed hc with hdigit | rfl | rfl
    · exact toNat_lt_of_isDigit hdigit
    · decide
    · decide

/-- The key and the value are written in ASCII. -/
def Field.IsAscii (f : Field) : Prop := Json.IsAscii f.key ∧ Json.IsAscii f.text

theorem Field.isAscii_string {key s : Text} (hkey : Json.IsAscii key) (h : Json.IsAscii s) :
    (Field.string key s).IsAscii :=
  ⟨hkey, (Json.IsAscii.cons (by decide) h).append (by decide)⟩

theorem Field.isAscii_natural {key : Text} (hkey : Json.IsAscii key) (n : ℕ) :
    (Field.natural key n).IsAscii := ⟨hkey, isAscii_decimal n⟩

theorem Field.isAscii_optionalSingle {key : Text} (hkey : Json.IsAscii key) (places : ℕ)
    (x : Option Single) : (Field.optionalSingle key places x).IsAscii := by
  cases x with
  | none => exact ⟨hkey, (by decide : Json.IsAscii "null".toList)⟩
  | some y => exact ⟨hkey, isAscii_fixed places y⟩

theorem Field.isAscii_naturals {key : Text} (hkey : Json.IsAscii key) (ns : List ℕ) :
    (Field.naturals key ns).IsAscii := by
  have hitems : Json.IsAscii (itemsText (ns.map Text.decimal)) := by
    induction ns with
    | nil => exact List.forall_mem_nil _
    | cons n ns ih =>
      cases ns with
      | nil => exact isAscii_decimal n
      | cons k ns => exact (isAscii_decimal n).append (Json.IsAscii.cons (by decide) ih)
  exact ⟨hkey, (Json.IsAscii.cons (by decide) hitems).append (by decide)⟩

theorem isAscii_fieldsText {fields : List Field} (h : ∀ f ∈ fields, f.IsAscii) :
    IsAscii (fieldsText fields) := by
  have hmembers : IsAscii (membersText (fields.map fun f => (f.key, f.text))) := by
    induction fields with
    | nil => exact List.forall_mem_nil _
    | cons f fields ih =>
      obtain ⟨hkey, htext⟩ := h f (by simp)
      have hmember : IsAscii (memberText f.key f.text) :=
        (IsAscii.cons (by decide) hkey).append
          (IsAscii.cons (by decide) (IsAscii.cons (by decide) htext))
      cases fields with
      | nil => exact hmember
      | cons g fields =>
        exact hmember.append (IsAscii.cons (by decide) (ih fun f hf => h f (by simp [hf])))
  exact (IsAscii.cons (by decide) hmembers).append (by decide)

end Json

end Foundation
