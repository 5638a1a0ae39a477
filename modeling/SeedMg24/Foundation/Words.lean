import SeedMg24.Foundation.Text

/-!
# Words separated by one space

A command line is a list of words put together with one space between them.  Reading the line from
where a word begins up to the next space gives the word back.
-/

set_option autoImplicit false

namespace Foundation

namespace Text

/-- Words put together with one space between them. -/
def joined (words : List Text) : Text := [' '].intercalate words

/-- Where the word after `words` begins. -/
def offset (words : List Text) : ℕ := (words.map fun w => w.length + 1).sum

/-- A word: not empty, and without the separator. -/
def IsWord (w : Text) : Prop := w ≠ [] ∧ ' ' ∉ w

instance (w : Text) : Decidable (IsWord w) := inferInstanceAs (Decidable (_ ∧ _))

@[simp] theorem joined_nil : joined [] = [] := rfl

@[simp] theorem joined_singleton (w : Text) : joined [w] = w := List.intercalate_singleton

theorem joined_cons_cons (w v : Text) (words : List Text) :
    joined (w :: v :: words) = w ++ ' ' :: joined (v :: words) := by
  rw [joined, List.intercalate_cons_cons, List.append_assoc]
  rfl

@[simp] theorem offset_nil : offset [] = 0 := rfl

@[simp] theorem offset_cons (w : Text) (words : List Text) :
    offset (w :: words) = w.length + 1 + offset words := by
  simp [offset]

@[simp] theorem offset_append (a b : List Text) : offset (a ++ b) = offset a + offset b := by
  simp [offset]

/-- A line is one shorter than the offset after its last word. -/
theorem length_joined (words : List Text) (h : words ≠ []) :
    (joined words).length + 1 = offset words := by
  induction words with
  | nil => exact absurd rfl h
  | cons w words ih =>
    cases words with
    | nil => simp
    | cons v words =>
      have htail := ih (by simp)
      rw [joined_cons_cons, offset_cons]
      simp only [List.length_append, List.length_cons]
      omega

/-- What a line holds from the beginning of a word on. -/
theorem drop_joined (before : List Text) (w : Text) (after : List Text) :
    (joined (before ++ w :: after)).drop (offset before) = joined (w :: after) := by
  induction before with
  | nil => rfl
  | cons v before ih =>
    obtain ⟨u, rest, hrest⟩ : ∃ u rest, before ++ w :: after = u :: rest := by
      cases before <;> simp
    rw [List.cons_append, hrest, joined_cons_cons, ← hrest, offset_cons,
      show v.length + 1 + offset before = v.length + (1 + offset before) by omega,
      List.drop_append, List.drop_eq_nil_of_le (by omega), List.nil_append,
      show v.length + (1 + offset before) - v.length = offset before + 1 by omega,
      List.drop_succ_cons]
    exact ih

/-- A line is not over where a word begins. -/
theorem offset_lt_length_joined (before : List Text) {w : Text} (hw : w ≠ [])
    (after : List Text) : offset before < (joined (before ++ w :: after)).length := by
  have hlength := length_joined (before ++ w :: after) (by simp)
  have hpos : 0 < w.length := List.length_pos_iff.mpr hw
  rw [offset_append, offset_cons] at hlength
  omega

/-- Where a word ends: at the next space, or at the end of the line. -/
theorem wordEnd_joined (before : List Text) {w : Text} (hw : IsWord w) (after : List Text) :
    (indexOf (joined (before ++ w :: after)) ' ' (offset before)).getD
      (joined (before ++ w :: after)).length = offset before + w.length := by
  have hstart := offset_lt_length_joined before hw.1 after
  have hnone : w.findIdx? (· == ' ') = none := by
    rw [List.findIdx?_eq_none_iff]
    intro c hc
    simp only [beq_eq_false_iff_ne, ne_eq]
    rintro rfl
    exact hw.2 hc
  rw [indexOf, if_neg (by omega), drop_joined]
  cases after with
  | nil =>
    have hlength := length_joined (before ++ [w]) (by simp)
    rw [joined_singleton, hnone]
    simp only [Option.map_none, Option.getD_none]
    rw [offset_append, offset_cons, offset_nil] at hlength
    omega
  | cons v after =>
    rw [joined_cons_cons, List.findIdx?_append, hnone]
    simp [List.findIdx?_cons]

/-- Reading a word where it stands. -/
theorem substring_joined (before : List Text) (w : Text) (after : List Text) :
    substring (joined (before ++ w :: after)) (offset before) (offset before + w.length) = w := by
  rw [substring, drop_joined, Nat.add_sub_cancel_left]
  cases after with
  | nil => simp
  | cons v after => rw [joined_cons_cons, List.take_left]

/-- The word before the first space. -/
theorem takeWhile_word {w : Text} (hw : ' ' ∉ w) (rest : Text) :
    (w ++ ' ' :: rest).takeWhile (· ≠ ' ') = w := by
  rw [List.takeWhile_append_of_pos]
  · simp
  · intro c hc
    simp only [ne_eq, decide_eq_true_eq]
    rintro rfl
    exact hw hc

/-- The first word of a line of two words or more. -/
theorem isPrefixOf_joined {name : Text} (hname : ' ' ∉ name) {words : List Text}
    (hwords : ∀ w ∈ words, ' ' ∉ w) :
    (name ++ [' ']).isPrefixOf (joined words) = true ↔
      words.head? = some name ∧ 2 ≤ words.length := by
  rw [List.isPrefixOf_iff_prefix]
  constructor
  · rintro ⟨tail, h⟩
    rcases words with _ | ⟨w, _ | ⟨v, words⟩⟩
    · simp at h
    · rw [joined_singleton] at h
      have hspace : ' ' ∈ w := by
        rw [← h]
        simp
      exact absurd hspace (hwords w (by simp))
    · rw [joined_cons_cons, List.append_assoc, List.singleton_append] at h
      have hfirst := takeWhile_word (hwords w (by simp)) (joined (v :: words))
      rw [← h, takeWhile_word hname] at hfirst
      simp [hfirst]
  · rintro ⟨hhead, hlength⟩
    rcases words with _ | ⟨w, _ | ⟨v, words⟩⟩
    · simp at hlength
    · simp at hlength
    · simp only [List.head?_cons, Option.some.injEq] at hhead
      rw [joined_cons_cons, hhead]
      exact ⟨joined (v :: words), by simp⟩

/-- One more word at the end of a line. -/
theorem joined_append_singleton {words : List Text} (h : words ≠ []) (w : Text) :
    joined (words ++ [w]) = joined words ++ ' ' :: w := by
  induction words with
  | nil => exact absurd rfl h
  | cons v words ih =>
    cases words with
    | nil => rw [List.singleton_append, joined_cons_cons, joined_singleton, joined_singleton]
    | cons u words =>
      rw [List.cons_append, List.cons_append, joined_cons_cons, joined_cons_cons,
        ← List.cons_append, ih (by simp), List.append_assoc, List.cons_append]

/-- The characters of a line are spaces and characters of its words. -/
theorem mem_joined {c : Char} {words : List Text} (h : c ∈ joined words) :
    c = ' ' ∨ ∃ w ∈ words, c ∈ w := by
  induction words with
  | nil => cases h
  | cons w words ih =>
    cases words with
    | nil => exact .inr ⟨w, by simp, by simpa using h⟩
    | cons v words =>
      rw [joined_cons_cons, List.mem_append, List.mem_cons] at h
      rcases h with h | h | h
      · exact .inr ⟨w, by simp, h⟩
      · exact .inl h
      · rcases ih h with h | ⟨u, hu, h⟩
        · exact .inl h
        · exact .inr ⟨u, by simp [hu], h⟩

theorem toUpperAscii_joined (words : List Text) :
    toUpperAscii (joined words) = joined (words.map toUpperAscii) := by
  induction words with
  | nil => rfl
  | cons w words ih =>
    cases words with
    | nil => simp
    | cons v words =>
      rw [joined_cons_cons, List.map_cons, List.map_cons, joined_cons_cons, ← List.map_cons, ← ih]
      simp [toUpperAscii]

/-- From position `k` of a line on, exactly the words `words` are left. -/
def Remaining (line : Text) (k : ℕ) (words : List Text) : Prop :=
  (∀ w ∈ words, IsWord w) ∧
    ∃ before, before ≠ [] ∧ line = joined (before ++ words) ∧ k = offset before

/-- Behind the first word of a line. -/
theorem remaining_joined (w : Text) {words : List Text} (h : ∀ v ∈ words, IsWord v) :
    Remaining (joined (w :: words)) (w.length + 1) words :=
  ⟨h, [w], by simp, rfl, by simp⟩

/-- A line is over when no words are left. -/
theorem Remaining.le_length_iff {line : Text} {k : ℕ} {words : List Text}
    (h : Remaining line k words) : k ≤ line.length ↔ words ≠ [] := by
  obtain ⟨-, before, hbefore, rfl, rfl⟩ := h
  have hlength := length_joined (before ++ words) (by simp [hbefore])
  rw [offset_append] at hlength
  cases words with
  | nil =>
    rw [offset_nil] at hlength
    simp only [ne_eq, not_true_eq_false, iff_false, not_le]
    omega
  | cons w words =>
    rw [offset_cons] at hlength
    simp only [ne_eq, reduceCtorEq, not_false_eq_true, iff_true]
    omega

end Text

end Foundation
