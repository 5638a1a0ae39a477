import SeedMg24.Foundation.JsonSearch
import SeedMg24.Model.BootstrapHost
import SeedMg24.Model.UsbBootstrap

/-!
# The host's requests on the node

The node collects a request byte by byte, and starts over at every `M` that is not the first
character of a line.  So a request reaches the handler whole exactly when only its first character
is an `M`; the handler's search for quoted keys then finds every field as the host wrote it.
-/

set_option autoImplicit false

namespace SeedMg24.Analysis

open Foundation Foundation.Json Foundation.Text Model Model.BootstrapHost

/-! ## Collecting a line -/

section Receiver

variable {s : SerialReceiver}

/-- Input arrives in parts. -/
theorem receiveAll_append (s : SerialReceiver) (before after : Text) :
    s.receiveAll (before ++ after) =
      (((s.receiveAll before).1.receiveAll after).1,
        (s.receiveAll before).2 ++ ((s.receiveAll before).1.receiveAll after).2) := by
  induction before generalizing s with
  | nil => rfl
  | cons c before ih =>
    rw [List.cons_append, SerialReceiver.receiveAll, SerialReceiver.receiveAll]
    dsimp only
    rw [ih]
    simp

/-- The end of a line leaves nothing behind. -/
theorem receive_newline (s : SerialReceiver) : (s.receive '\n').1 = {} := by
  unfold SerialReceiver.receive
  simp

/-- After input that ends in a newline the next line starts afresh. -/
theorem receiveAll_of_newline {prior : Text} (h : ∀ c ∈ prior.getLast?, c = '\n') :
    (SerialReceiver.receiveAll {} prior).1 = {} := by
  rcases List.eq_nil_or_concat' prior with rfl | ⟨front, c, rfl⟩
  · rfl
  · have hc : c = '\n' := h c (by simp)
    subst hc
    rw [receiveAll_append]
    exact receive_newline (SerialReceiver.receiveAll {} front).1

/-- A character that neither ends nor starts a line is kept. -/
theorem receive_kept {c : Char} (hc : c ≠ 'M' ∧ c ≠ '\r' ∧ c ≠ '\n')
    (hroom : s.line.length < kBootstrapMaxLine) :
    s.receive c = ({ s with line := s.line ++ [c] }, none) := by
  unfold SerialReceiver.receive
  simp [hc.1, hc.2.1, hc.2.2, hroom]

/-- Text without an `M` is collected. -/
theorem receiveAll_kept {text : Text} (h : ∀ c ∈ text, c ≠ 'M' ∧ c ≠ '\r' ∧ c ≠ '\n')
    (hroom : s.line.length + text.length ≤ kBootstrapMaxLine) :
    s.receiveAll text = ({ s with line := s.line ++ text }, []) := by
  induction text generalizing s with
  | nil => simp [SerialReceiver.receiveAll]
  | cons c text ih =>
    rw [List.length_cons] at hroom
    rw [SerialReceiver.receiveAll, receive_kept (h c (by simp)) (by omega)]
    dsimp only
    rw [ih (fun d hd => h d (by simp [hd])) (by simp; omega)]
    simp

/-- A line that starts with an `M` and has no other is handled whole. -/
theorem receiveAll_line {text : Text} (h : ∀ c ∈ text, c ≠ 'M' ∧ c ≠ '\r' ∧ c ≠ '\n')
    (hroom : text.length < kBootstrapMaxLine) :
    SerialReceiver.receiveAll {} ('M' :: text ++ ['\n']) = ({}, [.handleLine ('M' :: text)]) := by
  have hkept : SerialReceiver.receiveAll { line := ['M'] } text = ({ line := 'M' :: text }, []) :=
    receiveAll_kept h (by simp; omega)
  have hline : SerialReceiver.receiveAll {} ('M' :: text) = ({ line := 'M' :: text }, []) := by
    rw [SerialReceiver.receiveAll, show SerialReceiver.receive {} 'M' = ({ line := ['M'] }, none)
      from rfl]
    dsimp only
    rw [hkept]
    rfl
  rw [receiveAll_append, hline]
  rfl

/-- Inside a line something stays collected, and nothing is handled. -/
theorem receive_inside {c : Char} (hc : c ≠ '\r' ∧ c ≠ '\n') (h : s.line ≠ []) :
    (s.receive c).1.line ≠ [] ∧ (s.receive c).2 = none := by
  unfold SerialReceiver.receive
  dsimp only
  rw [if_neg hc.1, if_neg hc.2]
  split
  · rw [if_pos (show List.length [] < kBootstrapMaxLine by decide)]
    exact ⟨by simp, rfl⟩
  · split <;> exact ⟨by simp [h], rfl⟩

theorem receiveAll_inside {text : Text} (hc : ∀ c ∈ text, c ≠ '\r' ∧ c ≠ '\n') (h : s.line ≠ []) :
    (s.receiveAll text).1.line ≠ [] ∧ (s.receiveAll text).2 = [] := by
  induction text generalizing s with
  | nil => exact ⟨h, rfl⟩
  | cons c text ih =>
    obtain ⟨hline, hnone⟩ := receive_inside (hc c (by simp)) h
    obtain ⟨hline', hevents⟩ := ih (fun d hd => hc d (by simp [hd])) hline
    unfold SerialReceiver.receiveAll
    dsimp only
    rw [hnone, hevents]
    exact ⟨hline', rfl⟩

/-- An `M` inside a line starts it over. -/
theorem receive_again (h : s.line ≠ []) : s.receive 'M' = ({ line := ['M'] }, none) := by
  have hinside : 'M' = 'M' ∧ s.line.length > 0 := ⟨rfl, List.length_pos_iff.mpr h⟩
  unfold SerialReceiver.receive
  rw [if_pos hinside]
  rfl

/-- **A line that starts over** is handled from its last `M` on. -/
theorem receiveAll_startsOver {before after : Text} (hbefore : ∀ c ∈ before, c ≠ '\r' ∧ c ≠ '\n')
    (hafter : ∀ c ∈ after, c ≠ 'M' ∧ c ≠ '\r' ∧ c ≠ '\n')
    (hroom : after.length < kBootstrapMaxLine) :
    (SerialReceiver.receiveAll {} ('M' :: before ++ 'M' :: after ++ ['\n'])).2 =
      [.handleLine ('M' :: after)] := by
  have hfirst : SerialReceiver.receiveAll {} ('M' :: before) =
      SerialReceiver.receiveAll { line := ['M'] } before := by
    rw [SerialReceiver.receiveAll, show SerialReceiver.receive {} 'M' = ({ line := ['M'] }, none)
      from rfl]
    rfl
  obtain ⟨hline, hevents⟩ := receiveAll_inside (s := { line := ['M'] }) hbefore (by simp)
  have hagain : SerialReceiver.receiveAll (SerialReceiver.receiveAll { line := ['M'] } before).1
      ('M' :: after ++ ['\n']) = SerialReceiver.receiveAll {} ('M' :: after ++ ['\n']) := by
    rw [List.cons_append, SerialReceiver.receiveAll, receive_again hline]
    rfl
  rw [List.append_assoc, receiveAll_append, hfirst, hevents, hagain,
    receiveAll_line hafter hroom]
  rfl

end Receiver

/-- **A line after others is handled once, and whole exactly when it has no second `M`.** -/
theorem linesHandled_line {prior text : Text} (hprior : ∀ c ∈ prior.getLast?, c = '\n')
    (htext : ∀ c ∈ text, c ≠ '\r' ∧ c ≠ '\n') (hroom : text.length < kBootstrapMaxLine) :
    linesHandled (prior ++ ('M' :: text ++ ['\n'])) = linesHandled prior ++ ['M' :: text] ↔
      'M' ∉ text := by
  have hlines (line : Text) (hline : (SerialReceiver.receiveAll {} ('M' :: text ++ ['\n'])).2 =
      [.handleLine line]) :
      linesHandled (prior ++ ('M' :: text ++ ['\n'])) = linesHandled prior ++ [line] := by
    unfold linesHandled
    rw [receiveAll_append, receiveAll_of_newline hprior, List.filterMap_append, hline]
    rfl
  by_cases hm : 'M' ∈ text
  · refine iff_of_false (fun hwhole => ?_) (not_not.mpr hm)
    -- the text after the last `M`
    obtain ⟨before, after, rfl, hafter⟩ : ∃ before after, text = before ++ 'M' :: after ∧
        'M' ∉ after := by
      obtain ⟨after, before, hreverse, hfirst⟩ := List.eq_append_cons_of_mem (List.mem_reverse.mpr hm)
      refine ⟨before.reverse, after.reverse, ?_, by simpa using hfirst⟩
      rw [← List.reverse_reverse text, hreverse]
      simp
    have hroom' : after.length < kBootstrapMaxLine := by
      rw [List.length_append, List.length_cons] at hroom
      omega
    have hbefore : ∀ c ∈ before, c ≠ '\r' ∧ c ≠ '\n' := fun c hc => htext c (by simp [hc])
    have hover := receiveAll_startsOver hbefore
      (fun c hc => ⟨fun h => hafter (h ▸ hc), htext c (by simp [hc])⟩) hroom'
    rw [hlines ('M' :: after) hover] at hwhole
    have hsame := (List.cons.inj (List.append_cancel_left hwhole)).1
    have hlength := congrArg List.length hsame
    simp only [List.length_cons, List.length_append] at hlength
    omega
  · refine iff_of_true (hlines _ ?_) hm
    rw [receiveAll_line (fun c hc => ⟨fun h => hm (h ▸ hc), htext c hc⟩) hroom]

/-! ## Reading a field -/

/-- A string between quotes is copied into a buffer it fits. -/
theorem copyString_quoted {s : Text} (h : IsVerbatim s) {capacity n : ℕ}
    (hfits : n + s.length < capacity) (rest : Text) :
    copyString capacity n (s ++ '"' :: rest) = some s := by
  induction s generalizing n with
  | nil => rfl
  | cons c s ih =>
    obtain ⟨hcontrol, hquote, hescape⟩ := h c (by simp)
    rw [List.length_cons] at hfits
    rw [List.cons_append, copyString, if_neg hquote, if_neg (by simp [hescape]; omega),
      ih (fun d hd => h d (by simp [hd])) (by omega)]
    rfl

/-- A number is read, up to what is no digit. -/
theorem readDigits_digits {digits after : Text} (hdigits : ∀ c ∈ digits, c.isDigit = true)
    (hafter : ∀ c ∈ after.head?, c.isDigit = false) {v : UInt32}
    (hfits : digits.foldl (fun n c => 10 * n + (c.toNat - 48)) v.toNat < 2 ^ 32) :
    readDigits v (digits ++ after) =
      some (UInt32.ofNat (digits.foldl (fun n c => 10 * n + (c.toNat - 48)) v.toNat)) := by
  induction digits generalizing v with
  | nil =>
    rw [List.nil_append, List.foldl_nil, UInt32.ofNat_toNat]
    cases after with
    | nil => rfl
    | cons c after =>
      rw [readDigits, hafter c rfl]
      rfl
  | cons c digits ih =>
    have hdigit := hdigits c (by simp)
    have hbounds : 48 ≤ c.toNat ∧ c.toNat ≤ 57 := by
      simp only [Char.isDigit, Bool.and_eq_true, decide_eq_true_eq] at hdigit
      exact ⟨hdigit.1, hdigit.2⟩
    rw [List.foldl_cons] at hfits
    have hnext : 10 * v.toNat + (c.toNat - 48) < 2 ^ 32 := by
      refine lt_of_le_of_lt ?_ hfits
      generalize 10 * v.toNat + (c.toNat - 48) = n
      clear ih hfits hdigits
      induction digits generalizing n with
      | nil => exact le_rfl
      | cons d digits ih =>
        have hstep := ih (10 * n + (d.toNat - 48))
        rw [List.foldl_cons]
        omega
    have hd : (UInt32.ofNat (c.toNat - '0'.toNat)).toNat = c.toNat - 48 := by
      rw [show '0'.toNat = 48 from rfl]
      exact UInt32.toNat_ofNat_of_lt' (by rw [UInt32.size]; omega)
    have hkept : ¬ v > (0xFFFFFFFF - UInt32.ofNat (c.toNat - '0'.toNat)) / 10 := by
      have hle : UInt32.ofNat (c.toNat - '0'.toNat) ≤ 0xFFFFFFFF := by
        rw [UInt32.le_iff_toNat_le, hd]
        show _ ≤ 4294967295
        omega
      rw [gt_iff_lt, UInt32.lt_iff_toNat_lt, UInt32.toNat_div, UInt32.toNat_sub_of_le _ _ hle, hd]
      show ¬ (4294967295 - (c.toNat - 48)) / 10 < v.toNat
      omega
    have hv : (v * 10 + UInt32.ofNat (c.toNat - '0'.toNat)).toNat =
        10 * v.toNat + (c.toNat - 48) := by
      rw [UInt32.toNat_add, UInt32.toNat_mul, hd, show (10 : UInt32).toNat = 10 from rfl]
      omega
    rw [List.cons_append, readDigits, if_pos hdigit]
    dsimp only
    rw [if_neg hkept, ih (fun e he => hdigits e (by simp [he])) (by rw [hv]; exact hfits), hv,
      List.foldl_cons]

/-- A printed number is read back. -/
theorem readDigits_decimal {n : ℕ} (hn : n < 2 ^ 32) {after : Text}
    (hafter : ∀ c ∈ after.head?, c.isDigit = false) :
    readDigits 0 (decimal n ++ after) = some (UInt32.ofNat n) := by
  have hvalue : (decimal n).foldl (fun n c => 10 * n + (c.toNat - 48)) (0 : UInt32).toNat = n :=
    digitsValue_decimal n
  rw [readDigits_digits (fun c hc => isDigit_of_mem_decimal hc) hafter (by rw [hvalue]; exact hn),
    hvalue]

/-! ## Reading a field of an object -/

/-- The text the node searches for a field. -/
theorem snprintf_needle (field tail : Text) (h : field.length + tail.length < 45) :
    snprintf needleSize ('"' :: (field ++ '"' :: ':' :: tail)) = needle field tail := by
  refine snprintf_eq_self ?_
  simp [needleSize]
  omega

section Fields

variable {members : List (Text × Text)} (h : Searchable members)
  (hnodup : (members.map Prod.fst).Nodup)
include h

/-- A field no member has is not read. -/
theorem jsonString_none {field : Text} (hfield : IsBare field) (hne : field ≠ [])
    (hlength : field.length < 44) (hmem : field ∉ members.map Prod.fst) (capacity : ℕ) :
    jsonString (objectText members) field capacity = none := by
  have hneedle := snprintf_needle field ['"'] (by simp; omega)
  have hnone := strstr_members_none h hfield hne hmem ['"']
  have hbrace : ¬ needle field ['"'] <+: '\x7b' :: (membersText members ++ ['\x7d']) := by
    intro hprefix
    exact absurd (List.cons_prefix_cons.mp hprefix).1 (by decide)
  have htext : "\"".toList ++ field ++ "\":\"".toList = '"' :: (field ++ '"' :: ':' :: ['"']) := rfl
  unfold jsonString
  dsimp only
  rw [htext, hneedle, objectText, List.cons_append, strstr_cons_of_ne hbrace, hnone]

include hnodup

/-- **A string member is read as it is.** -/
theorem jsonString_member {field s : Text} (hfield : IsBare field) (hne : field ≠ [])
    (hlength : field.length < 44) (hs : IsVerbatim s) (hmem : (field, '"' :: s ++ ['"']) ∈ members)
    {capacity : ℕ} (hfits : s.length < capacity) :
    jsonString (objectText members) field capacity = some s := by
  have hneedle := snprintf_needle field ['"'] (by simp; omega)
  obtain ⟨after, hafter, hfound⟩ := strstr_object h hnodup hfield hne hmem
    (show ['"'] <+: '"' :: s ++ ['"'] from ⟨s ++ ['"'], rfl⟩)
  have htext : "\"".toList ++ field ++ "\":\"".toList = '"' :: (field ++ '"' :: ':' :: ['"']) := rfl
  have hrest : memberText field ('"' :: s ++ ['"']) ++ after =
      needle field ['"'] ++ (s ++ '"' :: after) := by
    simp [memberText, needle]
  unfold jsonString
  dsimp only
  rw [htext, hneedle, hfound]
  dsimp only
  rw [hrest, List.drop_left]
  exact copyString_quoted hs (by omega) after

/-- **A number is read as it is.** -/
theorem jsonUint_member {field : Text} (hfield : IsBare field) (hne : field ≠ [])
    (hlength : field.length < 44) {n : ℕ} (hn : n < 2 ^ 32) (hmem : (field, decimal n) ∈ members) :
    jsonUint (objectText members) field = some (UInt32.ofNat n) := by
  have hneedle := snprintf_needle field [] (by simp; omega)
  obtain ⟨after, hafter, hfound⟩ := strstr_object h hnodup hfield hne hmem
    (show [] <+: decimal n from List.nil_prefix)
  have htext : "\"".toList ++ field ++ "\":".toList = '"' :: (field ++ '"' :: ':' :: []) := rfl
  have hrest : memberText field (decimal n) ++ after = needle field [] ++ (decimal n ++ after) := by
    simp [memberText, needle]
  have hends : ∀ c ∈ after.head?, c.isDigit = false := by
    rcases hafter with hc | hc <;> rw [hc] <;> simp
  unfold jsonUint
  dsimp only
  rw [htext, hneedle, hfound]
  dsimp only
  rw [hrest, List.drop_left]
  -- the first digit decides that there is a number
  obtain ⟨c, digits, hdigits⟩ := List.exists_cons_of_ne_nil (decimal_ne_nil n)
  have hc : c.isDigit = true := isDigit_of_mem_decimal (hdigits ▸ List.mem_cons_self)
  have hread := readDigits_decimal hn hends
  rw [hdigits, List.cons_append] at hread ⊢
  dsimp only
  rw [if_pos hc, hread]

end Fields

/-! ## Canonical JSON -/

/-- A value that needs no escape, and no more than 32 bits. -/
def FieldValue.IsPlain : FieldValue → Prop
  | .string s => ∀ c ∈ s, (0x20 ≤ c.toNat ∧ c.toNat ≤ 0x7E) ∧ c ≠ '"' ∧ c ≠ '\\'
  | .integer z => 0 ≤ z ∧ z < 2 ^ 32

/-- The characters of a value. -/
def FieldValue.chars : FieldValue → Text
  | .string s => s
  | .integer _ => []

/-- A name the node can search. -/
def IsName (name : Text) : Prop := IsBare name ∧ name ≠ [] ∧ name.length < 44

/-- Items whose keys are different names, and whose values are plain. -/
structure PlainItems (items : Dict) : Prop where
  nodup : (items.map Prod.fst).Nodup
  named : ∀ item ∈ items, IsName item.1
  valued : ∀ item ∈ items, FieldValue.IsPlain item.2

/-- Text without escapes is printed as it is. -/
theorem dumpsString_eq_self {s : Text}
    (h : ∀ c ∈ s, (0x20 ≤ c.toNat ∧ c.toNat ≤ 0x7E) ∧ c ≠ '"' ∧ c ≠ '\\') : dumpsString s = s := by
  have hchar : ∀ c ∈ s, dumpsChar c = [c] := by
    intro c hc
    obtain ⟨hrange, hquote, hescape⟩ := h c hc
    have hcontrol : c ≠ '\n' ∧ c ≠ '\r' ∧ c ≠ '\t' ∧ c ≠ '\x08' ∧ c ≠ '\x0c' := by
      refine ⟨?_, ?_, ?_, ?_, ?_⟩ <;> rintro rfl <;> exact absurd hrange.1 (by decide)
    unfold dumpsChar
    simp only [hquote, hescape, hcontrol.1, hcontrol.2.1, hcontrol.2.2.1, hcontrol.2.2.2.1,
      hcontrol.2.2.2.2, hrange.1, hrange.2, if_false, and_self, if_true]
  unfold dumpsString
  induction s with
  | nil => rfl
  | cons c s ih =>
    rw [List.flatMap_cons, hchar c (by simp), ih (fun d hd => h d (by simp [hd]))
      fun d hd => hchar d (by simp [hd])]
    rfl

theorem isBare_range {s : Text} (h : IsBare s) :
    ∀ c ∈ s, (0x20 ≤ c.toNat ∧ c.toNat ≤ 0x7E) ∧ c ≠ '"' ∧ c ≠ '\\' := by
  intro c hc
  have hbare := h c hc
  refine ⟨?_, ?_, ?_⟩
  · rcases isBare_iff.mp hbare with hupper | hlower | hdigit | rfl | rfl
    · omega
    · omega
    · omega
    · decide
    · decide
  · rintro rfl
    cases hbare
  · rintro rfl
    cases hbare

/-- The members of a printed dictionary. -/
def printedMembers (items : Dict) : List (Text × Text) :=
  (sortKeys items).map fun item => (dumpsString item.1, item.2.dumps)

section Printed

variable {items : Dict} (h : PlainItems items)
include h

/-- Every item is printed with its own key. -/
theorem mem_printedMembers {member : Text × Text} :
    member ∈ printedMembers items ↔ ∃ item ∈ items, member = (item.1, item.2.dumps) := by
  have hperm := List.perm_insertionSort (fun a b : Text × FieldValue => a.1 ≤ b.1) items
  unfold printedMembers sortKeys
  rw [List.mem_map]
  constructor
  · rintro ⟨item, hitem, rfl⟩
    have hitem := hperm.mem_iff.mp hitem
    exact ⟨item, hitem, by rw [dumpsString_eq_self (isBare_range (h.named item hitem).1)]⟩
  · rintro ⟨item, hitem, rfl⟩
    exact ⟨item, hperm.mem_iff.mpr hitem,
      by rw [dumpsString_eq_self (isBare_range (h.named item hitem).1)]⟩

/-- No two members have one key. -/
theorem nodup_printedMembers : ((printedMembers items).map Prod.fst).Nodup := by
  have hperm := List.perm_insertionSort (fun a b : Text × FieldValue => a.1 ≤ b.1) items
  have hkeys : (printedMembers items).map Prod.fst = (sortKeys items).map Prod.fst := by
    unfold printedMembers
    rw [List.map_map]
    refine List.map_congr_left fun item hitem => ?_
    exact dumpsString_eq_self (isBare_range (h.named item (hperm.mem_iff.mp hitem)).1)
  rw [hkeys]
  exact (hperm.map Prod.fst).nodup_iff.mpr h.nodup

/-- The members can be searched. -/
theorem searchable_printedMembers : Searchable (printedMembers items) := by
  intro member hmember
  obtain ⟨item, hitem, rfl⟩ := (mem_printedMembers h).mp hmember
  refine ⟨(h.named item hitem).1.not_mem (by decide), ?_⟩
  have hplain := h.valued item hitem
  cases hvalue : item.2 with
  | string s =>
    rw [hvalue] at hplain
    have hquote : '"' ∉ s := fun hc => (hplain _ hc).2.1 rfl
    have hdumps : (FieldValue.string s).dumps = '"' :: s ++ ['"'] := by
      rw [FieldValue.dumps, dumpsString_eq_self hplain]
    rw [hdumps]
    exact .quoted hquote
  | integer z =>
    rw [hvalue] at hplain
    refine .plain fun hc => ?_
    rw [FieldValue.dumps, Model.str, if_neg (by have := hplain.1; omega)] at hc
    exact absurd (isDigit_of_mem_decimal hc) (by decide)

/-- **The node reads a string item as it was.** -/
theorem jsonString_canonicalJson {key s : Text} (hmem : (key, .string s) ∈ items) {capacity : ℕ}
    (hfits : s.length < capacity) : jsonString (canonicalJson items) key capacity = some s := by
  obtain ⟨hbare, hne, hlength⟩ := h.named _ hmem
  have hplain : ∀ c ∈ s, (0x20 ≤ c.toNat ∧ c.toNat ≤ 0x7E) ∧ c ≠ '"' ∧ c ≠ '\\' := h.valued _ hmem
  refine jsonString_member (searchable_printedMembers h) (nodup_printedMembers h) hbare hne hlength
    (fun c hc => ⟨(hplain c hc).1.1, (hplain c hc).2⟩) ?_ hfits
  refine (mem_printedMembers h).mpr ⟨_, hmem, ?_⟩
  rw [FieldValue.dumps, dumpsString_eq_self hplain]

/-- **The node reads a number as it was.** -/
theorem jsonUint_canonicalJson {key : Text} {z : ℤ} (hmem : (key, .integer z) ∈ items) :
    jsonUint (canonicalJson items) key = some (UInt32.ofNat z.toNat) := by
  obtain ⟨hbare, hne, hlength⟩ := h.named _ hmem
  obtain ⟨hnonneg, hbound⟩ : 0 ≤ z ∧ z < 2 ^ 32 := h.valued _ hmem
  refine jsonUint_member (searchable_printedMembers h) (nodup_printedMembers h) hbare hne hlength
    (by omega) ?_
  refine (mem_printedMembers h).mpr ⟨_, hmem, ?_⟩
  have hcast : z.toNat = z.natAbs := by omega
  rw [FieldValue.dumps, Model.str, if_neg (by omega), hcast]

/-- A key no item has is not read. -/
theorem jsonString_canonicalJson_none {key : Text} (hkey : IsName key)
    (hmem : key ∉ items.map Prod.fst) (capacity : ℕ) :
    jsonString (canonicalJson items) key capacity = none := by
  refine jsonString_none (searchable_printedMembers h) hkey.1 hkey.2.1 hkey.2.2 ?_ capacity
  intro hprinted
  obtain ⟨member, hmember, rfl⟩ := List.mem_map.mp hprinted
  obtain ⟨item, hitem, rfl⟩ := (mem_printedMembers h).mp hmember
  exact hmem (List.mem_map.mpr ⟨item, hitem, rfl⟩)

/-- What canonical JSON holds besides punctuation and digits is in its keys and strings. -/
theorem mem_canonicalJson {c : Char}
    (hc : c ≠ '"' ∧ c ≠ ':' ∧ c ≠ ',' ∧ c ≠ '\x7b' ∧ c ≠ '\x7d') (hdigit : c.isDigit = false) :
    c ∈ canonicalJson items ↔ ∃ item ∈ items, c ∈ item.1 ∨ c ∈ FieldValue.chars item.2 := by
  have hdumps : ∀ item ∈ items, (c ∈ item.2.dumps ↔ c ∈ FieldValue.chars item.2) := by
    intro item hitem
    have hplain := h.valued item hitem
    cases hvalue : item.2 with
    | string s =>
      rw [hvalue] at hplain
      rw [FieldValue.dumps, dumpsString_eq_self hplain]
      simp [FieldValue.chars, hc.1]
    | integer z =>
      rw [hvalue] at hplain
      rw [FieldValue.dumps, Model.str, if_neg (by have := hplain.1; omega)]
      refine iff_of_false (fun hmem => ?_) (by simp [FieldValue.chars])
      rw [isDigit_of_mem_decimal hmem] at hdigit
      cases hdigit
  unfold canonicalJson
  rw [mem_objectText hc]
  constructor
  · rintro ⟨member, hmember, hmem⟩
    obtain ⟨item, hitem, rfl⟩ := (mem_printedMembers h).mp hmember
    exact ⟨item, hitem, hmem.imp_right (hdumps item hitem).mp⟩
  · rintro ⟨item, hitem, hmem⟩
    exact ⟨_, (mem_printedMembers h).mpr ⟨item, hitem, rfl⟩, hmem.imp_right (hdumps item hitem).mpr⟩

/-- Canonical JSON has no control character. -/
theorem no_control_canonicalJson {c : Char} (hsmall : c.toNat < 0x20) : c ∉ canonicalJson items := by
  have hpunctuation : c ≠ '"' ∧ c ≠ ':' ∧ c ≠ ',' ∧ c ≠ '\x7b' ∧ c ≠ '\x7d' := by
    refine ⟨?_, ?_, ?_, ?_, ?_⟩ <;> rintro rfl <;> exact absurd hsmall (by decide)
  have hdigit : c.isDigit = false := by
    rw [Bool.eq_false_iff]
    intro hc
    simp only [Char.isDigit, Bool.and_eq_true, decide_eq_true_eq] at hc
    have hlow : 48 ≤ c.toNat := hc.1
    omega
  intro hmem
  obtain ⟨item, hitem, hkey | hvalue⟩ := (mem_canonicalJson h hpunctuation hdigit).mp hmem
  · have hrange := (isBare_range (h.named item hitem).1 c hkey).1.1
    omega
  · have hplain := h.valued item hitem
    cases hitem2 : item.2 with
    | string s =>
      rw [hitem2] at hplain hvalue
      have hrange := (hplain c hvalue).1.1
      omega
    | integer z =>
      rw [hitem2] at hvalue
      cases hvalue

/-- Canonical JSON is one line. -/
theorem no_lineEnd_canonicalJson : ∀ c ∈ canonicalJson items, c ≠ '\r' ∧ c ≠ '\n' := by
  intro c hmem
  constructor
  · rintro rfl
    exact no_control_canonicalJson h (by decide) hmem
  · rintro rfl
    exact no_control_canonicalJson h (by decide) hmem

end Printed

/-! ## Requests -/

/-- A new key comes last. -/
theorem set_of_not_mem {body : Dict} {key : Text} (h : key ∉ body.map Prod.fst)
    (value : FieldValue) : body.set key value = body ++ [(key, value)] := by
  induction body with
  | nil => rfl
  | cons item body ih =>
    rw [List.map_cons, List.mem_cons, not_or] at h
    rw [Dict.set, if_neg (fun hc => h.1 hc.symm), ih h.2]
    rfl

/-- An update with new keys appends. -/
theorem update_of_nodup {body fields : Dict} (h : ((body ++ fields).map Prod.fst).Nodup) :
    body.update fields = body ++ fields := by
  induction fields generalizing body with
  | nil => rw [List.append_nil]; rfl
  | cons item fields ih =>
    have hnew : item.1 ∉ body.map Prod.fst := by
      intro hmem
      rw [List.map_append, List.nodup_append] at h
      exact h.2.2 item.1 hmem item.1 (by simp) rfl
    have hstep : body.update (item :: fields) = (body ++ [item]).update fields := by
      rw [← set_of_not_mem hnew item.2]
      rfl
    rw [hstep, ih (by simpa using h)]
    simp

/-- The names a request needs itself: those of both forms of its header, and the short names of a
confirmation. -/
def requestNames : List Text := [
  "type".toList, "schema_version".toList, "request_id".toList, "action".toList,
  "t".toList, "v".toList, "id".toList, "a".toList,
  "rv".toList, "s".toList, "h".toList, "op".toList, "c".toList]

/-- Parameters of a request: under different names of their own, and with values that need no
escape and no more than 32 bits. -/
structure PlainParameters (fields : Dict) : Prop extends PlainItems fields where
  own : ∀ item ∈ fields, item.1 ∉ requestNames

/-- The name a parameter is sent under. -/
def sentName (action name : Text) : Text :=
  if action = "confirm_factory_reset".toList then aliasOf name else name

/-- The parameter a short name stands for. -/
def longName (name : Text) : Text :=
  if name = "rv".toList then "reset_protocol_version".toList
  else if name = "s".toList then "scope".toList
  else if name = "h".toList then "expected_hardware_id".toList
  else if name = "op".toList then "operation_id".toList
  else if name = "c".toList then "challenge".toList
  else name

/-- A short name is a name, and stands for one parameter. -/
theorem aliasOf_name {name : Text} (hname : IsName name) (hown : name ∉ requestNames) :
    IsName (aliasOf name) ∧ longName (aliasOf name) = name ∧ ('M' ∈ aliasOf name ↔ 'M' ∈ name) := by
  unfold aliasOf
  split_ifs with h1 h2 h3 h4 h5
  · subst h1; exact ⟨⟨by decide, by decide, by decide⟩, by decide, by decide⟩
  · subst h2; exact ⟨⟨by decide, by decide, by decide⟩, by decide, by decide⟩
  · subst h3; exact ⟨⟨by decide, by decide, by decide⟩, by decide, by decide⟩
  · subst h4; exact ⟨⟨by decide, by decide, by decide⟩, by decide, by decide⟩
  · subst h5; exact ⟨⟨by decide, by decide, by decide⟩, by decide, by decide⟩
  · refine ⟨hname, ?_, Iff.rfl⟩
    have hother : ∀ short ∈ requestNames, name ≠ short := fun short hshort h => hown (h ▸ hshort)
    unfold longName
    rw [if_neg (hother _ (by decide)), if_neg (hother _ (by decide)), if_neg (hother _ (by decide)),
      if_neg (hother _ (by decide)), if_neg (hother _ (by decide))]

/-- The header of a request. -/
def headerItems (requestId action : Text) : Dict :=
  if action = "confirm_factory_reset".toList then
    [("t".toList, .string "bootstrap_request".toList), ("v".toList, .integer SCHEMA_VERSION),
      ("id".toList, .string requestId), ("a".toList, .string action)]
  else
    [("type".toList, .string "bootstrap_request".toList),
      ("schema_version".toList, .integer SCHEMA_VERSION),
      ("request_id".toList, .string requestId), ("action".toList, .string action)]

/-- The names of the header are names a request needs itself. -/
theorem headerItems_names (requestId action : Text) :
    (headerItems requestId action).map Prod.fst ⊆ requestNames := by
  unfold headerItems
  split_ifs
  · exact (by decide : ["t".toList, "v".toList, "id".toList, "a".toList] ⊆ requestNames)
  · exact (by decide :
      ["type".toList, "schema_version".toList, "request_id".toList, "action".toList] ⊆ requestNames)

/-- The request id is in the header. -/
theorem requestId_mem_headerItems (requestId action : Text) :
    ∃ item ∈ headerItems requestId action, FieldValue.chars item.2 = requestId := by
  unfold headerItems
  split_ifs
  · exact ⟨("id".toList, .string requestId), by simp, rfl⟩
  · exact ⟨("request_id".toList, .string requestId), by simp, rfl⟩

/-- Nothing else in the header has an `M`. -/
theorem not_mem_headerItems {requestId action : Text} (haction : action ∈ ALLOWED_ACTIONS)
    (hid : 'M' ∉ requestId) :
    ∀ item ∈ headerItems requestId action, ¬ ('M' ∈ item.1 ∨ 'M' ∈ FieldValue.chars item.2) := by
  intro item hitem hmem
  have hname : 'M' ∉ item.1 :=
    (by decide : ∀ name ∈ requestNames, 'M' ∉ name) _
      (headerItems_names requestId action (List.mem_map_of_mem hitem))
  have hact : 'M' ∉ action := (by decide : ∀ action ∈ ALLOWED_ACTIONS, 'M' ∉ action) _ haction
  have htype : 'M' ∉ "bootstrap_request".toList := by decide
  have hchars : 'M' ∈ FieldValue.chars item.2 := hmem.resolve_left hname
  unfold headerItems at hitem
  split_ifs at hitem <;>
    simp only [List.mem_cons, List.not_mem_nil, or_false] at hitem <;>
    rcases hitem with rfl | rfl | rfl | rfl
  · exact htype hchars
  · cases hchars
  · exact hid hchars
  · exact hact hchars
  · exact htype hchars
  · cases hchars
  · exact hid hchars
  · exact hact hchars

/-- Everything a request holds. -/
def requestItems (requestId action : Text) (fields : Dict) : Dict :=
  headerItems requestId action ++ fields.map fun item => (sentName action item.1, item.2)

section Requests

variable {requestId action : Text} {fields : Dict} (hfields : PlainParameters fields)
include hfields

/-- The names parameters are sent under are different names, none of them the header's. -/
theorem sentNames_plain :
    (∀ item ∈ fields, IsName (sentName action item.1) ∧
      ('M' ∈ sentName action item.1 ↔ 'M' ∈ item.1)) ∧
    (fields.map fun item => sentName action item.1).Nodup := by
  unfold sentName
  by_cases hconfirm : action = "confirm_factory_reset".toList
  · simp only [if_pos hconfirm]
    have halias := fun item hitem => aliasOf_name (hfields.named item hitem) (hfields.own item hitem)
    refine ⟨fun item hitem => ⟨(halias item hitem).1, (halias item hitem).2.2⟩, ?_⟩
    have hlong : (fields.map fun item => aliasOf item.1).map longName = fields.map Prod.fst := by
      rw [List.map_map]
      exact List.map_congr_left fun item hitem => (halias item hitem).2.1
    have hnodup := hfields.nodup
    rw [← hlong] at hnodup
    exact hnodup.of_map longName
  · simp only [if_neg hconfirm]
    exact ⟨fun item hitem => ⟨hfields.named item hitem, trivial⟩, hfields.nodup⟩

/-- A parameter is not sent under a name of the header. -/
theorem sentName_not_header {item : Text × FieldValue} (hitem : item ∈ fields) :
    sentName action item.1 ∉ (headerItems requestId action).map Prod.fst := by
  have hown := hfields.own item hitem
  unfold sentName
  by_cases hconfirm : action = "confirm_factory_reset".toList
  · rw [if_pos hconfirm]
    subst hconfirm
    have hshort : ∀ name ∈ ["rv".toList, "s".toList, "h".toList, "op".toList, "c".toList],
        name ∉ (headerItems requestId "confirm_factory_reset".toList).map Prod.fst :=
      (by decide : ∀ name ∈ ["rv".toList, "s".toList, "h".toList, "op".toList, "c".toList],
        name ∉ ["t".toList, "v".toList, "id".toList, "a".toList])
    unfold aliasOf
    split_ifs
    · exact hshort _ (by decide)
    · exact hshort _ (by decide)
    · exact hshort _ (by decide)
    · exact hshort _ (by decide)
    · exact hshort _ (by decide)
    · exact fun hmem => hown (headerItems_names requestId "confirm_factory_reset".toList hmem)
  · rw [if_neg hconfirm]
    exact fun hmem => hown (headerItems_names requestId action hmem)

/-- A request holds its header and its parameters. -/
theorem requestItems_nodup : ((requestItems requestId action fields).map Prod.fst).Nodup := by
  unfold requestItems
  rw [List.map_append, List.map_map, List.nodup_append]
  refine ⟨?_, (sentNames_plain hfields).2, ?_⟩
  · unfold headerItems
    split_ifs
    · exact (by decide : ["t".toList, "v".toList, "id".toList, "a".toList].Nodup)
    · exact (by decide :
        ["type".toList, "schema_version".toList, "request_id".toList, "action".toList].Nodup)
  · rintro name hheader _ hmem rfl
    obtain ⟨item, hitem, rfl⟩ := List.mem_map.mp hmem
    exact sentName_not_header hfields hitem hheader

theorem requestBody_eq : requestBody requestId action fields = requestItems requestId action fields := by
  have hnodup : ((requestItems requestId action fields).map Prod.fst).Nodup :=
    requestItems_nodup hfields
  have hsent : (fields.map fun item => sentName action item.1).Nodup := (sentNames_plain hfields).2
  unfold requestBody
  unfold requestItems headerItems sentName at hnodup ⊢
  unfold sentName at hsent
  by_cases hconfirm : action = "confirm_factory_reset".toList
  · simp only [if_pos hconfirm] at hnodup hsent ⊢
    have hinner : Dict.update [] (fields.map fun item => (aliasOf item.1, item.2)) =
        fields.map fun item => (aliasOf item.1, item.2) :=
      update_of_nodup (by simpa [List.map_map, Function.comp_def] using hsent)
    rw [hinner]
    exact update_of_nodup hnodup
  · simp only [if_neg hconfirm] at hnodup ⊢
    have hsame : (fields.map fun item => (item.1, item.2)) = fields := by simp
    rw [hsame] at hnodup ⊢
    exact update_of_nodup hnodup

/-- A request with a valid id and an allowed action can be searched. -/
theorem requestItems_plain (hid : validRequestId requestId) (haction : action ∈ ALLOWED_ACTIONS) :
    PlainItems (requestItems requestId action fields) where
  nodup := requestItems_nodup hfields
  named := by
    intro item hitem
    rcases List.mem_append.mp hitem with hitem | hitem
    · have hnames : ∀ name ∈ requestNames, IsName name := by
        unfold IsName IsBare
        decide
      exact hnames _ (headerItems_names requestId action (List.mem_map_of_mem hitem))
    · obtain ⟨field, hfield, rfl⟩ := List.mem_map.mp hitem
      exact ((sentNames_plain hfields).1 field hfield).1
  valued := by
    have hidPlain : FieldValue.IsPlain (.string requestId) := by
      unfold validRequestId at hid
      simp only [Bool.and_eq_true, List.all_eq_true] at hid
      exact isBare_range fun c hc => hid.2 c hc
    have hactionPlain : FieldValue.IsPlain (.string action) :=
      isBare_range ((by unfold IsBare; decide : ∀ action ∈ ALLOWED_ACTIONS, IsBare action) _ haction)
    have htypePlain : FieldValue.IsPlain (.string "bootstrap_request".toList) :=
      isBare_range (by unfold IsBare; decide)
    have hversionPlain : FieldValue.IsPlain (.integer SCHEMA_VERSION) := ⟨by decide, by decide⟩
    intro item hitem
    rcases List.mem_append.mp hitem with hitem | hitem
    · unfold headerItems at hitem
      split_ifs at hitem <;>
        simp only [List.mem_cons, List.not_mem_nil, or_false] at hitem <;>
        rcases hitem with rfl | rfl | rfl | rfl
      all_goals assumption
    · obtain ⟨field, hfield, rfl⟩ := List.mem_map.mp hitem
      exact hfields.valued field hfield

end Requests

/-! ## A request on the node -/

/-- The handler reads from the JSON of a line what was encoded: its header, and every parameter
under the name it is sent under. -/
structure Extracts (json requestId action : Text) (fields : Dict) : Prop where
  header : requestHeader json = some {
    compact := action = "confirm_factory_reset".toList
    request := requestId
    type := "bootstrap_request".toList
    action
    version := 1 }
  strings : ∀ name s, (name, .string s) ∈ fields → ∀ capacity, s.length < capacity →
    jsonString json (sentName action name) capacity = some s
  integers : ∀ name z, (name, .integer z) ∈ fields →
    (jsonUint json (sentName action name)).map (fun v => (v.toNat : ℤ)) = some z

section Extraction

variable {requestId action : Text} {fields : Dict} (hfields : PlainParameters fields)
  (hid : validRequestId requestId) (haction : action ∈ ALLOWED_ACTIONS)
include hfields hid haction

/-- The handler reads the header of a request, in the form its action is sent in. -/
theorem requestHeader_requestItems :
    requestHeader (canonicalJson (requestItems requestId action fields)) = some {
      compact := action = "confirm_factory_reset".toList
      request := requestId
      type := "bootstrap_request".toList
      action
      version := 1 } := by
  have hplain := requestItems_plain hfields hid haction
  have hidLength : requestId.length < kBootstrapMaxRequestId + 1 := by
    unfold validRequestId at hid
    simp only [Bool.and_eq_true, decide_eq_true_eq] at hid
    exact Nat.lt_succ_of_le hid.1.2
  have hactionLength : action.length < 40 :=
    (by decide : ∀ action ∈ ALLOWED_ACTIONS, action.length < 40) _ haction
  have hheader (item : Text × FieldValue) (hmem : item ∈ headerItems requestId action) :
      item ∈ requestItems requestId action fields := List.mem_append_left _ hmem
  have hone : UInt32.ofNat (SCHEMA_VERSION : ℤ).toNat = 1 := rfl
  unfold requestHeader
  by_cases hconfirm : action = "confirm_factory_reset".toList
  · rw [headerItems, if_pos hconfirm] at hheader
    have htype := hheader ("t".toList, .string "bootstrap_request".toList) (by simp)
    have hversion := hheader ("v".toList, .integer SCHEMA_VERSION) (by simp)
    have hrequest := hheader ("id".toList, .string requestId) (by simp)
    have hact := hheader ("a".toList, .string action) (by simp)
    rw [jsonString_canonicalJson hplain hrequest hidLength]
    dsimp only
    rw [jsonString_canonicalJson hplain htype (by decide),
      jsonString_canonicalJson hplain hact hactionLength, jsonUint_canonicalJson hplain hversion,
      hone, decide_eq_true hconfirm]
    rfl
  · -- no name but that of the compact form is `id`
    have hlong : "id".toList ∉ (requestItems requestId action fields).map Prod.fst := by
      unfold requestItems
      rw [List.map_append, List.map_map, List.mem_append, not_or, headerItems, if_neg hconfirm]
      refine ⟨(by decide : "id".toList ∉ ["type".toList, "schema_version".toList,
        "request_id".toList, "action".toList]), fun hmem => ?_⟩
      obtain ⟨item, hitem, hname⟩ := List.mem_map.mp hmem
      have hsent : sentName action item.1 = item.1 := if_neg hconfirm
      refine hfields.own item hitem ?_
      rw [← hsent, show sentName action item.1 = "id".toList from hname]
      decide
    rw [headerItems, if_neg hconfirm] at hheader
    have htype := hheader ("type".toList, .string "bootstrap_request".toList) (by simp)
    have hversion := hheader ("schema_version".toList, .integer SCHEMA_VERSION) (by simp)
    have hrequest := hheader ("request_id".toList, .string requestId) (by simp)
    have hact := hheader ("action".toList, .string action) (by simp)
    rw [jsonString_canonicalJson_none hplain ⟨by decide, by decide, by decide⟩ hlong]
    dsimp only
    rw [jsonString_canonicalJson hplain hrequest hidLength,
      jsonString_canonicalJson hplain htype (by decide),
      jsonString_canonicalJson hplain hact hactionLength, jsonUint_canonicalJson hplain hversion,
      hone, decide_eq_false hconfirm]
    rfl

/-- **The handler's search finds every field of a request.** -/
theorem extracts_requestItems :
    Extracts (canonicalJson (requestItems requestId action fields)) requestId action fields := by
  have hplain := requestItems_plain hfields hid haction
  have hparameter {name : Text} {value : FieldValue} (hmem : (name, value) ∈ fields) :
      (sentName action name, value) ∈ requestItems requestId action fields :=
    List.mem_append_right _ (List.mem_map.mpr ⟨_, hmem, rfl⟩)
  refine ⟨requestHeader_requestItems hfields hid haction, fun name s hmem capacity hfits =>
    jsonString_canonicalJson hplain (hparameter hmem) hfits, fun name z hmem => ?_⟩
  obtain ⟨hnonneg, hbound⟩ : 0 ≤ z ∧ z < 2 ^ 32 := hfields.valued _ hmem
  rw [jsonUint_canonicalJson hplain (hparameter hmem), Option.map_some,
    UInt32.toNat_ofNat_of_lt' (by rw [UInt32.size]; omega), Int.toNat_of_nonneg hnonneg]

end Extraction

/-- What an encoded request is. -/
theorem encodeRequest_ok {requestId action : Text} {fields : Dict} {line : Text}
    (h : encodeRequest requestId action fields = .ok line) :
    validRequestId requestId ∧ action ∈ ALLOWED_ACTIONS ∧
      line = PREFIX ++ canonicalJson (requestBody requestId action fields) ++ "\n".toList ∧
      line.length ≤ MAX_LINE_BYTES := by
  unfold encodeRequest at h
  by_cases hid : validRequestId requestId = true
  · rw [if_neg (by simp [hid])] at h
    by_cases haction : action ∈ ALLOWED_ACTIONS
    · rw [if_neg (by simp [haction])] at h
      dsimp only at h
      split_ifs at h with hlength
      cases h
      exact ⟨hid, haction, rfl, not_lt.mp hlength⟩
    · rw [if_pos haction] at h
      cases h
  · rw [if_pos (by simpa using hid)] at h
    cases h

/-- **A request is handled whole exactly when no `M` is in what it says.**  After any input that
ended in a newline, the handler is called once with the encoded line, and reads from it what was
encoded, if and only if neither the request id nor a parameter has the letter the receiver starts
over at. -/
theorem request_handled_iff {requestId action : Text} {fields : Dict} {line prior : Text}
    (hfields : PlainParameters fields) (hline : encodeRequest requestId action fields = .ok line)
    (hprior : ∀ c ∈ prior.getLast?, c = '\n') :
    (linesHandled (prior ++ line) = linesHandled prior ++ [line.dropLast] ∧
      Extracts (line.dropLast.drop kBootstrapPrefix.length) requestId action fields) ↔
    'M' ∉ requestId ∧ ∀ item ∈ fields, 'M' ∉ item.1 ∧ 'M' ∉ FieldValue.chars item.2 := by
  obtain ⟨hid, haction, hline, hlength⟩ := encodeRequest_ok hline
  rw [requestBody_eq hfields] at hline
  have hplain := requestItems_plain hfields hid haction
  have hextracts := extracts_requestItems hfields hid haction
  generalize hjson : canonicalJson (requestItems requestId action fields) = json at hline hextracts
  -- the line is an `M`, the rest of the prefix, the JSON and a newline
  have hshape : line = 'M' :: ("G24BOOT1 ".toList ++ json) ++ ['\n'] := hline
  have hlast : line.dropLast = 'M' :: ("G24BOOT1 ".toList ++ json) := by
    rw [hshape, List.dropLast_concat]
  have hdrop : line.dropLast.drop kBootstrapPrefix.length = json := by
    rw [hlast]
    exact List.drop_left
  have hend : ∀ c ∈ "G24BOOT1 ".toList ++ json, c ≠ '\r' ∧ c ≠ '\n' := by
    intro c hc
    rcases List.mem_append.mp hc with hc | hc
    · exact (by decide : ∀ c ∈ "G24BOOT1 ".toList, c ≠ '\r' ∧ c ≠ '\n') c hc
    · exact no_lineEnd_canonicalJson hplain c (hjson ▸ hc)
  have hroom : ("G24BOOT1 ".toList ++ json).length < kBootstrapMaxLine := by
    rw [hshape, List.length_append, List.length_cons] at hlength
    unfold kBootstrapMaxLine
    unfold MAX_LINE_BYTES at hlength
    omega
  have hhandled := linesHandled_line hprior hend hroom
  rw [← hshape, ← hlast] at hhandled
  rw [hdrop, hhandled, and_iff_left hextracts, List.mem_append, not_or, ← hjson,
    mem_canonicalJson hplain (by decide) (by decide)]
  unfold requestItems
  constructor
  · rintro ⟨-, hnone⟩
    have hnone : ∀ item ∈ headerItems requestId action ++
        fields.map (fun item => (sentName action item.1, item.2)),
        'M' ∉ item.1 ∧ 'M' ∉ FieldValue.chars item.2 := by
      simpa only [not_exists, not_and, not_or] using hnone
    obtain ⟨item, hitem, hchars⟩ := requestId_mem_headerItems requestId action
    refine ⟨hchars ▸ (hnone item (List.mem_append_left _ hitem)).2, fun item hitem => ?_⟩
    have hsent := hnone _ (List.mem_append_right _ (List.mem_map.mpr ⟨item, hitem, rfl⟩))
    rw [((sentNames_plain hfields).1 item hitem).2] at hsent
    exact hsent
  · rintro ⟨hrequest, hparameters⟩
    refine ⟨by decide, ?_⟩
    rintro ⟨item, hitem, hmem⟩
    rcases List.mem_append.mp hitem with hitem | hitem
    · exact not_mem_headerItems haction hrequest item hitem hmem
    · obtain ⟨field, hfield, rfl⟩ := List.mem_map.mp hitem
      rw [((sentNames_plain hfields).1 field hfield).2] at hmem
      exact hmem.elim (hparameters field hfield).1 (hparameters field hfield).2

/-- A request to read a node's state is handled whole. -/
theorem request_handled_readNodeState :
    ∃ line, encodeRequest "req-1".toList "read_node_state".toList [] = .ok line ∧
      linesHandled ("\n".toList ++ line) = linesHandled "\n".toList ++ [line.dropLast] ∧
      Extracts (line.dropLast.drop kBootstrapPrefix.length) "req-1".toList
        "read_node_state".toList [] := by
  have hfields : PlainParameters [] := ⟨⟨by simp, by simp, by simp⟩, by simp⟩
  have hline : encodeRequest "req-1".toList "read_node_state".toList [] = .ok
      ("MG24BOOT1 \x7b\"action\":\"read_node_state\",\"request_id\":\"req-1\",".toList ++
        "\"schema_version\":1,\"type\":\"bootstrap_request\"\x7d\n".toList) := by decide +kernel
  exact ⟨_, hline, (request_handled_iff hfields hline (by simp)).mpr ⟨by decide, by simp⟩⟩

/-- **A request that provisions `MG24-0001` is cut at the first letter of the node id.**  What the
handler is called with is no bootstrap request. -/
theorem request_cut_provisionIdentity :
    PlainParameters [("node_id".toList, .string "MG24-0001".toList)] ∧
    ∃ line, encodeRequest "req-1".toList "provision_identity".toList
        [("node_id".toList, .string "MG24-0001".toList)] = .ok line ∧
      linesHandled ("\n".toList ++ line) = [
        ("MG24-0001\",\"request_id\":\"req-1\",".toList ++
          "\"schema_version\":1,\"type\":\"bootstrap_request\"\x7d".toList)] ∧
      linesHandled ("\n".toList ++ line) ≠ linesHandled "\n".toList ++ [line.dropLast] := by
  have hline : encodeRequest "req-1".toList "provision_identity".toList
      [("node_id".toList, .string "MG24-0001".toList)] = .ok
      ("MG24BOOT1 \x7b\"action\":\"provision_identity\",\"node_id\":\"MG24-0001\",".toList ++
        "\"request_id\":\"req-1\",\"schema_version\":1,".toList ++
        "\"type\":\"bootstrap_request\"\x7d\n".toList) := by decide +kernel
  refine ⟨⟨⟨by simp, ?_, ?_⟩, ?_⟩, _, hline, ?_, ?_⟩
  · unfold IsName IsBare
    decide
  · simp only [List.mem_singleton, forall_eq]
    exact isBare_range (by unfold IsBare; decide)
  · decide
  · decide +kernel
  · decide +kernel

end SeedMg24.Analysis
