import SeedMg24.Foundation.Json

/-!
# Searching an object for a key

A key between quotes, with the colon after it, occurs in the text of an object exactly where the
member with that key starts: no value contains a quote, and a key of letters, digits, dashes and
underscores cannot begin with the punctuation after a closing quote.
-/

set_option autoImplicit false

namespace Foundation.Json

open Foundation.Text

/-! ## Searching a text -/

/-- A text that starts with the needle is where it is found. -/
theorem strstr_of_prefix {needle s : Text} (h : needle <+: s) (hne : needle ≠ []) :
    strstr needle s = some s := by
  cases s with
  | nil => exact absurd (List.prefix_nil.mp h) hne
  | cons c s => rw [strstr, if_pos (List.isPrefixOf_iff_prefix.mpr h)]

/-- A place where the needle does not start is passed. -/
theorem strstr_cons_of_ne {needle : Text} {c : Char} {s : Text} (h : ¬ needle <+: c :: s) :
    strstr needle (c :: s) = strstr needle s := by
  rw [strstr, if_neg fun hprefix => h (List.isPrefixOf_iff_prefix.mp hprefix)]

/-- A stretch without the first character of the needle is passed. -/
theorem strstr_append_of_not_mem {d : Char} {needle s : Text} (h : d ∉ s) (rest : Text) :
    strstr (d :: needle) (s ++ rest) = strstr (d :: needle) rest := by
  induction s with
  | nil => rfl
  | cons c s ih =>
    rw [List.mem_cons, not_or] at h
    rw [List.cons_append, strstr_cons_of_ne, ih h.2]
    intro hprefix
    exact h.1 (List.cons_prefix_cons.mp hprefix).1

/-- Of two texts up to their first quote, one starts with the other only if they are the same. -/
theorem prefix_quoted {k s t rest : Text} (hk : '"' ∉ k) (hs : '"' ∉ s)
    (h : k ++ '"' :: t <+: s ++ '"' :: rest) : k = s ∧ t <+: rest := by
  induction k generalizing s with
  | nil =>
    cases s with
    | nil => exact ⟨rfl, (List.cons_prefix_cons.mp h).2⟩
    | cons c s =>
      have hc := (List.cons_prefix_cons.mp h).1
      exact absurd (hc ▸ List.mem_cons_self) hs
  | cons c k ih =>
    cases s with
    | nil =>
      have hc := (List.cons_prefix_cons.mp h).1
      exact absurd (hc ▸ List.mem_cons_self) hk
    | cons d s =>
      obtain ⟨rfl, htail⟩ := List.cons_prefix_cons.mp h
      rw [List.mem_cons, not_or] at hk hs
      obtain ⟨rfl, ht⟩ := ih hk.2 hs.2 htail
      exact ⟨rfl, ht⟩

/-! ## Members -/

/-- A key between quotes, the colon and what follows it. -/
def needle (k tail : Text) : Text := '"' :: (k ++ '"' :: ':' :: tail)

/-- The text of a value without a quote inside. -/
inductive ScalarText : Text → Prop
  | quoted {s : Text} (h : '"' ∉ s) : ScalarText ('"' :: s ++ ['"'])
  | plain {s : Text} (h : '"' ∉ s) : ScalarText s

/-- What follows a member. -/
def Follows (rest : Text) : Prop := rest.head? = some ',' ∨ rest.head? = some '\x7d'

section Members

variable {k tail key v rest : Text}

/-- A key does not start with punctuation. -/
theorem not_prefix_punctuation (hk : IsBare k) (hne : k ≠ []) {c : Char} (hc : isBare c = false)
    (t : Text) : ¬ k ++ t <+: c :: rest := by
  obtain ⟨d, k, rfl⟩ := List.exists_cons_of_ne_nil hne
  intro h
  have hd := hk d List.mem_cons_self
  rw [List.cons_append] at h
  rw [(List.cons_prefix_cons.mp h).1, hc] at hd
  cases hd

theorem Follows.exists_cons (h : Follows rest) :
    ∃ c s, rest = c :: s ∧ isBare c = false ∧ c ≠ ':' ∧ c ≠ '"' := by
  cases rest with
  | nil => rcases h with h | h <;> cases h
  | cons c s =>
    rcases h with h | h <;> cases h
    · exact ⟨_, s, rfl, by decide, by decide, by decide⟩
    · exact ⟨_, s, rfl, by decide, by decide, by decide⟩

/-- After the colon of a member the needle does not start. -/
theorem strstr_value (hk : IsBare k) (hne : k ≠ []) (hv : ScalarText v) (hrest : Follows rest) :
    strstr (needle k tail) (v ++ rest) = strstr (needle k tail) rest := by
  have hquote : '"' ∉ k := hk.not_mem (by decide)
  obtain ⟨c, after, rfl, hbare, hcolon, -⟩ := hrest.exists_cons
  cases hv with
  | plain h => exact strstr_append_of_not_mem h _
  | @quoted s h =>
    have hopen : ¬ needle k tail <+: '"' :: (s ++ '"' :: c :: after) := by
      intro hprefix
      have hstarts := (prefix_quoted hquote h (List.cons_prefix_cons.mp hprefix).2).2
      exact hcolon (List.cons_prefix_cons.mp hstarts).1.symm
    have hclose : ¬ needle k tail <+: '"' :: c :: after := by
      intro hprefix
      exact not_prefix_punctuation hk hne hbare _ (List.cons_prefix_cons.mp hprefix).2
    have htext : '"' :: s ++ ['"'] ++ c :: after = '"' :: (s ++ '"' :: c :: after) := by simp
    rw [htext, strstr_cons_of_ne hopen]
    unfold needle at hclose ⊢
    rw [strstr_append_of_not_mem h, strstr_cons_of_ne hclose]

/-- **A member with another key is passed.** -/
theorem strstr_member_skip (hk : IsBare k) (hne : k ≠ []) (hkey : '"' ∉ key) (hv : ScalarText v)
    (hrest : Follows rest) (h : key ≠ k) :
    strstr (needle k tail) (memberText key v ++ rest) = strstr (needle k tail) rest := by
  have hquote : '"' ∉ k := hk.not_mem (by decide)
  have htext : memberText key v ++ rest = '"' :: (key ++ '"' :: ':' :: (v ++ rest)) := by
    simp [memberText]
  have hopen : ¬ needle k tail <+: '"' :: (key ++ '"' :: ':' :: (v ++ rest)) := by
    intro hprefix
    exact h (prefix_quoted hquote hkey (List.cons_prefix_cons.mp hprefix).2).1.symm
  have hclose : ¬ needle k tail <+: '"' :: ':' :: (v ++ rest) := by
    intro hprefix
    exact not_prefix_punctuation hk hne (by decide) _ (List.cons_prefix_cons.mp hprefix).2
  have hcolon : ¬ needle k tail <+: ':' :: (v ++ rest) := by
    intro hprefix
    exact absurd (List.cons_prefix_cons.mp hprefix).1 (by decide)
  rw [htext, strstr_cons_of_ne hopen]
  unfold needle at hclose hcolon ⊢
  rw [strstr_append_of_not_mem hkey, strstr_cons_of_ne hclose,
    strstr_cons_of_ne hcolon]
  exact strstr_value hk hne hv hrest

/-- A member with the key is where it is found. -/
theorem strstr_member_found (h : tail <+: v ++ rest) :
    strstr (needle k tail) (memberText k v ++ rest) = some (memberText k v ++ rest) := by
  have htext : memberText k v ++ rest = '"' :: (k ++ '"' :: ':' :: (v ++ rest)) := by
    simp [memberText]
  rw [htext]
  refine strstr_of_prefix ?_ (by simp [needle])
  obtain ⟨u, hu⟩ := h
  exact ⟨u, by simp [needle, hu]⟩

end Members

/-! ## Objects -/

/-- Members that can be searched: no key contains a quote, and every value is a scalar. -/
def Searchable (members : List (Text × Text)) : Prop :=
  ∀ member ∈ members, '"' ∉ member.1 ∧ ScalarText member.2

/-- The members of an object, one after another. -/
theorem membersText_cons (key v : Text) (members : List (Text × Text)) (rest : Text) :
    ∃ after, Follows after ∧
      membersText ((key, v) :: members) ++ '\x7d' :: rest = memberText key v ++ after ∧
      (after = '\x7d' :: rest ∧ members = [] ∨
        after = ',' :: (membersText members ++ '\x7d' :: rest) ∧ members ≠ []) := by
  cases members with
  | nil => exact ⟨_, .inr rfl, rfl, .inl ⟨rfl, rfl⟩⟩
  | cons member members =>
    refine ⟨',' :: (membersText (member :: members) ++ '\x7d' :: rest), .inl rfl, ?_,
      .inr ⟨rfl, by simp⟩⟩
    simp [membersText]

/-- **The key of a member is found where the member is.** -/
theorem strstr_members {members : List (Text × Text)} (h : Searchable members)
    (hnodup : (members.map Prod.fst).Nodup) {k v tail : Text} (hk : IsBare k) (hne : k ≠ [])
    (hmem : (k, v) ∈ members) (htail : tail <+: v) (rest : Text) :
    ∃ after, Follows after ∧
      strstr (needle k tail) (membersText members ++ '\x7d' :: rest) =
        some (memberText k v ++ after) := by
  induction members with
  | nil => cases hmem
  | cons member members ih =>
    obtain ⟨key, w⟩ := member
    rw [List.map_cons, List.nodup_cons] at hnodup
    obtain ⟨hkey, hw⟩ := h (key, w) (by simp)
    obtain ⟨after, hafter, htext, hends⟩ := membersText_cons key w members rest
    rw [htext]
    rcases List.mem_cons.mp hmem with hhead | hmem
    · cases hhead
      exact ⟨after, hafter, strstr_member_found (htail.trans (List.prefix_append _ _))⟩
    · have hother : key ≠ k := by
        rintro rfl
        exact hnodup.1 (List.mem_map.mpr ⟨_, hmem, rfl⟩)
      rw [strstr_member_skip hk hne hkey hw hafter hother]
      rcases hends with ⟨-, rfl⟩ | ⟨rfl, -⟩
      · cases hmem
      · have hcomma : ¬ needle k tail <+: ',' :: (membersText members ++ '\x7d' :: rest) := by
          intro hprefix
          exact absurd (List.cons_prefix_cons.mp hprefix).1 (by decide)
        rw [strstr_cons_of_ne hcomma]
        exact ih (fun m hm => h m (by simp [hm])) hnodup.2 hmem

/-- **A key no member has is not found.** -/
theorem strstr_members_none {members : List (Text × Text)} (h : Searchable members) {k : Text}
    (hk : IsBare k) (hne : k ≠ []) (hmem : k ∉ members.map Prod.fst) (tail : Text) :
    strstr (needle k tail) (membersText members ++ ['\x7d']) = none := by
  induction members with
  | nil =>
    have hbrace : ¬ needle k tail <+: ['\x7d'] := by
      intro hprefix
      exact absurd (List.cons_prefix_cons.mp hprefix).1 (by decide)
    rw [membersText, List.nil_append, strstr_cons_of_ne hbrace, strstr,
      if_neg (by simp [needle])]
  | cons member members ih =>
    obtain ⟨key, w⟩ := member
    rw [List.map_cons, List.mem_cons, not_or] at hmem
    obtain ⟨hkey, hw⟩ := h (key, w) (by simp)
    obtain ⟨after, hafter, htext, hends⟩ := membersText_cons key w members []
    have hother : key ≠ k := fun hsame => hmem.1 hsame.symm
    rw [htext, strstr_member_skip hk hne hkey hw hafter hother]
    have hstart (c : Char) (hc : c ≠ '"') (s : Text) : ¬ needle k tail <+: c :: s := by
      intro hprefix
      exact hc (List.cons_prefix_cons.mp hprefix).1.symm
    rcases hends with ⟨rfl, -⟩ | ⟨rfl, -⟩
    · rw [strstr_cons_of_ne (hstart _ (by decide) _), strstr, if_neg (by simp [needle])]
    · rw [strstr_cons_of_ne (hstart _ (by decide) _)]
      exact ih (fun m hm => h m (by simp [hm])) hmem.2

/-- The brace before the members is passed. -/
theorem strstr_objectText (k tail : Text) (members : List (Text × Text)) :
    strstr (needle k tail) (objectText members) =
      strstr (needle k tail) (membersText members ++ ['\x7d']) := by
  refine strstr_cons_of_ne fun hprefix => ?_
  exact absurd (List.cons_prefix_cons.mp hprefix).1 (by decide)

/-- A key is found in an object where its member is. -/
theorem strstr_object {members : List (Text × Text)} (h : Searchable members)
    (hnodup : (members.map Prod.fst).Nodup) {k v tail : Text} (hk : IsBare k) (hne : k ≠ [])
    (hmem : (k, v) ∈ members) (htail : tail <+: v) :
    ∃ after, Follows after ∧
      strstr (needle k tail) (objectText members) = some (memberText k v ++ after) := by
  rw [strstr_objectText]
  exact strstr_members h hnodup hk hne hmem htail []

/-- What a text holds besides punctuation is in its keys and values. -/
theorem mem_membersText {c : Char} (hc : c ≠ '"' ∧ c ≠ ':' ∧ c ≠ ',') {members : List (Text × Text)} :
    c ∈ membersText members ↔ ∃ member ∈ members, c ∈ member.1 ∨ c ∈ member.2 := by
  have hmember (key v : Text) : c ∈ memberText key v ↔ c ∈ key ∨ c ∈ v := by
    simp [memberText, hc.1, hc.2.1]
  induction members with
  | nil => simp [membersText]
  | cons member members ih =>
    obtain ⟨key, v⟩ := member
    cases members with
    | nil => simp [membersText, hmember]
    | cons next members =>
      have htext : membersText ((key, v) :: next :: members) =
          memberText key v ++ ',' :: membersText (next :: members) := rfl
      rw [htext, List.mem_append, List.mem_cons, hmember, List.exists_mem_cons_iff]
      exact or_congr_right ((or_iff_right hc.2.2).trans ih)

theorem mem_objectText {c : Char} (hc : c ≠ '"' ∧ c ≠ ':' ∧ c ≠ ',' ∧ c ≠ '\x7b' ∧ c ≠ '\x7d')
    {members : List (Text × Text)} :
    c ∈ objectText members ↔ ∃ member ∈ members, c ∈ member.1 ∨ c ∈ member.2 := by
  rw [← mem_membersText ⟨hc.1, hc.2.1, hc.2.2.1⟩]
  simp [objectText, hc.2.2.2.1, hc.2.2.2.2]

end Foundation.Json
