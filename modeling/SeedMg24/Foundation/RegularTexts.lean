import Mathlib.Computability.RegularExpressions
import SeedMg24.Foundation.Text

/-!
# Regular expressions for texts

Classes of characters, one or more of something, and parts with a separator between them, as regular
expressions, and what they match.
-/

set_option autoImplicit false

namespace Foundation

open RegularExpression Computability

/-- The characters from one to another. -/
def charRange (first last : Char) : List Char :=
  (List.range' first.toNat (last.toNat + 1 - first.toNat)).map Char.ofNat

/-- Any one of some symbols: `[...]`. -/
def charClass {α : Type} (cs : List α) : RegularExpression α :=
  cs.foldr (fun c r => .char c + r) 0

/-- One or more: `r+`. -/
def oneOrMore {α : Type} (r : RegularExpression α) : RegularExpression α := r * .star r

/-- Parts with a separator between them: `r(?:xr)*`. -/
def separatedBy {α : Type} (x : α) (r : RegularExpression α) : RegularExpression α :=
  r * .star (.char x * r)

theorem mem_charRange {first last c : Char} (hlast : last.toNat < 0xD800) :
    c ∈ charRange first last ↔ first ≤ c ∧ c ≤ last := by
  have hle (a b : Char) : a ≤ b ↔ a.toNat ≤ b.toNat := Iff.rfl
  simp only [charRange, List.mem_map, List.mem_range'_1, hle]
  constructor
  · rintro ⟨n, hn, rfl⟩
    have hvalid : n.isValidChar := .inl (by omega)
    have hn' : (Char.ofNat n).toNat = n := Text.toNat_ofNat hvalid
    omega
  · rintro ⟨h₁, h₂⟩
    exact ⟨c.toNat, by omega, Char.ofNat_toNat c⟩

section Matches

variable {α : Type} {s : List α}

theorem mem_matches_charClass {cs : List α} : s ∈ (charClass cs).matches' ↔ ∃ c ∈ cs, s = [c] := by
  induction cs with
  | nil => simp [charClass]
  | cons c cs ih =>
    have hcons : (charClass (c :: cs)).matches' = {[c]} + (charClass cs).matches' := rfl
    rw [hcons, Language.mem_add, ih, List.exists_mem_cons_iff]
    rfl

/-- **One or more symbols of a class.** -/
theorem mem_matches_oneOrMore {cs : List α} :
    s ∈ (oneOrMore (charClass cs)).matches' ↔ s ≠ [] ∧ ∀ c ∈ s, c ∈ cs := by
  have hmatches : (oneOrMore (charClass cs)).matches' =
      (charClass cs).matches' * (charClass cs).matches'∗ := rfl
  rw [hmatches, Language.mem_mul]
  constructor
  · rintro ⟨first, hfirst, rest, hrest, rfl⟩
    obtain ⟨c, hc, rfl⟩ := mem_matches_charClass.mp hfirst
    obtain ⟨symbols, rfl, hsymbols⟩ := Language.mem_kstar.mp hrest
    refine ⟨List.cons_ne_nil _ _, fun d hd => ?_⟩
    rcases List.mem_cons.mp hd with rfl | hd
    · exact hc
    · obtain ⟨symbol, hsymbol, hd⟩ := List.mem_flatten.mp hd
      obtain ⟨e, he, rfl⟩ := mem_matches_charClass.mp (hsymbols symbol hsymbol)
      exact List.mem_singleton.mp hd ▸ he
  · rintro ⟨hne, hall⟩
    obtain ⟨c, rest, rfl⟩ := List.exists_cons_of_ne_nil hne
    refine ⟨[c], mem_matches_charClass.mpr ⟨c, hall c (by simp), rfl⟩, rest, ?_, rfl⟩
    refine Language.mem_kstar.mpr ⟨rest.map fun d => [d], by rw [← List.flatMap_def, List.flatMap_singleton'], fun symbol hsymbol => ?_⟩
    obtain ⟨d, hd, rfl⟩ := List.mem_map.mp hsymbol
    exact mem_matches_charClass.mpr ⟨d, hall d (by simp [hd]), rfl⟩

/-- **Parts with a separator between them.** -/
theorem mem_matches_separatedBy {x : α} {r : RegularExpression α} :
    s ∈ (separatedBy x r).matches' ↔
      ∃ parts, parts ≠ [] ∧ s = [x].intercalate parts ∧ ∀ part ∈ parts, part ∈ r.matches' := by
  have hmatches : (separatedBy x r).matches' = r.matches' * ({[x]} * r.matches')∗ := rfl
  -- what follows the first part is each other part with its separator
  have hjoin (first : List α) (others : List (List α)) :
      [x].intercalate (first :: others) = first ++ (others.map (x :: ·)).flatten := by
    induction others generalizing first with
    | nil => simp
    | cons next others ih =>
      rw [List.intercalate_cons_cons, ih, List.map_cons, List.flatten_cons]
      simp
  rw [hmatches, Language.mem_mul]
  constructor
  · rintro ⟨first, hfirst, rest, hrest, rfl⟩
    obtain ⟨pieces, rfl, hpieces⟩ := Language.mem_kstar.mp hrest
    have hpiece : ∀ piece ∈ pieces, piece.tail ∈ r.matches' ∧ x :: piece.tail = piece := by
      intro piece hpiece
      obtain ⟨separator, hseparator, part, hpart, rfl⟩ := Language.mem_mul.mp (hpieces piece hpiece)
      cases hseparator
      exact ⟨hpart, rfl⟩
    have hsame : (pieces.map List.tail).map (x :: ·) = pieces := by
      rw [List.map_map]
      exact (List.map_congr_left fun piece hmem => (hpiece piece hmem).2).trans (List.map_id pieces)
    refine ⟨first :: pieces.map List.tail, List.cons_ne_nil _ _, ?_, fun part hpart => ?_⟩
    · rw [hjoin, hsame]
    · rcases List.mem_cons.mp hpart with rfl | hpart
      · exact hfirst
      · obtain ⟨piece, hmem, rfl⟩ := List.mem_map.mp hpart
        exact (hpiece piece hmem).1
  · rintro ⟨parts, hne, rfl, hall⟩
    obtain ⟨first, others, rfl⟩ := List.exists_cons_of_ne_nil hne
    refine ⟨first, hall first (by simp), (others.map (x :: ·)).flatten, ?_, (hjoin first others).symm⟩
    refine Language.mem_kstar.mpr ⟨others.map (x :: ·), rfl, fun piece hpiece => ?_⟩
    obtain ⟨part, hpart, rfl⟩ := List.mem_map.mp hpiece
    exact Language.mem_mul.mpr ⟨[x], rfl, part, hall part (by simp [hpart]), rfl⟩

end Matches

end Foundation
