import Mathlib.Tactic

/-!
# Two-slot stores

A value is kept in two slots, each write going to the slot of the parity of its generation, so
that the slot holding the current value is never overwritten.  A slot is empty, damaged or
holds a record.  The generations need not be ordered: all that is used is that the successor
is newer than its predecessor and changes parity, which a counter that wraps does as well.

`Coherent` is the invariant: each record sits in the slot of its parity, and two records are
neighbours.  Under it no write damages what `load` returns (`load_after_lost`), a completed
write is what `load` returns next (`load_after_write`), and a conflict cannot arise
(`load_ne_conflict`).
-/

set_option autoImplicit false

namespace Foundation

/-- What a two-slot store needs of its generations. -/
class GenerationOrder (G : Type) where
  first : G
  succ : G → G
  isOdd : G → Bool
  newer : G → G → Bool
  isOdd_first : isOdd first = true
  isOdd_succ : ∀ g, isOdd (succ g) = !isOdd g
  newer_succ : ∀ g, newer (succ g) g = true
  not_newer_succ : ∀ g, newer g (succ g) = false

namespace TwoSlot

/-- One slot. -/
inductive Slot (G V : Type) where
  | absent
  | damaged
  | holds (generation : G) (value : V)

/-- The slots of the odd and of the even generations. -/
structure Store (G V : Type) where
  oddSlot : Slot G V
  evenSlot : Slot G V

/-- What reading the store gives: `recovered` tells that the other slot is damaged. -/
inductive Loaded (G V : Type) where
  | empty
  | corrupt
  | conflict
  | found (generation : G) (value : V) (recovered : Bool)

variable {G V : Type} [GenerationOrder G] [DecidableEq G]

open GenerationOrder

/-- The newer of the records, or the only one. -/
def Store.load (s : Store G V) : Loaded G V :=
  match s.oddSlot, s.evenSlot with
  | .holds g v, .holds h w =>
    if g = h then .conflict else if newer h g then .found h w false else .found g v false
  | .holds g v, .absent => .found g v false
  | .holds g v, .damaged => .found g v true
  | .absent, .holds h w => .found h w false
  | .damaged, .holds h w => .found h w true
  | .absent, .absent => .empty
  | _, _ => .corrupt

/-- What is loaded comes from one of the slots. -/
theorem Store.holds_of_load {s : Store G V} {g : G} {v : V} {r : Bool}
    (h : s.load = .found g v r) : s.oddSlot = .holds g v ∨ s.evenSlot = .holds g v := by
  unfold Store.load at h
  cases ho : s.oddSlot <;> cases he : s.evenSlot <;> simp only [ho, he] at h <;> try cases h
  all_goals try simp
  split at h
  · cases h
  · split at h <;> cases h <;> simp

/-- A store loads as empty exactly when both slots are absent. -/
theorem Store.load_eq_empty_iff {s : Store G V} :
    s.load = .empty ↔ s.oddSlot = .absent ∧ s.evenSlot = .absent := by
  unfold Store.load
  cases ho : s.oddSlot <;> cases he : s.evenSlot <;> simp
  split_ifs <;> simp

/-- A store loads as corrupt exactly when it holds no record but is not empty. -/
theorem Store.load_eq_corrupt_iff {s : Store G V} :
    s.load = .corrupt ↔ (∀ g v, s.oddSlot ≠ .holds g v) ∧ (∀ g v, s.evenSlot ≠ .holds g v) ∧
      ¬ (s.oddSlot = .absent ∧ s.evenSlot = .absent) := by
  unfold Store.load
  cases ho : s.oddSlot <;> cases he : s.evenSlot <;> simp
  split_ifs <;> simp

/-- The generation of the next write, if there is one. -/
def Loaded.nextGeneration : Loaded G V → Option G
  | .empty => some first
  | .found g _ _ => some (succ g)
  | _ => none

/-- The slot of a generation. -/
def Store.slot (s : Store G V) (g : G) : Slot G V := if isOdd g then s.oddSlot else s.evenSlot

/-- The store with the slot of generation `g` replaced. -/
def Store.set (s : Store G V) (g : G) (content : Slot G V) : Store G V :=
  if isOdd g then { s with oddSlot := content } else { s with evenSlot := content }

/-- Records sit in the slot of their parity, and two records are neighbours. -/
structure Coherent (s : Store G V) : Prop where
  odd_of_holds : ∀ g v, s.oddSlot = .holds g v → isOdd g = true
  even_of_holds : ∀ g v, s.evenSlot = .holds g v → isOdd g = false
  neighbours : ∀ g v h w, s.oddSlot = .holds g v → s.evenSlot = .holds h w → h = succ g ∨ g = succ h

omit [DecidableEq G] in
@[simp] theorem Store.slot_set_same (s : Store G V) (g : G) (content : Slot G V) :
    (s.set g content).slot g = content := by
  unfold Store.slot Store.set
  split <;> rfl

omit [DecidableEq G] in
/-- A store in which no slot holds a record is coherent. -/
theorem coherent_of_no_record {s : Store G V} (ho : ∀ g v, s.oddSlot ≠ .holds g v)
    (he : ∀ g v, s.evenSlot ≠ .holds g v) : Coherent s :=
  ⟨fun g v h => absurd h (ho g v), fun g v h => absurd h (he g v),
    fun g v _ _ h => absurd h (ho g v)⟩

omit [DecidableEq G] in
/-- Neighbours have different parities, so they differ. -/
theorem succ_ne (g : G) : succ g ≠ g := by
  intro h
  have := isOdd_succ g
  rw [h] at this
  cases hg : isOdd g <;> simp [hg] at this

namespace Coherent

variable {s : Store G V}

/-- The slots of a coherent store never hold the same generation. -/
theorem load_ne_conflict (hs : Coherent s) : s.load ≠ .conflict := by
  unfold Store.load
  cases ho : s.oddSlot with
  | holds g v =>
    cases he : s.evenSlot with
    | holds h w =>
      have hne : g ≠ h := by
        rintro rfl
        have h1 := hs.odd_of_holds _ _ ho
        rw [hs.even_of_holds _ _ he] at h1
        cases h1
      simp only [hne, if_false]
      split <;> simp
    | _ => simp
  | _ => cases he : s.evenSlot <;> simp

/-- A coherent store that is not corrupt takes another write. -/
theorem exists_nextGeneration (hs : Coherent s) (h : s.load ≠ .corrupt) :
    ∃ g, s.load.nextGeneration = some g := by
  cases hl : s.load with
  | corrupt => exact absurd hl h
  | conflict => exact absurd hl hs.load_ne_conflict
  | empty => exact ⟨_, rfl⟩
  | found g v r => exact ⟨_, rfl⟩

/-- The loaded record is in the slot of its generation. -/
theorem slot_of_load (hs : Coherent s) {g : G} {v : V} {r : Bool} (h : s.load = .found g v r) :
    s.slot g = .holds g v := by
  unfold Store.load at h
  cases ho : s.oddSlot with
  | holds g₁ v₁ =>
    have h1 := hs.odd_of_holds _ _ ho
    cases he : s.evenSlot with
    | holds g₂ v₂ =>
      have h2 := hs.even_of_holds _ _ he
      simp only [ho, he] at h
      split at h
      · cases h
      · split at h <;> cases h <;> simp [Store.slot, *]
    | _ => simp only [ho, he] at h; cases h; simp [Store.slot, *]
  | _ =>
    cases he : s.evenSlot with
    | holds g₂ v₂ =>
      have h2 := hs.even_of_holds _ _ he
      simp only [ho, he] at h
      cases h
      simp [Store.slot, *]
    | _ => simp [ho, he] at h

omit [DecidableEq G] in
/-- The next write does not go to the slot of the loaded record. -/
theorem isOdd_succ_ne (g : G) : isOdd (succ g) ≠ isOdd g := by
  rw [isOdd_succ]
  cases isOdd g <;> simp

/-- When both slots hold records, the loaded one is the successor of the other. -/
theorem other_of_load (hs : Coherent s) {g h : G} {v w : V} {r : Bool}
    (hl : s.load = .found g v r) (ho : s.slot (succ g) = .holds h w) : g = succ h := by
  have hg := hs.slot_of_load hl
  cases hp : isOdd g with
  | true =>
    rw [Store.slot, if_pos hp] at hg
    rw [Store.slot, isOdd_succ, hp, if_neg (by simp)] at ho
    rcases hs.neighbours _ _ _ _ hg ho with rfl | rfl
    · simp [Store.load, hg, ho, newer_succ, (succ_ne g).symm] at hl
      exact absurd hl.1 (succ_ne g)
    · rfl
  | false =>
    rw [Store.slot, if_neg (by simp [hp])] at hg
    rw [Store.slot, isOdd_succ, hp, if_pos (by simp)] at ho
    rcases hs.neighbours _ _ _ _ ho hg with rfl | rfl
    · rfl
    · simp [Store.load, hg, ho, not_newer_succ, succ_ne g] at hl

omit [DecidableEq G] in
/-- Two successors never lead back: a generation is newer than its predecessor only. -/
theorem succ_succ_ne (g : G) : succ (succ g) ≠ g := by
  intro h
  have hnewer := newer_succ (succ g)
  rw [h, not_newer_succ] at hnewer
  cases hnewer

/-- The slot of the next write does not hold the next generation yet, so a reader tells a lost
write from a completed one. -/
theorem slot_ne_next (hs : Coherent s) {g : G} (h : s.load.nextGeneration = some g) (v : V) :
    s.slot g ≠ .holds g v := by
  intro hslot
  cases hl : s.load with
  | empty =>
    rw [hl] at h
    cases h
    rw [Store.slot, if_pos isOdd_first] at hslot
    unfold Store.load at hl
    cases he : s.evenSlot <;> simp only [hslot, he] at hl <;> try cases hl
    split at hl
    · cases hl
    · split at hl <;> cases hl
  | found k w r =>
    rw [hl] at h
    cases h
    exact succ_succ_ne k (hs.other_of_load hl hslot).symm
  | _ => rw [hl] at h; cases h

/-- Replacing the slot of the next write by anything that is no record keeps the loaded one. -/
theorem load_after_lost (hs : Coherent s) {g : G} {v : V} {r : Bool}
    (h : s.load = .found g v r) {content : Slot G V} (hc : ∀ k w, content ≠ .holds k w) :
    ∃ r', (s.set (succ g) content).load = .found g v r' := by
  have hg := hs.slot_of_load h
  cases hp : isOdd g with
  | true =>
    rw [Store.slot, if_pos hp] at hg
    rw [Store.set, isOdd_succ, hp, if_neg (by simp)]
    cases content with
    | holds k w => exact absurd rfl (hc k w)
    | absent => exact ⟨false, by simp [Store.load, hg]⟩
    | damaged => exact ⟨true, by simp [Store.load, hg]⟩
  | false =>
    rw [Store.slot, if_neg (by simp [hp])] at hg
    rw [Store.set, isOdd_succ, hp, if_pos (by simp)]
    cases content with
    | holds k w => exact absurd rfl (hc k w)
    | absent => exact ⟨false, by simp [Store.load, hg]⟩
    | damaged => exact ⟨true, by simp [Store.load, hg]⟩

/-- The next write, completed, is what the store then loads. -/
theorem load_after_write (hs : Coherent s) {g : G} {v : V} (h : s.load.nextGeneration = some g) :
    ∃ r, (s.set g (.holds g v)).load = .found g v r := by
  cases hl : s.load with
  | empty =>
    rw [hl] at h
    cases h
    rw [Store.set, if_pos isOdd_first]
    have he : s.evenSlot = .absent := by
      unfold Store.load at hl
      cases ho : s.oddSlot <;> cases he : s.evenSlot <;> simp [ho, he] at hl ⊢
      split at hl <;> try cases hl
      split at hl <;> cases hl
    exact ⟨false, by simp [Store.load, he]⟩
  | found k w r =>
    rw [hl] at h
    cases h
    have hk := hs.slot_of_load hl
    cases hp : isOdd k with
    | true =>
      rw [Store.slot, if_pos hp] at hk
      rw [Store.set, isOdd_succ, hp, if_neg (by simp)]
      exact ⟨false, by simp [Store.load, hk, newer_succ, (succ_ne k).symm]⟩
    | false =>
      rw [Store.slot, if_neg (by simp [hp])] at hk
      rw [Store.set, isOdd_succ, hp, if_pos (by simp)]
      exact ⟨false, by simp [Store.load, hk, not_newer_succ, succ_ne k]⟩
  | _ => rw [hl] at h; cases h

omit [DecidableEq G] in
/-- Damaging the slot of a write leaves a coherent store. -/
theorem set_lost (hs : Coherent s) (g : G) {content : Slot G V}
    (hc : ∀ k w, content ≠ .holds k w) : Coherent (s.set g content) := by
  unfold Store.set
  split
  · exact ⟨fun k w h => absurd h (hc k w), hs.even_of_holds, fun k w _ _ h => absurd h (hc k w)⟩
  · exact ⟨hs.odd_of_holds, fun k w h => absurd h (hc k w),
      fun _ _ k w _ h => absurd h (hc k w)⟩

/-- **The invariant is kept.**  The next write, completed, leaves a coherent store. -/
theorem set_write (hs : Coherent s) {g : G} (h : s.load.nextGeneration = some g) (v : V) :
    Coherent (s.set g (.holds g v)) := by
  cases hl : s.load with
  | empty =>
    rw [hl] at h
    cases h
    rw [Store.set, if_pos isOdd_first]
    have he : ∀ k w, s.evenSlot ≠ .holds k w := by
      intro k w he
      unfold Store.load at hl
      cases ho : s.oddSlot <;> simp [ho, he] at hl
      split at hl <;> try cases hl
      split at hl <;> cases hl
    refine ⟨?_, hs.even_of_holds, fun _ _ k w _ h => absurd h (he k w)⟩
    intro k w hk
    cases hk
    exact isOdd_first
  | found k w r =>
    rw [hl] at h
    cases h
    have hother := fun k' w' => hs.other_of_load (h := k') (w := w') hl
    have hk := hs.slot_of_load hl
    cases hp : isOdd k with
    | true =>
      have hodd : isOdd (succ k) = false := by simp [isOdd_succ, hp]
      rw [Store.slot, if_pos hp] at hk
      rw [Store.set, if_neg (by simp [hodd])]
      refine ⟨hs.odd_of_holds, ?_, ?_⟩
      · intro k' w' h'
        cases h'
        exact hodd
      · intro k' w' k'' w'' h' h''
        cases h''
        rw [hk] at h'
        cases h'
        exact Or.inl rfl
    | false =>
      have hodd : isOdd (succ k) = true := by simp [isOdd_succ, hp]
      rw [Store.slot, if_neg (by simp [hp])] at hk
      rw [Store.set, if_pos hodd]
      refine ⟨?_, hs.even_of_holds, ?_⟩
      · intro k' w' h'
        cases h'
        exact hodd
      · intro k' w' k'' w'' h' h''
        cases h'
        rw [hk] at h''
        cases h''
        exact Or.inr rfl
  | _ => rw [hl] at h; cases h

end Coherent

end TwoSlot

end Foundation
