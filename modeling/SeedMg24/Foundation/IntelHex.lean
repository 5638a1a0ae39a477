import Mathlib.Tactic

/-!
# Intel HEX

The records of a file in the Intel HEX format, and the bytes the file programs by the standard: an
extended segment address record sets a segment, in which offsets wrap around, and an extended
linear address record the upper half of a 32-bit address.  Beside it stands the flat reading, which
knows of the linear records only, and where the two agree.
-/

set_option autoImplicit false

namespace Foundation.IntelHex

/-- The number some bytes stand for, most significant first. -/
def word (bytes : List UInt8) : ℕ := bytes.foldl (fun n b => 256 * n + b.toNat) 0

/-- A record whose length and checksum are right. -/
structure Record where
  offset : ℕ
  kind : ℕ
  data : List UInt8
  checksum : UInt8
deriving DecidableEq, Repr

/-- The record is one of the standard: a record that sets an address has as many bytes as that
takes, and the last record has none. -/
def Record.isStandard (r : Record) : Bool :=
  match r.kind with
  | 0 => true
  | 1 => r.data.length = 0
  | 2 => r.data.length = 2
  | 3 => r.data.length = 4
  | 4 => r.data.length = 2
  | 5 => r.data.length = 4
  | _ => false

/-- What the offsets of data records are relative to. -/
inductive Base where
  /-- a segment base address -/
  | segment (base : ℕ)
  /-- the upper half of an address -/
  | linear (base : ℕ)
deriving DecidableEq, Repr

/-- Where byte number `i` of a data record goes: the offset wraps around in a segment, and a linear
address wraps around at 4 GiB. -/
def Base.address : Base → ℕ → ℕ → ℕ
  | .segment base, offset, i => 16 * base + (offset + i) % 65536
  | .linear base, offset, i => (65536 * base + offset + i) % 4294967296

/-- The addresses of a data record. -/
def Record.addresses (r : Record) (base : Base) : List ℕ :=
  (List.range r.data.length).map (base.address r.offset)

/-- **The bytes a file programs by the standard**: everything before the end-of-file record, if all
of it is of the standard. -/
def programmed : Base → List Record → Option (List ℕ)
  | _, [] => some []
  | base, r :: records =>
    if !r.isStandard then none
    else match r.kind with
      | 0 => (programmed base records).map (r.addresses base ++ ·)
      | 1 => some []
      | 2 => programmed (.segment (word r.data)) records
      | 4 => programmed (.linear (word r.data)) records
      | _ => programmed base records

/-! ## The flat reading -/

/-- The first and the last address of every data record, when only linear address records set a
base, whatever they have for data, nothing wraps around, and no record is the last one. -/
def flatRanges : ℕ → List Record → List (ℤ × ℤ)
  | _, [] => []
  | base, r :: records =>
    if r.kind = 0 then
      ((base + r.offset : ℤ), (base + r.offset + r.data.length - 1 : ℤ)) :: flatRanges base records
    else if r.kind = 4 then
      flatRanges (65536 * word ((r.data ++ [r.checksum]).take 2)) records
    else flatRanges base records

/-- The programmed bytes with both their addresses: that of the standard and the flat one. -/
def placed : Base → ℕ → List Record → Option (List (ℕ × ℕ))
  | _, _, [] => some []
  | base, flat, r :: records =>
    if !r.isStandard then none
    else match r.kind with
      | 0 => (placed base flat records).map
          ((List.range r.data.length).map (fun i => (base.address r.offset i, flat + r.offset + i)) ++ ·)
      | 1 => some []
      | 2 => placed (.segment (word r.data)) flat records
      | 4 => placed (.linear (word r.data)) (65536 * word r.data) records
      | _ => placed base flat records

/-- Looking at the flat addresses as well changes nothing. -/
theorem programmed_eq_map_placed (base : Base) (flat : ℕ) (records : List Record) :
    programmed base records = (placed base flat records).map (List.map Prod.fst) := by
  induction records generalizing base flat with
  | nil => rfl
  | cons r records ih =>
    unfold programmed placed
    split
    · rfl
    split
    · rw [ih base flat, Option.map_map, Option.map_map]
      congr 1
      funext l
      simp [Record.addresses, Function.comp_def]
    · rfl
    · exact ih _ _
    · exact ih _ _
    · exact ih _ _

/-- A byte that goes to its flat address lies in the flat range of its record. -/
theorem mem_flatRanges_of_mem_placed {base : Base} {flat : ℕ} {records : List Record}
    {bytes : List (ℕ × ℕ)} (h : placed base flat records = some bytes) {p : ℕ × ℕ}
    (hp : p ∈ bytes) : ∃ r ∈ flatRanges flat records, r.1 ≤ p.2 ∧ (p.2 : ℤ) ≤ r.2 := by
  induction records generalizing base flat bytes with
  | nil =>
    cases h
    cases hp
  | cons r records ih =>
    unfold placed at h
    split at h
    · cases h
    rename_i hstandard
    split at h
    · rename_i hkind
      obtain ⟨others, hothers, rfl⟩ := Option.map_eq_some_iff.mp h
      rw [flatRanges, if_pos hkind]
      cases List.mem_append.mp hp with
      | inl hfirst =>
        obtain ⟨i, hi, rfl⟩ := List.mem_map.mp hfirst
        rw [List.mem_range] at hi
        refine ⟨_, List.mem_cons_self, ?_, ?_⟩
        · push_cast
          omega
        · push_cast
          omega
      | inr hrest =>
        obtain ⟨range, hrange, hbounds⟩ := ih hothers hrest
        exact ⟨range, List.mem_cons_of_mem _ hrange, hbounds⟩
    · cases h
      cases hp
    · rename_i hkind
      rw [flatRanges, if_neg (by omega), if_neg (by omega)]
      exact ih h hp
    · rename_i hkind
      have hlength : r.data.length = 2 := by
        simpa [Record.isStandard, hkind] using hstandard
      have htake : (r.data ++ [r.checksum]).take 2 = r.data := by
        rw [List.take_left' hlength]
      rw [flatRanges, if_neg (by omega), if_pos hkind, htake]
      exact ih h hp
    · rename_i hzero _ _ hfour
      rw [flatRanges, if_neg hzero, if_neg hfour]
      exact ih h hp

/-! ## What covers the programmed bytes -/

/-- The bytes some records program, by the standard; none if they are not of the standard. -/
def programmedBytes (base : Base) (records : List Record) : List ℕ :=
  (programmed base records).getD []

/-- Every byte that does not go to its flat address still lies between the flat ranges of two
records: it is not below all of them, and not above all of them. -/
def CoversDisplaced (base : Base) (records : List Record) : Prop :=
  ∀ p ∈ (placed base 0 records).getD [], p.1 ≠ p.2 →
    (∃ r ∈ flatRanges 0 records, r.1 ≤ p.1) ∧ ∃ r ∈ flatRanges 0 records, (p.1 : ℤ) ≤ r.2

/-- **The flat ranges cover what a file programs exactly when they cover the displaced bytes.** -/
theorem covers_iff_coversDisplaced (base : Base) (records : List Record) :
    (∀ address ∈ programmedBytes base records,
      (∃ r ∈ flatRanges 0 records, r.1 ≤ address) ∧
        ∃ r ∈ flatRanges 0 records, (address : ℤ) ≤ r.2) ↔ CoversDisplaced base records := by
  unfold programmedBytes CoversDisplaced
  rw [programmed_eq_map_placed base 0 records]
  cases hplaced : placed base 0 records with
  | none => simp
  | some bytes =>
    rw [Option.map_some, Option.getD_some, Option.getD_some]
    constructor
    · intro h p hp _
      exact h p.1 (List.mem_map_of_mem hp)
    · intro h address haddress
      obtain ⟨p, hp, rfl⟩ := List.mem_map.mp haddress
      by_cases hflat : p.1 = p.2
      · obtain ⟨r, hr, hfirst, hlast⟩ := mem_flatRanges_of_mem_placed hplaced hp
        rw [hflat]
        exact ⟨⟨r, hr, hfirst⟩, r, hr, hlast⟩
      · exact h p hp hflat

end Foundation.IntelHex
