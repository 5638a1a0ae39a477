import SeedMg24.Analysis.CommandText
import SeedMg24.Foundation.RegularTexts

/-!
# Firmware and host accept the same node ids

The loop of the firmware over the characters and the pattern of the host and the gateway describe
one language, that of a regular expression.
-/

set_option autoImplicit false

namespace SeedMg24.Analysis

open Foundation Model

/-- `[A-Z0-9]`. -/
def nodeIdClass : List Char := charRange 'A' 'Z' ++ charRange '0' '9'

/-- `[A-Z0-9]+(?:-[A-Z0-9]+)*`.
SOURCE: protocol.py:12, ble_provisioning.py:89 -/
def nodeIdExpression : RegularExpression Char := separatedBy '-' (oneOrMore (charClass nodeIdClass))

theorem mem_nodeIdClass {c : Char} :
    c ∈ nodeIdClass ↔ (('A' ≤ c && c ≤ 'Z') || ('0' ≤ c && c ≤ '9')) = true := by
  rw [nodeIdClass, List.mem_append, mem_charRange (by decide), mem_charRange (by decide)]
  simp only [Bool.or_eq_true, Bool.and_eq_true, decide_eq_true_eq]

/-- What the expression matches are parts of capital letters and digits, with dashes between. -/
theorem mem_nodeIdExpression {s : Text} : s ∈ nodeIdExpression.matches' ↔
    ∃ parts : List Text, parts ≠ [] ∧ s = ['-'].intercalate parts ∧
      ∀ part ∈ parts, part ≠ [] ∧ ∀ c ∈ part, c ∈ nodeIdClass := by
  rw [nodeIdExpression, mem_matches_separatedBy]
  simp only [mem_matches_oneOrMore]

/-- **The pattern of the gateway is the expression.** -/
theorem nodeIdPattern_iff {s : Text} :
    nodeIdPattern s = true ↔ s ∈ nodeIdExpression.matches' := by
  rw [mem_nodeIdExpression]
  have hpart (part : Text) : (!part.isEmpty &&
      part.all fun c => ('A' ≤ c && c ≤ 'Z') || ('0' ≤ c && c ≤ '9')) = true ↔
      part ≠ [] ∧ ∀ c ∈ part, c ∈ nodeIdClass := by
    simp only [mem_nodeIdClass, Bool.and_eq_true, List.all_eq_true]
    simp
  unfold nodeIdPattern
  simp only [List.all_eq_true, hpart]
  constructor
  · intro h
    exact ⟨s.splitOn '-', List.splitOn_ne_nil '-' s, (List.intercalate_splitOn '-').symm, h⟩
  · rintro ⟨parts, hne, rfl, hparts⟩
    have hdash : ∀ part ∈ parts, '-' ∉ part := by
      intro part hmem hin
      exact absurd (mem_nodeIdClass.mp ((hparts part hmem).2 '-' hin)) (by decide)
    rw [List.splitOn_intercalate '-' hdash hne]
    exact hparts

/-- **Firmware and host accept the same node ids.**  Of every zero-terminated string of bytes: the
firmware accepts it exactly when it has 1 to 31 characters and matches the expression in full, as
the gateway's pattern does. -/
theorem validNodeId_matches (bytes : List UInt8) :
    let s := (Text.ofBytes bytes).cString
    (validNodeId s = true ↔
      1 ≤ s.length ∧ s.length ≤ kNodeIdMaxLength ∧ s ∈ nodeIdExpression.matches') ∧
    (nodeIdPattern s = true ↔ s ∈ nodeIdExpression.matches') := by
  intro s
  refine ⟨?_, nodeIdPattern_iff⟩
  rw [← nodeIdPattern_iff]
  constructor
  · intro hvalid
    obtain ⟨hpattern, hlength⟩ := pattern_of_validNodeId hvalid
    exact ⟨List.length_pos_iff.mpr (validNodeId_iff.mp hvalid).1.1, hlength, hpattern⟩
  · rintro ⟨-, hlength, hpattern⟩
    exact validNodeId_of_pattern hpattern hlength

end SeedMg24.Analysis
