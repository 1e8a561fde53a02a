import Mathlib.Tactic
import UriRouting.Regex.Search

/-!
# Visits

A `Seen` keeps its visits as bits in words.  As long as the places lie within the text for which
it was made, different visits have different bits, and noting a visit adds this visit and no other
(`Seen.contains_insert`).
-/

namespace UriRouting.Regex.Seen

/-- Different visits have different bits. -/
lemma bit_injective {s : Seen} {label label' index index' : ℕ} (h : index < s.width)
    (h' : index' < s.width) (heq : s.bit label index = s.bit label' index') :
    label = label' ∧ index = index' := by
  have hpos : 0 < s.width := by omega
  have hlabel := congrArg (· / s.width) heq
  have hindex := congrArg (· % s.width) heq
  simp only [bit] at hlabel hindex
  rw [Nat.mul_comm, Nat.mul_add_div hpos, Nat.mul_comm label', Nat.mul_add_div hpos,
    Nat.div_eq_of_lt h, Nat.div_eq_of_lt h', Nat.add_zero, Nat.add_zero] at hlabel
  rw [Nat.mul_add_mod_of_lt h, Nat.mul_add_mod_of_lt h'] at hindex
  exact ⟨hlabel, hindex⟩

lemma getD_reach (words : Array ℕ) (i j : ℕ) : (reach words i).getD j 0 = words.getD j 0 := by
  unfold reach
  split
  · rfl
  · simp only [Array.getD_eq_getD_getElem?, Array.getElem?_append, Array.getElem?_replicate]
    split
    · rfl
    · next hj =>
      rw [Array.getElem?_eq_none (by omega)]
      split <;> rfl

lemma lt_size_reach (words : Array ℕ) (i : ℕ) : i < (reach words i).size := by
  unfold reach
  split
  · assumption
  · rw [Array.size_append, Array.size_replicate]
    omega

/-- Noting a visit sets its bit and leaves all others as they are. -/
lemma testBit_insert (s : Seen) (label index k : ℕ) :
    ((s.insert label index).words.getD (k / wordSize) 0).testBit (k % wordSize) =
      (decide (s.bit label index = k) ||
        (s.words.getD (k / wordSize) 0).testBit (k % wordSize)) := by
  generalize hbit : s.bit label index = bit
  have hwords : (s.insert label index).words =
      (reach s.words (bit / wordSize)).modify (bit / wordSize) fun word =>
        word ||| (1 <<< (bit % wordSize)) := by
    simp [insert, hbit]
  have hlt := lt_size_reach s.words (bit / wordSize)
  rw [hwords, Array.getD_eq_getD_getElem?, Array.getElem?_modify]
  by_cases hword : bit / wordSize = k / wordSize
  · rw [if_pos hword, ← hword, Array.getElem?_eq_getElem hlt]
    have hold : (reach s.words (bit / wordSize))[bit / wordSize] =
        s.words.getD (bit / wordSize) 0 := by
      rw [← getD_reach s.words (bit / wordSize) (bit / wordSize), Array.getD_eq_getD_getElem?,
        Array.getElem?_eq_getElem hlt, Option.getD_some]
    have hremainder : decide (bit % wordSize = k % wordSize) = decide (bit = k) := by
      refine decide_eq_decide.2 ⟨fun hmod => ?_, fun heq => heq ▸ rfl⟩
      rw [← Nat.div_add_mod bit wordSize, ← Nat.div_add_mod k wordSize, hword, hmod]
    rw [Option.map_some, Option.getD_some, hold, Nat.testBit_or, Nat.one_shiftLeft,
      Nat.testBit_two_pow, hremainder, Bool.or_comm]
  · have hne : bit ≠ k := fun h => hword (h ▸ rfl)
    rw [if_neg hword, ← Array.getD_eq_getD_getElem?, getD_reach, decide_eq_false hne, Bool.false_or]

/-- Noting a visit adds this visit and no other. -/
theorem contains_insert {s : Seen} {label label' index index' : ℕ} (h : index < s.width)
    (h' : index' < s.width) : (s.insert label index).contains label' index' =
      (decide (label = label' ∧ index = index') || s.contains label' index') := by
  have hbit : (s.insert label index).bit label' index' = s.bit label' index' := rfl
  rw [contains, hbit, testBit_insert, contains]
  congr 1
  refine decide_eq_decide.2 ⟨bit_injective h h', ?_⟩
  rintro ⟨rfl, rfl⟩
  rfl

lemma not_contains_empty (length label index : ℕ) :
    (empty length).contains label index = false := by
  simp [empty, contains]

end UriRouting.Regex.Seen
