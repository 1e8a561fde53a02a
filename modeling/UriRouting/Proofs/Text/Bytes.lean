import Mathlib.Tactic
import UriRouting.Text.Utf8

/-!
# Text in bytes, seen from its ASCII characters

The trie reads bytes and the templates are text, so facts about one have to be carried over to the
other.  All the marks of a key (`*`, NUL, `/`) are ASCII, and an ASCII byte stands in encoded text
only where its character stands: `mem_utf8_iff`, and as often: `count_utf8`.
-/

namespace UriRouting.Text

/-! ## Encoding piece by piece -/

@[simp] lemma utf8_nil : utf8 [] = [] := rfl

lemma utf8_cons (c : Char) (cs : List Char) : utf8 (c :: cs) = String.utf8EncodeChar c ++ utf8 cs :=
  rfl

@[simp] lemma utf8_append (as bs : List Char) : utf8 (as ++ bs) = utf8 as ++ utf8 bs := by
  simp [utf8]

/-- Different texts have different bytes. -/
lemma utf8_injective : Function.Injective utf8 := by
  intro as bs h
  have hbytes : (String.ofList as).toByteArray = (String.ofList bs).toByteArray := by
    simp only [String.toByteArray_ofList, List.utf8Encode]
    exact congrArg List.toByteArray h
  exact String.ofList_injective (String.toByteArray_inj.1 hbytes)

/-! ## ASCII characters -/

/-- An ASCII character is its own encoding. -/
lemma encode_of_ascii {c : Char} (h : c.toNat < 128) :
    String.utf8EncodeChar c = [UInt8.ofNat c.toNat] := by
  have hv : c.val.toNat ≤ 0x7f := Nat.le_of_lt_succ h
  rw [String.utf8EncodeChar]
  simp only [hv, if_true]
  rfl

lemma utf8_cons_of_ascii {c : Char} (h : c.toNat < 128) (cs : List Char) :
    utf8 (c :: cs) = UInt8.ofNat c.toNat :: utf8 cs := by
  rw [utf8_cons, encode_of_ascii h, List.singleton_append]

/-- No byte of a character beyond ASCII is one of ASCII. -/
lemma le_of_mem_encode {c : Char} (h : ¬ c.toNat < 128) {b : UInt8}
    (hb : b ∈ String.utf8EncodeChar c) : 128 ≤ b.toNat := by
  have hv : ¬ c.val.toNat ≤ 0x7f := by
    have : ¬ c.val.toNat < 128 := h
    omega
  rw [String.utf8EncodeChar] at hb
  simp only [hv, if_false] at hb
  -- every byte is a marked rest, and the mark alone is at least 128
  have hmark : ∀ n k : ℕ, n < 64 → 128 ≤ k → k < 256 - n →
      128 ≤ (UInt8.ofNat (n + k)).toNat := by
    intro n k hn hk hk'
    rw [UInt8.toNat_ofNat', Nat.mod_eq_of_lt (by omega)]
    omega
  split at hb
  · simp only [List.mem_cons, List.not_mem_nil, or_false] at hb
    rcases hb with rfl | rfl <;> exact hmark _ _ (by omega) (by omega) (by omega)
  · split at hb
    · simp only [List.mem_cons, List.not_mem_nil, or_false] at hb
      rcases hb with rfl | rfl | rfl <;> exact hmark _ _ (by omega) (by omega) (by omega)
    · simp only [List.mem_cons, List.not_mem_nil, or_false] at hb
      rcases hb with rfl | rfl | rfl | rfl <;> exact hmark _ _ (by omega) (by omega) (by omega)

/-- An ASCII byte stands in encoded text exactly if its character stands in the text. -/
theorem mem_utf8_iff {c : Char} (h : c.toNat < 128) (cs : List Char) :
    UInt8.ofNat c.toNat ∈ utf8 cs ↔ c ∈ cs := by
  constructor
  · intro hb
    obtain ⟨d, hd, hbd⟩ := List.mem_flatMap.1 hb
    have hc : (UInt8.ofNat c.toNat).toNat = c.toNat := by
      rw [UInt8.toNat_ofNat', Nat.mod_eq_of_lt (by omega)]
    by_cases ha : d.toNat < 128
    · rw [encode_of_ascii ha, List.mem_singleton] at hbd
      have hd' : (UInt8.ofNat d.toNat).toNat = d.toNat := by
        rw [UInt8.toNat_ofNat', Nat.mod_eq_of_lt (by omega)]
      have hcd : c.toNat = d.toNat := by rw [← hc, hbd, hd']
      rwa [Char.toNat_inj.1 hcd]
    · have := le_of_mem_encode ha hbd
      omega
  · intro hc
    exact List.mem_flatMap.2 ⟨c, hc, by simp [encode_of_ascii h]⟩

/-- An ASCII byte stands in encoded text as often as its character stands in the text. -/
theorem count_utf8 {c : Char} (h : c.toNat < 128) (cs : List Char) :
    (utf8 cs).count (UInt8.ofNat c.toNat) = cs.count c := by
  induction cs with
  | nil => rfl
  | cons d cs ih =>
    rw [utf8_cons, List.count_append, ih]
    by_cases hd : d = c
    · rw [hd, encode_of_ascii h, List.count_singleton_self, List.count_cons_self, Nat.add_comm]
    · have hnone : UInt8.ofNat c.toNat ∉ String.utf8EncodeChar d := by
        intro hmem
        have hmem : UInt8.ofNat c.toNat ∈ utf8 [d] := by rwa [utf8_cons, utf8_nil, List.append_nil]
        exact hd (List.mem_singleton.1 ((mem_utf8_iff h [d]).1 hmem)).symm
      rw [List.count_eq_zero_of_not_mem hnone, List.count_cons_of_ne hd, Nat.zero_add]

end UriRouting.Text
