import Mathlib.Data.List.TakeWhile
import TemplateTypes.Text.Identifier
import TemplateTypes.Proofs.Trimming

/-!
# Identifiers — reading one from the front of a text

An identifier holds no blank and no separator, and reading takes as much as it can.  So an
identifier is read back whole wherever something else follows it.
-/

namespace TemplateTypes.Text

theorem isBlank_of_isNameChar {c : Char} (h : isNameChar c = true) : isBlank c = false := by
  have hn : (97 ≤ c.toNat ∧ c.toNat ≤ 122) ∨ (65 ≤ c.toNat ∧ c.toNat ≤ 90) ∨ c.toNat = 95 ∨
      (48 ≤ c.toNat ∧ c.toNat ≤ 57) := by
    simp only [isNameChar, isNameStart, Bool.or_eq_true, Bool.and_eq_true, decide_eq_true_eq,
      beq_iff_eq, Char.le_def, UInt32.le_iff_toNat_le] at h
    rcases h with ((h | h) | h) | h
    · exact .inl h
    · exact .inr (.inl h)
    · exact .inr (.inr (.inl (by rw [h]; rfl)))
    · exact .inr (.inr (.inr h))
  simp only [isBlank, Bool.or_eq_false_iff, Bool.and_eq_false_iff, decide_eq_false_iff_not,
    beq_eq_false_iff_ne, ne_eq]
  omega

theorem isNameChar_of_mem_identifier {n : Text} (h : isIdentifier n = true) {c : Char}
    (hc : c ∈ n) : isNameChar c = true := by
  cases n with
  | nil => cases hc
  | cons d n =>
    rw [isIdentifier, Bool.and_eq_true, List.all_eq_true] at h
    rcases List.mem_cons.1 hc with rfl | hc
    · rw [isNameChar, h.1, Bool.true_or]
    · exact h.2 c hc

theorem isTrimmed_of_isIdentifier {n : Text} (h : isIdentifier n = true) : IsTrimmed n where
  head := fun _ hc =>
    isBlank_of_isNameChar (isNameChar_of_mem_identifier h (List.mem_of_mem_head? hc))
  last := fun _ hc =>
    isBlank_of_isNameChar (isNameChar_of_mem_identifier h (List.mem_of_mem_getLast? hc))

theorem colon_notMem_of_isIdentifier {n : Text} (h : isIdentifier n = true) : ':' ∉ n := by
  intro hc
  have hn := isNameChar_of_mem_identifier h hc
  revert hn
  decide

theorem cutIdentifier?_append {n r : Text} (h : isIdentifier n = true)
    (hr : ∀ c ∈ r.head?, isNameChar c = false) : cutIdentifier? (n ++ r) = some (n, r) := by
  cases n with
  | nil => cases h
  | cons d n =>
    rw [isIdentifier, Bool.and_eq_true, List.all_eq_true] at h
    have ht : r.takeWhile isNameChar = [] ∧ r.dropWhile isNameChar = r := by
      cases r with
      | nil => exact ⟨rfl, rfl⟩
      | cons c r => simp [hr c rfl]
    rw [List.cons_append, cutIdentifier?, if_pos h.1, List.takeWhile_append_of_pos h.2,
      List.dropWhile_append_of_pos h.2, ht.1, ht.2, List.append_nil]

/-- Blanks and the separator behind them are no part of an identifier in front. -/
theorem cutIdentifier?_append_blanks {n w : Text} {d : Char} (h : isIdentifier n = true)
    (hw : AllBlank w) (hd : isNameChar d = false) (r : Text) :
    cutIdentifier? (n ++ (w ++ d :: r)) = some (n, w ++ d :: r) := by
  apply cutIdentifier?_append h
  intro c hc
  cases w with
  | nil => rwa [← Option.some.inj hc]
  | cons b w =>
    rw [← Option.some.inj hc, ← Bool.not_eq_true]
    intro hb
    have hblank := isBlank_of_isNameChar hb
    rw [hw b List.mem_cons_self] at hblank
    cases hblank

end TemplateTypes.Text
