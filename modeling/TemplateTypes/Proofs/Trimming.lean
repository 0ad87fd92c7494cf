import Mathlib.Data.List.Basic
import Mathlib.Data.List.TakeWhile
import TemplateTypes.Text.Basic

/-!
# Trimming — what is left between the blanks

Trimming takes a text apart into blanks, a middle part whose ends are not blank, and blanks again.
There is only one such middle part, so every fact about trimming is a fact about this cut: blanks
put in front or behind change nothing, and a text whose ends are not blank is its own middle.
-/

namespace TemplateTypes.Text

/-! ## 1. Blanks and ends -/

def AllBlank (t : Text) : Prop := ∀ c ∈ t, isBlank c = true

instance (t : Text) : Decidable (AllBlank t) := List.decidableBAll _ t

/-- Neither end is white space; the empty text has no ends. -/
structure IsTrimmed (t : Text) : Prop where
  head : ∀ c ∈ t.head?, isBlank c = false
  last : ∀ c ∈ t.getLast?, isBlank c = false

theorem allBlank_spaces (n : ℕ) : AllBlank (List.replicate n ' ') := by
  intro c hc
  rw [(List.mem_replicate.1 hc).2]
  decide

theorem AllBlank.reverse {t : Text} (h : AllBlank t) : AllBlank t.reverse := by
  intro c hc
  exact h c (List.mem_reverse.1 hc)

/-! ## 2. One side -/

theorem trimLeft_append_of_allBlank {a : Text} (ha : AllBlank a) (t : Text) :
    trimLeft (a ++ t) = trimLeft t :=
  List.dropWhile_append_of_pos ha

theorem trimLeft_eq_self {t : Text} (h : ∀ c ∈ t.head?, isBlank c = false) : trimLeft t = t := by
  cases t with
  | nil => rfl
  | cons c t => exact List.dropWhile_cons_of_neg (by simp [h c rfl])

theorem trimLeft_eq_nil_iff {t : Text} : trimLeft t = [] ↔ AllBlank t :=
  List.dropWhile_eq_nil_iff

theorem head_trimLeft (t : Text) : ∀ c ∈ (trimLeft t).head?, isBlank c = false := by
  intro c hc
  have h := List.head?_dropWhile_not isBlank t
  rw [show (t.dropWhile isBlank).head? = some c from hc] at h
  exact h

theorem exists_blanks_append_trimLeft (t : Text) : ∃ a, AllBlank a ∧ t = a ++ trimLeft t :=
  ⟨t.takeWhile isBlank, fun _ hc => List.mem_takeWhile_imp hc,
    List.takeWhile_append_dropWhile.symm⟩

/-- The right side is the left side of the mirror image. -/
theorem trimRight_eq (t : Text) : trimRight t = (trimLeft t.reverse).reverse := rfl

theorem trimRight_append_of_allBlank {b : Text} (hb : AllBlank b) (t : Text) :
    trimRight (t ++ b) = trimRight t := by
  rw [trimRight_eq, List.reverse_append, trimLeft_append_of_allBlank hb.reverse, trimRight_eq]

theorem trimRight_eq_self {t : Text} (h : ∀ c ∈ t.getLast?, isBlank c = false) :
    trimRight t = t := by
  rw [trimRight_eq, trimLeft_eq_self (by rwa [List.head?_reverse]), List.reverse_reverse]

theorem last_trimRight (t : Text) : ∀ c ∈ (trimRight t).getLast?, isBlank c = false := by
  rw [trimRight_eq, List.getLast?_reverse]
  exact head_trimLeft t.reverse

theorem exists_trimRight_append_blanks (t : Text) : ∃ b, AllBlank b ∧ t = trimRight t ++ b := by
  obtain ⟨a, ha, ht⟩ := exists_blanks_append_trimLeft t.reverse
  refine ⟨a.reverse, ha.reverse, ?_⟩
  rw [trimRight_eq, ← List.reverse_append, ← ht, List.reverse_reverse]

/-- What the right side gives up does not touch the first character. -/
theorem head_trimRight {t : Text} (h : ∀ c ∈ t.head?, isBlank c = false) :
    ∀ c ∈ (trimRight t).head?, isBlank c = false := by
  obtain ⟨b, -, ht⟩ := exists_trimRight_append_blanks t
  intro c hc
  apply h c
  rw [ht, List.head?_append, Option.mem_def.1 hc]
  rfl

/-! ## 3. Both sides -/

theorem isTrimmed_trim (t : Text) : IsTrimmed (trim t) :=
  ⟨head_trimRight (head_trimLeft t), last_trimRight (trimLeft t)⟩

theorem IsTrimmed.trim_eq {t : Text} (h : IsTrimmed t) : trim t = t := by
  rw [trim, trimLeft_eq_self h.head, trimRight_eq_self h.last]

theorem trim_eq_self_iff {t : Text} : trim t = t ↔ IsTrimmed t :=
  ⟨fun h => h ▸ isTrimmed_trim t, IsTrimmed.trim_eq⟩

instance (t : Text) : Decidable (IsTrimmed t) := decidable_of_iff _ trim_eq_self_iff

theorem exists_blanks_append_trim (t : Text) :
    ∃ a b, AllBlank a ∧ AllBlank b ∧ t = a ++ trim t ++ b := by
  obtain ⟨a, ha, hl⟩ := exists_blanks_append_trimLeft t
  obtain ⟨b, hb, hr⟩ := exists_trimRight_append_blanks (trimLeft t)
  refine ⟨a, b, ha, hb, ?_⟩
  rw [trim, List.append_assoc, ← hr, ← hl]

theorem trim_eq_nil_iff {t : Text} : trim t = [] ↔ AllBlank t := by
  constructor
  · intro h
    obtain ⟨a, b, ha, hb, ht⟩ := exists_blanks_append_trim t
    rw [h, List.append_nil] at ht
    intro c hc
    rw [ht] at hc
    rcases List.mem_append.1 hc with hc | hc
    · exact ha c hc
    · exact hb c hc
  · intro h
    rw [trim, trimLeft_eq_nil_iff.2 h]
    rfl

theorem trim_blanks_append {a : Text} (ha : AllBlank a) (t : Text) : trim (a ++ t) = trim t := by
  rw [trim, trimLeft_append_of_allBlank ha, trim]

theorem trim_append_blanks {b : Text} (hb : AllBlank b) (t : Text) : trim (t ++ b) = trim t := by
  obtain ⟨a, ha, ht⟩ := exists_blanks_append_trimLeft t
  have hm : trim (trimLeft t ++ b) = trim (trimLeft t) := by
    by_cases h : trimLeft t = []
    · rw [h, List.nil_append, trim_eq_nil_iff.2 hb]
      rfl
    · -- The first character is not blank, so the left side stops there, with `b` or without it.
      obtain ⟨c, u, hc⟩ := List.exists_cons_of_ne_nil h
      have hl : ∀ d ∈ (trimLeft t ++ b).head?, isBlank d = false := by
        intro d hd
        apply head_trimLeft t d
        rw [hc] at hd ⊢
        exact hd
      rw [trim, trimLeft_eq_self hl, trimRight_append_of_allBlank hb, trim,
        trimLeft_eq_self (head_trimLeft t)]
  rw [ht, List.append_assoc, trim_blanks_append ha, trim_blanks_append ha]
  exact hm

/-- A first character that is not blank stays the first. -/
theorem isPrefix_trim_cons {c : Char} (hc : isBlank c = false) (t : Text) :
    [c] <+: trim (c :: t) := by
  have hl : trimLeft (c :: t) = c :: t := List.dropWhile_cons_of_neg (by simp [hc])
  obtain ⟨b, hb, ht⟩ := exists_trimRight_append_blanks (c :: t)
  rw [trim, hl]
  cases hr : trimRight (c :: t) with
  | nil =>
    rw [hr, List.nil_append] at ht
    have hcb : isBlank c = true := hb c (by rw [← ht]; exact List.mem_cons_self)
    rw [hc] at hcb
    cases hcb
  | cons d u =>
    rw [hr] at ht
    obtain ⟨rfl, -⟩ := List.cons.inj ht
    exact ⟨u, rfl⟩

theorem isInfix_trim (t : Text) : trim t <:+: t := by
  obtain ⟨a, b, -, -, ht⟩ := exists_blanks_append_trim t
  exact ⟨a, b, ht.symm⟩

theorem mem_of_mem_trim {t : Text} {c : Char} (h : c ∈ trim t) : c ∈ t :=
  (isInfix_trim t).subset h

/-! ## 4. Pieces of a trimmed text -/

/-- A piece from the front of a trimmed text is trimmed by its end alone. -/
theorem IsTrimmed.isPrefix_trim {a r : Text} (h : IsTrimmed (a ++ r)) : trim a <+: a := by
  have hh : ∀ c ∈ a.head?, isBlank c = false := by
    intro c hc
    apply h.head c
    rw [List.head?_append, Option.mem_def.1 hc]
    rfl
  obtain ⟨b, -, hb⟩ := exists_trimRight_append_blanks a
  refine ⟨b, ?_⟩
  rw [trim, trimLeft_eq_self hh, ← hb]

/-- A piece from the end of a trimmed text is trimmed by its front alone. -/
theorem IsTrimmed.isSuffix_trim {r b : Text} (h : IsTrimmed (r ++ b)) : trim b <:+ b := by
  obtain ⟨a, ha, hb⟩ := exists_blanks_append_trimLeft b
  have hl : ∀ c ∈ (trimLeft b).getLast?, isBlank c = false := by
    intro c hc
    apply h.last c
    rw [hb, List.getLast?_append, List.getLast?_append, Option.mem_def.1 hc]
    rfl
  refine ⟨a, ?_⟩
  rw [trim, trimRight_eq_self hl, ← hb]

theorem IsTrimmed.concat {a : Text} {c : Char} (ha : IsTrimmed a) (hc : isBlank c = false) :
    IsTrimmed (a ++ [c]) := by
  constructor
  · intro d hd
    cases a with
    | nil =>
      rw [← Option.some.inj hd]
      exact hc
    | cons e a => exact ha.head d hd
  · intro d hd
    rw [List.getLast?_concat] at hd
    rw [← Option.some.inj hd]
    exact hc

theorem IsTrimmed.append {a b : Text} (ha : IsTrimmed a) (hb : ∀ c ∈ b.getLast?, isBlank c = false)
    (hna : a ≠ []) (hnb : b ≠ []) (m : Text) : IsTrimmed (a ++ m ++ b) := by
  constructor
  · intro c hc
    apply ha.head c
    obtain ⟨d, a, rfl⟩ := List.exists_cons_of_ne_nil hna
    exact hc
  · intro c hc
    apply hb c
    rwa [List.getLast?_append_of_ne_nil _ hnb] at hc

/-- Behind a trimmed text only the end is trimmed. -/
theorem IsTrimmed.trim_append {a : Text} (ha : IsTrimmed a) (hna : a ≠ []) (t : Text) :
    trim (a ++ t) = a ++ trimRight t := by
  obtain ⟨b, hb, ht⟩ := exists_trimRight_append_blanks t
  have htrim : IsTrimmed (a ++ trimRight t) := by
    by_cases hr : trimRight t = []
    · rwa [hr, List.append_nil]
    · simpa using ha.append (last_trimRight t) hna hr []
  conv_lhs => rw [ht]
  rw [← List.append_assoc, trim_append_blanks hb, htrim.trim_eq]

end TemplateTypes.Text
