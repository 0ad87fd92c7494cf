import Mathlib.Data.List.Infix
import Mathlib.Data.List.TakeWhile
import TemplateTypes.Text.Basic

/-!
# Cutting — the two sides of the first separator

A text that was put together around a separator comes apart there again, as long as the left side
does not hold the separator itself.
-/

namespace TemplateTypes.Text

theorem beginsWith_iff {p t : Text} : beginsWith p t = true ↔ p <+: t := by
  rw [beginsWith, Option.isSome_iff_exists]
  constructor
  · rintro ⟨r, hr⟩
    exact ⟨r, (after?_eq_some_iff.1 hr).symm⟩
  · rintro ⟨r, hr⟩
    exact ⟨r, after?_eq_some_iff.2 hr.symm⟩

theorem cut?_append {d : Char} {a : Text} (h : d ∉ a) (b : Text) :
    cut? d (a ++ d :: b) = some (a, b) := by
  induction a with
  | nil => simp [cut?]
  | cons c a ih =>
    rw [List.mem_cons, not_or] at h
    rw [List.cons_append, cut?, if_neg (Ne.symm h.1), ih h.2]
    rfl

theorem cut?_eq_some_iff {d : Char} {t a b : Text} :
    cut? d t = some (a, b) ↔ t = a ++ d :: b ∧ d ∉ a := by
  constructor
  · exact cut?_eq_some
  · rintro ⟨rfl, h⟩
    exact cut?_append h b

theorem cut?_eq_none_iff {d : Char} {t : Text} : cut? d t = none ↔ d ∉ t := by
  constructor
  · intro h hm
    obtain ⟨a, b, rfl, ha⟩ := List.eq_append_cons_of_mem hm
    rw [cut?_append ha] at h
    cases h
  · intro h
    rw [Option.eq_none_iff_forall_ne_some]
    rintro ⟨a, b⟩ hc
    obtain ⟨rfl, -⟩ := cut?_eq_some hc
    exact h (by simp)

theorem exists_last_of_mem {d : Char} {t : Text} (h : d ∈ t) :
    ∃ a b, t = a ++ d :: b ∧ d ∉ b := by
  obtain ⟨b, a, ht, hb⟩ := List.eq_append_cons_of_mem (List.mem_reverse.2 h)
  refine ⟨a.reverse, b.reverse, ?_, by rwa [List.mem_reverse]⟩
  rw [← List.reverse_reverse t, ht]
  simp

/-- The last separator is the first one of the mirror image. -/
theorem cutLast?_eq_some_iff {d : Char} {t a b : Text} :
    cutLast? d t = some (a, b) ↔ t = a ++ d :: b ∧ d ∉ b := by
  rw [cutLast?, Option.map_eq_some_iff]
  constructor
  · rintro ⟨⟨x, y⟩, hcut, heq⟩
    obtain ⟨ht, hx⟩ := cut?_eq_some_iff.1 hcut
    cases heq
    rw [← List.reverse_reverse t, ht]
    exact ⟨by simp, by rwa [List.mem_reverse]⟩
  · rintro ⟨rfl, hb⟩
    refine ⟨(b.reverse, a.reverse), cut?_eq_some_iff.2 ⟨by simp, by rwa [List.mem_reverse]⟩, ?_⟩
    rw [List.reverse_reverse, List.reverse_reverse]

theorem cutLast?_append {d : Char} {b : Text} (h : d ∉ b) (a : Text) :
    cutLast? d (a ++ d :: b) = some (a, b) :=
  cutLast?_eq_some_iff.2 ⟨rfl, h⟩

theorem forall_ne_of_notMem {d : Char} {t : Text} (h : d ∉ t) : ∀ c ∈ t, decide (c ≠ d) = true := by
  intro c hc
  rw [decide_eq_true_eq]
  rintro rfl
  exact h hc

theorem upTo_of_notMem {d : Char} {t : Text} (h : d ∉ t) : upTo d t = t :=
  List.takeWhile_eq_self_iff.2 (forall_ne_of_notMem h)

theorem fromFirst_of_notMem {d : Char} {t : Text} (h : d ∉ t) : fromFirst d t = [] :=
  List.dropWhile_eq_nil_iff.2 (forall_ne_of_notMem h)

theorem upTo_append {d : Char} {a : Text} (h : d ∉ a) (b : Text) : upTo d (a ++ d :: b) = a := by
  rw [upTo, List.takeWhile_append_of_pos (forall_ne_of_notMem h),
    List.takeWhile_cons_of_neg (by simp), List.append_nil]

theorem upTo_append_of_mem {d : Char} {a : Text} (h : d ∈ a) (b : Text) :
    upTo d (a ++ b) = upTo d a := by
  obtain ⟨s, t, rfl, hs⟩ := List.eq_append_cons_of_mem h
  rw [List.append_assoc, List.cons_append, upTo_append hs, upTo_append hs]

theorem fromFirst_append {d : Char} {a : Text} (h : d ∉ a) (b : Text) :
    fromFirst d (a ++ d :: b) = d :: b := by
  rw [fromFirst, List.dropWhile_append_of_pos (forall_ne_of_notMem h),
    List.dropWhile_cons_of_neg (by simp)]

/-! ## Pieces without the separator -/

/-- A piece that does not hold the separator does not reach beyond it. -/
theorem isPrefix_append_cons_iff {p a b : Text} {d : Char} (h : d ∉ p) :
    p <+: a ++ d :: b ↔ p <+: a := by
  constructor
  · intro hp
    have hc : a ++ [d] <+: a ++ d :: b := ⟨b, by simp⟩
    rcases List.prefix_or_prefix_of_prefix hp hc with hp | hp
    · rcases List.prefix_concat_iff.1 hp with rfl | hp
      · simp at h
      · exact hp
    · exact absurd (hp.subset (by simp)) h
  · intro hp
    exact hp.trans (List.prefix_append a _)

theorem isSuffix_append_cons_iff {p a b : Text} {d : Char} (h : d ∉ p) :
    p <:+ a ++ d :: b ↔ p <:+ b := by
  have hr : d ∉ p.reverse := by rwa [List.mem_reverse]
  have hs : (a ++ d :: b).reverse = b.reverse ++ d :: a.reverse := by simp
  rw [← List.reverse_prefix, hs, isPrefix_append_cons_iff hr, List.reverse_prefix]

end TemplateTypes.Text
