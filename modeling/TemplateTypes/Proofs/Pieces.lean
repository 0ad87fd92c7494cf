import Mathlib.Data.List.Basic
import TemplateTypes.Text.Basic

/-!
# Pieces — texts taken apart at every separator

Taking a text apart at a separator and joining the pieces by it again undo each other, and two
texts with a separator between them have the pieces of the one and then those of the other.
-/

namespace TemplateTypes.Text

/-- Each further part stands behind its separator. -/
theorem join_cons (separator p : Text) (ps : List Text) :
    join separator (p :: ps) = p ++ ps.flatMap (separator ++ ·) := by
  induction ps generalizing p with
  | nil => simp [join]
  | cons q ps ih =>
    have hq := ih q
    unfold join at hq ⊢
    rw [List.intercalate_cons_cons, hq]
    simp

theorem join_singleton_cons (d : Char) (p : Text) (ps : List Text) :
    join [d] (p :: ps) = p ++ ps.flatMap (d :: ·) :=
  join_cons [d] p ps

/-! ## 1. The pieces of a text -/

theorem exists_pieces_eq_cons (d : Char) (t : Text) : ∃ p ps, pieces d t = p :: ps := by
  cases t with
  | nil => exact ⟨[], [], rfl⟩
  | cons c t =>
    unfold pieces
    split
    · exact ⟨_, _, rfl⟩
    · split
      · exact ⟨_, _, rfl⟩
      · exact ⟨_, _, rfl⟩

theorem pieces_cons_self (d : Char) (t : Text) : pieces d (d :: t) = [] :: pieces d t := by
  rw [pieces, if_pos rfl]

theorem pieces_cons_of_ne {c d : Char} {t p : Text} {ps : List Text} (h : c ≠ d)
    (ht : pieces d t = p :: ps) : pieces d (c :: t) = (c :: p) :: ps := by
  rw [pieces, if_neg h, ht]

theorem notMem_of_mem_pieces {d : Char} {t p : Text} (h : p ∈ pieces d t) : d ∉ p := by
  induction t generalizing p with
  | nil =>
    rw [pieces, List.mem_singleton] at h
    simp [h]
  | cons c t ih =>
    by_cases hc : c = d
    · subst hc
      rw [pieces_cons_self] at h
      rcases List.mem_cons.1 h with rfl | h
      · simp
      · exact ih h
    · obtain ⟨q, qs, hq⟩ := exists_pieces_eq_cons d t
      rw [pieces_cons_of_ne hc hq] at h
      rw [hq] at ih
      rcases List.mem_cons.1 h with rfl | h
      · simp [Ne.symm hc, ih List.mem_cons_self]
      · exact ih (List.mem_cons_of_mem q h)

theorem pieces_of_notMem {d : Char} {t : Text} (h : d ∉ t) : pieces d t = [t] := by
  induction t with
  | nil => rfl
  | cons c t ih =>
    rw [List.mem_cons, not_or] at h
    exact pieces_cons_of_ne (Ne.symm h.1) (ih h.2)

theorem pieces_append_cons (d : Char) (a b : Text) :
    pieces d (a ++ d :: b) = pieces d a ++ pieces d b := by
  induction a with
  | nil => exact pieces_cons_self d b
  | cons c a ih =>
    rw [List.cons_append]
    by_cases hc : c = d
    · subst hc
      rw [pieces_cons_self, pieces_cons_self, ih, List.cons_append]
    · -- The character joins the first piece of `a`, which there always is.
      obtain ⟨p, ps, hp⟩ := exists_pieces_eq_cons d a
      rw [hp, List.cons_append] at ih
      rw [pieces_cons_of_ne hc ih, pieces_cons_of_ne hc hp, List.cons_append]

/-! ## 2. Joining -/

theorem pieces_join {d : Char} {ps : List Text} (hne : ps ≠ []) (h : ∀ p ∈ ps, d ∉ p) :
    pieces d (join [d] ps) = ps := by
  obtain ⟨p, ps, rfl⟩ := List.exists_cons_of_ne_nil hne
  rw [join_singleton_cons]
  clear hne
  induction ps generalizing p with
  | nil =>
    rw [List.flatMap_nil, List.append_nil]
    exact pieces_of_notMem (h p List.mem_cons_self)
  | cons q ps ih =>
    have hq := ih q fun r hr => h r (List.mem_cons_of_mem p hr)
    rw [List.flatMap_cons, List.cons_append, pieces_append_cons,
      pieces_of_notMem (h p List.mem_cons_self), hq, List.singleton_append]

end TemplateTypes.Text
