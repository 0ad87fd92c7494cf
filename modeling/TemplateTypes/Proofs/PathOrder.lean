import Mathlib.Data.List.Forall2
import Mathlib.Data.List.Lex
import TemplateTypes.Path

/-!
# Path order — paths in order, each of them once

Paths are compared component by component, so two spellings of one path are neither before nor
after each other, and of any other two paths one comes first.  Hence a sorted list is strictly
increasing, and lists with the same members are sorted to lists that agree path by path, whatever
spellings they keep (`sorted_congr`).
-/

namespace TemplateTypes.Path

variable {p q r : Path} {ps qs : List Path}

/-! ## 1. The order -/

/-- The first path comes before the second: the first component that differs decides. -/
def Precedes (p q : Path) : Prop :=
  List.Lex (List.Lex (· < ·)) (ranks p) (ranks q)

instance : DecidableRel Precedes :=
  fun p q => inferInstanceAs (Decidable (List.Lex (List.Lex (· < ·)) (ranks p) (ranks q)))

theorem le_eq_true_iff : le p q = true ↔ ¬ Precedes q p := by
  -- Both layers of the comparison are decided, the inner one for single components.
  have hinner : (fun a b : List ℕ => List.lex a b (· < ·)) =
      fun a b => decide (List.Lex (· < ·) a b) := by
    funext a b
    rw [Bool.eq_iff_iff, List.lex_eq_true_iff_lex, decide_eq_true_eq]
    simp only [decide_eq_true_eq]
  rw [le, Bool.not_eq_true', Bool.eq_false_iff, ne_eq, hinner, List.lex_eq_true_iff_lex]
  simp only [decide_eq_true_eq]
  rfl

/-- The end of a component comes before every character of a longer one. -/
example : Precedes "a/z".toList "a-b".toList := by
  decide +kernel

theorem rank_injective : Function.Injective rank := by
  intro a b h
  cases a with
  | name m =>
    cases b with
    | name n =>
      have hchars : Function.Injective Char.toNat := fun _ _ => Char.toNat_inj.1
      rw [List.map_injective_iff.2 hchars (List.cons.inj h).2]
    | _ => simp [rank] at h
  | _ => cases b <;> simp [rank] at h ⊢

theorem ranks_eq_iff : ranks p = ranks q ↔ same p q = true := by
  rw [same, decide_eq_true_eq]
  exact (List.map_injective_iff.2 rank_injective).eq_iff

theorem Precedes.asymm (h : Precedes p q) : ¬ Precedes q p :=
  asymm_of (List.Lex (List.Lex (· < ·))) h

/-- A path between two that are in order stands behind the first or before the second. -/
theorem Precedes.or (h : Precedes p q) (r : Path) : Precedes p r ∨ Precedes r q :=
  (List.Lex.isOrderConnected (List.Lex (· < ·))).conn _ (ranks r) _ h

theorem Precedes.not_same (h : Precedes p q) : same p q = false := by
  rw [Bool.eq_false_iff, ne_eq, ← ranks_eq_iff]
  intro heq
  have hself : Precedes p p := by
    unfold Precedes at h ⊢
    rwa [heq] at h ⊢
  exact hself.asymm hself

theorem same_of_not_precedes (h : ¬ Precedes p q) (h' : ¬ Precedes q p) : same p q = true :=
  ranks_eq_iff.1 (Std.Trichotomous.trichotomous _ _ h h')

theorem Precedes.trans_le (h : Precedes p q) (hle : le q r = true) : Precedes p r :=
  (h.or r).resolve_right (le_eq_true_iff.1 hle)

theorem precedes_of_le (hle : le p q = true) (hne : same p q = false) : Precedes p q := by
  by_contra h
  rw [same_of_not_precedes h (le_eq_true_iff.1 hle)] at hne
  cases hne

theorem le_trans (p q r : Path) (h : le p q = true) (h' : le q r = true) : le p r = true := by
  rw [le_eq_true_iff] at h h' ⊢
  intro hr
  exact (hr.or q).elim h' h

theorem le_total (p q : Path) : (le p q || le q p) = true := by
  rw [Bool.or_eq_true, le_eq_true_iff, le_eq_true_iff]
  by_cases h : Precedes q p
  · exact .inr h.asymm
  · exact .inl h

theorem same_refl (p : Path) : same p p = true := by
  rw [same, decide_eq_true_eq]

theorem same_symm (h : same p q = true) : same q p = true := by
  rw [same, decide_eq_true_eq] at h ⊢
  exact h.symm

theorem same_trans (h : same p q = true) (h' : same q r = true) : same p r = true := by
  rw [same, decide_eq_true_eq] at h h' ⊢
  exact h.trans h'

theorem same_congr {p' q' : Path} (hp : same p p' = true) (hq : same q q' = true) :
    same p q = same p' q' := by
  rw [same, decide_eq_true_eq] at hp hq
  rw [same, same, hp, hq]

/-! ## 2. Sorted lists -/

theorem mem_of_mem_dropRepeats (h : p ∈ dropRepeats ps) : p ∈ ps := by
  fun_induction dropRepeats ps with
  | case1 => exact h
  | case2 => exact h
  | case3 q r ps hsame ih =>
    rcases List.mem_cons.1 (ih h) with rfl | hp
    · exact List.mem_cons_self
    · exact List.mem_cons_of_mem q (List.mem_cons_of_mem r hp)
  | case4 q r ps hsame ih =>
    rcases List.mem_cons.1 h with rfl | hp
    · exact List.mem_cons_self
    · exact List.mem_cons_of_mem q (ih hp)

theorem mem_of_mem_sorted (h : p ∈ sorted ps) : p ∈ ps :=
  List.mem_mergeSort.1 (mem_of_mem_dropRepeats h)

/-- A path that is dropped only spells differently one that stays. -/
theorem exists_mem_dropRepeats (h : p ∈ ps) : ∃ q ∈ dropRepeats ps, same p q = true := by
  fun_induction dropRepeats ps generalizing p with
  | case1 => cases h
  | case2 q => exact ⟨p, h, same_refl p⟩
  | case3 q r ps hsame ih =>
    rcases List.mem_cons.1 h with rfl | hp
    · exact ih List.mem_cons_self
    · rcases List.mem_cons.1 hp with rfl | hp
      · -- Of two neighbours that are the same the second goes.
        obtain ⟨s, hs, hqs⟩ := ih List.mem_cons_self
        exact ⟨s, hs, same_trans (same_symm hsame) hqs⟩
      · exact ih (List.mem_cons_of_mem q hp)
  | case4 q r ps hsame ih =>
    rcases List.mem_cons.1 h with rfl | hp
    · exact ⟨p, List.mem_cons_self, same_refl p⟩
    · obtain ⟨s, hs, hps⟩ := ih hp
      exact ⟨s, List.mem_cons_of_mem q hs, hps⟩

theorem exists_mem_sorted (h : p ∈ ps) : ∃ q ∈ sorted ps, same p q = true :=
  exists_mem_dropRepeats (List.mem_mergeSort.2 h)

theorem pairwise_dropRepeats (h : ps.Pairwise fun p q => le p q = true) :
    (dropRepeats ps).Pairwise Precedes := by
  fun_induction dropRepeats ps with
  | case1 => exact .nil
  | case2 p => exact List.pairwise_singleton _ p
  | case3 p q ps hsame ih =>
    -- What goes is the second path, so the order of the others stays.
    apply ih
    exact h.sublist ((List.sublist_cons_self q ps).cons_cons p)
  | case4 p q ps hsame ih =>
    obtain ⟨hp, hrest⟩ := List.pairwise_cons.1 h
    have hpq : Precedes p q :=
      precedes_of_le (hp q List.mem_cons_self) (Bool.eq_false_iff.2 hsame)
    refine List.pairwise_cons.2 ⟨?_, ih hrest⟩
    intro r hr
    -- What stays behind `q` is `q` or comes after it in the list that was sorted.
    rcases List.mem_cons.1 (mem_of_mem_dropRepeats hr) with rfl | hr
    · exact hpq
    · exact hpq.trans_le ((List.pairwise_cons.1 hrest).1 r hr)

/-- A sorted list is strictly increasing. -/
theorem pairwise_sorted (ps : List Path) : (sorted ps).Pairwise Precedes :=
  pairwise_dropRepeats (List.pairwise_mergeSort le_trans le_total ps)

theorem sorted_singleton (p : Path) : sorted [p] = [p] := by
  rw [sorted, List.mergeSort_singleton, dropRepeats]

/-- A list in order only loses what is repeated. -/
theorem sorted_of_pairwise (h : ps.Pairwise fun p q => le p q = true) :
    sorted ps = dropRepeats ps := by
  rw [sorted, List.mergeSort_of_pairwise h]

/-- Two different paths in order stay as they are. -/
theorem sorted_pair (hle : le p q = true) (hne : same p q = false) : sorted [p, q] = [p, q] := by
  rw [sorted_of_pairwise (List.pairwise_pair.2 hle), dropRepeats, if_neg (by simp [hne]),
    dropRepeats]

/-! ## 3. Lists with the same members -/

/-- What a sorted list spells does not depend on the order and the repetitions in the list. -/
theorem mem_map_ranks_sorted {s : List (List ℕ)} :
    s ∈ (sorted ps).map ranks ↔ ∃ p ∈ ps, ranks p = s := by
  rw [List.mem_map]
  constructor
  · rintro ⟨p, hp, hs⟩
    exact ⟨p, mem_of_mem_sorted hp, hs⟩
  · rintro ⟨p, hp, rfl⟩
    obtain ⟨q, hq, hpq⟩ := exists_mem_sorted hp
    exact ⟨q, hq, (ranks_eq_iff.2 hpq).symm⟩

theorem pairwise_map_ranks_sorted (ps : List Path) :
    ((sorted ps).map ranks).Pairwise (List.Lex (List.Lex (· < ·))) :=
  List.pairwise_map.2 (pairwise_sorted ps)

theorem nodup_map_ranks_sorted (ps : List Path) : ((sorted ps).map ranks).Nodup := by
  refine (pairwise_map_ranks_sorted ps).imp ?_
  rintro a b hab rfl
  exact Std.Asymm.asymm _ _ hab hab

/-- Lists with the same members are sorted to the same paths, up to their spelling. -/
theorem sorted_congr (h : ∀ p, p ∈ ps ↔ p ∈ qs) :
    List.Forall₂ (fun p q => same p q = true) (sorted ps) (sorted qs) := by
  -- Without repetitions the same members make a permutation, and strict order leaves no choice.
  have hperm : ((sorted ps).map ranks).Perm ((sorted qs).map ranks) := by
    rw [List.perm_ext_iff_of_nodup (nodup_map_ranks_sorted ps) (nodup_map_ranks_sorted qs)]
    intro s
    simp only [mem_map_ranks_sorted, h]
  have heq : (sorted ps).map ranks = (sorted qs).map ranks := by
    apply hperm.eq_of_pairwise _ (pairwise_map_ranks_sorted ps) (pairwise_map_ranks_sorted qs)
    intro a b _ _ hab hba
    exact absurd hba (Std.Asymm.asymm _ _ hab)
  rw [← List.forall₂_eq_eq_eq, List.forall₂_map_left_iff, List.forall₂_map_right_iff] at heq
  exact heq.imp fun _ _ hpq => ranks_eq_iff.1 hpq

end TemplateTypes.Path
