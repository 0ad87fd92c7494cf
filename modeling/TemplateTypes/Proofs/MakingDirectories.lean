import Mathlib.Data.List.Infix
import TemplateTypes.Proofs.Walking

/-!
# Making directories — what a tree gains

Making a directory together with those above it adds directories on the way along the path and
changes nothing else.  Main statement: where it succeeds, the new tree has a directory at every
location on the way and otherwise the nodes of the old one (`nodeAt?_of_makeDirectories`).
-/

namespace TemplateTypes.FileTree

open TemplateTypes.Path (isAbsolute)

variable {t t' : FileTree} {p : Path}

/-! ## 1. Trees with more directories -/

/-- A tree with directories where another has nothing, at some of the given locations. -/
structure Adds (t t' : FileTree) (places : Location → Prop) : Prop where
  workingDirectory : t'.workingDirectory = t.workingDirectory
  nodeAt : ∀ l, t'.nodeAt? l = t.nodeAt? l ∨
    places l ∧ t.nodeAt? l = none ∧ t'.nodeAt? l = some .directory

namespace Adds

variable {places places' : Location → Prop}

theorem refl (t : FileTree) (places : Location → Prop) : Adds t t places :=
  ⟨rfl, fun _ => .inl rfl⟩

theorem keeps (h : Adds t t' places) : Keeps t t' := by
  refine ⟨h.workingDirectory, ?_⟩
  intro l hl
  rcases h.nodeAt l with hn | ⟨-, hn, -⟩
  · rw [hn, hl]
  · rw [hn] at hl
    cases hl

theorem mono (h : Adds t t' places) (hp : ∀ l, places l → places' l) : Adds t t' places' := by
  refine ⟨h.workingDirectory, ?_⟩
  intro l
  rcases h.nodeAt l with hn | ⟨hl, hn⟩
  · exact .inl hn
  · exact .inr ⟨hp l hl, hn⟩

theorem trans {t'' : FileTree} (h : Adds t t' places) (h' : Adds t' t'' places) :
    Adds t t'' places := by
  refine ⟨h'.workingDirectory.trans h.workingDirectory, ?_⟩
  intro l
  rcases h'.nodeAt l with hn' | ⟨hl, hn', hd⟩
  · rw [hn']
    exact h.nodeAt l
  · rcases h.nodeAt l with hn | ⟨-, -, hn⟩
    · exact .inr ⟨hl, hn ▸ hn', hd⟩
    · rw [hn] at hn'
      cases hn'

end Adds

/-! ## 2. One directory -/

theorem of_makeDirectory (h : t.makeDirectory p = .ok t') :
    ∃ l name, steps p = (steps p).dropLast ++ [name] ∧ stepTo l name = l ++ [name] ∧
      t.walk (t.start p) (steps p).dropLast = .ok l ∧ t.nodeAt? l = some .directory ∧
      t.nodeAt? (l ++ [name]) = none ∧ t' = t.putAt (l ++ [name]) .directory := by
  unfold makeDirectory at h
  split at h
  · cases h
  · split at h
    · cases h
    · rename_i l last hplace
      obtain ⟨hwalk, hdir, hlast⟩ := place_eq_ok_iff.1 hplace
      split at h
      · cases h
      · rename_i hnames
        obtain ⟨name, rfl, hstep⟩ := exists_of_not_namesDirectory (Bool.eq_false_iff.2 hnames) l
        simp only [Option.toList_some] at h
        split at h
        · cases h
        · rename_i hnone
          cases h
          exact ⟨l, name, (List.dropLast_append_getLast? name hlast).symm, hstep, hwalk, hdir,
            hnone, rfl⟩

theorem adds_of_makeDirectory (h : t.makeDirectory p = .ok t') : Adds t t' (· = t.locate p) := by
  obtain ⟨l, name, hs, hstep, hw, -, hnone, rfl⟩ := of_makeDirectory h
  have hloc : t.locate p = l ++ [name] := by
    rw [locate, hs, List.foldl_append, ← eq_foldl_of_walk hw]
    exact hstep
  refine ⟨rfl, ?_⟩
  intro m
  by_cases hm : m = l ++ [name]
  · subst hm
    exact .inr ⟨hloc.symm, hnone, nodeAt?_putAt_self (by simp)⟩
  · exact .inl (nodeAt?_putAt_of_ne hm)

theorem reaches_of_makeDirectory (h : t.makeDirectory p = .ok t') : t'.Reaches p (t.locate p) := by
  have hk := (adds_of_makeDirectory h).keeps
  obtain ⟨l, name, hs, hstep, hw, hl, -, ht'⟩ := of_makeDirectory h
  have hwalk : t'.walk (t'.start p) (steps p) = .ok (l ++ [name]) := by
    rw [hs, walk_append_singleton_eq_ok_iff, hk.start_eq]
    exact ⟨l, hk.walk_eq_ok hw, hk.directory l hl, hstep.symm⟩
  have hr : t'.Reaches p (l ++ [name]) := by
    refine ⟨hwalk, ?_⟩
    rw [ht']
    exact nodeAt?_putAt_self (by simp)
  rwa [hr.eq_locate, hk.locate_eq] at hr

theorem IsSound.makeDirectory (ht : t.IsSound) (h : t.makeDirectory p = .ok t') : t'.IsSound := by
  obtain ⟨l, name, -, -, -, hl, -, rfl⟩ := of_makeDirectory h
  refine ht.putAt ?_ fun _ => rfl
  rwa [List.dropLast_concat]

theorem adds_ensureDirectory (t : FileTree) (p : Path) :
    Adds t (t.ensureDirectory p).1 (· = t.locate p) := by
  unfold ensureDirectory
  split
  · rename_i h
    exact adds_of_makeDirectory h
  · exact Adds.refl t _

theorem reaches_of_ensureDirectory (h : t.ensureDirectory p = (t', none)) :
    t'.Reaches p (t'.locate p) := by
  unfold ensureDirectory at h
  split at h
  · rename_i hm
    cases h
    rw [(adds_of_makeDirectory hm).keeps.locate_eq]
    exact reaches_of_makeDirectory hm
  · rw [Prod.mk.injEq] at h
    obtain ⟨rfl, h⟩ := h
    split at h
    · exact reaches_of_isDirectory (by assumption)
    · cases h

theorem IsSound.ensureDirectory (ht : t.IsSound) (p : Path) : (t.ensureDirectory p).1.IsSound := by
  unfold FileTree.ensureDirectory
  split
  · rename_i h
    exact ht.makeDirectory h
  · exact ht

/-! ## 3. The directories above -/

/-- A directory and some above it are made from the top, each by `ensureDirectory`. -/
theorem makeDirectoriesFrom_induction {motive : FileTree → Prop} {places : List Path}
    (hstep : ∀ t, ∀ q ∈ places, motive t → motive (t.ensureDirectory q).1) (above : List Path)
    (hp : ∀ q ∈ p :: above, q ∈ places) (ht : motive t) :
    motive (t.makeDirectoriesFrom p above).1 := by
  induction above generalizing p with
  | nil =>
    unfold makeDirectoriesFrom
    split
    · exact ht
    · exact hstep t p (hp p List.mem_cons_self) ht
  | cons q above ih =>
    have hq := ih fun r hr => hp r (List.mem_cons_of_mem p hr)
    unfold makeDirectoriesFrom
    split
    · exact ht
    · split
      · rename_i heq _
        cases heq
        split
        · rename_i hrec
          rw [hrec] at hq
          exact hq
        · rename_i hrec
          rw [hrec] at hq
          exact hstep _ p (hp p List.mem_cons_self) hq
      · exact hstep t p (hp p List.mem_cons_self) ht

theorem reaches_of_makeDirectoriesFrom {above : List Path} (hp : p ≠ [])
    (h : t.makeDirectoriesFrom p above = (t', none)) : t'.Reaches p (t'.locate p) := by
  unfold makeDirectoriesFrom at h
  rw [if_neg hp] at h
  split at h
  · split at h
    · cases h
    · exact reaches_of_ensureDirectory h
  · exact reaches_of_ensureDirectory h

theorem IsSound.makeDirectories (ht : t.IsSound) (p : Path) : (t.makeDirectories p).1.IsSound :=
  makeDirectoriesFrom_induction (fun _ q _ h => h.ensureDirectory q) _ (fun _ h => h) ht

/-! ## 4. The way along a path -/

/-- The locations that a walk along a path passes, from the first to the last. -/
def way (t : FileTree) (p : Path) : List Location :=
  (steps p).inits.map fun front => front.foldl stepTo (t.start p)

theorem mem_way_iff {l : Location} :
    l ∈ t.way p ↔ ∃ front, front <+: steps p ∧ front.foldl stepTo (t.start p) = l := by
  simp [way]

theorem locate_mem_way (t : FileTree) (p : Path) : t.locate p ∈ t.way p :=
  mem_way_iff.2 ⟨steps p, List.prefix_rfl, rfl⟩

theorem foldl_stepTo_filter (ps : List Text) (l : Location) :
    (ps.filter (· ≠ ['.'])).foldl stepTo l = ps.foldl stepTo l := by
  induction ps generalizing l with
  | nil => rfl
  | cons piece ps ih =>
    by_cases h : piece = ['.']
    · rw [List.filter_cons_of_neg (by simp [h]), ih, List.foldl_cons, stepTo, if_pos h]
    · rw [List.filter_cons_of_pos (by simpa using h), List.foldl_cons, List.foldl_cons, ih]

/-- A path put together from pieces leads along these pieces. -/
theorem start_steps_of_pieces (absolute : Bool) {ps : List Text}
    (h : ∀ piece ∈ ps, piece ≠ [] ∧ '/' ∉ piece) {q : Path}
    (hq : q = (if absolute then ['/'] else []) ++ Text.join ['/'] ps) :
    isAbsolute q = absolute ∧ steps q = ps := by
  have hfilter : ps.filter (· ≠ []) = ps := by
    rw [List.filter_eq_self]
    intro piece hp
    simpa using (h piece hp).1
  by_cases hps : ps = []
  · subst hps hq
    cases absolute <;> exact ⟨rfl, rfl⟩
  · have hjoin : Text.pieces '/' (Text.join ['/'] ps) = ps :=
      Text.pieces_join hps fun piece hp => (h piece hp).2
    cases absolute with
    | true =>
      rw [if_pos rfl, List.singleton_append] at hq
      subst hq
      refine ⟨rfl, ?_⟩
      rw [steps, Text.pieces_cons_self, hjoin, List.filter_cons_of_neg (by simp), hfilter]
    | false =>
      rw [if_neg (by simp), List.nil_append] at hq
      subst hq
      refine ⟨?_, by rw [steps, hjoin, hfilter]⟩
      rw [Bool.eq_false_iff, ne_eq, Path.isAbsolute_iff, hjoin]
      rintro ⟨r, rs, rfl⟩
      exact (h [] List.mem_cons_self).1 rfl

theorem exists_of_mem_pathsAbove {absolute : Bool} {ps : List Text} {q : Path}
    (h : q ∈ pathsAbove absolute ps) : ∃ above, above <:+ ps ∧
      q = (if absolute then ['/'] else []) ++ Text.join ['/'] above.reverse := by
  induction ps with
  | nil => simp [pathsAbove] at h
  | cons piece ps ih =>
    rw [pathsAbove] at h
    rcases List.mem_cons.1 h with rfl | h
    · exact ⟨ps, List.suffix_cons piece ps, rfl⟩
    · obtain ⟨above, hs, hq⟩ := ih h
      exact ⟨above, hs.trans (List.suffix_cons piece ps), hq⟩

theorem of_mem_steps {piece : Text} (h : piece ∈ steps p) : piece ≠ [] ∧ '/' ∉ piece := by
  rw [steps, List.mem_filter, decide_eq_true_eq] at h
  exact ⟨h.2, Text.notMem_of_mem_pieces h.1⟩

/-- The paths above a path lead to locations on the way along it. -/
theorem locate_mem_way_of_mem_pathsAbove {q : Path}
    (h : q ∈ pathsAbove (isAbsolute p) ((steps p).filter (· ≠ ['.'])).reverse) :
    t.locate q ∈ t.way p := by
  obtain ⟨above, hs, hq⟩ := exists_of_mem_pathsAbove h
  rw [← List.reverse_prefix, List.reverse_reverse] at hs
  obtain ⟨ha, hsteps⟩ := start_steps_of_pieces (isAbsolute p)
    (fun piece hp => of_mem_steps (List.mem_of_mem_filter (hs.subset hp))) hq
  obtain ⟨front, hfront, habove⟩ := List.prefix_filter_iff.1 hs
  refine mem_way_iff.2 ⟨front, hfront, ?_⟩
  have hstart : t.start q = t.start p := by rw [start, start, ha]
  rw [locate, hsteps, hstart, habove, foldl_stepTo_filter]

/-! ## 5. All directories along a path -/

theorem adds_makeDirectories (t : FileTree) (p : Path) :
    Adds t (t.makeDirectories p).1 (· ∈ t.way p) := by
  have hway : ∀ q ∈ p :: pathsAbove (isAbsolute p) ((steps p).filter (· ≠ ['.'])).reverse,
      t.locate q ∈ t.way p := by
    intro q hq
    rcases List.mem_cons.1 hq with rfl | hq
    · exact locate_mem_way t q
    · exact locate_mem_way_of_mem_pathsAbove hq
  refine makeDirectoriesFrom_induction (motive := fun t' => Adds t t' (· ∈ t.way p)) ?_ _
    (fun _ hq => hq) (Adds.refl t _)
  intro t' q hq h
  refine h.trans ((adds_ensureDirectory t' q).mono ?_)
  rintro l rfl
  rw [h.keeps.locate_eq]
  exact hway q hq

theorem reaches_of_makeDirectories (hp : p ≠ []) (h : t.makeDirectories p = (t', none)) :
    t'.Reaches p (t'.locate p) :=
  reaches_of_makeDirectoriesFrom hp h

end TemplateTypes.FileTree
