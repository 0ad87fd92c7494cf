import Mathlib.Data.List.Nodup
import TemplateTypes.Proofs.InsertionOrder
import TemplateTypes.Proofs.PathParts

/-!
# Walking — where paths lead in a tree, and what keeps them leading there

A walk goes from directory to directory, so a tree that keeps the directories of another keeps its
walks.  In a sound tree the path of a file has a name at its end and a directory before it.  Where a
path joins a directory that can be reached and a name, writing is one insertion into the tree.
-/

namespace TemplateTypes.FileTree

open TemplateTypes.Path (components isAbsolute IsInside)

variable {t t' : FileTree} {l m n : Location} {p d : Path} {name : Text}

/-! ## 1. Sound trees -/

@[simp] theorem nodeAt?_nil (t : FileTree) : t.nodeAt? [] = some .directory := by
  rw [nodeAt?, if_pos rfl]

theorem nodeAt?_putAt_of_ne {e : Node} (h : m ≠ l) : (t.putAt l e).nodeAt? m = t.nodeAt? m := by
  rw [nodeAt?_putAt, if_neg h]
  split
  · rename_i h0
    rw [h0, nodeAt?_nil]
  · rfl

theorem nodeAt?_putAt_self {e : Node} (h : l ≠ []) : (t.putAt l e).nodeAt? l = some e := by
  rw [nodeAt?_putAt, if_neg h, if_pos rfl]

/-- Whatever a tree holds lies in a directory. -/
def IsSound (t : FileTree) : Prop :=
  ∀ e ∈ t.entries.entries, t.nodeAt? e.1.dropLast = some .directory

instance (t : FileTree) : Decidable t.IsSound :=
  inferInstanceAs (Decidable (∀ e ∈ t.entries.entries, t.nodeAt? e.1.dropLast = some .directory))

theorem isSound_iff :
    t.IsSound ↔ ∀ l e, t.nodeAt? l = some e → t.nodeAt? l.dropLast = some .directory := by
  constructor
  · intro h l e he
    by_cases hl : l = []
    · simp [hl]
    · rw [nodeAt?, if_neg hl] at he
      exact h (l, e) (Dictionary.get?_eq_some_iff_mem.1 he)
  · intro h e he
    by_cases hl : e.1 = []
    · simp [hl]
    · apply h e.1 e.2
      rw [nodeAt?, if_neg hl]
      exact Dictionary.get?_eq_some_iff_mem.2 he

theorem isSound_emptyAt (l : Location) : (emptyAt l).IsSound := by
  have hentries : (emptyAt l).entries.entries =
      (List.range l.length).map fun k => (l.take (k + 1), Node.directory) := by
    apply Dictionary.entries_ofList_of_nodup
    rw [List.map_map]
    refine List.Nodup.map_on ?_ List.nodup_range
    intro j hj k hk heq
    rw [List.mem_range] at hj hk
    have hlength := congrArg List.length heq
    simp only [Function.comp_apply, List.length_take] at hlength
    omega
  have hdir : ∀ k ≤ l.length, (emptyAt l).nodeAt? (l.take k) = some .directory := by
    intro k hk
    cases k with
    | zero => simp
    | succ k =>
      rw [nodeAt?]
      split
      · rfl
      · rw [Dictionary.get?_eq_some_iff_mem, hentries, List.mem_map]
        exact ⟨k, List.mem_range.2 hk, rfl⟩
  intro e he
  rw [hentries, List.mem_map] at he
  obtain ⟨k, hk, rfl⟩ := he
  rw [List.mem_range] at hk
  have hlast : (l.take (k + 1)).dropLast = l.take k := by
    rw [List.dropLast_eq_take, List.length_take, List.take_take]
    congr 1
    omega
  show (emptyAt l).nodeAt? (l.take (k + 1)).dropLast = some .directory
  rw [hlast]
  exact hdir k hk.le

/-- A new node must lie in a directory, and take the place of one only if it is one. -/
theorem IsSound.putAt (ht : t.IsSound) {e : Node} (hl : t.nodeAt? l.dropLast = some .directory)
    (he : t.nodeAt? l = some .directory → e = .directory) : (t.putAt l e).IsSound := by
  have hdir : ∀ m, t.nodeAt? m = some .directory → (t.putAt l e).nodeAt? m = some .directory := by
    intro m hm
    by_cases hml : m = l
    · subst hml
      rw [nodeAt?_putAt, he hm]
      simp
    · rwa [nodeAt?_putAt_of_ne hml]
  rw [isSound_iff] at ht ⊢
  intro m e' hm
  apply hdir
  by_cases hml : m = l
  · rwa [hml]
  · rw [nodeAt?_putAt_of_ne hml] at hm
    exact ht m e' hm

/-! ## 2. Walks -/

theorem enter_eq_ok_iff : t.enter l = .ok () ↔ t.nodeAt? l = some .directory := by
  unfold enter
  split <;> simp_all

theorem walk_cons_eq_ok_iff {piece : Text} {rest : List Text} :
    t.walk l (piece :: rest) = .ok n ↔
      t.nodeAt? l = some .directory ∧ t.walk (stepTo l piece) rest = .ok n := by
  rw [walk, ← enter_eq_ok_iff]
  cases t.enter l with
  | error e => simp
  | ok u => simp

theorem walk_append_eq_ok_iff {a b : List Text} :
    t.walk l (a ++ b) = .ok n ↔ ∃ m, t.walk l a = .ok m ∧ t.walk m b = .ok n := by
  induction a generalizing l with
  | nil => simp [walk]
  | cons piece a ih =>
    rw [List.cons_append, walk_cons_eq_ok_iff, ih]
    constructor
    · rintro ⟨hl, m, ha, hb⟩
      exact ⟨m, walk_cons_eq_ok_iff.2 ⟨hl, ha⟩, hb⟩
    · rintro ⟨m, ha, hb⟩
      obtain ⟨hl, ha⟩ := walk_cons_eq_ok_iff.1 ha
      exact ⟨hl, m, ha, hb⟩

theorem walk_append_singleton_eq_ok_iff {a : List Text} {piece : Text} :
    t.walk l (a ++ [piece]) = .ok n ↔
      ∃ m, t.walk l a = .ok m ∧ t.nodeAt? m = some .directory ∧ n = stepTo m piece := by
  have hone : ∀ m, t.walk m [piece] = .ok n ↔
      t.nodeAt? m = some .directory ∧ n = stepTo m piece := by
    intro m
    rw [walk_cons_eq_ok_iff, walk, Except.ok.injEq, eq_comm (a := n)]
  simp only [walk_append_eq_ok_iff, hone]

/-- Dots on the way stay where they are, which must be a directory. -/
theorem eq_of_walk_dots {dots : List Text} (hd : ∀ piece ∈ dots, piece = ['.'])
    (h : t.walk l dots = .ok n) : n = l := by
  induction dots with
  | nil =>
    rw [walk, Except.ok.injEq] at h
    exact h.symm
  | cons piece dots ih =>
    obtain ⟨-, h⟩ := walk_cons_eq_ok_iff.1 h
    rw [hd piece List.mem_cons_self, stepTo, if_pos rfl] at h
    exact ih (fun q hq => hd q (List.mem_cons_of_mem piece hq)) h

theorem eq_foldl_of_walk {ps : List Text} (h : t.walk l ps = .ok n) : n = ps.foldl stepTo l := by
  induction ps generalizing l with
  | nil =>
    rw [walk, Except.ok.injEq] at h
    exact h.symm
  | cons piece ps ih => exact ih (walk_cons_eq_ok_iff.1 h).2

/-! ## 3. Locations by components -/

/-- Where a component leads from a location. -/
def move (l : Location) : Component → Location
  | .root => []
  | .here => l
  | .up => l.dropLast
  | .name n => l ++ [n]

theorem foldl_move_filterMap (ps : List Text) (l : Location) :
    (ps.filterMap Path.component?).foldl move l = (ps.filter (· ≠ [])).foldl stepTo l := by
  induction ps generalizing l with
  | nil => rfl
  | cons piece ps ih =>
    by_cases h0 : piece = []
    · rw [List.filterMap_cons_none (Path.component?_eq_none_iff.2 (.inl h0)), ih]
      simp [h0]
    · rw [List.filter_cons_of_pos (by simpa using h0), List.foldl_cons, stepTo]
      by_cases h1 : piece = ['.']
      · rw [List.filterMap_cons_none (Path.component?_eq_none_iff.2 (.inr h1)), ih, if_pos h1]
      · have hc : Path.component? piece =
            if piece = ['.', '.'] then some .up else some (.name piece) := by
          rw [Path.component?, if_neg (not_or.2 ⟨h0, h1⟩)]
        rw [if_neg h1]
        by_cases h2 : piece = ['.', '.']
        · rw [if_pos h2] at hc ⊢
          rw [List.filterMap_cons_some hc, List.foldl_cons, ih]
          rfl
        · rw [if_neg h2] at hc ⊢
          rw [List.filterMap_cons_some hc, List.foldl_cons, ih]
          rfl

/-- Where a path leads is told by its components. -/
theorem locate_eq_foldl_components (t : FileTree) (p : Path) :
    t.locate p = (components p).foldl move t.workingDirectory := by
  obtain ⟨first, rest, hp⟩ := Text.exists_pieces_eq_cons '/' p
  rw [locate, Path.components_of_pieces hp, List.foldl_append, foldl_move_filterMap, steps, hp,
    start]
  by_cases h0 : first = []
  · rw [Path.firstComponent?, if_pos h0, List.filter_cons_of_neg (by simp [h0])]
    split <;> rfl
  · -- A piece that is not empty begins a relative path, and leads on like any other.
    have ha : isAbsolute p = false := by
      rw [Bool.eq_false_iff, ne_eq, Path.isAbsolute_iff, hp]
      rintro ⟨q, qs, hq⟩
      exact h0 (List.cons.inj hq).1
    rw [ha, if_neg (by simp), Path.firstComponent?, if_neg h0,
      List.filter_cons_of_pos (by simpa using h0), List.foldl_cons]
    by_cases h1 : first = ['.']
    · rw [if_pos h1, stepTo, if_pos h1]
      rfl
    · rw [if_neg h1]
      have := foldl_move_filterMap [first] t.workingDirectory
      rw [List.filter_cons_of_pos (by simpa using h0), List.filter_nil, List.foldl_cons,
        List.foldl_nil] at this
      rw [← this, List.filterMap_cons, List.filterMap_nil]
      cases Path.component? first <;> rfl

theorem locate_eq_of_same (t : FileTree) {p q : Path} (h : Path.same p q = true) :
    t.locate p = t.locate q := by
  rw [Path.same, decide_eq_true_eq] at h
  rw [locate_eq_foldl_components, locate_eq_foldl_components, h]

theorem locate_of_components {q : Path} (t : FileTree)
    (h : components p = components q ++ [.name name]) : t.locate p = t.locate q ++ [name] := by
  rw [locate_eq_foldl_components, h, List.foldl_append, ← locate_eq_foldl_components]
  rfl

theorem locate_join (t : FileTree) (d : Path) (h : IsPlain name) :
    t.locate (Path.join d name) = t.locate d ++ [name] :=
  locate_of_components t (Path.components_join d h)

/-! ## 4. Directories that can be reached -/

/-- The walk along a path ends, at a directory. -/
structure Reaches (t : FileTree) (d : Path) (l : Location) : Prop where
  walk : t.walk (t.start d) (steps d) = .ok l
  nodeAt : t.nodeAt? l = some .directory

theorem Reaches.eq_locate (h : t.Reaches d l) : l = t.locate d :=
  eq_foldl_of_walk h.walk

theorem walk_of_resolve (h : t.resolve p = .ok l) :
    p ≠ [] ∧ t.walk (t.start p) (steps p) = .ok l ∧
      (endsInSlash p = true → t.nodeAt? l = some .directory) := by
  unfold resolve at h
  split at h
  · cases h
  · rename_i hp
    refine ⟨hp, ?_⟩
    cases hs : endsInSlash p with
    | false => simpa [hs] using h
    | true =>
      rw [hs, if_pos rfl] at h
      obtain ⟨m, hw, hm, hl⟩ := walk_append_singleton_eq_ok_iff.1 h
      rw [stepTo, if_pos rfl] at hl
      subst hl
      exact ⟨hw, fun _ => hm⟩

theorem eq_locate_of_resolve (h : t.resolve p = .ok l) : l = t.locate p :=
  eq_foldl_of_walk (walk_of_resolve h).2.1

theorem find_eq_ok_iff {e : Node} :
    t.find p = .ok e ↔ ∃ l, t.resolve p = .ok l ∧ t.nodeAt? l = some e := by
  unfold find
  cases t.resolve p with
  | error c => simp
  | ok l => cases h : t.nodeAt? l <;> simp [h]

theorem isFile_iff :
    t.isFile p = true ↔ ∃ l content, t.resolve p = .ok l ∧ t.nodeAt? l = some (.file content) := by
  have hfind : t.isFile p = true ↔ ∃ content, t.find p = .ok (.file content) := by
    unfold isFile
    split <;> simp_all
  rw [hfind]
  simp only [find_eq_ok_iff]
  exact exists_comm

theorem isDirectory_eq_false_of_isFile (h : t.isFile p = true) : t.isDirectory p = false := by
  unfold isFile at h
  unfold isDirectory
  split at h
  · rename_i hf
    rw [hf]
  · cases h

theorem reaches_of_isDirectory (h : t.isDirectory d = true) : t.Reaches d (t.locate d) := by
  unfold isDirectory at h
  split at h
  · rename_i hf
    obtain ⟨l, hr, hl⟩ := find_eq_ok_iff.1 hf
    obtain ⟨-, hw, -⟩ := walk_of_resolve hr
    have h : t.Reaches d l := ⟨hw, hl⟩
    rwa [← h.eq_locate]
  · cases h

theorem place_eq_ok_iff {last : Option Text} :
    t.place p = .ok (l, last) ↔ t.walk (t.start p) (steps p).dropLast = .ok l ∧
      t.nodeAt? l = some .directory ∧ (steps p).getLast? = last := by
  unfold place
  cases hw : t.walk (t.start p) (steps p).dropLast with
  | error e => simp
  | ok m =>
    simp only [Except.ok.injEq]
    cases he : t.enter m with
    | error e =>
      have hne : t.nodeAt? m ≠ some .directory := by
        rw [ne_eq, ← enter_eq_ok_iff, he]
        simp
      simp only [reduceCtorEq, false_iff]
      rintro ⟨rfl, hdir, -⟩
      exact hne hdir
    | ok u =>
      simp only [Except.ok.injEq, Prod.mk.injEq]
      constructor
      · rintro ⟨rfl, rfl⟩
        exact ⟨rfl, enter_eq_ok_iff.1 he, rfl⟩
      · rintro ⟨rfl, -, rfl⟩
        exact ⟨rfl, rfl⟩

theorem start_join (t : FileTree) (d : Path) (hn : IsPlain name) :
    t.start (Path.join d name) = t.start d := by
  rw [start, start, Path.isAbsolute_join d hn]

theorem place_join (h : t.Reaches d l) (hn : IsPlain name) :
    t.place (Path.join d name) = .ok (l, some name) := by
  rw [place_eq_ok_iff, start_join t d hn, Path.steps_join d hn, List.dropLast_concat,
    List.getLast?_concat]
  exact ⟨h.walk, h.nodeAt, rfl⟩

theorem resolve_join (h : t.Reaches d l) (hn : IsPlain name) :
    t.resolve (Path.join d name) = .ok (l ++ [name]) := by
  have hstep : stepTo l name = l ++ [name] := by
    rw [stepTo, if_neg hn.ne_dot, if_neg hn.ne_dots]
  rw [resolve, if_neg (Path.join_ne_nil d hn), start_join t d hn, Path.steps_join d hn,
    Path.endsInSlash_join d hn, if_neg Bool.false_ne_true, List.append_nil,
    walk_append_singleton_eq_ok_iff]
  exact ⟨l, h.walk, h.nodeAt, hstep.symm⟩

theorem isFile_join_iff (h : t.Reaches d l) (hn : IsPlain name) :
    t.isFile (Path.join d name) = true ↔
      ∃ content, t.nodeAt? (l ++ [name]) = some (.file content) := by
  simp [isFile_iff, resolve_join h hn]

/-- A last piece that names no directory is looked up under its own name. -/
theorem exists_of_not_namesDirectory {last : Option Text} (h : namesDirectory last = false)
    (l : Location) : ∃ name, last = some name ∧ stepTo l name = l ++ [name] := by
  cases last with
  | none => cases h
  | some name =>
    simp only [namesDirectory, Bool.or_eq_false_iff, decide_eq_false_iff_not, Option.some.injEq]
      at h
    exact ⟨name, rfl, by rw [stepTo, if_neg h.1.2, if_neg h.2]⟩

/-- Writing a name in a directory fails only where the name is taken by a directory. -/
theorem write_join (h : t.Reaches d l) (hn : IsPlain name) (content : Bytes) :
    t.write (Path.join d name) content =
      if t.nodeAt? (l ++ [name]) = some .directory then .error .isADirectory
      else .ok (t.putAt (l ++ [name]) (.file content)) := by
  have hlast : namesDirectory (some name) = false := by
    simp [namesDirectory, hn.ne_dot, hn.ne_dots]
  rw [write, if_neg (Path.join_ne_nil d hn), place_join h hn]
  simp only [hlast, Path.endsInSlash_join d hn, Option.toList_some]
  cases t.nodeAt? (l ++ [name]) with
  | none => simp
  | some e => cases e <;> simp

/-- Writing puts a file into a directory, where no directory is, and the path leads to it. -/
theorem exists_of_write {content : Bytes} (h : t.write p content = .ok t') :
    ∃ l name, t.nodeAt? l = some .directory ∧ t.nodeAt? (l ++ [name]) ≠ some .directory ∧
      t.resolve p = .ok (l ++ [name]) ∧ t' = t.putAt (l ++ [name]) (.file content) := by
  unfold write at h
  split at h
  · cases h
  · rename_i hp
    split at h
    · cases h
    · rename_i l last hplace
      split at h
      · cases h
      · rename_i hlast
        rw [Bool.not_eq_true, Bool.or_eq_false_iff] at hlast
        -- Such a piece is a step of the walk as well, to the place it is written at.
        obtain ⟨name, rfl, hstep⟩ := exists_of_not_namesDirectory hlast.1 l
        obtain ⟨hwalk, hdir, hname⟩ := place_eq_ok_iff.1 hplace
        have hsteps : (steps p).dropLast ++ [name] = steps p :=
          List.dropLast_append_getLast? name hname
        have hresolve : t.resolve p = .ok (l ++ [name]) := by
          rw [resolve, if_neg hp, hlast.2, if_neg Bool.false_ne_true, List.append_nil, ← hsteps,
            walk_append_singleton_eq_ok_iff]
          exact ⟨l, hwalk, hdir, hstep.symm⟩
        simp only [Option.toList_some] at h
        split at h
        · cases h
        · rename_i hnode
          cases h
          exact ⟨l, name, hdir, hnode, hresolve, rfl⟩

theorem IsSound.write {content : Bytes} (ht : t.IsSound) (h : t.write p content = .ok t') :
    t'.IsSound := by
  obtain ⟨l, name, hl, hnode, -, rfl⟩ := exists_of_write h
  refine ht.putAt ?_ fun hd => absurd hd hnode
  rwa [List.dropLast_concat]

/-! ## 5. Files -/

/-- The path of a file: the directory it lies in, which can be reached, and its name. -/
structure HasFile (t : FileTree) (p d : Path) (name : Text) : Prop where
  parent : Path.parent? p = some d
  isPlain : IsPlain name
  isInside : IsInside p d name
  reaches : t.Reaches d (t.locate d)
  resolve : t.resolve p = .ok (t.locate p)

theorem HasFile.locate_eq (h : t.HasFile p d name) : t.locate p = t.locate d ++ [name] :=
  locate_of_components t h.isInside.components

theorem exists_hasFile (ht : t.IsSound) (h : t.isFile p = true) : ∃ d name, t.HasFile p d name := by
  obtain ⟨l, content, hr, hl⟩ := isFile_iff.1 h
  obtain ⟨hp, hw, hs⟩ := walk_of_resolve hr
  have hslash : endsInSlash p = false := by
    rw [Bool.eq_false_iff]
    intro hslash
    rw [hs hslash] at hl
    cases hl
  obtain ⟨before, name, hpieces, hnotMem, hne⟩ :=
    Path.exists_last_piece_of_not_endsInSlash hp hslash
  have hsteps : steps p = before.filter (· ≠ []) ++ [name] := by
    rw [steps, hpieces, List.filter_append]
    simp [hne]
  rw [hsteps] at hw
  obtain ⟨m, hm, hdir, hl'⟩ := walk_append_singleton_eq_ok_iff.1 hw
  -- Dots at the end would lead from the directory before them to a directory.
  have hn : IsPlain name := by
    refine ⟨hne, hnotMem, ?_, ?_⟩
    · rintro rfl
      rw [hl', stepTo, if_pos rfl, hdir] at hl
      cases hl
    · rintro rfl
      rw [hl', stepTo, if_neg (by decide), if_pos rfl, isSound_iff.1 ht m _ hdir] at hl
      cases hl
  obtain ⟨d, hparent, hin⟩ := Path.exists_parent? hpieces hn
  refine ⟨d, name, hparent, hn, hin, ?_, ?_⟩
  · obtain ⟨dots, hdots, hd⟩ := hin.steps
    rw [hsteps] at hd
    rw [List.append_cancel_right hd, walk_append_eq_ok_iff] at hm
    obtain ⟨k, hk, hkm⟩ := hm
    have hmk := eq_of_walk_dots hdots hkm
    subst hmk
    have hstart : t.start p = t.start d := by rw [start, start, hin.isAbsolute]
    rw [hstart] at hk
    have hreach : t.Reaches d m := ⟨hk, hdir⟩
    rwa [← hreach.eq_locate]
  · rw [hr, ← eq_locate_of_resolve hr]

theorem HasFile.exists_content (h : t.HasFile p d name) (hp : t.isFile p = true) :
    ∃ content, t.nodeAt? (t.locate p) = some (.file content) := by
  obtain ⟨l, content, hr, hl⟩ := isFile_iff.1 hp
  rw [h.resolve, Except.ok.injEq] at hr
  exact ⟨content, hr ▸ hl⟩

theorem read_eq_ok {content : Bytes} (hr : t.resolve p = .ok l)
    (hl : t.nodeAt? l = some (.file content)) : t.read p = .ok content := by
  have hf : t.find p = .ok (.file content) := find_eq_ok_iff.2 ⟨l, hr, hl⟩
  rw [read, hf]

/-! ## 6. Trees that keep the directories of another -/

structure Keeps (t t' : FileTree) : Prop where
  workingDirectory : t'.workingDirectory = t.workingDirectory
  directory : ∀ l, t.nodeAt? l = some .directory → t'.nodeAt? l = some .directory

namespace Keeps

theorem refl (t : FileTree) : Keeps t t := ⟨rfl, fun _ h => h⟩

theorem trans {t'' : FileTree} (h : Keeps t t') (h' : Keeps t' t'') : Keeps t t'' :=
  ⟨h'.workingDirectory.trans h.workingDirectory,
    fun l hl => h'.directory l (h.directory l hl)⟩

theorem of_write {content : Bytes} (h : t.write p content = .ok t') : Keeps t t' := by
  obtain ⟨l, name, -, hne, -, rfl⟩ := exists_of_write h
  refine ⟨rfl, ?_⟩
  intro m hm
  have hml : m ≠ l ++ [name] := by
    rintro rfl
    exact hne hm
  rwa [nodeAt?_putAt_of_ne hml]

theorem start_eq (h : Keeps t t') (p : Path) : t'.start p = t.start p := by
  rw [start, start, h.workingDirectory]

theorem locate_eq (h : Keeps t t') (p : Path) : t'.locate p = t.locate p := by
  rw [locate, locate, h.start_eq]

theorem walk_eq_ok (h : Keeps t t') {ps : List Text} (hw : t.walk l ps = .ok n) :
    t'.walk l ps = .ok n := by
  induction ps generalizing l with
  | nil => exact hw
  | cons piece ps ih =>
    obtain ⟨hl, hw⟩ := walk_cons_eq_ok_iff.1 hw
    exact walk_cons_eq_ok_iff.2 ⟨h.directory l hl, ih hw⟩

theorem reaches (h : Keeps t t') (hr : t.Reaches d l) : t'.Reaches d l := by
  refine ⟨?_, h.directory l hr.nodeAt⟩
  rw [h.start_eq]
  exact h.walk_eq_ok hr.walk

theorem resolve_eq_ok (h : Keeps t t') (hr : t.resolve p = .ok l) : t'.resolve p = .ok l := by
  unfold resolve at hr ⊢
  split at hr
  · cases hr
  · rename_i hp
    rw [if_neg hp, h.start_eq]
    exact h.walk_eq_ok hr

end Keeps

end TemplateTypes.FileTree
