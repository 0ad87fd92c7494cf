import TemplateTypes.Proofs.DirectoryContents
import TemplateTypes.Proofs.PathOrder
import TemplateTypes.StubCommand

/-!
# Template expansion — what the operands of a run stand for

An operand that names a file stands for it, one that names a directory for the templates directly
inside, and any other for the files that it matches as a pattern.  The expansion of some operands
lists all that they stand for, each path once and in order (`isExpansion_of_templates`), and there
is one unless an operand is a faulty pattern (`exists_templates_iff`).  Operands in another order,
or given more than once, expand to the same paths up to their spelling (`templates_congr`).
-/

namespace TemplateTypes.StubCommand

open FileTree (HasPlainNames)

variable {t : FileTree} {files files' : List Text} {operand : Text} {p : Path}
variable {found paths : List Path}

/-! ## 1. What an operand stands for -/

/-- One operand stands for this path. -/
inductive StandsFor (t : FileTree) (operand : Text) : Path → Prop
  | file (hfile : t.isFile operand = true) : StandsFor t operand operand
  | inside {stem extension : Text} {content : Bytes} (hdirectory : t.isDirectory operand = true)
      (hstem : stem ≠ []) (hextension : extension ∈ templateExtensions)
      (hnode : t.nodeAt? (t.locate operand ++ [stem ++ '.' :: extension]) =
        some (.file content)) :
      StandsFor t operand (Path.join operand (stem ++ '.' :: extension))
  | matched {p : Path} {found : List Path} (hfile : t.isFile operand = false)
      (hdirectory : t.isDirectory operand = false) (hexpand : Glob.expand t operand = .ok found)
      (hp : p ∈ found) (hpfile : t.isFile p = true) : StandsFor t operand p

/-- An operand that names something or is a pattern without a fault. -/
def CanExpand (t : FileTree) (operand : Text) : Prop :=
  t.isFile operand = true ∨ t.isDirectory operand = true ∨
    ∃ found, Glob.expand t operand = .ok found

theorem dot_notMem_of_mem_templateExtensions {extension : Text}
    (h : extension ∈ templateExtensions) : '.' ∉ extension := by
  have hall : ∀ e ∈ templateExtensions, '.' ∉ e := by decide
  exact hall extension h

theorem isTemplateName_join_iff (d : Path) {name : Text} (hn : IsPlain name) :
    isTemplateName (Path.join d name) = true ↔
      ∃ stem extension, name = stem ++ '.' :: extension ∧ stem ≠ [] ∧
        extension ∈ templateExtensions := by
  have hextension : Path.extension? (Path.join d name) = (Path.splitName name).2 := by
    simp [Path.extension?, Path.fileName?, Path.components_join d hn]
  rw [isTemplateName, hextension]
  constructor
  · intro h
    rcases Path.splitName_cases name with hs | ⟨stem, extension, hname, hstem, hs⟩
    · simp [hs] at h
    · rw [hs] at h
      exact ⟨stem, extension, hname, hstem, List.contains_iff_mem.1 h⟩
  · rintro ⟨stem, extension, rfl, hstem, hmem⟩
    rw [Path.splitName_append hstem (dot_notMem_of_mem_templateExtensions hmem)]
    exact List.contains_iff_mem.2 hmem

theorem mem_templatesIn_iff (ht : t.HasPlainNames) (h : t.isDirectory operand = true) :
    p ∈ templatesIn t operand ↔ StandsFor t operand p := by
  -- A name with a slash or a dot in it would join to the path of another place.
  have hplain : ∀ name content, t.nodeAt? (t.locate operand ++ [name]) = some (.file content) →
      IsPlain name :=
    fun name content hc => FileTree.hasPlainNames_iff.1 ht _ _ hc name (by simp)
  rw [templatesIn, List.mem_filter, List.mem_filter, List.mem_map]
  constructor
  · rintro ⟨⟨⟨name, hchild, rfl⟩, hpfile⟩, htemplate⟩
    obtain ⟨content, hc⟩ := (FileTree.mem_children_and_isFile_iff ht h).1 ⟨hchild, hpfile⟩
    obtain ⟨stem, extension, rfl, hstem, hmem⟩ :=
      (isTemplateName_join_iff operand (hplain name content hc)).1 htemplate
    exact .inside h hstem hmem hc
  · intro hstands
    cases hstands with
    | file hf => simp [FileTree.isDirectory_eq_false_of_isFile hf] at h
    | @inside stem extension content _ hstem hmem hc =>
      obtain ⟨hchild, hpfile⟩ := (FileTree.mem_children_and_isFile_iff ht h).2 ⟨content, hc⟩
      refine ⟨⟨⟨_, hchild, rfl⟩, hpfile⟩, ?_⟩
      exact (isTemplateName_join_iff operand (hplain _ _ hc)).2 ⟨stem, extension, rfl, hstem, hmem⟩
    | matched _ hd => simp [hd] at h

theorem mem_expandOne_iff (ht : t.HasPlainNames) (h : expandOne t operand = .ok found) :
    p ∈ found ↔ StandsFor t operand p := by
  unfold expandOne at h
  split at h
  · -- A file is no directory and no pattern, so it stands for itself only.
    rename_i hfile
    rw [Except.ok.injEq] at h
    rw [← h, List.mem_singleton]
    constructor
    · rintro rfl
      exact .file hfile
    · intro hstands
      cases hstands with
      | file => rfl
      | inside hd => simp [FileTree.isDirectory_eq_false_of_isFile hfile] at hd
      | matched hf => simp [hf] at hfile
  · rename_i hfile
    rw [Bool.not_eq_true] at hfile
    split at h
    · rename_i hd
      rw [Except.ok.injEq] at h
      rw [← h, mem_templatesIn_iff ht hd]
    · rename_i hd
      rw [Bool.not_eq_true] at hd
      cases hg : Glob.expand t operand with
      | error e => simp [hg, Except.map] at h
      | ok ps =>
        rw [hg, Except.map, Except.ok.injEq] at h
        rw [← h, List.mem_filter]
        constructor
        · rintro ⟨hp, hpfile⟩
          exact .matched hfile hd hg hp hpfile
        · intro hstands
          cases hstands with
          | file hf => simp [hf] at hfile
          | inside hd' => simp [hd'] at hd
          | matched _ _ hg' hp hpfile =>
            rw [hg, Except.ok.injEq] at hg'
            exact ⟨hg' ▸ hp, hpfile⟩

theorem exists_expandOne_iff :
    (∃ found, expandOne t operand = .ok found) ↔ CanExpand t operand := by
  unfold expandOne CanExpand
  split
  · rename_i hfile
    simp [hfile]
  · rename_i hfile
    split
    · rename_i hd
      simp [hd]
    · rename_i hd
      cases hg : Glob.expand t operand with
      | error e => simp [hfile, hd, Except.map]
      | ok ps => simp [Except.map]

theorem isFile_of_mem_expandOne (h : expandOne t operand = .ok found) (hp : p ∈ found) :
    t.isFile p = true := by
  unfold expandOne at h
  split at h
  · rename_i hfile
    rw [Except.ok.injEq] at h
    subst h
    rwa [List.mem_singleton.1 hp]
  · split at h
    · rw [Except.ok.injEq] at h
      subst h
      exact (List.mem_filter.1 (List.mem_filter.1 hp).1).2
    · cases hg : Glob.expand t operand with
      | error e => simp [hg, Except.map] at h
      | ok ps =>
        rw [hg, Except.map, Except.ok.injEq] at h
        subst h
        exact (List.mem_filter.1 hp).2

/-! ## 2. All operands -/

theorem expandAll_cons_eq_ok_iff {rest : List Text} :
    (expandAll t (operand :: rest)).2 = .ok found ↔
      ∃ one more, expandOne t operand = .ok one ∧ (expandAll t rest).2 = .ok more ∧
        one ++ more = found := by
  rw [expandAll]
  cases hone : expandOne t operand with
  | error e => simp
  | ok one =>
    cases hrest : (expandAll t rest).2 with
    | error e => simp [hrest, Except.map]
    | ok more => simp [hrest, Except.map]

theorem exists_expandAll_iff :
    (∃ found, (expandAll t files).2 = .ok found) ↔ ∀ operand ∈ files, CanExpand t operand := by
  induction files with
  | nil => simp [expandAll]
  | cons operand rest ih =>
    rw [List.forall_mem_cons, ← ih, ← exists_expandOne_iff]
    simp only [expandAll_cons_eq_ok_iff]
    constructor
    · rintro ⟨_, one, more, hone, hmore, -⟩
      exact ⟨⟨one, hone⟩, more, hmore⟩
    · rintro ⟨⟨one, hone⟩, more, hmore⟩
      exact ⟨_, one, more, hone, hmore, rfl⟩

theorem mem_expandAll_iff (h : (expandAll t files).2 = .ok found) :
    p ∈ found ↔ ∃ operand ∈ files, ∃ one, expandOne t operand = .ok one ∧ p ∈ one := by
  induction files generalizing found with
  | nil =>
    rw [expandAll, Except.ok.injEq] at h
    simp [← h]
  | cons operand rest ih =>
    obtain ⟨one, more, hone, hmore, rfl⟩ := expandAll_cons_eq_ok_iff.1 h
    rw [List.mem_append, ih hmore, List.exists_mem_cons_iff, hone]
    simp

theorem isFile_of_mem_expandAll (h : (expandAll t files).2 = .ok found) (hp : p ∈ found) :
    t.isFile p = true := by
  obtain ⟨operand, -, one, hone, hpone⟩ := (mem_expandAll_iff h).1 hp
  exact isFile_of_mem_expandOne hone hpone

/-! ## 3. The expansion -/

/-- These paths are all that the operands stand for, in order and each of them once. -/
structure IsExpansion (t : FileTree) (files : List Text) (paths : List Path) : Prop where
  increasing : paths.Pairwise Path.Precedes
  distinct : paths.Pairwise fun p q => Path.same p q = false
  standsFor : ∀ p ∈ paths, ∃ operand ∈ files, StandsFor t operand p
  covers : ∀ operand ∈ files, ∀ p, StandsFor t operand p → ∃ q ∈ paths, Path.same p q = true

theorem templates_eq_ok_iff :
    templates t files = .ok paths ↔
      ∃ found, (expandAll t files).2 = .ok found ∧ Path.sorted found = paths := by
  unfold templates
  cases (expandAll t files).2 with
  | error e => simp [Except.map]
  | ok found => simp [Except.map]

theorem isFile_of_mem_templates (h : templates t files = .ok paths) (hp : p ∈ paths) :
    t.isFile p = true := by
  obtain ⟨found, hfound, rfl⟩ := templates_eq_ok_iff.1 h
  exact isFile_of_mem_expandAll hfound (Path.mem_of_mem_sorted hp)

theorem exists_templates_iff :
    (∃ paths, templates t files = .ok paths) ↔ ∀ operand ∈ files, CanExpand t operand := by
  rw [← exists_expandAll_iff]
  simp only [templates_eq_ok_iff]
  constructor
  · rintro ⟨_, found, hfound, -⟩
    exact ⟨found, hfound⟩
  · rintro ⟨found, hfound⟩
    exact ⟨_, found, hfound, rfl⟩

theorem isExpansion_of_templates (ht : t.HasPlainNames) (h : templates t files = .ok paths) :
    IsExpansion t files paths := by
  obtain ⟨found, hfound, rfl⟩ := templates_eq_ok_iff.1 h
  have hincreasing := Path.pairwise_sorted found
  refine ⟨hincreasing, hincreasing.imp fun hpq => hpq.not_same, ?_, ?_⟩
  · intro p hp
    obtain ⟨operand, hoperand, one, hone, hpone⟩ :=
      (mem_expandAll_iff hfound).1 (Path.mem_of_mem_sorted hp)
    exact ⟨operand, hoperand, (mem_expandOne_iff ht hone).1 hpone⟩
  · -- The expansion succeeds as a whole, so it does for this operand.
    intro operand hoperand p hp
    obtain ⟨one, hone⟩ :=
      exists_expandOne_iff.2 (exists_expandAll_iff.1 ⟨found, hfound⟩ operand hoperand)
    apply Path.exists_mem_sorted
    exact (mem_expandAll_iff hfound).2
      ⟨operand, hoperand, one, hone, (mem_expandOne_iff ht hone).2 hp⟩

/-- The order and the repetitions of the operands change no more than how the paths are spelled. -/
theorem templates_congr (hmem : ∀ x, x ∈ files' ↔ x ∈ files) (h : templates t files = .ok paths) :
    ∃ paths', templates t files' = .ok paths' ∧
      List.Forall₂ (fun p q => Path.same p q = true) paths paths' := by
  obtain ⟨found, hfound, rfl⟩ := templates_eq_ok_iff.1 h
  obtain ⟨found', hfound'⟩ : ∃ found', (expandAll t files').2 = .ok found' := by
    rw [exists_expandAll_iff]
    intro operand hoperand
    exact exists_expandAll_iff.1 ⟨found, hfound⟩ operand ((hmem operand).1 hoperand)
  refine ⟨_, templates_eq_ok_iff.2 ⟨found', hfound', rfl⟩, Path.sorted_congr ?_⟩
  intro p
  rw [mem_expandAll_iff hfound, mem_expandAll_iff hfound']
  simp only [hmem]

end TemplateTypes.StubCommand
