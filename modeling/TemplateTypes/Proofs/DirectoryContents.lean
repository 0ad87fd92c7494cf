import TemplateTypes.Proofs.MakingDirectories

/-!
# Directory contents — the names directly inside a directory

A tree is a table of locations, and nothing in the table keeps a slash or a dot out of a name.  A
tree whose names are plain is one that a file system can hold; making directories keeps it so.  In
such a tree the names directly inside a directory are those that stand behind it in a location.
-/

namespace TemplateTypes

instance (name : Text) : Decidable (IsPlain name) :=
  decidable_of_iff (name ≠ [] ∧ '/' ∉ name ∧ name ≠ ['.'] ∧ name ≠ ['.', '.'])
    ⟨fun ⟨hne, hslash, hdot, hdots⟩ => ⟨hne, hslash, hdot, hdots⟩,
      fun ⟨hne, hslash, hdot, hdots⟩ => ⟨hne, hslash, hdot, hdots⟩⟩

theorem Location.below?_eq_some_iff {base l : Location} {names : List Text} :
    Location.below? base l = some names ↔ l = base ++ names := by
  fun_induction Location.below? base l with
  | case1 l => simp
  | case2 a base => simp
  | case3 a base l ih => simpa using ih
  | case4 a base b l hne => simp [Ne.symm hne]

namespace FileTree

variable {t t' : FileTree} {l : Location} {p d : Path} {name : Text}

/-! ## 1. Trees of plain names -/

/-- Everything in the tree goes by names that a directory can hold. -/
def HasPlainNames (t : FileTree) : Prop :=
  ∀ e ∈ t.entries.entries, ∀ name ∈ e.1, IsPlain name

instance (t : FileTree) : Decidable t.HasPlainNames :=
  inferInstanceAs (Decidable (∀ e ∈ t.entries.entries, ∀ name ∈ e.1, IsPlain name))

theorem hasPlainNames_iff :
    t.HasPlainNames ↔ ∀ l e, t.nodeAt? l = some e → ∀ name ∈ l, IsPlain name := by
  constructor
  · intro h l e he
    by_cases hl : l = []
    · simp [hl]
    · rw [nodeAt?, if_neg hl] at he
      exact h (l, e) (Dictionary.get?_eq_some_iff_mem.1 he)
  · intro h e he
    by_cases hl : e.1 = []
    · simp [hl]
    · apply h e.1 e.2
      rw [nodeAt?, if_neg hl]
      exact Dictionary.get?_eq_some_iff_mem.2 he

namespace HasPlainNames

theorem putAt (h : t.HasPlainNames) {e : Node} (hl : ∀ name ∈ l, IsPlain name) :
    (t.putAt l e).HasPlainNames := by
  rw [hasPlainNames_iff] at h ⊢
  intro m e' hm
  by_cases hml : m = l
  · rwa [hml]
  · rw [nodeAt?_putAt_of_ne hml] at hm
    exact h m e' hm

theorem makeDirectory (h : t.HasPlainNames) (hm : t.makeDirectory p = .ok t') :
    t'.HasPlainNames := by
  obtain ⟨l, name, hsteps, hstep, -, hl, -, rfl⟩ := of_makeDirectory hm
  have hmem : name ∈ steps p := by
    rw [hsteps]
    exact List.mem_append_right _ List.mem_cons_self
  have hplain : IsPlain name := by
    obtain ⟨hne, hslash⟩ := of_mem_steps hmem
    -- A step along dots leads to no longer location.
    refine ⟨hne, hslash, ?_, ?_⟩
    · rintro rfl
      simp [stepTo] at hstep
    · rintro rfl
      have hlength := congrArg List.length hstep
      simp [stepTo] at hlength
  apply h.putAt
  intro n hn
  rcases List.mem_append.1 hn with hn | hn
  · exact hasPlainNames_iff.1 h l _ hl n hn
  · rwa [List.mem_singleton.1 hn]

theorem ensureDirectory (h : t.HasPlainNames) (p : Path) :
    (t.ensureDirectory p).1.HasPlainNames := by
  unfold FileTree.ensureDirectory
  split
  · rename_i hm
    exact h.makeDirectory hm
  · exact h

theorem makeDirectories (h : t.HasPlainNames) (p : Path) :
    (t.makeDirectories p).1.HasPlainNames :=
  makeDirectoriesFrom_induction (fun _ q _ ht => ht.ensureDirectory q) _ (fun _ hq => hq) h

end HasPlainNames

/-! ## 2. Children -/

theorem mem_children_iff (h : t.resolve d = .ok l) :
    name ∈ t.children d ↔ ∃ e, t.nodeAt? (l ++ [name]) = some e := by
  -- A child is what lies below by one name, and lies below by its entry in the table.
  have hbelow : name ∈ t.children d ↔ ∃ e, ([name], e) ∈ t.below l := by
    rw [children, descendants, h, List.mem_filterMap]
    constructor
    · rintro ⟨names, hm, hname⟩
      obtain ⟨⟨_, e⟩, he, rfl⟩ := List.mem_map.1 hm
      split at hname
      · rename_i n heq
        cases hname
        cases heq
        exact ⟨e, he⟩
      · cases hname
    · rintro ⟨e, he⟩
      exact ⟨[name], List.mem_map_of_mem he, rfl⟩
  have hentry : ∀ e, ([name], e) ∈ t.below l ↔ (l ++ [name], e) ∈ t.entries.entries := by
    intro e
    rw [below, List.mem_filterMap]
    constructor
    · rintro ⟨⟨m, e'⟩, hm, heq⟩
      split at heq
      · rename_i n names hb
        cases heq
        have hlocation : m = l ++ [name] := Location.below?_eq_some_iff.1 hb
        rwa [hlocation] at hm
      · cases heq
    · intro hm
      refine ⟨_, hm, ?_⟩
      simp only [Location.below?_eq_some_iff.2 (rfl : l ++ [name] = l ++ [name])]
  rw [hbelow]
  simp only [hentry, nodeAt?, if_neg (List.append_ne_nil_of_right_ne_nil l (List.cons_ne_nil _ _)),
    Dictionary.get?_eq_some_iff_mem]

theorem resolve_of_isDirectory (h : t.isDirectory d = true) : t.resolve d = .ok (t.locate d) := by
  unfold isDirectory at h
  split at h
  · rename_i hf
    obtain ⟨l, hr, -⟩ := find_eq_ok_iff.1 hf
    rw [hr, ← eq_locate_of_resolve hr]
  · cases h

/-- The names directly inside a directory whose paths lead to files. -/
theorem mem_children_and_isFile_iff (ht : t.HasPlainNames) (h : t.isDirectory d = true) :
    name ∈ t.children d ∧ t.isFile (Path.join d name) = true ↔
      ∃ content, t.nodeAt? (t.locate d ++ [name]) = some (.file content) := by
  have hplain : ∀ e, t.nodeAt? (t.locate d ++ [name]) = some e → IsPlain name :=
    fun e he => hasPlainNames_iff.1 ht _ e he name (by simp)
  rw [mem_children_iff (resolve_of_isDirectory h)]
  constructor
  · rintro ⟨⟨e, he⟩, hfile⟩
    exact (isFile_join_iff (reaches_of_isDirectory h) (hplain e he)).1 hfile
  · rintro ⟨content, hc⟩
    exact ⟨⟨_, hc⟩, (isFile_join_iff (reaches_of_isDirectory h) (hplain _ hc)).2 ⟨content, hc⟩⟩

end FileTree

end TemplateTypes
