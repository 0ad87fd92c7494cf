import TemplateTypes.Stub.Writer
import TemplateTypes.Proofs.BlockContents

/-!
# Stub lines — the lines of a stub that was written for a template

No text of a template can break a line of its stub or close a block.  So the stub splits into just
the lines it was put together from: the imports, at most one empty line, and one line for each
declared name.
-/

namespace TemplateTypes.Stub

theorem declarationLine_eq (e : Text × Text) : declarationLine e = e.1 ++ ':' :: ' ' :: e.2 := by
  rw [declarationLine, List.append_assoc]
  rfl

theorem fitsLine_declarationLine {e : Text × Text} (hn : FitsLine e.1) (hv : FitsLine e.2) :
    FitsLine (declarationLine e) := by
  have hb : FitsLine ([] ++ ' ' :: e.2) := fitsLine_nil.append_cons hv (by decide) (by decide)
  rw [declarationLine_eq]
  exact hn.append_cons hb (by decide) (by decide)

/-! ## 1. Lines that were written -/

theorem forall_mem_bodyLines {P : Text → Prop} {imports : List Text} {annotations : Annotations}
    (hnil : P []) (hi : ∀ l ∈ imports, P l)
    (ha : ∀ e ∈ annotations.entries, P (declarationLine e)) :
    ∀ l ∈ bodyLines imports annotations, P l := by
  intro l hl
  rcases List.mem_append.1 hl with hl | hl
  · rw [importLines] at hl
    split at hl
    · cases hl
    · rcases List.mem_append.1 hl with hl | hl
      · exact hi l hl
      · rwa [List.mem_singleton.1 hl]
  · obtain ⟨e, he, rfl⟩ := List.mem_map.1 hl
    exact ha e he

theorem bodyLines_eq_nil {imports : List Text} {annotations : Annotations}
    (h : bodyLines imports annotations = []) : imports = [] ∧ annotations.entries = [] := by
  obtain ⟨hl, he⟩ := List.append_eq_nil_iff.1 h
  refine ⟨?_, List.map_eq_nil_iff.1 he⟩
  by_contra hn
  rw [importLines, if_neg hn] at hl
  simp at hl

/-- A stub splits into the lines it was written from, or is one empty line. -/
theorem lines_render {imports : List Text} {annotations : Annotations}
    (hi : ∀ l ∈ imports, Text.OneLine l)
    (ha : ∀ e ∈ annotations.entries, Text.OneLine (declarationLine e)) :
    Text.lines (render imports annotations) =
      if imports = [] ∧ annotations.entries = [] then [[]]
      else bodyLines imports annotations := by
  split
  · rename_i hnone
    have hbody : bodyLines imports annotations = [] := by
      rw [bodyLines, importLines, if_pos hnone.1, hnone.2]
      rfl
    rw [render, hbody]
    rfl
  · rename_i hsome
    have hne : bodyLines imports annotations ≠ [] := fun h => hsome (bodyLines_eq_nil h)
    rw [render, Text.lines_join_append_lineFeed hne (forall_mem_bodyLines Text.oneLine_nil hi ha)]

/-- An empty line stands behind the imports, or alone in a stub without any line. -/
theorem exists_lines_render {imports : List Text} {annotations : Annotations}
    (hi : ∀ l ∈ imports, Text.OneLine l)
    (ha : ∀ e ∈ annotations.entries, Text.OneLine (declarationLine e)) :
    ∃ gap, (∀ l ∈ gap, l = []) ∧ Text.lines (render imports annotations) =
      imports ++ gap ++ annotations.entries.map declarationLine := by
  rw [lines_render hi ha]
  split
  · rename_i hnone
    refine ⟨[[]], by simp, ?_⟩
    rw [hnone.1, hnone.2]
    rfl
  · rw [bodyLines, importLines]
    split
    · -- Without imports there is no empty line either.
      rename_i hin
      exact ⟨[], by simp, by rw [hin]; rfl⟩
    · exact ⟨[[]], by simp, rfl⟩

/-- A reader that passes over empty lines sees the imports and the declarations. -/
theorem filterMap_lines_render {imports : List Text} {annotations : Annotations} {β : Type}
    (f : Text → Option β) (hf : f [] = none) (hi : ∀ l ∈ imports, Text.OneLine l)
    (ha : ∀ e ∈ annotations.entries, Text.OneLine (declarationLine e)) :
    (Text.lines (render imports annotations)).filterMap f =
      imports.filterMap f ++ annotations.entries.filterMap fun e => f (declarationLine e) := by
  obtain ⟨gap, hg, hl⟩ := exists_lines_render hi ha
  rw [hl, List.filterMap_append, List.filterMap_append, Text.filterMap_gap hf hg, List.append_nil,
    List.filterMap_map]
  rfl

theorem filter_lines_render {imports : List Text} {annotations : Annotations} (p : Text → Bool)
    (hp : p [] = false) (hi : ∀ l ∈ imports, Text.OneLine l)
    (ha : ∀ e ∈ annotations.entries, Text.OneLine (declarationLine e)) :
    (Text.lines (render imports annotations)).filter p =
      imports.filter p ++ (annotations.entries.map declarationLine).filter p := by
  have hg : Option.guard p [] = none := by rw [Option.guard, hp]; rfl
  simp only [← List.filterMap_eq_filter]
  rw [filterMap_lines_render _ hg hi ha, List.filterMap_map]
  rfl

theorem unclosed_render {imports : List Text} {annotations : Annotations}
    (hi : ∀ l ∈ imports, Comment.Unclosed l)
    (ha : ∀ e ∈ annotations.entries, Comment.Unclosed (declarationLine e)) :
    Comment.Unclosed (render imports annotations) := by
  have hb : ∀ l ∈ bodyLines imports annotations, Comment.Unclosed l :=
    forall_mem_bodyLines Comment.unclosed_nil hi ha
  by_cases hne : bodyLines imports annotations = []
  · rw [render, hne]
    exact Comment.unclosed_nil.append_cons Comment.unclosed_nil (by decide)
  · rw [render, Text.join_append_lineFeed hne]
    exact Comment.unclosed_flatMap_lineFeed hb

/-! ## 2. The stub of a template -/

theorem fitsLine_of_mem_entries {document : Text} {e : Text × Text}
    (h : e ∈ (TypesBlock.ofDocument document).annotations.entries) :
    FitsLine (declarationLine e) := by
  obtain ⟨type, doc?, hd⟩ := exists_isDeclared h
  exact fitsLine_declarationLine hd.isName.fits hd.fitsLine

theorem lines_ofBlock (document : Text) :
    Text.lines (ofBlock (TypesBlock.ofDocument document)) =
      if (TypesBlock.ofDocument document).imports = [] ∧
          (TypesBlock.ofDocument document).annotations.entries = [] then [[]]
      else bodyLines (TypesBlock.ofDocument document).imports
        (TypesBlock.ofDocument document).annotations :=
  lines_render (fun _ h => (isImportText_of_mem_imports h).fits.oneLine)
    fun _ h => (fitsLine_of_mem_entries h).oneLine

theorem filterMap_lines_ofBlock {β : Type} (f : Text → Option β) (hf : f [] = none)
    (document : Text) :
    (Text.lines (ofBlock (TypesBlock.ofDocument document))).filterMap f =
      (TypesBlock.ofDocument document).imports.filterMap f ++
        (TypesBlock.ofDocument document).annotations.entries.filterMap
          fun e => f (declarationLine e) :=
  filterMap_lines_render f hf (fun _ h => (isImportText_of_mem_imports h).fits.oneLine)
    fun _ h => (fitsLine_of_mem_entries h).oneLine

theorem filter_lines_ofBlock (p : Text → Bool) (hp : p [] = false) (document : Text) :
    (Text.lines (ofBlock (TypesBlock.ofDocument document))).filter p =
      (TypesBlock.ofDocument document).imports.filter p ++
        ((TypesBlock.ofDocument document).annotations.entries.map declarationLine).filter p :=
  filter_lines_render p hp (fun _ h => (isImportText_of_mem_imports h).fits.oneLine)
    fun _ h => (fitsLine_of_mem_entries h).oneLine

/-! ## 3. The lines that are imports -/

theorem isImport_declarationLine {e : Text × Text} (h : IsNameText e.1) :
    BlockLine.isImport (declarationLine e) = false := by
  rw [← Bool.not_eq_true, BlockLine.isImport_iff, declarationLine_eq]
  exact h.not_isImport_append_colon

theorem filter_isImport_lines (document : Text) :
    (Text.lines (ofBlock (TypesBlock.ofDocument document))).filter BlockLine.isImport =
      (TypesBlock.ofDocument document).imports := by
  have hi : (TypesBlock.ofDocument document).imports.filter BlockLine.isImport =
      (TypesBlock.ofDocument document).imports := by
    rw [List.filter_eq_self]
    exact fun l h => BlockLine.isImport_iff.2 (isImportText_of_mem_imports h).isImport
  have hd : ((TypesBlock.ofDocument document).annotations.entries.map
      declarationLine).filter BlockLine.isImport = [] := by
    rw [List.filter_eq_nil_iff]
    intro l h
    obtain ⟨e, he, rfl⟩ := List.mem_map.1 h
    rw [isImport_declarationLine (isNameText_of_mem_entries he)]
    decide
  rw [filter_lines_ofBlock _ (by decide), hi, hd, List.append_nil]

end TemplateTypes.Stub
