import TemplateTypes.Proofs.StubLines

/-!
# Stub texts — what the text of a stub tells about its block

No text of a template breaks a line of its stub, so the stub splits into exactly the lines it was
written from.  An import line is told by how it begins, and a declaration comes apart at its first
colon, since no name holds one.  Main statement: the lines of a stub are those of its block, and
templates with one stub have the same imports and the same names with the same values.
-/

namespace TemplateTypes.Stub

/-! ## 1. Reading the lines back -/

/-- The name and the value that a line was written from, if it was written for a name. -/
def writtenFrom? (line : Text) : Option (Text × Text) :=
  if BlockLine.isImport line then none
  else (Text.cut? ':' line).map fun s => (s.1, s.2.tail)

theorem writtenFrom?_of_isImport {line : Text} (h : BlockLine.IsImport line) :
    writtenFrom? line = none := by
  rw [writtenFrom?, if_pos (BlockLine.isImport_iff.2 h)]

theorem writtenFrom?_declarationLine {e : Text × Text} (h : IsNameText e.1) :
    writtenFrom? (declarationLine e) = some e := by
  have hi : ¬ BlockLine.isImport (declarationLine e) = true := by
    rw [isImport_declarationLine h]
    decide
  -- The colon behind the name is the first one, and a blank follows it.
  have hcut : Text.cut? ':' (declarationLine e) = some (e.1, ' ' :: e.2) := by
    rw [declarationLine_eq]
    exact Text.cut?_append h.colon_notMem _
  rw [writtenFrom?, if_neg hi, hcut]
  rfl

theorem filterMap_writtenFrom?_lines (document : Text) :
    (Text.lines (ofBlock (TypesBlock.ofDocument document))).filterMap writtenFrom? =
      (TypesBlock.ofDocument document).annotations.entries := by
  have hi : (TypesBlock.ofDocument document).imports.filterMap writtenFrom? = [] := by
    rw [List.filterMap_eq_nil_iff]
    intro l h
    exact writtenFrom?_of_isImport (isImportText_of_mem_imports h).isImport
  have hd : (TypesBlock.ofDocument document).annotations.entries.filterMap
      (fun e => writtenFrom? (declarationLine e)) =
        (TypesBlock.ofDocument document).annotations.entries.filterMap some := by
    apply List.filterMap_congr
    intro e he
    exact writtenFrom?_declarationLine (isNameText_of_mem_entries he)
  rw [filterMap_lines_ofBlock _ rfl, hi, hd, List.filterMap_some, List.nil_append]

/-! ## 2. Templates with one stub -/

/-- The imports and the entries of a block can be read off its stub, so the stub tells them. -/
theorem ofBlock_eq_iff (document other : Text) :
    ofBlock (TypesBlock.ofDocument document) = ofBlock (TypesBlock.ofDocument other) ↔
      (TypesBlock.ofDocument document).imports = (TypesBlock.ofDocument other).imports ∧
        (TypesBlock.ofDocument document).annotations =
          (TypesBlock.ofDocument other).annotations := by
  constructor
  · intro h
    refine ⟨?_, Dictionary.ext_entries ?_⟩
    · rw [← filter_isImport_lines document, ← filter_isImport_lines other, h]
    · rw [← filterMap_writtenFrom?_lines document, ← filterMap_writtenFrom?_lines other, h]
  · rintro ⟨hi, ha⟩
    rw [ofBlock, ofBlock, hi, ha]

theorem lines_ofBlock_ofDocument (document : Text) :
    (Text.lines (ofBlock (TypesBlock.ofDocument document)) =
      if (TypesBlock.ofDocument document).imports = [] ∧
          (TypesBlock.ofDocument document).annotations.entries = [] then [[]]
      else (TypesBlock.ofDocument document).imports ++
        (if (TypesBlock.ofDocument document).imports = [] then [] else [[]]) ++
          (TypesBlock.ofDocument document).annotations.entries.map
            fun e => e.1 ++ ": ".toList ++ e.2) ∧
      ∀ other, ofBlock (TypesBlock.ofDocument document) =
          ofBlock (TypesBlock.ofDocument other) ↔
        (TypesBlock.ofDocument document).imports = (TypesBlock.ofDocument other).imports ∧
          (TypesBlock.ofDocument document).annotations =
            (TypesBlock.ofDocument other).annotations := by
  refine ⟨?_, ofBlock_eq_iff document⟩
  have hgap : ∀ imports : List Text,
      importLines imports = imports ++ if imports = [] then [] else [[]] := by
    intro imports
    rw [importLines]
    split
    · rename_i hnone
      rw [hnone]
      rfl
    · rfl
  rw [lines_ofBlock, bodyLines, hgap]
  rfl

/-- A type that reads like a stub line of its own stays on the line of its name. -/
example : Text.lines (ofBlock (TypesBlock.ofDocument
      (TypesBlock.asDocument "from a import b\n'''y # z'''\nx: import c\n".toList))) =
    ["from a import b".toList, [], "x: import c  # y # z".toList] := by
  decide +kernel

end TemplateTypes.Stub
