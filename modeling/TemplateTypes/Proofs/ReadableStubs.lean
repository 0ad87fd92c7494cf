import TemplateTypes.Proofs.StubRereading

/-!
# Readable stubs — which imports and names come back from the stub that lists them

A stub can be written for any imports and any names with values, and read back as the interior of a
types block.  Each of its lines comes back on its own if it fits on a line, is trimmed, and is not
mistaken for a line of an earlier kind.  Main statement: these conditions are enough for the whole
block to come back, in the same order and with nothing malformed, and where it comes back they hold.
-/

namespace TemplateTypes.Stub

variable {imports : List Text} {annotations : Annotations}

/-- A name and a value that stand on a stub line together and are found there again. -/
structure IsReadable (e : Text × Text) : Prop where
  isName : IsNameText e.1
  isValue : IsTypeText e.2
  quotes : ¬ BlockLine.QuotesMeet e.1 e.2

theorem IsReadable.fitsLine {e : Text × Text} (h : IsReadable e) : FitsLine (declarationLine e) :=
  fitsLine_declarationLine h.isName.fits h.isValue.fits

theorem IsReadable.ofRaw_eq {e : Text × Text} (h : IsReadable e) :
    BlockLine.ofRaw (declarationLine e) = .declaring e.1 e.2 :=
  ofRaw_declarationLine h.isName h.isValue.trimmed h.isValue.colon_notMem h.quotes

/-! ## 1. Enough for the block to come back -/

theorem ofDocument_asDocument_render (hi : ∀ l ∈ imports, IsImportText l)
    (ha : ∀ e ∈ annotations.entries, IsReadable e) :
    TypesBlock.ofDocument (TypesBlock.asDocument (render imports annotations)) =
      ⟨imports, annotations, []⟩ := by
  have hreads := readsAs_render hi fun e he => (ha e he).fitsLine
  have hlines : annotations.entries.map (fun e => BlockLine.ofRaw (declarationLine e)) =
      annotations.entries.map fun e => .declaring e.1 e.2 := by
    apply List.map_congr_left
    intro e he
    exact (ha e he).ofRaw_eq
  rw [hlines] at hreads
  rw [TypesBlock.ofDocument_of_readsAs hreads, ofLines_importing_append_declaring,
    Dictionary.ofList_entries]

/-! ## 2. What it takes to come back -/

/-- A line that declares its name again declares it with the trimmed value. -/
theorem ofRaw_declarationLine_eq_trim {e : Text × Text} {type : Text} (hn : IsNameText e.1)
    (hv : ∀ c ∈ e.2.getLast?, Text.isBlank c = false)
    (h : BlockLine.ofRaw (declarationLine e) = .declaring e.1 type) :
    BlockLine.ofRaw (declarationLine e) = .declaring e.1 (Text.trim e.2) := by
  obtain ⟨b, hl, hb, -⟩ := exists_trim_declarationLine hn.trimmed hv
  cases BlockLine.ofRaw_eq_iff.1 h with
  | declaring hc hi hd hdecl =>
    obtain ⟨a, t, hat, ha, ht, -, -⟩ := hdecl
    -- The first colon is the one behind the name, so the right side is `b`.
    have hcut := Text.cut?_append hn.colon_notMem b
    rw [← hl, hat, Text.cut?_append ha, Option.some.injEq, Prod.mk.injEq] at hcut
    obtain ⟨rfl, rfl⟩ := hcut
    exact (BlockLine.Reads.declaring hc hi hd
      ⟨e.1, t, hat, ha, ht, hn.trimmed.trim_eq.symm, hb.symm⟩).ofRaw_eq

variable {document : Text} {e : Text × Text}

theorem trim_eq_of_reread_eq (h : reread document = TypesBlock.ofDocument document)
    (he : e ∈ (TypesBlock.ofDocument document).annotations.entries) : Text.trim e.2 = e.2 := by
  have hlines : (TypesBlock.ofDocument document).annotations.entries.map
      (fun e => BlockLine.ofRaw (declarationLine e)) =
        ((TypesBlock.ofDocument document).annotations.entries.map
          fun e => (e.1, Text.trim e.2)).map fun e => .declaring e.1 e.2 := by
    rw [List.map_map]
    apply List.map_congr_left
    intro e he
    obtain ⟨type, hl⟩ := exists_ofRaw_of_reread_eq h he
    exact ofRaw_declarationLine_eq_trim (isNameText_of_mem_entries he) (last_of_mem_entries he) hl
  -- No line of the stub is a docstring, so what is stored again are the trimmed values.
  have hread := readsAs_reread document
  rw [hlines] at hread
  have hentries : (reread document).annotations.entries =
      (TypesBlock.ofDocument document).annotations.entries.map fun e => (e.1, Text.trim e.2) := by
    rw [reread, TypesBlock.ofDocument_of_readsAs hread, ofLines_importing_append_declaring]
    apply Dictionary.entries_ofList_of_nodup
    rw [List.map_map]
    exact (TypesBlock.ofDocument document).annotations.distinct
  rw [h] at hentries
  have hfix : ∀ e ∈ (TypesBlock.ofDocument document).annotations.entries,
      (e.1, Text.trim e.2) = id e := by
    rw [← List.map_inj_left, ← hentries, List.map_id]
  exact congrArg Prod.snd (hfix e he)

theorem isReadable_of_reread_eq (h : reread document = TypesBlock.ofDocument document)
    (he : e ∈ (TypesBlock.ofDocument document).annotations.entries) : IsReadable e := by
  have hname : IsNameText e.1 := isNameText_of_mem_entries he
  obtain ⟨type, doc?, hd⟩ := exists_isDeclared he
  obtain ⟨t, hl⟩ := exists_ofRaw_of_reread_eq h he
  obtain ⟨-, hcolon, hquotes⟩ := of_ofRaw_declarationLine hname (last_of_mem_entries he) hl
  have htrim : Text.IsTrimmed e.2 := by
    rw [← trim_eq_of_reread_eq h he]
    exact Text.isTrimmed_trim e.2
  exact ⟨hname, ⟨hd.fitsLine, htrim, hcolon⟩, hquotes⟩

/-! ## 3. The stubs that come back -/

theorem ofDocument_asDocument_render_eq_iff (imports : List Text) (annotations : Annotations) :
    TypesBlock.ofDocument (TypesBlock.asDocument (render imports annotations)) =
        ⟨imports, annotations, []⟩ ↔
      (∀ l ∈ imports, IsImportText l) ∧ ∀ e ∈ annotations.entries, IsReadable e := by
  constructor
  · intro h
    -- The stub is the stub of its own block, so reading it again changes nothing.
    have hreread : reread (TypesBlock.asDocument (render imports annotations)) =
        TypesBlock.ofDocument (TypesBlock.asDocument (render imports annotations)) := by
      rw [reread, h]
      exact h
    constructor
    · intro l hl
      have hmem : l ∈ (TypesBlock.ofDocument
          (TypesBlock.asDocument (render imports annotations))).imports := by rwa [h]
      exact isImportText_of_mem_imports hmem
    · intro e he
      have hmem : e ∈ (TypesBlock.ofDocument
          (TypesBlock.asDocument (render imports annotations))).annotations.entries := by rwa [h]
      exact isReadable_of_reread_eq hreread hmem
  · rintro ⟨hi, ha⟩
    exact ofDocument_asDocument_render hi ha

/-- A hash in a value, an empty value, and names that are empty or a word of an import line. -/
example : TypesBlock.ofDocument (TypesBlock.asDocument (render ["import os  # x".toList]
      (.ofList [([], "int # y".toList), ("import".toList, []), ("from".toList, ['#'])]))) =
    ⟨["import os  # x".toList],
      .ofList [([], "int # y".toList), ("import".toList, []), ("from".toList, ['#'])], []⟩ := by
  decide +kernel

end TemplateTypes.Stub
