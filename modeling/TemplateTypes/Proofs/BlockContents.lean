import TemplateTypes.Proofs.BlockSummary
import TemplateTypes.Proofs.TerminatedLines

/-!
# Block contents — what can stand in a block that was read

Imports, names, types and docstrings are all pieces of lines, so none of them breaks a line or
closes a block.  What else they can and cannot be follows from the kind of line they come from: the
invariant holds of one line that was read, and from there of everything a template declares.
-/

namespace TemplateTypes

/-! ## 1. Pieces of a line -/

/-- Can stand on a line of a block: it ends neither the line nor the block. -/
structure FitsLine (t : Text) : Prop where
  oneLine : Text.OneLine t
  unclosed : Comment.Unclosed t

instance (t : Text) : Decidable (FitsLine t) :=
  decidable_of_iff (Text.OneLine t ∧ Comment.Unclosed t) ⟨fun h => ⟨h.1, h.2⟩, fun h => ⟨h.1, h.2⟩⟩

theorem FitsLine.mono {s t : Text} (h : FitsLine t) (hs : s <:+: t) : FitsLine s :=
  ⟨h.oneLine.mono hs, h.unclosed.mono hs⟩

theorem fitsLine_nil : FitsLine [] :=
  ⟨Text.oneLine_nil, Comment.unclosed_nil⟩

theorem fitsLine_singleton {c : Char} (h : Text.isLineBreak c = false) : FitsLine [c] := by
  refine ⟨?_, Comment.unclosed_cons Comment.unclosed_nil fun _ h => ?_⟩
  · intro d hd
    rwa [List.mem_singleton.1 hd]
  · cases h

/-- Where a character stands between that is not part of a closing marker, none comes about. -/
theorem FitsLine.append_cons {s t : Text} {c : Char} (hs : FitsLine s) (ht : FitsLine t)
    (hb : Text.isLineBreak c = false) (hc : c ≠ '#' ∧ c ≠ '}') : FitsLine (s ++ c :: t) := by
  have ho : Text.OneLine (c :: t) := by
    intro d hd
    rcases List.mem_cons.1 hd with rfl | hd
    · exact hb
    · exact ht.oneLine d hd
  exact ⟨hs.oneLine.append ho, hs.unclosed.append_cons ht.unclosed hc⟩

theorem fitsLine_of_mem_filledLines {interior raw : Text} (hi : Comment.Unclosed interior)
    (h : raw ∈ TypesBlock.filledLines interior) : FitsLine raw := by
  have hl : raw ∈ Text.lines interior := (List.mem_filter.1 h).1
  exact ⟨Text.oneLine_of_mem_lines hl, hi.mono (Text.isInfix_of_mem_lines hl)⟩

/-! ## 2. The contents of one line -/

structure IsImportText (t : Text) : Prop where
  fits : FitsLine t
  trimmed : Text.IsTrimmed t
  isImport : BlockLine.IsImport t

structure IsNameText (t : Text) : Prop where
  fits : FitsLine t
  trimmed : Text.IsTrimmed t
  colon_notMem : ':' ∉ t
  not_isComment : ¬ BlockLine.IsComment t
  not_isImport : ¬ BlockLine.IsImport t

theorem IsNameText.not_isComment_append_colon {n r : Text} (h : IsNameText n) :
    ¬ BlockLine.IsComment (n ++ ':' :: r) := by
  rw [BlockLine.IsComment, Text.isPrefix_append_cons_iff (by decide)]
  exact h.not_isComment

theorem IsNameText.not_isImport_append_colon {n r : Text} (h : IsNameText n) :
    ¬ BlockLine.IsImport (n ++ ':' :: r) := by
  rw [BlockLine.IsImport, Text.isPrefix_append_cons_iff (by decide),
    Text.isPrefix_append_cons_iff (by decide)]
  exact h.not_isImport

structure IsTypeText (t : Text) : Prop where
  fits : FitsLine t
  trimmed : Text.IsTrimmed t
  colon_notMem : ':' ∉ t

structure IsDocText (t : Text) : Prop where
  fits : FitsLine t
  trimmed : Text.IsTrimmed t
  ne_nil : t ≠ []

def BlockLine.IsSound : BlockLine → Prop
  | .importing line => IsImportText line
  | .docstring content => content ≠ [] → IsDocText content
  | .declaring name type => IsNameText name ∧ IsTypeText type ∧ ¬ QuotesMeet name type
  | _ => True

theorem isSound_declaring {line name type : Text} (hf : FitsLine line) (ht : Text.IsTrimmed line)
    (hc : ¬ BlockLine.IsComment line) (hi : ¬ BlockLine.IsImport line)
    (hd : ∀ content, ¬ BlockLine.IsDocstring line content)
    (h : BlockLine.IsDeclaration line name type) :
    (BlockLine.declaring name type).IsSound := by
  obtain ⟨a, b, rfl, ha, hb, rfl, rfl⟩ := h
  have hname : Text.trim a <+: a := ht.isPrefix_trim
  have hline : a ++ ':' :: b = (a ++ [':']) ++ b := by simp
  have htype : Text.trim b <:+ b := by
    rw [hline] at ht
    exact ht.isSuffix_trim
  have hprefix : Text.trim a <+: a ++ ':' :: b := hname.trans (List.prefix_append a _)
  refine ⟨⟨hf.mono hprefix.isInfix, Text.isTrimmed_trim a, fun h => ha (hname.subset h),
    fun h => hc (List.IsPrefix.trans h hprefix), ?_⟩,
    ⟨?_, Text.isTrimmed_trim b, fun h => hb (htype.subset h)⟩, ?_⟩
  · rintro (h | h)
    · exact hi (.inl (h.trans hprefix))
    · exact hi (.inr (h.trans hprefix))
  · rw [hline] at hf
    exact hf.mono (htype.trans (List.suffix_append _ b)).isInfix
  · -- Quotes at both ends would make a docstring of the whole line.
    intro hq
    obtain ⟨content, hcontent⟩ := BlockLine.exists_isDocstring_iff.2 (hq.mono hname htype)
    exact hd content hcontent

theorem BlockLine.Reads.isSound {raw : Text} {l : BlockLine} (h : Reads raw l)
    (hf : FitsLine raw) : l.IsSound := by
  have hft : FitsLine (Text.trim raw) := hf.mono (Text.isInfix_trim raw)
  have ht : Text.IsTrimmed (Text.trim raw) := Text.isTrimmed_trim raw
  cases h with
  | importing hc hi => exact ⟨hft, ht, hi⟩
  | docstring hc hi hd =>
    obtain ⟨q, body, -, hl, rfl⟩ := hd
    intro hn
    refine ⟨hft.mono ?_, Text.isTrimmed_trim body, hn⟩
    rw [hl]
    exact (Text.isInfix_trim body).trans ⟨_, _, rfl⟩
  | declaring hc hi hd h => exact isSound_declaring hft ht hc hi hd h
  | _ => trivial

/-! ## 3. The contents of a template -/

theorem TypesBlock.ReadsAs.isSound {document : Text} {ls : List BlockLine}
    (h : TypesBlock.ReadsAs document ls) : ∀ l ∈ ls, l.IsSound := by
  obtain ⟨interior, hi, rfl⟩ := TypesBlock.readsAs_iff.1 h
  -- The block ends at the first closing marker, so none is left for a line to hold.
  have hu : Comment.Unclosed interior := Comment.unclosed_of_first? hi
  intro l hl
  obtain ⟨raw, hr, rfl⟩ := List.mem_map.1 hl
  exact (BlockLine.reads_ofRaw raw).isSound (fitsLine_of_mem_filledLines hu hr)

theorem Attached.isDocText {ls before after : List BlockLine} {doc : Text}
    (hls : ∀ l ∈ ls, l.IsSound) (hb : ls = before ++ after) (h : Attached before doc) :
    IsDocText doc := by
  obtain ⟨hn, earlier, between, rfl, -⟩ := h
  exact hls (.docstring doc) (by simp [hb]) hn

/-- A stored value with what it was put together from. -/
structure IsDeclared (document name value type : Text) (doc? : Option Text) : Prop where
  value_eq : value = withDoc type doc?
  isName : IsNameText name
  isType : IsTypeText type
  quotes : ¬ BlockLine.QuotesMeet name type
  isDoc : ∀ doc ∈ doc?, IsDocText doc
  place : ∃ ls before, TypesBlock.ReadsAs document ls ∧ LastDeclares ls before name type ∧
    ∀ doc, doc? = some doc ↔ Attached before doc

theorem isDeclared_of_lastDeclares {document name type : Text} {ls before : List BlockLine}
    (hr : TypesBlock.ReadsAs document ls) (hl : LastDeclares ls before name type) :
    IsDeclared document name (withDoc type (before.foldl BlockLine.passOn none)) type
      (before.foldl BlockLine.passOn none) := by
  have hsound := hr.isSound
  -- The declaring line and the docstring are both lines that were read, so both are sound.
  obtain ⟨after, hls, -⟩ := id hl
  have hdecl : (BlockLine.declaring name type).IsSound := hsound _ (by simp [hls])
  refine ⟨rfl, hdecl.1, hdecl.2.1, hdecl.2.2, ?_, ls, before, hr, hl,
    fun doc => foldl_passOn_eq_some_iff⟩
  intro doc hd
  exact (foldl_passOn_eq_some_iff.1 hd).isDocText hsound hls

theorem get?_of_lastDeclares {document name type : Text} {ls before : List BlockLine}
    (hr : TypesBlock.ReadsAs document ls) (hl : LastDeclares ls before name type) :
    (TypesBlock.ofDocument document).annotations.get? name =
      some (withDoc type (before.foldl BlockLine.passOn none)) := by
  rw [TypesBlock.ofDocument_of_readsAs hr]
  exact get?_ofList_declarations_iff.2 ⟨before, type, hl, isStored_iff.2 rfl⟩

theorem exists_isDeclared {document : Text} {e : Text × Text}
    (h : e ∈ (TypesBlock.ofDocument document).annotations.entries) :
    ∃ type doc?, IsDeclared document e.1 e.2 type doc? := by
  obtain ⟨name, value⟩ := e
  rw [← Dictionary.get?_eq_some_iff_mem] at h
  rcases TypesBlock.readsAs_or_eq_empty document with ⟨ls, hr⟩ | he
  · have hs := TypesBlock.isSummary_ofLines ls
    rw [← TypesBlock.ofDocument_of_readsAs hr] at hs
    obtain ⟨before, type, hl, hv⟩ := (hs.values name value).1 h
    have hd := isDeclared_of_lastDeclares hr hl
    rw [← isStored_iff.1 hv] at hd
    exact ⟨type, _, hd⟩
  · rw [he] at h
    cases h

theorem isNameText_of_mem_entries {document : Text} {e : Text × Text}
    (h : e ∈ (TypesBlock.ofDocument document).annotations.entries) : IsNameText e.1 := by
  obtain ⟨type, doc?, hd⟩ := exists_isDeclared h
  exact hd.isName

theorem isImportText_of_mem_imports {document line : Text}
    (h : line ∈ (TypesBlock.ofDocument document).imports) : IsImportText line := by
  rcases TypesBlock.readsAs_or_eq_empty document with ⟨ls, hr⟩ | he
  · rw [TypesBlock.ofDocument_of_readsAs hr] at h
    obtain ⟨l, hl, hi⟩ := List.mem_filterMap.1 h
    cases l with
    | importing line => cases hi; exact hr.isSound _ hl
    | _ => cases hi
  · rw [he] at h
    cases h

theorem withDoc_some (type doc : Text) :
    withDoc type (some doc) = type ++ ' ' :: ' ' :: '#' :: ' ' :: doc := by
  rw [withDoc, List.append_assoc]
  rfl

theorem IsDeclared.fitsLine {document name value type : Text} {doc? : Option Text}
    (h : IsDeclared document name value type doc?) : FitsLine value := by
  rw [h.value_eq]
  cases hd : doc? with
  | none => exact h.isType.fits
  | some doc =>
    have hdoc : FitsLine doc := (h.isDoc doc hd).fits
    -- The hash of the separator has a blank behind it, so it cannot begin a closing marker.
    have hmark : FitsLine (['#'] ++ ' ' :: doc) :=
      (fitsLine_singleton (by decide)).append_cons hdoc (by decide) (by decide)
    have hsep : FitsLine ([] ++ ' ' :: '#' :: ' ' :: doc) :=
      fitsLine_nil.append_cons hmark (by decide) (by decide)
    rw [withDoc_some]
    exact h.isType.fits.append_cons hsep (by decide) (by decide)

/-! ## 4. Docstrings -/

/-- The template keeps `doc` as the docstring of `name`, behind the type `type`. -/
def Documented (document name type doc : Text) : Prop :=
  ∃ ls before, TypesBlock.ReadsAs document ls ∧ LastDeclares ls before name type ∧
    Attached before doc

theorem Documented.mem_entries {document name type doc : Text}
    (h : Documented document name type doc) :
    (name, withDoc type (some doc)) ∈ (TypesBlock.ofDocument document).annotations.entries ∧
      IsTypeText type := by
  obtain ⟨ls, before, hr, hl, ha⟩ := h
  rw [← foldl_passOn_eq_some_iff] at ha
  have hget := get?_of_lastDeclares hr hl
  rw [ha] at hget
  exact ⟨Dictionary.get?_eq_some_iff_mem.1 hget, (isDeclared_of_lastDeclares hr hl).isType⟩

theorem Documented.mem_lines {document name type doc : Text} {ls : List BlockLine}
    (h : Documented document name type doc) (hr : TypesBlock.ReadsAs document ls) :
    .docstring doc ∈ ls ∧ .declaring name type ∈ ls := by
  obtain ⟨ks, before, hk, ⟨after, hls, -⟩, -, earlier, between, hb, -⟩ := h
  rw [← hk.unique hr, hls, hb]
  simp

theorem documented_of_isDeclared {document name value type doc : Text}
    (h : IsDeclared document name value type (some doc)) : Documented document name type doc := by
  obtain ⟨ls, before, hr, hl, ha⟩ := h.place
  exact ⟨ls, before, hr, hl, (ha doc).1 rfl⟩

end TemplateTypes
