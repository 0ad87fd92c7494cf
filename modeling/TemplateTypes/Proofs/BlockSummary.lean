import Mathlib.Data.List.Forall2
import TemplateTypes.Proofs.Attachment
import TemplateTypes.Proofs.CommentBlocks
import TemplateTypes.Proofs.LineKinds

/-!
# Block summaries — a types block from the places of its lines

Main statement: reading a template gives exactly the block whose imports and malformed lines stand
in the order of the lines, whose names stand where each was declared first, and whose values are
decided by the line that declares each name last and by the docstring attached there.
-/

namespace TemplateTypes

namespace BlockLine

/-- Blank lines and comments tell nothing. -/
def isSilent : BlockLine → Bool
  | .blank => true
  | .comment => true
  | _ => false

theorem import?_of_isSilent {l : BlockLine} (h : l.isSilent = true) : l.import? = none := by
  cases l with
  | importing line => cases h
  | _ => rfl

theorem malformed?_of_isSilent {l : BlockLine} (h : l.isSilent = true) : l.malformed? = none := by
  cases l with
  | malformed raw => cases h
  | _ => rfl

end BlockLine

namespace TypesBlock

/-- The lines of an interior on which something stands. -/
def filledLines (interior : Text) : List Text :=
  (Text.lines interior).filter fun raw => Text.trim raw ≠ []

/-- The filled lines of the first types block; there are none without a block. -/
def blockLines (document : Text) : List Text :=
  ((interior? document).map filledLines).getD []

/-- The filled lines of the first types block are, one by one, of the kinds `ls`. -/
def ReadsAs (document : Text) (ls : List BlockLine) : Prop :=
  ∃ interior, interior? document = some interior ∧
    List.Forall₂ BlockLine.Reads (filledLines interior) ls

structure IsSummary (ls : List BlockLine) (b : TypesBlock) : Prop where
  imports : b.imports = ls.filterMap BlockLine.import?
  malformed : b.malformed = ls.filterMap BlockLine.malformed?
  names : b.annotations.names = (ls.filterMap BlockLine.declaredName?).eraseDups
  values : ∀ name value, b.annotations.get? name = some value ↔
    ∃ before type, LastDeclares ls before name type ∧ IsStored before type value

/-! ## 1. Silent lines -/

/-- A reading does not miss the lines that give it nothing. -/
theorem filterMap_filter_of_eq_none {α β : Type} {f : α → Option β} {p : α → Bool}
    (h : ∀ l, p l = false → f l = none) (ls : List α) :
    (ls.filter p).filterMap f = ls.filterMap f := by
  rw [List.filterMap_filter]
  apply List.filterMap_congr
  intro l _
  cases hp : p l with
  | true => rw [if_pos rfl]
  | false => rw [if_neg (by decide), h l hp]

theorem declarations_filter {p : BlockLine → Bool} (hp : ∀ l, p l = false → l.isSilent = true)
    (pending : Option Text) (ls : List BlockLine) :
    declarations pending (ls.filter p) = declarations pending ls := by
  induction ls generalizing pending with
  | nil => rfl
  | cons l ls ih =>
    cases hpl : p l with
    | true => rw [List.filter_cons_of_pos hpl, declarations_cons, declarations_cons, ih]
    | false =>
      -- A silent line declares nothing and passes on what waits.
      have hl := hp l hpl
      rw [List.filter_cons_of_neg (by simp [hpl]), ih, declarations_cons]
      cases l with
      | blank => rfl
      | comment => rfl
      | _ => cases hl

theorem ofLines_filter {p : BlockLine → Bool} (hp : ∀ l, p l = false → l.isSilent = true)
    (ls : List BlockLine) : ofLines (ls.filter p) = ofLines ls := by
  have hi : (ls.filter p).filterMap BlockLine.import? = ls.filterMap BlockLine.import? := by
    apply filterMap_filter_of_eq_none
    intro l hl
    exact BlockLine.import?_of_isSilent (hp l hl)
  have hm : (ls.filter p).filterMap BlockLine.malformed? = ls.filterMap BlockLine.malformed? := by
    apply filterMap_filter_of_eq_none
    intro l hl
    exact BlockLine.malformed?_of_isSilent (hp l hl)
  rw [ofLines, ofLines, hi, hm, declarations_filter hp]

theorem ofRaw_eq_blank_iff {raw : Text} : BlockLine.ofRaw raw = .blank ↔ Text.trim raw = [] := by
  rw [BlockLine.ofRaw_eq_iff, Text.trim_eq_nil_iff]
  constructor
  · rintro ⟨h⟩
    exact h
  · exact .blank

theorem ofInterior_eq (interior : Text) :
    ofInterior interior = ofLines ((filledLines interior).map BlockLine.ofRaw) := by
  have hf : (filledLines interior).map BlockLine.ofRaw =
      ((Text.lines interior).map BlockLine.ofRaw).filter (· ≠ .blank) := by
    rw [List.filter_map, filledLines]
    congr 1
    apply List.filter_congr
    intro raw _
    rw [Function.comp_apply, decide_eq_decide, not_iff_not, ofRaw_eq_blank_iff]
  have hp : ∀ l : BlockLine, decide (l ≠ .blank) = false → l.isSilent = true := by
    intro l hl
    have hblank : l = .blank := by simpa using hl
    rw [hblank]
    rfl
  rw [hf, ofLines_filter hp, ofInterior]

/-! ## 2. The summary of a list of lines -/

theorem forall₂_reads_iff {raws : List Text} {ls : List BlockLine} :
    List.Forall₂ BlockLine.Reads raws ls ↔ ls = raws.map BlockLine.ofRaw := by
  constructor
  · intro h
    induction h with
    | nil => rfl
    | cons hr _ ih => rw [List.map_cons, ih, BlockLine.ofRaw_eq_iff.2 hr]
  · rintro rfl
    rw [List.forall₂_map_right_iff, List.forall₂_same]
    intro raw _
    exact BlockLine.reads_ofRaw raw

theorem isSummary_ofLines (ls : List BlockLine) : IsSummary ls (ofLines ls) where
  imports := rfl
  malformed := rfl
  names := by
    rw [ofLines, Dictionary.names_ofList, map_fst_declarations]
  values := fun _ _ => get?_ofList_declarations_iff

/-- A summary leaves nothing open. -/
theorem IsSummary.eq_ofLines {ls : List BlockLine} {b : TypesBlock} (h : IsSummary ls b) :
    b = ofLines ls := by
  -- Both are summaries of the same lines, and names and values make up a dictionary.
  have h' := isSummary_ofLines ls
  obtain ⟨imports, annotations, malformed⟩ := b
  have ha : annotations = (ofLines ls).annotations := by
    apply Dictionary.ext_names_get?
    · exact h.names.trans h'.names.symm
    · intro n v
      exact (h.values n v).trans (h'.values n v).symm
  rw [ofLines, mk.injEq]
  exact ⟨h.imports, ha, h.malformed⟩

theorem readsAs_iff {document : Text} {ls : List BlockLine} :
    ReadsAs document ls ↔ ∃ interior, interior? document = some interior ∧
      ls = (filledLines interior).map BlockLine.ofRaw := by
  simp only [ReadsAs, forall₂_reads_iff]

theorem ReadsAs.unique {document : Text} {ks ls : List BlockLine} (hk : ReadsAs document ks)
    (hl : ReadsAs document ls) : ks = ls := by
  obtain ⟨interior, hi, rfl⟩ := readsAs_iff.1 hk
  obtain ⟨interior', hi', rfl⟩ := readsAs_iff.1 hl
  rw [hi, Option.some.injEq] at hi'
  rw [hi']

theorem ofDocument_of_readsAs {document : Text} {ls : List BlockLine} (h : ReadsAs document ls) :
    ofDocument document = ofLines ls := by
  obtain ⟨interior, hi, rfl⟩ := readsAs_iff.1 h
  rw [ofDocument, hi, ← ofInterior_eq]

/-! ## 3. The summary of a template -/

theorem ofDocument_eq_ofLines (document : Text) :
    ofDocument document = ofLines ((blockLines document).map BlockLine.ofRaw) := by
  rw [ofDocument, blockLines]
  cases interior? document with
  | none => rfl
  | some interior => exact ofInterior_eq interior

theorem isVisible_label : Comment.IsVisible label := ⟨'@', rfl, by decide⟩

theorem interior?_eq_none_iff {document : Text} :
    interior? document = none ↔ ¬ Comment.HasBlock label document :=
  Comment.first?_eq_none_iff isVisible_label

theorem exists_readsAs_iff {document : Text} :
    (∃ ls, ReadsAs document ls) ↔ Comment.HasBlock label document := by
  constructor
  · rintro ⟨ls, interior, hi, -⟩
    by_contra h
    rw [interior?_eq_none_iff.2 h] at hi
    cases hi
  · intro h
    cases hi : interior? document with
    | none => exact absurd h (interior?_eq_none_iff.1 hi)
    | some interior => exact ⟨_, readsAs_iff.2 ⟨interior, hi, rfl⟩⟩

theorem ofDocument_of_not_hasBlock {document : Text} (h : ¬ Comment.HasBlock label document) :
    ofDocument document = empty := by
  rw [ofDocument, interior?_eq_none_iff.2 h]

theorem readsAs_or_eq_empty (document : Text) :
    (∃ ls, ReadsAs document ls) ∨ ofDocument document = empty := by
  rw [exists_readsAs_iff, or_iff_not_imp_left]
  exact ofDocument_of_not_hasBlock

/-- A template that is nothing but a types block. -/
def asDocument (interior : Text) : Text :=
  ['{', '#', ' '] ++ label ++ ['\n'] ++ interior ++ ['#', '}']

theorem interior?_asDocument {t : Text} (h : Comment.Unclosed t) :
    interior? (asDocument t) = some ('\n' :: t) := by
  have hd : asDocument t = '{' :: '#' :: ([' '] ++ (label ++ (('\n' :: t) ++
      (Comment.closingMarker ++ [])))) := by
    simp [asDocument, Comment.closingMarker]
  have hb : Text.AllBlank [' '] := Text.allBlank_spaces 1
  have hu : Comment.Unclosed ([] ++ '\n' :: t) :=
    Comment.unclosed_nil.append_cons h (by decide)
  rw [interior?, hd]
  exact Comment.first?_of_block? (Comment.block?_append isVisible_label hb hu [])

theorem ofDocument_eq_iff_isSummary (document : Text) (b : TypesBlock) :
    ofDocument document = b ↔
      (∃ ls, ReadsAs document ls ∧ IsSummary ls b) ∨
        (¬ Comment.HasBlock label document ∧ b = ⟨[], .empty, []⟩) := by
  constructor
  · rintro rfl
    by_cases h : Comment.HasBlock label document
    · obtain ⟨ls, hr⟩ := exists_readsAs_iff.2 h
      refine .inl ⟨ls, hr, ?_⟩
      rw [ofDocument_of_readsAs hr]
      exact isSummary_ofLines ls
    · exact .inr ⟨h, ofDocument_of_not_hasBlock h⟩
  · rintro (⟨ls, hr, hs⟩ | ⟨h, rfl⟩)
    · rw [ofDocument_of_readsAs hr, hs.eq_ofLines]
    · exact ofDocument_of_not_hasBlock h

/-- An import does not come between a docstring and its declaration; a name declared again keeps its
place and loses its docstring. -/
example : ofDocument (asDocument
      "\"\"\"d\"\"\"\nimport os\na: int\n\"\"\"e\"\"\"\nb: str\noops\na: bool\n".toList) =
    ⟨["import os".toList], .ofList [("a".toList, "bool".toList), ("b".toList, "str  # e".toList)],
      ["oops".toList]⟩ := by
  decide +kernel

end TypesBlock

end TemplateTypes
