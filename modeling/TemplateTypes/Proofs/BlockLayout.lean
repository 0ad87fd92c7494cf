import TemplateTypes.Proofs.BlockContents
import TemplateTypes.Proofs.BlockGrammar

/-!
# Block layout — the many ways to write the lines of a types block

The lines of a block can be written with any blanks around them, with any line ends, and with blank
rows and comments between them.  A carriage return can even take the line end of an empty row away.
What each row tells is not touched by this, and rows that tell nothing may come and go.  Main
statement: two layouts of the same lines declare the same, and their malformed lines differ only by
the blanks around them.
-/

namespace TemplateTypes

/-! ## 1. Layouts -/

/-- White space that ends no line. -/
structure IsMargin (a : Text) : Prop where
  blank : Text.AllBlank a
  oneLine : Text.OneLine a

instance (a : Text) : Decidable (IsMargin a) :=
  decidable_of_iff (Text.AllBlank a ∧ Text.OneLine a) ⟨fun h => ⟨h.1, h.2⟩, fun h => ⟨h.1, h.2⟩⟩

/-- A row that shows a line, with a margin on both sides, or one that shows none because it is blank
or a comment. -/
inductive IsRow : Option Text → Text → Prop
  | line {a b l : Text} (ha : IsMargin a) (hb : IsMargin b) : IsRow (some l) (a ++ l ++ b)
  | blank {a : Text} (ha : IsMargin a) : IsRow none a
  | comment {a l : Text} (ha : IsMargin a) (hl : FitsLine ('#' :: l)) : IsRow none (a ++ '#' :: l)

/-- The text shows the lines in order, row by row.  Every row but the last has a line end behind it;
where a line end comes last, the last row is empty. -/
inductive IsLayout : List Text → Text → Prop
  | last {l? : Option Text} {row : Text} (hr : IsRow l? row) : IsLayout l?.toList row
  | row {l? : Option Text} {row e : Text} {ls : List Text} {rest : Text} (hr : IsRow l? row)
      (he : Text.IsLineEnd e) (h : IsLayout ls rest) :
      IsLayout (l?.toList ++ ls) (row ++ (e ++ rest))

/-- The first types block of the template is a layout of the lines. -/
def LaysOut (document : Text) (ls : List Text) : Prop :=
  ∃ before interior after, IsLayout ls interior ∧
    Comment.IsEarliest TypesBlock.label document before
      (interior ++ (Comment.closingMarker ++ after))

/-! ## 2. A layout does not close its block -/

theorem IsMargin.notMem {a : Text} {c : Char} (h : IsMargin a) (hc : Text.isBlank c = false) :
    c ∉ a := by
  intro hm
  rw [h.blank c hm] at hc
  cases hc

theorem IsMargin.fitsLine {a : Text} (h : IsMargin a) : FitsLine a :=
  ⟨h.oneLine, fun hc => h.notMem (by decide) (hc.subset (List.mem_cons_self (a := '#')))⟩

theorem FitsLine.append {s t : Text} (hs : FitsLine s) (ht : FitsLine t)
    (hm : '#' ∈ s.getLast? → '}' ∉ t.head?) : FitsLine (s ++ t) :=
  ⟨hs.oneLine.append ht.oneLine, hs.unclosed.append ht.unclosed hm⟩

theorem FitsLine.margin_append {a t : Text} (ht : FitsLine t) (ha : IsMargin a) :
    FitsLine (a ++ t) :=
  ha.fitsLine.append ht fun hm => absurd (List.mem_of_mem_getLast? hm) (ha.notMem (by decide))

theorem FitsLine.append_margin {t b : Text} (ht : FitsLine t) (hb : IsMargin b) :
    FitsLine (t ++ b) :=
  ht.append hb.fitsLine fun _ hm => hb.notMem (by decide) (List.mem_of_mem_head? hm)

theorem IsRow.fitsLine {l? : Option Text} {row : Text} (h : IsRow l? row)
    (hl : ∀ l ∈ l?.toList, FitsLine l) : FitsLine row := by
  cases h with
  | line ha hb => exact ((hl _ List.mem_cons_self).margin_append ha).append_margin hb
  | blank ha => exact ha.fitsLine
  | comment ha hc => exact hc.margin_append ha

/-- A line end is no part of a closing marker, so none comes about around it. -/
theorem Comment.Unclosed.append_lineEnd {s e t : Text} (hs : Unclosed s) (he : Text.IsLineEnd e)
    (ht : Unclosed t) : Unclosed (s ++ (e ++ t)) := by
  rcases he with rfl | ⟨c, hc, rfl⟩
  · have hfeed : Unclosed ([] ++ '\n' :: t) := unclosed_nil.append_cons ht (by decide)
    exact hs.append_cons hfeed (by decide)
  · refine hs.append_cons ht ⟨?_, ?_⟩
    · rintro rfl
      exact absurd hc (by decide)
    · rintro rfl
      exact absurd hc (by decide)

theorem IsLayout.unclosed {ls : List Text} {t : Text} (h : IsLayout ls t)
    (hls : ∀ l ∈ ls, FitsLine l) : Comment.Unclosed t := by
  induction h with
  | last hr => exact (hr.fitsLine hls).unclosed
  | row hr he _ ih =>
    rw [List.forall_mem_append] at hls
    exact (hr.fitsLine hls.1).unclosed.append_lineEnd he (ih hls.2)

theorem LaysOut.exists_interior? {document : Text} {ls : List Text} (h : LaysOut document ls)
    (hls : ∀ l ∈ ls, FitsLine l) :
    ∃ interior, TypesBlock.interior? document = some interior ∧ IsLayout ls interior := by
  obtain ⟨before, interior, after, hlayout, hfirst⟩ := h
  refine ⟨interior, ?_, hlayout⟩
  rw [TypesBlock.interior?, hfirst.first?_eq TypesBlock.isVisible_label (by decide),
    Comment.cutClosing?_append (hlayout.unclosed hls)]
  rfl

/-! ## 3. Readings without margins -/

/-- The kind of a line whose raw form does not matter. -/
def BlockLine.trimmed : BlockLine → BlockLine
  | .malformed raw => .malformed (Text.trim raw)
  | l => l

def TypesBlock.trimmed (b : TypesBlock) : TypesBlock :=
  { b with malformed := b.malformed.map Text.trim }

/-- Only a malformed line remembers its margins. -/
theorem BlockLine.ofRaw_trim (raw : Text) : ofRaw (Text.trim raw) = (ofRaw raw).trimmed := by
  rw [ofRaw, ofRaw, (Text.isTrimmed_trim raw).trim_eq]
  split
  · rfl
  split
  · rfl
  split
  · rfl
  split
  · rfl
  split <;> rfl

theorem declarations_map_trimmed (pending : Option Text) (ls : List BlockLine) :
    declarations pending (ls.map BlockLine.trimmed) = declarations pending ls := by
  induction ls generalizing pending with
  | nil => rfl
  | cons l ls ih =>
    rw [List.map_cons, declarations_cons, declarations_cons, ih]
    cases l <;> rfl

theorem TypesBlock.ofLines_map_trimmed (ls : List BlockLine) :
    ofLines (ls.map BlockLine.trimmed) = (ofLines ls).trimmed := by
  -- Each of the three readings of a line either keeps its margins out or is trimmed afterwards.
  have hi : (ls.map BlockLine.trimmed).filterMap BlockLine.import? =
      ls.filterMap BlockLine.import? := by
    rw [List.filterMap_map]
    apply List.filterMap_congr
    intro l _
    cases l <;> rfl
  have hm : (ls.map BlockLine.trimmed).filterMap BlockLine.malformed? =
      (ls.filterMap BlockLine.malformed?).map Text.trim := by
    rw [List.filterMap_map, List.map_filterMap]
    apply List.filterMap_congr
    intro l _
    cases l <;> rfl
  rw [ofLines, hi, hm, declarations_map_trimmed]
  rfl

/-! ## 4. What the rows tell -/

/-- Something other than white space or a comment stands on the line. -/
def tells (raw : Text) : Bool :=
  !(BlockLine.ofRaw (Text.trim raw)).isSilent

/-- What the lines tell, whatever their margins are. -/
def readings (raws : List Text) : List BlockLine :=
  (raws.filter tells).map fun raw => BlockLine.ofRaw (Text.trim raw)

theorem readings_append (raws raws' : List Text) :
    readings (raws ++ raws') = readings raws ++ readings raws' := by
  rw [readings, List.filter_append, List.map_append]
  rfl

theorem ofLines_readings (raws : List Text) :
    TypesBlock.ofLines (readings raws) =
      TypesBlock.ofLines (raws.map fun raw => BlockLine.ofRaw (Text.trim raw)) := by
  have hfilter : readings raws =
      (raws.map fun raw => BlockLine.ofRaw (Text.trim raw)).filter fun l => !l.isSilent := by
    rw [List.filter_map]
    rfl
  rw [hfilter, TypesBlock.ofLines_filter]
  intro l hl
  simpa using hl

theorem trimmed_ofInterior (interior : Text) :
    (TypesBlock.ofInterior interior).trimmed =
      TypesBlock.ofLines (readings (Text.lines interior)) := by
  rw [ofLines_readings, TypesBlock.ofInterior, ← TypesBlock.ofLines_map_trimmed, List.map_map]
  congr 1
  apply List.map_congr_left
  intro raw _
  exact (BlockLine.ofRaw_trim raw).symm

theorem readings_singleton_of_trim_eq {raw raw' : Text} (h : Text.trim raw = Text.trim raw') :
    readings [raw] = readings [raw'] := by
  have hp : tells raw = tells raw' := by rw [tells, tells, h]
  cases ht : tells raw' with
  | true => simp [readings, hp, ht, h]
  | false => simp [readings, hp, ht]

theorem readings_singleton_of_isSilent {raw : Text}
    (h : (BlockLine.ofRaw (Text.trim raw)).isSilent = true) : readings [raw] = [] := by
  rw [readings, List.filter_cons_of_neg (by simp [tells, h])]
  rfl

/-- One row tells what its line tells. -/
theorem IsRow.readings_eq {l? : Option Text} {row : Text} (h : IsRow l? row) :
    readings [row] = readings l?.toList := by
  cases h with
  | @line a b l ha hb =>
    apply readings_singleton_of_trim_eq
    rw [Text.trim_append_blanks hb.blank, Text.trim_blanks_append ha.blank]
  | blank ha =>
    apply readings_singleton_of_isSilent
    rw [Text.trim_eq_nil_iff.2 ha.blank]
    rfl
  | @comment a l ha hl =>
    apply readings_singleton_of_isSilent
    have hc : BlockLine.Reads (a ++ '#' :: l) .comment := by
      apply BlockLine.Reads.comment
      rw [Text.trim_blanks_append ha.blank]
      exact Text.isPrefix_trim_cons (by decide) l
    rw [BlockLine.ofRaw_trim, hc.ofRaw_eq]
    rfl

/-- A whole layout tells what its lines tell, row by row. -/
theorem IsLayout.readings_eq {ls : List Text} {t : Text} (h : IsLayout ls t)
    (hls : ∀ l ∈ ls, FitsLine l) : readings (Text.lines t) = readings ls := by
  have hnil : tells [] = false := by decide
  induction h with
  | @last l? row hr =>
    rw [← hr.readings_eq, readings, readings,
      Text.filter_lines_of_oneLine hnil (hr.fitsLine hls).oneLine]
  | @row l? row e ls rest hr he _ ih =>
    rw [List.forall_mem_append] at hls
    have hrow : Text.OneLine row := (hr.fitsLine hls.1).oneLine
    -- The line end may close an empty row of the rest as well, which tells nothing.
    rw [readings_append, ← ih hls.2, ← hr.readings_eq, readings, readings, readings,
      Text.filter_lines_append_lineEnd hnil hrow he, List.map_append]

/-! ## 5. The block of a layout -/

theorem LaysOut.trimmed_ofDocument {document : Text} {ls : List Text} (h : LaysOut document ls)
    (hls : ∀ l ∈ ls, FitsLine l) :
    (TypesBlock.ofDocument document).trimmed =
      TypesBlock.ofLines (ls.map fun l => BlockLine.ofRaw (Text.trim l)) := by
  obtain ⟨interior, hi, hlayout⟩ := h.exists_interior? hls
  rw [TypesBlock.ofDocument, hi, ← ofLines_readings, ← hlayout.readings_eq hls]
  exact trimmed_ofInterior interior

theorem ofDocument_eq_of_laysOut {document other : Text} {ls : List Text}
    (hls : ∀ l ∈ ls, FitsLine l) (h : LaysOut document ls) (h' : LaysOut other ls) :
    (TypesBlock.ofDocument document).imports = (TypesBlock.ofDocument other).imports ∧
      (TypesBlock.ofDocument document).annotations =
        (TypesBlock.ofDocument other).annotations ∧
      (TypesBlock.ofDocument document).malformed.map Text.trim =
        (TypesBlock.ofDocument other).malformed.map Text.trim ∧
      (TypesBlock.ofDocument document).trimmed =
        TypesBlock.ofLines (ls.map fun l => BlockLine.ofRaw (Text.trim l)) := by
  have heq : (TypesBlock.ofDocument document).trimmed = (TypesBlock.ofDocument other).trimmed := by
    rw [h.trimmed_ofDocument hls, h'.trimmed_ofDocument hls]
  obtain ⟨hi, ha, hm⟩ := (TypesBlock.mk.injEq ..).mp heq
  exact ⟨hi, ha, hm, h.trimmed_ofDocument hls⟩

/-- One layout is plain.  The other has a marker on two lines, a carriage return that takes the line
end of an empty row, a comment that ends in a hash, and no line end in front of the closing
marker. -/
theorem ofDocument_eq_of_laysOut_mixed :
    let ls := ["x: int".toList, "oops".toList]
    let document := "\x7b# @types\nx: int\noops\n#\x7d".toList
    let other := "\x7b#\u2028@types \r\n# a #\u0085\tx: int \r\n  oops#\x7d".toList
    (∀ l ∈ ls, FitsLine l) ∧ LaysOut document ls ∧ LaysOut other ls ∧
      (TypesBlock.ofDocument document).malformed = ["oops".toList] ∧
      (TypesBlock.ofDocument other).malformed = ["  oops".toList] ∧
      (TypesBlock.ofDocument document).annotations =
        (TypesBlock.ofDocument other).annotations ∧
      (TypesBlock.ofDocument document).annotations.get? "x".toList = some "int".toList := by
  intro ls document other
  have hls : ∀ l ∈ ls, FitsLine l := by decide +kernel
  have hm : ∀ a ∈ [[], [' '], [' ', ' '], ['\t']], IsMargin a := by decide +kernel
  have hnone : IsRow none [] := .blank (hm [] (by decide))
  have hend : ∀ c, Text.isLineBreak c = true → Text.IsLineEnd [c] := fun c hc => .inr ⟨c, hc, rfl⟩
  have hplain : ∀ l : Text, IsRow (some l) ([] ++ l ++ []) := fun l =>
    .line (hm [] (by decide)) (hm [] (by decide))
  have h : LaysOut document ls :=
    ⟨[], _, [], .row hnone (hend '\n' (by decide)) (.row (hplain _) (hend '\n' (by decide))
        (.row (hplain _) (hend '\n' (by decide)) (.last hnone))),
      ⟨[' '], Text.allBlank_spaces 1, by decide +kernel⟩, fun _ _ _ => Nat.zero_le _⟩
  have h' : LaysOut other ls :=
    ⟨[], _, [], .row (.blank (hm [' '] (by decide))) (hend '\r' (by decide))
        (.row hnone (hend '\n' (by decide))
          (.row (.comment (l := " a #".toList) (hm [] (by decide)) (by decide +kernel))
            (hend '\u0085' (by decide))
            (.row (.line (hm ['\t'] (by decide)) (hm [' '] (by decide))) (.inl rfl)
              (.last (.line (hm [' ', ' '] (by decide)) (hm [] (by decide))))))),
      ⟨['\u2028'], by decide +kernel, by decide +kernel⟩, fun _ _ _ => Nat.zero_le _⟩
  exact ⟨hls, h, h', by decide +kernel, by decide +kernel,
    (ofDocument_eq_of_laysOut hls h h').2.1, by decide +kernel⟩

end TemplateTypes
