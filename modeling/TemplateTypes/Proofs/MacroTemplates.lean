import TemplateTypes.Proofs.BlockContents
import TemplateTypes.Proofs.BlockSeams
import TemplateTypes.Proofs.SignatureLines

/-!
# Macro templates — templates written from descriptions of callables

A template describes callables in blocks of their own, with any other text between the blocks and
with blocks in between that describe nothing.  A search for blocks passes over text that opens no
comment, comes out behind each block at its first closing marker, and so sees the blocks one by one;
what looks like a marker inside a block is part of its interior.  Main statement: reading the
template gives back the descriptions, in order and complete.
-/

namespace TemplateTypes

namespace Comment

/-! ## 1. Text without comments -/

/-- No comment opens in the text. -/
def IsPlain (t : Text) : Prop := ¬ ['{', '#'] <:+: t

instance (t : Text) : Decidable (IsPlain t) := inferInstanceAs (Decidable (¬ ['{', '#'] <:+: t))

theorem afterMarker?_eq_none_of_isPlain_append {label t r : Text} (ht : IsPlain t) (hn : t ≠ [])
    (hr : '#' ∉ r.head?) : afterMarker? label (t ++ r) = none := by
  rw [Option.eq_none_iff_forall_ne_some]
  intro s hs
  obtain ⟨w, -, heq⟩ := eq_of_afterMarker? hs
  -- The first character of the marker lies in the plain text, so the second one follows it.
  cases t with
  | nil => exact hn rfl
  | cons c t =>
    obtain ⟨hc, hrest⟩ := List.cons.inj heq
    subst hc
    cases t with
    | nil =>
      apply hr
      rw [show r = '#' :: (w ++ (label ++ s)) from hrest]
      rfl
    | cons d t =>
      obtain ⟨hd, -⟩ := List.cons.inj hrest
      subst hd
      exact ht ⟨[], t, rfl⟩

theorem interiors_append_of_isPlain {label t r : Text} (ht : IsPlain t) (hr : '#' ∉ r.head?) :
    interiors label (t ++ r) = interiors label r := by
  induction t with
  | nil => rfl
  | cons c t ih =>
    have htail : IsPlain t := fun h => ht (h.trans (List.suffix_cons c t).isInfix)
    -- What opens at `c` would open in the plain text, or with a hash behind its last character.
    have hblock : block? label (c :: (t ++ r)) = none := by
      have hmark : afterMarker? label (c :: t ++ r) = none :=
        afterMarker?_eq_none_of_isPlain_append ht (List.cons_ne_nil c t) hr
      rw [List.cons_append] at hmark
      rw [block?, hmark, Option.bind_none]
    rw [List.cons_append, interiors_cons_of_not_block hblock, ih htail]

/-! ## 2. Written blocks -/

/-- A block with `w` inside its start marker. -/
def written (label w interior : Text) : Text :=
  ['{', '#'] ++ w ++ label ++ interior ++ ['#', '}']

theorem interiors_written_append {label w interior : Text} (hl : IsVisible label)
    (hw : Text.AllBlank w) (hi : Unclosed interior) (r : Text) :
    interiors label (written label w interior ++ r) = interior :: interiors label r := by
  have heq : written label w interior ++ r =
      '{' :: '#' :: (w ++ (label ++ (interior ++ (closingMarker ++ r)))) := by
    simp [written, closingMarker]
  rw [heq, interiors_of_block? (block?_append hl hw hi r)]

/-- The next block of a text is the first one behind what opens no comment. -/
theorem interiors_plain_append_written_append {label gap w interior : Text} (hl : IsVisible label)
    (hg : IsPlain gap) (hw : Text.AllBlank w) (hi : Unclosed interior) (r : Text) :
    interiors label (gap ++ (written label w interior ++ r)) = interior :: interiors label r := by
  have hhead : '#' ∉ (written label w interior ++ r).head? := by simp [written]
  rw [interiors_append_of_isPlain hg hhead, interiors_written_append hl hw hi]

end Comment

namespace MacroSignature

/-! ## 3. Descriptions -/

/-- A callable as someone writes it down: what the block of a template says about it. -/
structure Description where
  name : Text
  params : Text
  tail : Text
  docLines : List Text

namespace Description

def line (d : Description) : Text :=
  d.name ++ '(' :: (d.params ++ ')' :: d.tail)

def interior (d : Description) : Text :=
  ['\n'] ++ d.line ++ ['\n'] ++ d.docLines.flatMap (· ++ ['\n'])

/-- What a reader of the block should learn; the tail is not part of it. -/
def signature (d : Description) : MacroSignature where
  name := d.name
  params := d.params
  docstring := if d.docLines = [] then none else some (Text.join [' '] d.docLines)

/-- Nothing in the description breaks a line, closes the block, or is lost to trimming, and nothing
behind the parameters looks like their end. -/
structure IsWritable (d : Description) : Prop where
  name : Text.isIdentifier d.name = true
  tail : ')' ∉ d.tail
  line : FitsLine d.line
  docLines : ∀ l ∈ d.docLines, FitsLine l ∧ Text.IsTrimmed l ∧ l ≠ []

variable {d : Description}

theorem isSignature_line (h : Text.isIdentifier d.name = true) :
    IsSignature d.line d.name d.params d.tail := ⟨h, rfl⟩

theorem IsWritable.lines_interior (h : d.IsWritable) :
    Text.lines d.interior = [] :: d.line :: d.docLines := by
  have heq : d.interior = [] ++ '\n' :: (d.line ++ '\n' :: d.docLines.flatMap (· ++ ['\n'])) := by
    simp [interior]
  rw [heq, Text.lines_append_lineFeed Text.oneLine_nil, Text.lines_append_lineFeed h.line.oneLine,
    Text.lines_flatMap_lineFeed fun l hl => (h.docLines l hl).1.oneLine]

theorem IsWritable.unclosed_interior (h : d.IsWritable) : Comment.Unclosed d.interior := by
  have heq : d.interior = ([] :: d.line :: d.docLines).flatMap (· ++ ['\n']) := by
    simp [interior]
  rw [heq]
  apply Comment.unclosed_flatMap_lineFeed
  rw [List.forall_mem_cons, List.forall_mem_cons]
  exact ⟨Comment.unclosed_nil, h.line.unclosed, fun l hl => (h.docLines l hl).1.unclosed⟩

theorem IsWritable.contentLines_interior (h : d.IsWritable) :
    contentLines d.interior = Text.trim d.line :: d.docLines := by
  have hdocs : (d.docLines.map Text.trim).filter (· ≠ []) = d.docLines := by
    have hmap : d.docLines.map Text.trim = d.docLines :=
      (List.map_congr_left fun l hl => (h.docLines l hl).2.1.trim_eq).trans (List.map_id' _)
    rw [hmap, List.filter_eq_self]
    intro l hl
    simpa using (h.docLines l hl).2.2
  have hline : Text.trim d.line ≠ [] := by
    intro hnil
    rw [Text.trim_eq_nil_iff] at hnil
    exact absurd (hnil '(' (by simp [Description.line])) (by decide)
  -- Only the empty line behind the marker is dropped.
  rw [contentLines, h.lines_interior, List.map_cons, List.map_cons,
    List.filter_cons_of_neg (by decide), List.filter_cons_of_pos (by simpa using hline), hdocs]

theorem IsWritable.ofInterior?_eq (h : d.IsWritable) :
    ofInterior? d.interior = some d.signature := by
  rw [ofInterior?, h.contentLines_interior]
  simp only [(isSignature_line h.name).signature?_trim h.tail, Option.map_some, signature]
  cases d.docLines with
  | nil => rfl
  | cons l ls => rw [describe, if_neg (by simp)]; simp

end Description

/-! ## 4. Templates -/

/-- The blocks of the descriptions in order.  In front of a block and at the end stands text that
opens no comment; a block that opens with no signature line can come in between. -/
inductive IsTemplate : List Description → Text → Prop
  | ends {gap : Text} (hg : Comment.IsPlain gap) : IsTemplate [] gap
  | describes {gap : Text} {d : Description} {ds : List Description} {rest : Text}
      (hg : Comment.IsPlain gap) (hd : d.IsWritable) (h : IsTemplate ds rest) :
      IsTemplate (d :: ds) (gap ++ (Comment.written label [' '] d.interior ++ rest))
  | passes {gap w interior : Text} {ds : List Description} {rest : Text}
      (hg : Comment.IsPlain gap) (hw : Text.AllBlank w) (hi : Comment.Unclosed interior)
      (hn : ¬ ∃ line name params tail,
        OpensWith interior line ∧ IsSignature line name params tail)
      (h : IsTemplate ds rest) :
      IsTemplate ds (gap ++ (Comment.written label w interior ++ rest))

theorem ofDocument_of_isTemplate {ds : List Description} {document : Text}
    (h : IsTemplate ds document) : ofDocument document = ds.map Description.signature := by
  have hl : Comment.IsVisible label := isKeyword_label.visible
  have hblank : Text.AllBlank [' '] := Text.allBlank_spaces 1
  -- Each block is cut off at its own end, so what it describes does not bear on the rest.
  induction h with
  | @ends gap hg =>
    have hnone : Comment.interiors label gap = [] := by
      have happend : Comment.interiors label (gap ++ []) = Comment.interiors label [] :=
        Comment.interiors_append_of_isPlain hg (by simp)
      rwa [List.append_nil, Comment.interiors_nil] at happend
    rw [ofDocument, hnone]
    rfl
  | @describes gap d ds rest hg hd _ ih =>
    rw [ofDocument, Comment.interiors_plain_append_written_append hl hg hblank
      hd.unclosed_interior, List.filterMap_cons_some hd.ofInterior?_eq, List.map_cons, ← ih,
      ofDocument]
  | @passes gap w interior ds rest hg hw hi hn _ ih =>
    rw [ofDocument, Comment.interiors_plain_append_written_append hl hg hw hi,
      List.filterMap_cons_none (ofInterior?_eq_none_iff.2 hn), ← ih, ofDocument]

/-- Markers and parentheses in the parameters are kept, and blocks that describe nothing stand
directly against those that do. -/
theorem ofDocument_of_isTemplate_mixed :
    let f : Description := ⟨"f".toList, "x=(\x7b# @typedmacro".toList, " -> int".toList,
      ["Adds.".toList, "# Twice.".toList]⟩
    let g : Description := ⟨"g".toList, ")(".toList, [], []⟩
    let document :=
      "<p>#\x7d \x7b\x7b# @typedmacro\nf(x=(\x7b# @typedmacro) -> int\nAdds.\n# Twice.\n".toList ++
        "#\x7d \x7b#@typedmacro\n \n#\x7d\x7b# @typedmacro h (x)#\x7d\x7b# @typedmacro\n".toList ++
        "g()()\n#\x7d</p>".toList
    IsTemplate [f, g] document ∧ ofDocument document = [f.signature, g.signature] := by
  intro f g document
  have hf : f.IsWritable := ⟨by decide +kernel, by decide +kernel, by decide +kernel,
    by decide +kernel⟩
  have hg : g.IsWritable := ⟨by decide +kernel, by decide +kernel, by decide +kernel,
    by decide +kernel⟩
  have hfirst : Comment.IsPlain "<p>#\x7d \x7b".toList := by decide +kernel
  have hspace : Comment.IsPlain [' '] := by decide
  have hempty : Comment.IsPlain [] := by decide
  have hlast : Comment.IsPlain "</p>".toList := by decide +kernel
  have hblank : ofInterior? "\n \n".toList = none := by decide +kernel
  have hspaced : ofInterior? " h (x)".toList = none := by decide +kernel
  have hnone : Text.AllBlank [] := by decide
  have hdocument : document =
      "<p>#\x7d \x7b".toList ++ (Comment.written label [' '] f.interior ++
        ([' '] ++ (Comment.written label [] "\n \n".toList ++
          ([] ++ (Comment.written label [' '] " h (x)".toList ++
            ([] ++ (Comment.written label [' '] g.interior ++ "</p>".toList))))))) := by
    decide +kernel
  have h : IsTemplate [f, g] document := by
    rw [hdocument]
    exact .describes hfirst hf
      (.passes hspace hnone (by decide +kernel) (ofInterior?_eq_none_iff.1 hblank)
        (.passes hempty (Text.allBlank_spaces 1) (by decide +kernel)
          (ofInterior?_eq_none_iff.1 hspaced) (.describes hempty hg (.ends hlast))))
  exact ⟨h, ofDocument_of_isTemplate h⟩

end MacroSignature

end TemplateTypes
