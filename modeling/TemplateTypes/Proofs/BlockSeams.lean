import TemplateTypes.MacroSignature
import TemplateTypes.TypesBlock
import TemplateTypes.Proofs.CommentBlocks

/-!
# Block seams — a template cut behind a closing marker

A closing marker is a seam.  No start marker reaches across it, and every start marker in front of
it is closed by it at the latest, so the search for blocks arrives at the seam with nothing open.
Main statement: the blocks of a template are the blocks up to any closing marker, followed by the
blocks behind it.
-/

namespace TemplateTypes

namespace Comment

/-- A label that is not mistaken for white space or for a part of a marker. -/
structure IsKeyword (label : Text) : Prop where
  visible : IsVisible label
  hash : '#' ∉ label
  brace : '}' ∉ label

theorem IsKeyword.ne_nil {label : Text} (h : IsKeyword label) : label ≠ [] := by
  obtain ⟨c, hc, -⟩ := h.visible
  rintro rfl
  cases hc

theorem afterMarker?_eq_some_iff {label t r : Text} (hl : IsVisible label) :
    afterMarker? label t = some r ↔
      ∃ w, Text.AllBlank w ∧ t = '{' :: '#' :: (w ++ (label ++ r)) := by
  constructor
  · exact eq_of_afterMarker?
  · rintro ⟨w, hw, rfl⟩
    exact afterMarker?_append hl hw r

/-! ## 1. One block -/

/-- No end piece of a start marker begins like a closing marker. -/
theorem IsKeyword.append_ne_closingMarker_append {label w d a : Text} (h : IsKeyword label)
    (hw : Text.AllBlank w) (hm : '{' :: '#' :: (w ++ label) = d ++ a) (ha : a ≠ []) (r e : Text) :
    a ++ r ≠ '#' :: '}' :: e := by
  intro hs
  cases a with
  | nil => exact ha rfl
  | cons c a =>
    obtain ⟨rfl, ht⟩ := List.cons.inj hs
    cases a with
    | nil =>
      -- The last character of the marker is that of the label, which is no hash.
      have hlast : ('{' :: '#' :: (w ++ label)).getLast? = some '#' := by
        rw [hm, List.getLast?_concat]
      have hlabel : label.getLast? = some '#' := by
        rw [← hlast, ← List.cons_append, ← List.cons_append,
          List.getLast?_append_of_ne_nil _ h.ne_nil]
      exact h.hash (List.mem_of_getLast? hlabel)
    | cons c a =>
      obtain ⟨rfl, -⟩ := List.cons.inj ht
      have hb : '}' ∈ '{' :: '#' :: (w ++ label) := by
        rw [hm]
        simp
      have hbw : '}' ∉ w := fun hc => absurd (hw _ hc) (by decide)
      simp [hbw, h.brace] at hb

theorem afterMarker?_append_closingMarker {label : Text} (h : IsKeyword label) (d e : Text) :
    afterMarker? label (d ++ (closingMarker ++ e)) =
      (afterMarker? label d).map (· ++ (closingMarker ++ e)) := by
  apply Option.ext
  intro r
  rw [Option.map_eq_some_iff, afterMarker?_eq_some_iff h.visible]
  constructor
  · rintro ⟨w, hw, ht⟩
    have ht' : d ++ (closingMarker ++ e) = ('{' :: '#' :: (w ++ label)) ++ r := by
      rw [ht]
      simp
    rcases List.append_eq_append_iff.1 ht' with ⟨a, hm, hs⟩ | ⟨u, rfl, rfl⟩
    · -- The marker reaches the seam, so it ends there.
      by_cases ha : a = []
      · subst ha
        rw [List.append_nil] at hm
        refine ⟨[], ?_, hs⟩
        rw [afterMarker?_eq_some_iff h.visible]
        exact ⟨w, hw, by simp [← hm]⟩
      · exact absurd hs.symm (h.append_ne_closingMarker_append hw hm ha r e)
    · refine ⟨u, ?_, rfl⟩
      rw [afterMarker?_eq_some_iff h.visible]
      exact ⟨w, hw, by simp⟩
  · rintro ⟨u, hu, rfl⟩
    obtain ⟨w, hw, rfl⟩ := eq_of_afterMarker? hu
    exact ⟨w, hw, by simp⟩

theorem cutClosing?_append_closingMarker (u e : Text) :
    cutClosing? (u ++ (closingMarker ++ e)) =
      (cutClosing? (u ++ closingMarker)).map fun s => (s.1, s.2 ++ e) := by
  have hne : cutClosing? (u ++ closingMarker) ≠ none := by
    have h := cutClosing?_ne_none u []
    rwa [List.append_nil] at h
  obtain ⟨⟨a, r⟩, hs⟩ := Option.ne_none_iff_exists'.1 hne
  obtain ⟨hu, ho⟩ := eq_of_cutClosing? hs
  have ht : u ++ (closingMarker ++ e) = a ++ (closingMarker ++ (r ++ e)) := by
    rw [← List.append_assoc, hu]
    simp
  rw [hs, ht, cutClosing?_append ho]
  rfl

/-- What stands behind a closing marker has no say in the block in front of it. -/
theorem block?_append_closingMarker {label : Text} (h : IsKeyword label) (d e : Text) :
    block? label (d ++ (closingMarker ++ e)) =
      (block? label (d ++ closingMarker)).map fun s => (s.1, s.2 ++ e) := by
  have hd := afterMarker?_append_closingMarker h d []
  rw [List.append_nil] at hd
  rw [block?, block?, hd, afterMarker?_append_closingMarker h]
  cases afterMarker? label d with
  | none => rfl
  | some u => exact cutClosing?_append_closingMarker u e

/-! ## 2. All blocks -/

/-- Behind a block that ends at the seam or before it, the seam still comes, or nothing. -/
theorem eq_nil_or_eq_append_of_block? {label d a r : Text}
    (h : block? label (d ++ closingMarker) = some (a, r)) :
    r = [] ∨ ∃ d', r = d' ++ closingMarker ∧ d'.length < d.length := by
  have hlt := length_lt_of_block? h
  obtain ⟨-, w, -, ht⟩ := eq_of_block? h
  have hr : r <:+ d ++ closingMarker :=
    ⟨'{' :: '#' :: (w ++ (label ++ (a ++ closingMarker))), by rw [ht]; simp⟩
  rcases List.suffix_or_suffix_of_suffix hr (List.suffix_append d closingMarker) with hs | hs
  · -- What is left is a piece of the seam, and half of it would follow a hash.
    have hcases : r = closingMarker ∨ r = ['}'] ∨ r = [] := by
      simpa [closingMarker, List.suffix_cons_iff] using hs
    rcases hcases with rfl | rfl | rfl
    · refine .inr ⟨[], rfl, ?_⟩
      simp at hlt
      simpa [List.length_pos_iff] using hlt
    · exfalso
      have hd : d ++ ['#'] = '{' :: '#' :: (w ++ (label ++ (a ++ closingMarker))) := by
        have hb : (d ++ ['#']) ++ ['}'] =
            '{' :: '#' :: (w ++ (label ++ (a ++ closingMarker))) ++ ['}'] := by
          rw [List.append_assoc]
          refine ht.trans ?_
          simp
        exact List.append_cancel_right hb
      have hlast := congrArg List.getLast? hd
      rw [List.getLast?_concat] at hlast
      simp [closingMarker, List.getLast?_cons, List.getLast?_append] at hlast
    · exact .inl rfl
  · obtain ⟨d', rfl⟩ := hs
    refine .inr ⟨d', rfl, ?_⟩
    simp at hlt
    omega

theorem interiors_closingMarker_append (label e : Text) :
    interiors label (closingMarker ++ e) = interiors label e := by
  rw [closingMarker, List.cons_append, interiors_cons_of_not_block rfl, List.cons_append,
    interiors_cons_of_not_block rfl, List.nil_append]

theorem interiors_append_closingMarker {label : Text} (h : IsKeyword label) (d e : Text) :
    interiors label (d ++ (closingMarker ++ e)) =
      interiors label (d ++ closingMarker) ++ interiors label e := by
  induction hn : d.length using Nat.strong_induction_on generalizing d with
  | h n ih =>
    subst hn
    have hb := block?_append_closingMarker h d e
    cases hs : block? label (d ++ closingMarker) with
    | some s =>
      obtain ⟨a, r⟩ := s
      rw [hs] at hb
      rw [interiors_of_block? hb, interiors_of_block? hs, List.cons_append]
      congr 1
      rcases eq_nil_or_eq_append_of_block? hs with rfl | ⟨d', rfl, hd⟩
      · simp
      · rw [List.append_assoc]
        exact ih d'.length hd d' rfl
    | none =>
      rw [hs] at hb
      cases d with
      | nil =>
        have hc := interiors_closingMarker_append label []
        rw [List.append_nil, interiors_nil] at hc
        rw [List.nil_append, List.nil_append, interiors_closingMarker_append, hc, List.nil_append]
      | cons c d =>
        rw [List.cons_append] at hs hb ⊢
        rw [interiors_cons_of_not_block hb, List.cons_append, interiors_cons_of_not_block hs]
        exact ih d.length (by simp) d rfl

end Comment

/-! ## 3. The two kinds of blocks -/

theorem TypesBlock.isKeyword_label : Comment.IsKeyword TypesBlock.label :=
  ⟨⟨'@', rfl, by decide⟩, by decide, by decide⟩

theorem MacroSignature.isKeyword_label : Comment.IsKeyword MacroSignature.label :=
  ⟨⟨'@', rfl, by decide⟩, by decide, by decide⟩

theorem blocks_append_closingMarker_append (d e : Text) :
    TypesBlock.interior? (d ++ ['#', '}'] ++ e) =
        (TypesBlock.interior? (d ++ ['#', '}'])).or (TypesBlock.interior? e) ∧
      MacroSignature.ofDocument (d ++ ['#', '}'] ++ e) =
        MacroSignature.ofDocument (d ++ ['#', '}']) ++ MacroSignature.ofDocument e := by
  have hm : ['#', '}'] = Comment.closingMarker := rfl
  rw [hm, List.append_assoc]
  constructor
  · rw [TypesBlock.interior?, TypesBlock.interior?, TypesBlock.interior?, Comment.first?,
      Comment.first?, Comment.first?,
      Comment.interiors_append_closingMarker TypesBlock.isKeyword_label, List.head?_append]
  · rw [MacroSignature.ofDocument,
      Comment.interiors_append_closingMarker MacroSignature.isKeyword_label,
      List.filterMap_append]
    rfl

end TemplateTypes
