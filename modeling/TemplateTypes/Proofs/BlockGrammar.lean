import TemplateTypes.TypesBlock
import TemplateTypes.Proofs.BlockSeams

/-!
# Block grammar — which block of a template is found

A start marker opens a block if a closing marker stands anywhere behind it.  Two start markers never
overlap, so whatever closes the later one closes the earlier one as well.  Main statement: the block
that is found is the one that the earliest start marker opens, and none is found exactly where the
earliest start marker has no closing marker behind it.
-/

namespace TemplateTypes

namespace Comment

variable {label t p p' r r' s : Text}

/-- Behind `p` the text has a start marker for `label`, and behind the marker it goes on with
`r`. -/
def HasMarker (label t p r : Text) : Prop :=
  ∃ w, Text.AllBlank w ∧ t = p ++ ('{' :: '#' :: (w ++ (label ++ r)))

/-- No start marker of the text begins in front of this one. -/
def IsEarliest (label t p r : Text) : Prop :=
  HasMarker label t p r ∧ ∀ p' r', HasMarker label t p' r' → p.length ≤ p'.length

/-! ## 1. Start markers -/

theorem hasMarker_nil_iff (hl : IsVisible label) :
    HasMarker label t [] r ↔ afterMarker? label t = some r :=
  (afterMarker?_eq_some_iff hl).symm

theorem hasMarker_cons_cons_iff {c d : Char} :
    HasMarker label (c :: t) (d :: p) r ↔ c = d ∧ HasMarker label t p r := by
  constructor
  · rintro ⟨w, hw, ht⟩
    obtain ⟨hc, ht⟩ := List.cons.inj ht
    exact ⟨hc, w, hw, ht⟩
  · rintro ⟨rfl, w, hw, rfl⟩
    exact ⟨w, hw, rfl⟩

/-- What begins with a character that the front does not hold begins behind the front. -/
theorem isSuffix_of_append_eq_append_cons {d : Char} {a b x y : Text} (hd : d ∉ a)
    (h : a ++ b = x ++ d :: y) : d :: y <:+ b := by
  rcases List.append_eq_append_iff.1 h with ⟨u, -, rfl⟩ | ⟨u, ha, hu⟩
  · exact List.suffix_append u (d :: y)
  · cases u with
    | nil =>
      rw [List.nil_append] at hu
      rw [← hu]
    | cons e u =>
      obtain ⟨rfl, -⟩ := List.cons.inj hu
      exact absurd (by simp [ha]) hd

/-- Only the first character of a start marker is a brace, so no other marker begins inside. -/
theorem HasMarker.isSuffix (hl : IsVisible label) (hb : '{' ∉ label)
    (h : HasMarker label t [] r) (h' : HasMarker label t p r') : r' <:+ r := by
  cases p with
  | nil =>
    -- Both markers begin the text, so they are the same marker.
    rw [hasMarker_nil_iff hl] at h h'
    rw [h, Option.some.injEq] at h'
    rw [h']
  | cons c p =>
    obtain ⟨w, hw, ht⟩ := h
    obtain ⟨w', -, ht'⟩ := h'
    have hinside : '{' ∉ '#' :: (w ++ label) := by
      have hwb : '{' ∉ w := fun hm => absurd (hw _ hm) (by decide)
      simp [hwb, hb]
    have heq : ('#' :: (w ++ label)) ++ r = p ++ '{' :: '#' :: (w' ++ (label ++ r')) := by
      rw [ht] at ht'
      simpa using (List.cons.inj ht').2
    have hr := isSuffix_of_append_eq_append_cons hinside heq
    have hmark : r' <:+ '{' :: '#' :: (w' ++ (label ++ r')) :=
      ⟨'{' :: '#' :: (w' ++ label), by simp⟩
    exact hmark.trans hr

theorem HasMarker.exists_isEarliest (h : HasMarker label t p r) :
    ∃ p r, IsEarliest label t p r := by
  induction hn : p.length using Nat.strong_induction_on generalizing p r with
  | h n ih =>
    subst hn
    by_cases hless : ∃ p' r', HasMarker label t p' r' ∧ p'.length < p.length
    · obtain ⟨p', r', h', hlt⟩ := hless
      exact ih p'.length hlt h' rfl
    · refine ⟨p, r, h, ?_⟩
      intro p' r' h'
      by_contra hlt
      exact hless ⟨p', r', h', by omega⟩

/-! ## 2. Closing markers -/

theorem cutClosing?_eq_none_iff : cutClosing? r = none ↔ Unclosed r := by
  constructor
  · rintro h ⟨s, q, rfl⟩
    rw [List.append_assoc] at h
    exact cutClosing?_ne_none s q h
  · intro h
    rw [Option.eq_none_iff_forall_ne_some]
    rintro ⟨s, q⟩ hs
    obtain ⟨rfl, -⟩ := eq_of_cutClosing? hs
    exact h ⟨s, q, by simp⟩

theorem hasBlock_iff : HasBlock label t ↔ ∃ p r, HasMarker label t p r ∧ ¬ Unclosed r := by
  constructor
  · rintro ⟨p, w, s, q, hw, rfl⟩
    exact ⟨p, s ++ (closingMarker ++ q), ⟨w, hw, rfl⟩, fun hu => hu ⟨s, q, by simp⟩⟩
  · rintro ⟨p, r, ⟨w, hw, rfl⟩, hr⟩
    obtain ⟨s, q, rfl⟩ := not_not.1 hr
    exact ⟨p, w, s, q, hw, by simp⟩

/-! ## 3. The earliest start marker -/

/-- The first block is what the earliest start marker opens, if something closes it. -/
theorem IsEarliest.first?_eq (hl : IsVisible label) (hb : '{' ∉ label)
    (h : IsEarliest label t p r) : first? label t = (cutClosing? r).map Prod.fst := by
  obtain ⟨hm, hfirst⟩ := h
  induction p generalizing t with
  | nil =>
    have hblock : block? label t = cutClosing? r := by
      rw [block?, (hasMarker_nil_iff hl).1 hm, Option.bind_some]
    cases hcut : cutClosing? r with
    | some c =>
      rw [hcut] at hblock
      exact first?_of_block? hblock
    | none =>
      -- Nothing closes this marker, so nothing closes any marker behind it.
      rw [Option.map_none, first?_eq_none_iff hl, hasBlock_iff]
      rintro ⟨p', r', hm', hr'⟩
      have hsuffix := hm.isSuffix hl hb hm'
      exact hr' ((cutClosing?_eq_none_iff.1 hcut).mono hsuffix.isInfix)
  | cons c p ih =>
    obtain ⟨w, hw, rfl⟩ := id hm
    rw [List.cons_append] at hm hfirst ⊢
    have hnone : block? label (c :: (p ++ '{' :: '#' :: (w ++ (label ++ r)))) = none := by
      have hmark : afterMarker? label (c :: (p ++ '{' :: '#' :: (w ++ (label ++ r)))) = none := by
        rw [Option.eq_none_iff_forall_ne_some]
        intro r' hr'
        have hlt := hfirst [] r' ((hasMarker_nil_iff hl).2 hr')
        simp at hlt
      rw [block?, hmark, Option.bind_none]
    rw [first?, interiors_cons_of_not_block hnone]
    apply ih (hasMarker_cons_cons_iff.1 hm).2
    intro p' r' hm'
    have hle := hfirst (c :: p') r' (hasMarker_cons_cons_iff.2 ⟨rfl, hm'⟩)
    simpa using hle

theorem first?_eq_some_iff (hl : IsVisible label) (hb : '{' ∉ label) :
    first? label t = some s ↔
      ∃ p q, Unclosed s ∧ IsEarliest label t p (s ++ (closingMarker ++ q)) := by
  constructor
  · intro h
    have hsome : first? label t ≠ none := by
      rw [h]
      exact Option.some_ne_none s
    rw [ne_eq, first?_eq_none_iff hl, not_not, hasBlock_iff] at hsome
    obtain ⟨p, r, hm, -⟩ := hsome
    obtain ⟨p, r, hm⟩ := hm.exists_isEarliest
    rw [hm.first?_eq hl hb, Option.map_eq_some_iff] at h
    obtain ⟨⟨s, q⟩, hcut, rfl⟩ := h
    obtain ⟨rfl, hs⟩ := eq_of_cutClosing? hcut
    exact ⟨p, q, hs, hm⟩
  · rintro ⟨p, q, hs, hm⟩
    rw [hm.first?_eq hl hb, cutClosing?_append hs]
    rfl

theorem first?_eq_none_iff_isEarliest (hl : IsVisible label) (hb : '{' ∉ label) :
    first? label t = none ↔ ∀ p r, IsEarliest label t p r → Unclosed r := by
  constructor
  · intro h p r hm
    rw [hm.first?_eq hl hb, Option.map_eq_none_iff] at h
    exact cutClosing?_eq_none_iff.1 h
  · intro h
    rw [Option.eq_none_iff_forall_ne_some]
    intro s hs
    obtain ⟨p, q, -, hm⟩ := (first?_eq_some_iff hl hb).1 hs
    exact h p _ hm ⟨s, q, by simp⟩

end Comment

/-! ## 4. The types block -/

/-- The interior that is found, and when none is: `s` stands between the earliest start marker and
the first closing marker behind it. -/
theorem TypesBlock.interior?_eq_some_iff_earliest (document : Text) :
    (∀ s, interior? document = some s ↔
      ∃ p w q, document = p ++ ['{', '#'] ++ w ++ "@types".toList ++ s ++ ['#', '}'] ++ q ∧
        (∀ c ∈ w, Text.isBlank c = true) ∧ ¬ ['#', '}'] <:+: s ∧
        ∀ p' r', Comment.HasMarker "@types".toList document p' r' → p.length ≤ p'.length) ∧
    (interior? document = none ↔
      ∀ p r, Comment.HasMarker "@types".toList document p r → ¬ ['#', '}'] <:+: r) ∧
    (interior? document = none ↔
      ∀ p r, Comment.IsEarliest "@types".toList document p r → ¬ ['#', '}'] <:+: r) := by
  have hl : Comment.IsVisible label := isKeyword_label.visible
  have hb : '{' ∉ label := by decide
  have hparts : ∀ p w s q : Text,
      p ++ '{' :: '#' :: (w ++ (label ++ (s ++ (Comment.closingMarker ++ q)))) =
        p ++ ['{', '#'] ++ w ++ "@types".toList ++ s ++ ['#', '}'] ++ q := by
    intro p w s q
    have hlabel : label = "@types".toList := rfl
    have hclosing : Comment.closingMarker = ['#', '}'] := rfl
    rw [hlabel, hclosing]
    simp only [List.append_assoc, List.cons_append, List.nil_append]
  refine ⟨?_, ?_, Comment.first?_eq_none_iff_isEarliest hl hb⟩
  · intro s
    refine (Comment.first?_eq_some_iff hl hb).trans ?_
    constructor
    · rintro ⟨p, q, hs, ⟨w, hw, ht⟩, hfirst⟩
      exact ⟨p, w, q, ht.trans (hparts p w s q), hw, hs, hfirst⟩
    · rintro ⟨p, w, q, ht, hw, hs, hfirst⟩
      exact ⟨p, q, hs, ⟨w, hw, ht.trans (hparts p w s q).symm⟩, hfirst⟩
  · refine (Comment.first?_eq_none_iff hl).trans ?_
    rw [Comment.hasBlock_iff]
    constructor
    · intro h p r hm hr
      exact h ⟨p, r, hm, fun hu => hu hr⟩
    · rintro h ⟨p, r, hm, hr⟩
      exact hr (h p r hm)

/-- A marker inside another comment opens the block, and the first closing marker ends it, whatever
it was meant to close. -/
example : TypesBlock.interior? ("\x7b\x7b# a \x7b#\n@types##\x7d#\x7d \x7b#@types x#\x7d".toList) =
    some ['#'] := by
  decide +kernel

end TemplateTypes
