import TemplateTypes.Text.Basic

/-!
# Comments — the marked comment blocks of a template

A block opens with a start marker (a brace, a hash, white space, and the label that says what the
block is for) and ends at the first closing marker behind it.  A start marker that nothing closes
opens no block.  Blocks do not overlap: the search goes on behind the closing marker.
-/

namespace TemplateTypes.Comment

def closingMarker : Text := ['#', '}']

/-- What follows a start marker for `label`, if the text begins with one. -/
def afterMarker? (label : Text) : Text → Option Text
  | '{' :: '#' :: t => Text.after? label (t.dropWhile Text.isBlank)
  | _ => none

/-- The two sides of the first closing marker. -/
def cutClosing? : Text → Option (Text × Text)
  | [] => none
  | '#' :: '}' :: t => some ([], t)
  | c :: t => (cutClosing? t).map fun s => (c :: s.1, s.2)

/-- A block that starts right here: its interior and what follows it. -/
def block? (label : Text) (t : Text) : Option (Text × Text) :=
  (afterMarker? label t).bind cutClosing?

/-! ## 1. What is left is shorter -/

theorem length_lt_of_afterMarker? {label t r : Text} (h : afterMarker? label t = some r) :
    r.length < t.length := by
  unfold afterMarker? at h
  split at h
  · rename_i u
    have hu : (u.dropWhile Text.isBlank).length ≤ u.length := (List.dropWhile_sublist _).length_le
    rw [Text.after?_eq_some_iff] at h
    rw [h] at hu
    simp at hu ⊢
    omega
  · simp at h

theorem length_le_of_cutClosing? {t a r : Text} (h : cutClosing? t = some (a, r)) :
    r.length ≤ t.length := by
  induction t using cutClosing?.induct generalizing a with
  | case1 => simp [cutClosing?] at h
  | case2 t =>
    simp only [cutClosing?, Option.some.injEq, Prod.mk.injEq] at h
    obtain ⟨-, rfl⟩ := h
    simp
    omega
  | case3 c t hne ih =>
    rw [cutClosing?] at h
    · obtain ⟨s, hs, he⟩ := Option.map_eq_some_iff.1 h
      cases he
      have := ih hs
      simp
      omega
    · exact hne

theorem length_lt_of_block? {label t a r : Text} (h : block? label t = some (a, r)) :
    r.length < t.length := by
  obtain ⟨u, hu, hr⟩ := Option.bind_eq_some_iff.1 h
  have := length_lt_of_afterMarker? hu
  have := length_le_of_cutClosing? hr
  omega

/-! ## 2. All blocks -/

/-- The interiors of all blocks for `label`, in order. -/
def interiors (label : Text) (t : Text) : List Text :=
  match t with
  | [] => []
  | c :: r =>
    match _h : block? label (c :: r) with
    | some (interior, rest) => interior :: interiors label rest
    | none => interiors label r
termination_by t.length
decreasing_by
  · exact length_lt_of_block? _h
  · simp

/-- The interior of the first block for `label`. -/
def first? (label : Text) (t : Text) : Option Text :=
  (interiors label t).head?

@[simp] theorem interiors_nil (label : Text) : interiors label [] = [] := by
  rw [interiors]

theorem interiors_of_block? {label t a r : Text} (h : block? label t = some (a, r)) :
    interiors label t = a :: interiors label r := by
  cases t with
  | nil => simp [block?, afterMarker?] at h
  | cons c t =>
    rw [interiors]
    split
    · rename_i h'
      rw [h] at h'
      cases h'
      rfl
    · rename_i h'
      rw [h] at h'
      cases h'

theorem interiors_cons_of_not_block {label : Text} {c : Char} {t : Text}
    (h : block? label (c :: t) = none) : interiors label (c :: t) = interiors label t := by
  rw [interiors]
  split
  · rename_i h'
    rw [h] at h'
    cases h'
  · rfl

end TemplateTypes.Comment
